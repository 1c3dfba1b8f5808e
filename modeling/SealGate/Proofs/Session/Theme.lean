import SealGate.Proofs.Session.Informed

/-! The theme. With a store that does not fail, what is stored is the theme that was set last, by
whomever, and before that what was stored at the start. So this is what everyone who asks is told,
also after a restart. A turn stores one setting or none, and the others stay. -/

namespace SealGate.Session

open Json

namespace SettingsFile

/-- The theme that is stored; empty if there is none or if it is no text. -/
def storedTheme (file : SettingsFile) : String :=
  ((file.lookup? Settings.themeKey).bind fun text => (Node.parse? text).bind Node.text?).getD ""

end SettingsFile

namespace Settings

variable {before after store : Settings}

/-- No access fails, and this theme is stored. -/
structure HasTheme (store : Settings) (theme : String) : Prop where
  reliable : store.IsReliable
  stored : store.file.storedTheme = theme

theorem theme_of_reliable (reliable : store.IsReliable) :
    store.theme.1.toOption.getD "" = store.file.storedTheme := by
  have read := get_of_reliable reliable Node.text? themeKey
  have shown : store.theme.1 = (store.get Node.text? themeKey).1.map (·.getD "") := rfl
  rw [shown, read, SettingsFile.storedTheme]
  cases store.file.lookup? themeKey with
  | none => rfl
  | some text =>
    simp only [spelled, Option.bind_some]
    cases (Node.parse? text).bind Node.text? <;> rfl

theorem Keeps.storedTheme (keeps : before.Keeps after themeKey) :
    after.file.storedTheme = before.file.storedTheme := by
  rw [SettingsFile.storedTheme, keeps.lookup?, SettingsFile.storedTheme]

theorem storedTheme_setTheme (reliable : store.IsReliable) (name : String) :
    (store.setTheme name).2.file.storedTheme = name := by
  obtain ⟨-, -, stored⟩ := set_of_reliable reliable themeKey (.ofText name)
  have proper := Node.parse?_render (Node.isProper_ofText name)
  rw [setTheme, SettingsFile.storedTheme, stored, Option.bind_some, proper, Option.bind_some,
    Node.text?_ofText]
  rfl

end Settings

namespace Command

/-- The theme that a command sets. -/
def theme? : Command → Option String
  | .setTheme name => some name
  | _ => none

/-- The name of the setting that a command stores. -/
def stores? : Command → Option String
  | .setFlag _ => some Settings.enabledKey
  | .setTheme _ => some Settings.themeKey
  | _ => none

/-- The theme that commands leave, if another one was there before. -/
def latestTheme (before : String) (commands : List Command) : String :=
  (commands.filterMap theme?).getLast?.getD before

theorem latestTheme_append (before : String) (commands more : List Command) :
    latestTheme before (commands ++ more) = latestTheme (latestTheme before commands) more := by
  simp only [latestTheme, List.filterMap_append, List.getLast?_append]
  cases (more.filterMap theme?).getLast? <;> rfl

end Command

/-- What consumers do while a command is carried out, in a turn in which one is if one waits. -/
def Turn.visits? : Turn → Option (List Visit)
  | .event .command => some []
  | .event _ => none
  | .command visits => some visits

namespace Lifecycle

variable {σ ι : Type} {engine : Engine σ ι} {l : Lifecycle σ ι} {key theme : String}

/-- The command that is carried out in a turn. -/
def carried? (l : Lifecycle σ ι) (turn : Turn) : Option Command :=
  turn.visits?.bind fun _ => l.bus.next?.1.map Envelope.command

/-- The commands that are carried out in turns, in their order. -/
def carried (engine : Engine σ ι) (l : Lifecycle σ ι) : List Turn → List Command
  | [] => []
  | turn :: turns => (l.carried? turn).toList ++ (l.turn engine turn).carried engine turns

/-- The name of the setting that is stored in a turn. -/
def stores? (l : Lifecycle σ ι) : Turn → Option String
  | .event (.enable _) => some Settings.enabledKey
  | turn => (l.carried? turn).bind Command.stores?

/-! ### What a turn stores -/

/-- A transition stores the flag, or after a failed load nothing. -/
theorem settings_transition (engine : Engine σ ι) (flag : Bool) (l : Lifecycle σ ι) :
    (l.transition engine flag).2.settings = l.settings ∨
      (l.transition engine flag).2.settings = (l.settings.setEnabled flag).2 := by
  rcases on : l.snapshot.isEnabled with _ | _ <;> cases flag
  · rw [transition_same _ on]
    exact .inr rfl
  · rcases load_outcome engine (l.publish .enabling) with
      ⟨number, given, -⟩ | ⟨error, given, -⟩ | ⟨given, -⟩
    all_goals simp only [transition, on, given]
    · exact .inr rfl
    · exact .inl rfl
    · exact .inr rfl
  · simp only [transition, on]
    exact .inr rfl
  · rw [transition_same _ on]
    exact .inr rfl

theorem keeps_setEnabled (other : key ≠ Settings.enabledKey) (engine : Engine σ ι) (flag : Bool)
    (l : Lifecycle σ ι) : l.settings.Keeps (l.setEnabled engine flag).2.settings key := by
  have stored : (l.setEnabled engine flag).2.settings = (l.transition engine flag).2.settings := rfl
  rw [stored]
  rcases l.settings_transition engine flag with same | set
  · rw [same]
    exact .refl _ _
  · rw [set]
    exact Settings.keeps_set other _ _

/-- A command changes no setting but the one that it stores. -/
theorem keeps_handleAmid (visits : List Visit) {envelope : Envelope}
    (other : envelope.command.stores? ≠ some key) :
    l.settings.Keeps (l.handleAmid engine visits envelope).settings key := by
  unfold handleAmid handle
  cases sent : envelope.command with
  | connected => exact l.settings.keeps_theme key
  | getFlag => exact .refl _ _
  | getTheme => exact l.settings.keeps_theme key
  | setFlag flag =>
    rw [sent] at other
    have apart : key ≠ Settings.enabledKey := fun same => other (congrArg some same.symm)
    exact keeps_setEnabled apart engine flag ((l.broadcast .suspended).visited visits)
  | setTheme name =>
    rw [sent] at other
    have apart : key ≠ Settings.themeKey := fun same => other (congrArg some same.symm)
    exact Settings.keeps_set apart _ _
  | setMasterKey bytes keyId =>
    rcases setMasterKey_cases engine l ⟨bytes⟩ keyId with
      ⟨error, refused⟩ | ⟨load, unlocked, -, -, -, -, given⟩
    · simp only [refused]
      exact .refl _ _
    · simp only [given]
      exact .refl _ _

theorem keeps_stepAmid (visits : List Visit)
    (other : l.stores? (.command visits) ≠ some key) :
    l.settings.Keeps (l.stepAmid engine visits).settings key := by
  simp only [stores?, carried?, Turn.visits?, Option.bind_some] at other
  unfold stepAmid
  rcases waiting : l.bus.next? with ⟨_ | envelope, bus⟩
  · exact .refl _ _
  · rw [waiting] at other
    exact keeps_handleAmid (l := { l with bus := bus }) visits other

theorem settings_requestUnlock (engine : Engine σ ι) (l : Lifecycle σ ι) (passphrase : String) :
    (l.requestUnlock engine passphrase).2.settings = l.settings := by
  unfold requestUnlock
  split
  · rfl
  obtain ⟨tried, -, ⟨error, failed⟩ | ⟨load, unlocked, -, -, -, given⟩⟩ :=
    unlock_cases engine l passphrase
  · rw [failed]
  · rw [given]
    rfl

/-- A turn changes no setting but the one that it stores. -/
theorem keeps_turn {turn : Turn} (other : l.stores? turn ≠ some key) :
    l.settings.Keeps (l.turn engine turn).settings key := by
  cases turn with
  | command visits => exact keeps_stepAmid visits other
  | event event =>
    cases event with
    | command =>
      rw [turn, after, ← stepAmid_nil]
      exact keeps_stepAmid [] other
    | enable flag =>
      have apart : key ≠ Settings.enabledKey := fun same => other (congrArg some same.symm)
      simp only [Lifecycle.turn, after, requestEnabled]
      split
      · exact .refl _ _
      · exact keeps_setEnabled apart engine flag l
    | unlock passphrase =>
      rw [Lifecycle.turn, after, settings_requestUnlock]
      exact .refl _ _
    | attach => exact .refl _ _
    | detach id => exact .refl _ _
    | drain id => exact .refl _ _
    | send sender command => exact .refl _ _
    | stop => exact .refl _ _

theorem keeps_startup (other : key ≠ Settings.enabledKey) (engine : Engine σ ι)
    (l : Lifecycle σ ι) : l.settings.Keeps (l.startup engine).settings key := by
  have read := l.settings.keeps_enabled key
  unfold startup
  simp only
  split
  · exact read.trans (keeps_setEnabled other engine true { l with settings := _ })
  · exact read

/-! ### The theme that is stored -/

theorem themeKey_ne_enabledKey : Settings.themeKey ≠ Settings.enabledKey := by decide

theorem Effect.isReliable {installs : Prop} {after : Lifecycle σ ι}
    (effect : Effect engine installs l after) (reliable : l.settings.IsReliable) :
    after.settings.IsReliable := by
  cases effect with
  | aside tries hears keeps => exact keeps.isReliable reliable
  | install loaded sound done tries same => exact reliable
  | attempt bus flag keeps =>
    have still := keeps.isReliable reliable
    exact (keeps_setEnabled themeKey_ne_enabledKey engine flag _).isReliable still

theorem stepAmid_of_queue {envelope : Envelope} {rest : List Envelope}
    (waiting : l.bus.queue = envelope :: rest) (engine : Engine σ ι) (visits : List Visit) :
    l.stepAmid engine visits =
      { l with bus := { l.bus with queue := rest } }.handleAmid engine visits envelope := by
  unfold stepAmid Bus.next?
  rw [waiting]

theorem turn_of_visits {turn : Turn} {visits : List Visit} (amid : turn.visits? = some visits)
    (engine : Engine σ ι) (l : Lifecycle σ ι) : l.turn engine turn = l.stepAmid engine visits := by
  cases turn with
  | command others =>
    obtain rfl := Option.some.inj amid
    rfl
  | event event =>
    cases event with
    | command =>
      obtain rfl := Option.some.inj amid
      exact (stepAmid_nil engine l).symm
    | _ => cases amid

/-- A turn that carries out a command is a step, whatever consumers do meanwhile. -/
theorem turn_of_carried {turn : Turn} {command : Command} (carried : l.carried? turn = some command)
    (engine : Engine σ ι) :
    ∃ visits sender rest, l.bus.queue = ⟨sender, command⟩ :: rest ∧
      l.turn engine turn = l.stepAmid engine visits := by
  obtain ⟨visits, amid, next⟩ := Option.bind_eq_some_iff.1 carried
  unfold Bus.next? at next
  rcases waiting : l.bus.queue with _ | ⟨⟨sender, first⟩, rest⟩ <;> rw [waiting] at next
  · cases next
  · obtain rfl := Option.some.inj next
    exact ⟨visits, sender, rest, rfl, turn_of_visits amid engine l⟩

theorem stores?_of_carried {turn : Turn} {command : Command}
    (carried : l.carried? turn = some command) : l.stores? turn = command.stores? := by
  unfold stores?
  split
  · cases carried
  · rw [carried, Option.bind_some]

theorem storedTheme_turn (reliable : l.settings.IsReliable) (engine : Engine σ ι) (turn : Turn) :
    (l.turn engine turn).settings.file.storedTheme =
      Command.latestTheme l.settings.file.storedTheme (l.carried? turn).toList := by
  by_cases sets : l.stores? turn = some Settings.themeKey
  · rcases carried : l.carried? turn with _ | command
    · unfold stores? at sets
      split at sets
      · exact absurd (Option.some.inj sets) themeKey_ne_enabledKey.symm
      · rw [carried] at sets
        cases sets
    rw [stores?_of_carried carried] at sets
    obtain ⟨visits, sender, rest, waiting, same⟩ := turn_of_carried carried engine
    -- no other command stores a text under this name
    cases command with
    | setTheme name =>
      rw [same, stepAmid_of_queue waiting]
      exact Settings.storedTheme_setTheme reliable name
    | setFlag flag => exact absurd (Option.some.inj sets) themeKey_ne_enabledKey.symm
    | _ => cases sets
  · rw [(keeps_turn sets).storedTheme]
    rcases carried : l.carried? turn with _ | command
    · rfl
    rw [stores?_of_carried carried] at sets
    cases command with
    | setTheme name => exact absurd rfl sets
    | _ => rfl

theorem hasTheme_turnAll (has : l.settings.HasTheme theme) (engine : Engine σ ι)
    (turns : List Turn) : (l.turnAll engine turns).settings.HasTheme
      (Command.latestTheme theme (l.carried engine turns)) := by
  induction turns generalizing l theme with
  | nil => exact has
  | cons turn turns ih =>
    have stored := storedTheme_turn has.reliable engine turn
    rw [has.stored] at stored
    rw [carried, Command.latestTheme_append]
    exact ih ⟨(turn_effect turn).isReliable has.reliable, stored⟩

theorem hasTheme_startup (has : l.settings.HasTheme theme) (engine : Engine σ ι) :
    (l.startup engine).settings.HasTheme theme where
  reliable := startup_effect.isReliable has.reliable
  stored := (keeps_startup themeKey_ne_enabledKey engine l).storedTheme.trans has.stored

theorem hasTheme_restart (has : l.settings.HasTheme theme) (engine : Engine σ ι) :
    (l.restart engine).settings.HasTheme theme :=
  hasTheme_startup (l := { initial (engine.forget l.engine) l.loadFault? l.settings with
    loads := l.loads }) has engine

/-! ### The theme that is told -/

/-- Whoever asks for the theme is told this one, and one who has come is told it before the flag. -/
structure Tells (engine : Engine σ ι) (l : Lifecycle σ ι) (theme : String) : Prop where
  asked : ∀ sender rest visits, l.bus.queue = ⟨sender, .getTheme⟩ :: rest →
    l.bus.Sends (l.stepAmid engine visits).bus fun id =>
      if id = sender ∧ l.bus.isAttached sender then [.theme theme] else []
  connected : ∀ sender rest visits, l.bus.queue = ⟨sender, .connected⟩ :: rest →
    ∃ told, (l.bus.Sends told fun id =>
        if id = sender ∧ l.bus.isAttached sender then [.theme theme] else []) ∧
      (l.stepAmid engine visits).bus =
        ((told.visitAll visits).post sender (.flag l.snapshot.isEnabled)).2

theorem sends_tellTheme (has : l.settings.HasTheme theme) (id : Nat) :
    l.bus.Sends (l.tellTheme id).bus fun other =>
      if other = id ∧ l.bus.isAttached id then [.theme theme] else [] := by
  have told : (l.tellTheme id).bus = (l.bus.post id (.theme theme)).2 := by
    rw [← has.stored, ← Settings.theme_of_reliable has.reliable]
    rfl
  rw [told]
  exact l.bus.sends_post id (.theme theme)

theorem tells_of_hasTheme (has : l.settings.HasTheme theme) (engine : Engine σ ι) :
    l.Tells engine theme where
  asked sender rest visits waiting := by
    rw [stepAmid_of_queue waiting]
    exact sends_tellTheme (l := { l with bus := { l.bus with queue := rest } }) has sender
  connected sender rest visits waiting := by
    rw [stepAmid_of_queue waiting]
    exact ⟨_, sends_tellTheme (l := { l with bus := { l.bus with queue := rest } }) has sender, rfl⟩

/-- Whoever is attached is told a theme that is set, word for word. -/
theorem sends_setTheme {sender : Nat} {name : String} {rest : List Envelope}
    (waiting : l.bus.queue = ⟨sender, .setTheme name⟩ :: rest) (engine : Engine σ ι)
    (visits : List Visit) :
    l.bus.Sends (l.stepAmid engine visits).bus fun id =>
      if l.bus.isAttached id then [.theme name] else [] := by
  rw [stepAmid_of_queue waiting]
  exact Bus.sends_broadcast { l.bus with queue := rest } (.theme name)

/-- Whatever happens from the start on, with a store that does not fail: whoever asks is told the
theme that was set last by a command, or else the one that was stored before; a theme that is set is
told to all; after a restart, what is told goes on from the theme that was set last; and a turn
changes no setting but the one it stores, so that theme and flag leave each other alone. -/
theorem theme_of_run (engine : Engine σ ι) (state : σ) (loadFault? : Nat → Option Vault.Error)
    (file : SettingsFile) (bus : Bus) (turns : List Turn) :
    let first := started engine state loadFault? (.ofFile file) bus
    let l := first.turnAll engine turns
    let theme := Command.latestTheme file.storedTheme (first.carried engine turns)
    l.Tells engine theme ∧
    (∀ sender name rest visits, l.bus.queue = ⟨sender, .setTheme name⟩ :: rest →
      l.bus.Sends (l.stepAmid engine visits).bus fun id =>
        if l.bus.isAttached id then [.theme name] else []) ∧
    (∀ nextFault? later,
      let next := { l with loadFault? := nextFault? }.restart engine
      (next.turnAll engine later).Tells engine
        (Command.latestTheme theme (next.carried engine later))) ∧
    ∀ turn key, l.stores? turn ≠ some key →
      (l.turn engine turn).settings.file.lookup? key = l.settings.file.lookup? key := by
  intro first l theme
  have start : first.settings.HasTheme file.storedTheme :=
    hasTheme_startup (l := { initial state loadFault? (.ofFile file) with bus := bus })
      ⟨Settings.isReliable_ofFile file, rfl⟩ engine
  have has : l.settings.HasTheme theme := hasTheme_turnAll start engine turns
  refine ⟨tells_of_hasTheme has engine, ?_, ?_, fun turn key other => (keeps_turn other).lookup?⟩
  · exact fun sender name rest visits waiting => sends_setTheme waiting engine visits
  · intro nextFault? later next
    have again : next.settings.HasTheme theme :=
      hasTheme_restart (l := { l with loadFault? := nextFault? }) has engine
    exact tells_of_hasTheme (hasTheme_turnAll again engine later) engine

end Lifecycle

end SealGate.Session
