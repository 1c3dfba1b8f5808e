import SealGate.Proofs.Session.Informed
import SealGate.Proofs.Session.Restart

/-! How often the runtime is loaded. An attempt to enable what is not enabled calls the loader as
long as no call has succeeded, and nothing else ever calls it. So there is one call for each attempt
that a load made fail, and one more for the load that worked; from then on every attempt ends
enabled, and every snapshot that is enabled has the runtime of that load. -/

namespace SealGate.Session

/-- What a lifecycle goes through: its start, or a turn. -/
inductive Stage
  | startup
  | turn (turn : Turn)

/-- The result of an attempt to enable that ended with a load that failed. -/
def isLoadFailure : Except Error Bool → Bool
  | .error (.vault _) => true
  | _ => false

namespace Lifecycle

variable {σ ι : Type} {engine : Engine σ ι} {l after : Lifecycle σ ι} {number failures : Nat}
  {stage : Stage}

instance (l : Lifecycle σ ι) : Decidable l.HasLoaded :=
  inferInstanceAs (Decidable (∃ number < l.loads, l.loadFault? number = none))

/-- A snapshot has been published that has the runtime of a numbered load. -/
def Uses (l : Lifecycle σ ι) (number : Nat) : Prop :=
  ∃ snapshot ∈ l.published, snapshot.load? = some number

/-! ### Stages -/

def perform (engine : Engine σ ι) (l : Lifecycle σ ι) : Stage → Lifecycle σ ι
  | .startup => l.startup engine
  | .turn turn => l.turn engine turn

def performAll (engine : Engine σ ι) (l : Lifecycle σ ι) (stages : List Stage) : Lifecycle σ ι :=
  stages.foldl (perform engine) l

/-- The lifecycle as it is when the next command is to enable, right before it does. -/
def commanded? (l : Lifecycle σ ι) (visits : List Visit) : Option (Lifecycle σ ι) :=
  match l.bus.next? with
  | (some ⟨_, .setFlag true⟩, bus) =>
    some (({ l with bus := bus }.broadcast .suspended).visited visits)
  | _ => none

/-- The lifecycle as it is when a stage attempts to enable, right before it does. -/
def attempting? (l : Lifecycle σ ι) : Stage → Option (Lifecycle σ ι)
  | .startup =>
    let (stored, settings) := l.settings.enabled
    if stored.toOption.getD false then some { l with settings := settings } else none
  | .turn (.event (.enable true)) => if l.stopped then none else some l
  | .turn (.event .command) => l.commanded? []
  | .turn (.command visits) => l.commanded? visits
  | _ => none

/-- The results of the attempts to enable, in their order. -/
def attempts (engine : Engine σ ι) : Lifecycle σ ι → List Stage → List (Except Error Bool)
  | _, [] => []
  | l, stage :: stages =>
    ((l.attempting? stage).map fun begun => (begun.setEnabled engine true).1).toList ++
      attempts engine (l.perform engine stage) stages

/-- The stage attempts to enable what is not enabled, and no load has succeeded. -/
def NeedsLoad (l : Lifecycle σ ι) (stage : Stage) : Prop :=
  (l.attempting? stage).isSome = true ∧ l.snapshot.isEnabled = false ∧ ¬ l.HasLoaded

instance (l : Lifecycle σ ι) (stage : Stage) : Decidable (l.NeedsLoad stage) :=
  inferInstanceAs (Decidable (_ ∧ _ ∧ _))

/-- A lifecycle that starts once and then takes turns is a run of stages. -/
theorem turnAll_started (engine : Engine σ ι) (state : σ) (loadFault? : Nat → Option Vault.Error)
    (settings : Settings) (bus : Bus) (turns : List Turn) :
    (started engine state loadFault? settings bus).turnAll engine turns =
      { initial state loadFault? settings with bus := bus }.performAll engine
        (.startup :: turns.map .turn) := by
  rw [performAll, List.foldl_cons, List.foldl_map]
  rfl

/-! ### What does not load -/

theorem uses_of_load (loaded : l.snapshot.load? = some number) : l.Uses number :=
  ⟨l.snapshot, by simp [published], loaded⟩

/-- Nothing is loaded, and what is used was there. -/
structure Rests (l after : Lifecycle σ ι) : Prop where
  fault : after.loadFault? = l.loadFault?
  loads : after.loads = l.loads
  runtime : after.runtime = l.runtime
  uses : ∀ number, after.Uses number → l.Uses number ∨ l.runtime = some number

namespace Rests

theorem of_published {snapshots : List (Snapshot ι)} (fault : after.loadFault? = l.loadFault?)
    (loads : after.loads = l.loads) (runtime : after.runtime = l.runtime)
    (published : after.published = l.published ++ snapshots)
    (used : ∀ snapshot ∈ snapshots, ∀ number, snapshot.load? = some number →
      l.Uses number ∨ l.runtime = some number) : Rests l after where
  fault := fault
  loads := loads
  runtime := runtime
  uses := by
    rintro number ⟨snapshot, mem, has⟩
    rw [published] at mem
    rcases List.mem_append.1 mem with before | new
    · exact .inl ⟨snapshot, before, has⟩
    · exact used snapshot new number has

theorem aside (tried : σ) (settings : Settings) (bus : Bus) (stopped : Bool) :
    Rests l { l with engine := tried, settings := settings, bus := bus, stopped := stopped } :=
  of_published rfl rfl rfl (List.append_nil _).symm nofun

theorem of_eq (same : after = l) : Rests l after := by
  rw [same]
  exact aside _ _ _ _

theorem installed {bus : Bus} {tried : σ} {unlocked : Unlocked ι}
    (loaded : l.snapshot.load? = some number) :
    Rests l ({ l with engine := tried, bus := bus }.installed engine number unlocked) := by
  refine of_published rfl rfl rfl (published_publish _ _) ?_
  rintro _ (_ | ⟨_, ⟨⟩⟩) other same
  obtain rfl : number = other := Option.some.inj same
  exact .inl (uses_of_load loaded)

theorem disable (bus : Bus) : Rests l ({ l with bus := bus }.setEnabled engine false).2 := by
  rcases on : l.snapshot.isEnabled with _ | _
  · simp only [setEnabled, transition_same false (l := { l with bus := bus }) on]
    exact aside _ _ _ _
  · simp only [setEnabled, transition, on]
    refine of_published rfl rfl rfl (published_publish _ _) ?_
    rintro _ (_ | ⟨_, ⟨⟩⟩) number same
    cases same

/-- An attempt to enable that ends in a phase with the runtime, or with none. -/
theorem attempted {phase : Phase ι} (fault : after.loadFault? = l.loadFault?)
    (loads : after.loads = l.loads) (runtime : after.runtime = l.runtime)
    (published : after.published = l.published ++
      [⟨l.snapshot.version + 1, .enabling⟩, ⟨l.snapshot.version + 2, phase⟩])
    (has : phase = .disabled ∨ ∃ number, phase = .enabled number none ∧ l.runtime = some number) :
    Rests l after := by
  refine of_published fault loads runtime published ?_
  rintro _ (_ | ⟨_, _ | ⟨_, ⟨⟩⟩⟩) number same
  · cases same
  · rcases has with rfl | ⟨load, rfl, known⟩
    · cases same
    · exact .inr (same ▸ known)

theorem requestUnlock (passphrase : String) :
    Rests l (l.requestUnlock engine passphrase).2 := by
  unfold Lifecycle.requestUnlock
  split
  · exact of_eq rfl
  obtain ⟨tried, -, ⟨error, failed⟩ | ⟨load, unlocked, loaded, -, -, given⟩⟩ :=
    unlock_cases engine l passphrase
  · rw [failed]
    exact aside _ _ _ _
  · rw [given]
    exact installed loaded

end Rests

/-! ### What a stage does -/

/-- A stage attempts to enable, with the runtime as it is, or it loads nothing. -/
inductive Passes (engine : Engine σ ι) (l : Lifecycle σ ι) :
    Option (Lifecycle σ ι) → Lifecycle σ ι → Prop
  | rests {after : Lifecycle σ ι} : Rests l after → Passes engine l none after
  | attempts (bus : Bus) (settings : Settings) :
      Passes engine l (some { l with bus := bus, settings := settings })
        ({ l with bus := bus, settings := settings }.setEnabled engine true).2

theorem stepAmid_passes (engine : Engine σ ι) (l : Lifecycle σ ι) (visits : List Visit) :
    Passes engine l (l.commanded? visits) (l.stepAmid engine visits) := by
  unfold commanded? stepAmid
  rcases l.bus.next? with ⟨_ | ⟨sender, command⟩, bus⟩
  · exact .rests (.of_eq rfl)
  simp only [handleAmid, handle]
  cases command with
  | connected => exact .rests (.aside _ _ _ _)
  | getFlag => exact .rests (.aside _ _ _ _)
  | getTheme => exact .rests (.aside _ _ _ _)
  | setTheme name => exact .rests (.aside _ _ _ _)
  | setFlag flag =>
    cases flag with
    | false => exact .rests (.disable _)
    | true => exact .attempts _ l.settings
  | setMasterKey key keyId =>
    rcases setMasterKey_cases engine { l with bus := bus } ⟨key⟩ keyId with
      ⟨error, refused⟩ | ⟨load, unlocked, loaded, -, -, -, given⟩
    · simp only [refused]
      exact .rests (.aside _ _ _ _)
    · simp only [given]
      exact .rests (.installed loaded)

theorem requestEnabled_passes (engine : Engine σ ι) (l : Lifecycle σ ι) (flag : Bool) :
    Passes engine l (l.attempting? (.turn (.event (.enable flag))))
      (l.requestEnabled engine flag).2 := by
  unfold requestEnabled
  cases flag with
  | false =>
    split
    · exact .rests (.of_eq rfl)
    · exact .rests (.disable l.bus)
  | true =>
    rw [attempting?]
    split
    · exact .rests (.of_eq rfl)
    · exact .attempts l.bus l.settings

theorem perform_passes (engine : Engine σ ι) (l : Lifecycle σ ι) (stage : Stage) :
    Passes engine l (l.attempting? stage) (l.perform engine stage) := by
  cases stage with
  | startup =>
    simp only [attempting?, perform, startup]
    split
    · exact .attempts l.bus _
    · exact .rests (.aside _ _ _ _)
  | turn turn =>
    cases turn with
    | command visits => exact stepAmid_passes engine l visits
    | event event =>
      cases event with
      | attach => exact .rests (.aside _ _ _ _)
      | detach id => exact .rests (.aside _ _ _ _)
      | drain id => exact .rests (.aside _ _ _ _)
      | send sender command => exact .rests (.aside _ _ _ _)
      | stop => exact .rests (.aside _ _ _ _)
      | unlock passphrase => exact .rests (.requestUnlock passphrase)
      | enable flag => exact requestEnabled_passes engine l flag
      | command =>
        rw [perform, Lifecycle.turn, Lifecycle.after, ← stepAmid_nil]
        exact stepAmid_passes engine l []

/-! ### An attempt to enable -/

/-- What an attempt to enable comes to, for the loader, the runtime and the flag. -/
inductive Loading (l : Lifecycle σ ι) (result : Except Error Bool) (after : Lifecycle σ ι) : Prop
  /-- It is enabled already, or the runtime is there. -/
  | spared : l.snapshot.isEnabled = true ∨ l.runtime.isSome = true → Rests l after →
      isLoadFailure result = false → after.snapshot.isEnabled = true → Loading l result after
  | failed {cause : Vault.Error} : l.snapshot.isEnabled = false → l.runtime = none →
      l.loadFault? l.loads = some cause → Rests { l with loads := l.loads + 1 } after →
      isLoadFailure result = true → Loading l result after
  | worked : l.snapshot.isEnabled = false → l.runtime = none → l.loadFault? l.loads = none →
      Rests { l with loads := l.loads + 1, runtime := some l.loads } after →
      isLoadFailure result = false → after.snapshot.isEnabled = true → Loading l result after

theorem isLoadFailure_persist (flag : Bool) (l : Lifecycle σ ι) (enabled : Bool) :
    isLoadFailure ((l.persist flag).1.map fun _ => enabled) = false := by
  unfold persist
  rcases l.settings.setEnabled flag with ⟨cause | _, settings⟩ <;> rfl

theorem setEnabled_loading (engine : Engine σ ι) (l : Lifecycle σ ι) (bus : Bus)
    (settings : Settings) :
    let begun := { l with bus := bus, settings := settings }
    Loading l (begun.setEnabled engine true).1 (begun.setEnabled engine true).2 := by
  intro begun
  have two (phase : Phase ι) := begun.published_attempt phase
  rcases on : begun.snapshot.isEnabled with _ | _
  · rcases load_outcome engine (begun.publish .enabling) with
      ⟨number, given, known⟩ | ⟨cause, given, none, fault⟩ | ⟨given, none, fault⟩
    all_goals simp only [setEnabled, transition, on, given]
    · have known : l.runtime = some number := known
      refine .spared (.inr (by rw [known]; rfl)) ?_ (isLoadFailure_persist _ _ _) rfl
      exact .attempted rfl rfl rfl (two _) (.inr ⟨number, rfl, known⟩)
    · refine .failed on none fault ?_ rfl
      exact .attempted rfl rfl rfl (two _) (.inl rfl)
    · refine .worked on none fault ?_ (isLoadFailure_persist _ _ _) rfl
      exact .attempted rfl rfl rfl (two _) (.inr ⟨l.loads, rfl, rfl⟩)
  · simp only [setEnabled, transition_same true on]
    exact .spared (.inl on) (.aside _ _ _ _) (isLoadFailure_persist _ _ _) on

/-! ### A run -/

theorem hasLoaded_congr (fault : after.loadFault? = l.loadFault?) (loads : after.loads = l.loads) :
    after.HasLoaded ↔ l.HasLoaded := by
  simp only [HasLoaded, fault, loads]

/-- There is one call of the loader for each attempt that a load made fail, and one for the load
that worked, which is the one that gave the runtime; and no other runtime is used. -/
structure IsTallied (loadFault? : Nat → Option Vault.Error) (failures : Nat) (l : Lifecycle σ ι) :
    Prop where
  fault : l.loadFault? = loadFault?
  count : l.loads = failures + if l.HasLoaded then 1 else 0
  loaded : ∀ number, l.runtime = some number ↔ number < l.loads ∧ loadFault? number = none
  uses : ∀ number, l.Uses number → l.runtime = some number

theorem isTallied_initial (state : σ) (loadFault? : Nat → Option Vault.Error) (settings : Settings)
    (bus : Bus) :
    IsTallied loadFault? 0
      ({ initial state loadFault? settings with bus := bus } : Lifecycle σ ι) where
  fault := rfl
  count := rfl
  loaded number := iff_of_false nofun fun tried => Nat.not_lt_zero number tried.1
  uses := by
    rintro number ⟨snapshot, mem, has⟩
    rw [List.mem_singleton.1 mem] at has
    cases has

namespace IsTallied

variable {loadFault? : Nat → Option Vault.Error} {result : Except Error Bool}

theorem hasLoaded_iff (tallied : IsTallied loadFault? failures l) :
    l.HasLoaded ↔ l.runtime.isSome = true := by
  simp only [HasLoaded, Option.isSome_iff_exists, tallied.loaded, tallied.fault]

theorem rests (tallied : IsTallied loadFault? failures l) (rests : Rests l after) :
    IsTallied loadFault? failures after where
  fault := rests.fault.trans tallied.fault
  count := by simp only [rests.loads, hasLoaded_congr rests.fault rests.loads, tallied.count]
  loaded := by simpa only [rests.runtime, rests.loads] using tallied.loaded
  uses number used := by
    rw [rests.runtime]
    exact (rests.uses number used).elim (tallied.uses number) id

theorem failed {cause : Vault.Error} (tallied : IsTallied loadFault? failures l)
    (fault : l.loadFault? l.loads = some cause) :
    IsTallied loadFault? (failures + 1) { l with loads := l.loads + 1 } where
  fault := tallied.fault
  count := by
    simp only [hasLoaded_of_refused fault]
    have count := tallied.count
    omega
  loaded number := by
    refine (tallied.loaded number).trans (and_congr_left fun worked => ?_)
    have other : number ≠ l.loads := by
      rintro rfl
      rw [← tallied.fault, fault] at worked
      cases worked
    show number < l.loads ↔ number < l.loads + 1
    omega
  uses := tallied.uses

theorem worked (tallied : IsTallied loadFault? failures l) (none : l.runtime = none)
    (fault : l.loadFault? l.loads = .none) :
    IsTallied loadFault? failures { l with loads := l.loads + 1, runtime := some l.loads } where
  fault := tallied.fault
  count := by
    have before : ¬ l.HasLoaded := by simp [tallied.hasLoaded_iff, none]
    have now : HasLoaded { l with loads := l.loads + 1, runtime := some l.loads } :=
      hasLoaded_of_load fault
    have count := tallied.count
    rw [if_neg before] at count
    rw [if_pos now]
    show l.loads + 1 = failures + 1
    omega
  loaded number := by
    constructor
    · rintro ⟨⟩
      exact ⟨Nat.lt_succ_self _, tallied.fault ▸ fault⟩
    · rintro ⟨tried, works⟩
      -- an earlier load that works would have left a runtime
      have first : ¬ number < l.loads := by
        intro earlier
        have known := (tallied.loaded number).2 ⟨earlier, works⟩
        rw [none] at known
        cases known
      have last : number < l.loads + 1 := tried
      exact congrArg some (by omega)
  uses number used := by
    have known := tallied.uses number used
    rw [none] at known
    cases known

theorem loading (tallied : IsTallied loadFault? failures l) (loading : Loading l result after) :
    IsTallied loadFault? (failures + [result].countP isLoadFailure) after := by
  cases loading with
  | spared there rests fine enabled =>
    rw [List.countP_cons_of_neg (by simp [fine])]
    exact tallied.rests rests
  | failed off none fault rests bad =>
    rw [List.countP_cons_of_pos bad]
    exact (tallied.failed fault).rests rests
  | worked off none fault rests fine enabled =>
    rw [List.countP_cons_of_neg (by simp [fine])]
    exact (tallied.worked none fault).rests rests

theorem perform (tallied : IsTallied loadFault? failures l) (engine : Engine σ ι) (stage : Stage) :
    IsTallied loadFault? (failures + (l.attempts engine [stage]).countP isLoadFailure)
      (l.perform engine stage) := by
  rw [attempts, attempts, List.append_nil]
  have passes := l.perform_passes engine stage
  generalize l.attempting? stage = attempt at passes ⊢
  generalize l.perform engine stage = after at passes ⊢
  cases passes with
  | rests rests => exact tallied.rests rests
  | attempts bus settings => exact tallied.loading (l.setEnabled_loading engine bus settings)

theorem performAll (tallied : IsTallied loadFault? failures l) (engine : Engine σ ι)
    (stages : List Stage) :
    IsTallied loadFault? (failures + (l.attempts engine stages).countP isLoadFailure)
      (l.performAll engine stages) := by
  induction stages generalizing l failures with
  | nil => exact tallied
  | cons stage stages ih =>
    have next := tallied.perform engine stage
    rw [attempts, attempts, List.append_nil] at next
    rw [attempts, List.countP_append, ← Nat.add_assoc]
    exact ih next

/-- Only a stage that needs the loader calls it. -/
theorem loads_perform (tallied : IsTallied loadFault? failures l) (engine : Engine σ ι)
    (stage : Stage) :
    (l.perform engine stage).loads = l.loads + if l.NeedsLoad stage then 1 else 0 := by
  have passes := l.perform_passes engine stage
  generalize attempting : l.attempting? stage = attempt at passes
  generalize l.perform engine stage = after at passes ⊢
  cases passes with
  | rests rests =>
    rw [if_neg (by simp [NeedsLoad, attempting])]
    exact rests.loads
  | attempts bus settings =>
    cases l.setEnabled_loading engine bus settings with
    | spared there rests fine enabled =>
      have no : ¬ l.NeedsLoad stage := by
        rintro ⟨-, off, unloaded⟩
        rw [tallied.hasLoaded_iff] at unloaded
        rcases there with on | known
        · exact absurd off (by simp [on])
        · exact unloaded known
      rw [if_neg no]
      exact rests.loads
    | failed off none fault rests bad =>
      rw [if_pos ⟨by rw [attempting]; rfl, off, by simp [tallied.hasLoaded_iff, none]⟩]
      exact rests.loads
    | worked off none fault rests fine enabled =>
      rw [if_pos ⟨by rw [attempting]; rfl, off, by simp [tallied.hasLoaded_iff, none]⟩]
      exact rests.loads

/-- Once a load has worked there is no other one, and no attempt fails for the want of it. -/
theorem performAll_of_hasLoaded (tallied : IsTallied loadFault? failures l) (engine : Engine σ ι)
    (has : l.HasLoaded) (stages : List Stage) :
    (l.performAll engine stages).loads = l.loads ∧ (l.performAll engine stages).HasLoaded ∧
      ∀ result ∈ l.attempts engine stages, isLoadFailure result = false := by
  have loads : (l.performAll engine stages).loads = l.loads := by
    induction stages generalizing l failures with
    | nil => rfl
    | cons stage stages ih =>
      have same : (l.perform engine stage).loads = l.loads := by
        rw [tallied.loads_perform engine stage, if_neg fun needs => needs.2.2 has, Nat.add_zero]
      have next := tallied.perform engine stage
      have still := (hasLoaded_congr (next.fault.trans tallied.fault.symm) same).2 has
      exact (ih next still).trans same
  have later := tallied.performAll engine stages
  have still := (hasLoaded_congr (later.fault.trans tallied.fault.symm) loads).2 has
  refine ⟨loads, still, ?_⟩
  -- the loads are those of before and there is still one that worked, so no failure was added
  have before := tallied.count
  have after := later.count
  rw [if_pos has] at before
  rw [if_pos still] at after
  have none : (l.attempts engine stages).countP isLoadFailure = 0 := by omega
  simpa using List.countP_eq_zero.1 none

/-- Once a load has worked, an attempt to enable ends enabled. -/
theorem isEnabled_perform (tallied : IsTallied loadFault? failures l) (engine : Engine σ ι)
    (has : l.HasLoaded) (attempts : (l.attempting? stage).isSome = true) :
    (l.perform engine stage).snapshot.isEnabled = true := by
  have passes := l.perform_passes engine stage
  generalize l.attempting? stage = attempt at passes attempts
  generalize l.perform engine stage = after at passes ⊢
  cases passes with
  | rests rests => cases attempts
  | attempts bus settings =>
    cases l.setEnabled_loading engine bus settings with
    | spared there rests fine enabled => exact enabled
    | worked off none fault rests fine enabled => exact enabled
    | failed off none fault rests bad =>
      rw [tallied.hasLoaded_iff, none] at has
      cases has

end IsTallied

/-- Whatever happens from the start on: the loader is called once by each stage that attempts to
enable what is not enabled while no load has worked, and by nothing else; so as often as a load made
an attempt fail, and once more if a load worked. From then on it is not called, no attempt fails for
the want of it and each ends enabled. What is enabled at any time has the runtime of the one load
that worked. -/
theorem runtime_loaded_once (engine : Engine σ ι) (state : σ)
    (loadFault? : Nat → Option Vault.Error) (settings : Settings) (bus : Bus)
    (stages : List Stage) :
    let first : Lifecycle σ ι := { initial state loadFault? settings with bus := bus }
    let l := first.performAll engine stages
    l.loadFault? = loadFault? ∧
    (∀ stage, (l.perform engine stage).loads = l.loads + if l.NeedsLoad stage then 1 else 0) ∧
    l.loads = (first.attempts engine stages).countP isLoadFailure +
      (if l.HasLoaded then 1 else 0) ∧
    (l.HasLoaded → ∀ later,
      (l.performAll engine later).loads = l.loads ∧
      (∀ result ∈ l.attempts engine later, isLoadFailure result = false) ∧
      ∀ stage, ((l.performAll engine later).attempting? stage).isSome = true →
        ((l.performAll engine later).perform engine stage).snapshot.isEnabled = true) ∧
    ∀ number, l.Uses number → (number < l.loads ∧ loadFault? number = none) ∧
      ∀ other, other < l.loads → loadFault? other = none → other = number := by
  intro first l
  have tallied : IsTallied loadFault? (0 + (first.attempts engine stages).countP isLoadFailure) l :=
    (isTallied_initial state loadFault? settings bus).performAll engine stages
  refine ⟨tallied.fault, tallied.loads_perform engine, ?_, ?_, ?_⟩
  · have count := tallied.count
    rwa [Nat.zero_add] at count
  · intro has later
    obtain ⟨loads, still, fine⟩ := tallied.performAll_of_hasLoaded engine has later
    refine ⟨loads, fine, fun stage attempts => ?_⟩
    exact (tallied.performAll engine later).isEnabled_perform engine still attempts
  · intro number used
    have known := tallied.uses number used
    refine ⟨(tallied.loaded number).1 known, fun other tried works => ?_⟩
    have also := (tallied.loaded other).2 ⟨tried, works⟩
    rw [known] at also
    exact (Option.some.inj also).symm

/-- The flag is stored, and the load of the start fails. The next attempt loads, and after it was
disabled it is enabled again without a load. -/
theorem runtime_loaded_once_of_retry :
    let engine : Engine Unit Unit :=
      ⟨id, fun _ state => (.error .invalidPassphrase, state), fun _ => .ok (), id⟩
    let loadFault? (number : Nat) : Option Vault.Error :=
      if number = 0 then some .timeout else none
    let settings : Settings := .ofFile (.table [(Settings.enabledKey, "true")])
    let turns : List Turn := [.event (.enable true), .event (.enable false), .event (.enable true)]
    let l := (started engine () loadFault? settings .empty).turnAll engine turns
    { initial () loadFault? settings with bus := .empty }.attempts engine
        (.startup :: turns.map .turn) = [.error (.vault .timeout), .ok true, .ok true] ∧
      l.loads = 2 ∧ l.Uses 1 ∧ (∀ number, l.Uses number → number = 1) ∧
      ∀ later, (l.performAll engine later).loads = 2 := by
  intro engine loadFault? settings turns l
  obtain ⟨-, -, -, once, uses⟩ := runtime_loaded_once engine () loadFault? settings .empty
    (.startup :: turns.map .turn)
  rw [← turnAll_started] at once uses
  have loads : l.loads = 2 := rfl
  have tried : 1 < l.loads := by rw [loads]; exact Nat.one_lt_two
  have has : l.HasLoaded := ⟨1, tried, rfl⟩
  refine ⟨rfl, loads, uses_of_load rfl, ?_, ?_⟩
  · intro number used
    exact ((uses number used).2 1 tried rfl).symm
  · intro later
    exact (once has later).1.trans loads

end Lifecycle

end SealGate.Session
