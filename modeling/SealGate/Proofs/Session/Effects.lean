import SealGate.Proofs.Session.Mailboxes
import SealGate.Proofs.Session.Run
import SealGate.Proofs.Session.Storage

/-! What an event does to a lifecycle. It attempts to enable or to disable, or it installs a key, or
it leaves snapshot, runtime and stored flag alone and tells of the flag at most what it is. So what
has to hold between messages is shown for these three. A command may notify twice; what consumers do
between the two makes no fourth case. -/

namespace SealGate.Session

/-- The notification is about the flag: it tells the flag, or that the flag is about to be told. -/
def Notification.isStatus : Notification → Bool
  | .flag _ | .suspended => true
  | _ => false

/-- What a consumer does by itself. -/
inductive Visit
  | attach
  | detach (id : Nat)
  | drain (id : Nat)
  | send (sender : Nat) (command : Command)

namespace Mailbox

/-- What the consumer was told last about the flag. -/
def lastStatus? (box : Mailbox) : Option Notification :=
  (box.delivered.filter Notification.isStatus).getLast?

theorem lastStatus?_deliver {box : Mailbox} (attached : box.attached = true)
    (notification : Notification) :
    (box.deliver notification).lastStatus? =
      if notification.isStatus then some notification else box.lastStatus? := by
  cases status : notification.isStatus <;>
    simp [deliver, attached, lastStatus?, List.filter_append, status]

end Mailbox

namespace Bus

variable {before between after bus : Bus} {enabled : Bool}

/-- What an attached consumer knows of the flag it knew before, or it is the flag, or nothing. -/
def Hears (before after : Bus) (enabled : Bool) : Prop :=
  ∀ id box, after.box? id = some box → box.attached = true →
    box.lastStatus? = none ∨ box.lastStatus? = some (.flag enabled) ∨
      ∃ old, before.box? id = some old ∧ old.attached = true ∧ box.lastStatus? = old.lastStatus?

theorem Hears.of_boxes (same : after.boxes = before.boxes) : before.Hears after enabled := by
  intro id box found attached
  refine .inr (.inr ⟨box, ?_, attached, rfl⟩)
  rwa [box?, same] at found

theorem Hears.trans (first : before.Hears between enabled) (second : between.Hears after enabled) :
    before.Hears after enabled := by
  intro id box found attached
  rcases second id box found attached with none | told | ⟨old, held, joined, same⟩
  · exact .inl none
  · exact .inr (.inl told)
  · rw [same]
    exact first id old held joined

/-- Each mailbox is changed by itself, nobody is attached again, and what is told of the flag is the
flag. -/
theorem Hears.of_change (change : Nat → Mailbox → Mailbox)
    (boxes : ∀ id, after.box? id = (before.box? id).map (change id))
    (fair : ∀ id box, (change id box).attached = true → box.attached = true ∧
      ((change id box).lastStatus? = box.lastStatus? ∨
        (change id box).lastStatus? = some (.flag enabled))) :
    before.Hears after enabled := by
  intro id box found attached
  rw [boxes, Option.map_eq_some_iff] at found
  obtain ⟨old, held, rfl⟩ := found
  obtain ⟨joined, same | told⟩ := fair id old attached
  · exact .inr (.inr ⟨old, held, joined, same⟩)
  · exact .inr (.inl told)

theorem hears_update (bus : Bus) (id : Nat) {change : Mailbox → Mailbox}
    (fair : ∀ box, (change box).attached = true → box.attached = true ∧
      ((change box).lastStatus? = box.lastStatus? ∨
        (change box).lastStatus? = some (.flag enabled))) :
    bus.Hears (bus.update id change) enabled := by
  refine .of_change (fun other => if other = id then change else fun box => box) ?_ ?_
  · intro other
    rw [box?_update]
    by_cases same : other = id
    · simp [same]
    · simp [same]
  · intro other box attached
    by_cases same : other = id
    · rw [if_pos same] at attached ⊢
      exact fair box attached
    · rw [if_neg same] at attached ⊢
      exact ⟨attached, .inl rfl⟩

theorem deliver_fair {notification : Notification}
    (fair : notification.isStatus = true → notification = .flag enabled) (box : Mailbox)
    (attached : (box.deliver notification).attached = true) :
    box.attached = true ∧ ((box.deliver notification).lastStatus? = box.lastStatus? ∨
      (box.deliver notification).lastStatus? = some (.flag enabled)) := by
  have joined : box.attached = true := by rwa [deliver_eq] at attached
  refine ⟨joined, ?_⟩
  rw [Mailbox.lastStatus?_deliver joined]
  by_cases status : notification.isStatus = true
  · rw [if_pos status, fair status]
    exact .inr rfl
  · rw [if_neg status]
    exact .inl rfl

theorem hears_post (bus : Bus) (id : Nat) {notification : Notification}
    (fair : notification.isStatus = true → notification = .flag enabled) :
    bus.Hears (bus.post id notification).2 enabled :=
  bus.hears_update id (deliver_fair fair)

theorem hears_broadcast (bus : Bus) {notification : Notification}
    (fair : notification.isStatus = true → notification = .flag enabled) :
    bus.Hears (bus.broadcast notification) enabled :=
  .of_change _ (bus.box?_broadcast notification) fun _ => deliver_fair fair

theorem hears_drain (bus : Bus) (id : Nat) : bus.Hears (bus.drain id).2 enabled :=
  bus.hears_update id fun _ attached => ⟨attached, .inl rfl⟩

theorem hears_detach (bus : Bus) (id : Nat) : bus.Hears (bus.detach id) enabled :=
  bus.hears_update id fun _ attached => absurd attached Bool.false_ne_true

theorem hears_attach (bus : Bus) : bus.Hears bus.attach.2 enabled := by
  intro id box found attached
  rw [box?_attach] at found
  split at found
  · obtain rfl := Option.some.inj found
    exact .inl rfl
  · exact .inr (.inr ⟨box, found, attached, rfl⟩)

def visit (bus : Bus) : Visit → Bus
  | .attach => bus.attach.2
  | .detach id => bus.detach id
  | .drain id => (bus.drain id).2
  | .send sender command => (bus.send sender command).2

def visitAll (bus : Bus) (visits : List Visit) : Bus := visits.foldl visit bus

theorem hears_visit (bus : Bus) (visit : Visit) : bus.Hears (bus.visit visit) enabled := by
  cases visit with
  | attach => exact bus.hears_attach
  | detach id => exact bus.hears_detach id
  | drain id => exact bus.hears_drain id
  | send sender command => exact .of_boxes (bus.boxes_send sender command)

theorem hears_visitAll (bus : Bus) (visits : List Visit) :
    bus.Hears (bus.visitAll visits) enabled := by
  induction visits generalizing bus with
  | nil => exact .of_boxes rfl
  | cons visit visits ih => exact (bus.hears_visit visit).trans (ih (bus.visit visit))

end Bus

variable {σ ι : Type}

namespace Lifecycle

variable {engine : Engine σ ι} {installs : Prop} {l after : Lifecycle σ ι}

theorem isEnabled_installed (engine : Engine σ ι) (l : Lifecycle σ ι) (load : Nat)
    (unlocked : Unlocked ι) : (l.installed engine load unlocked).snapshot.isEnabled = true := rfl

/-- What an event comes to. A key is installed only if `installs` holds. -/
inductive Effect (engine : Engine σ ι) (installs : Prop) (l : Lifecycle σ ι) : Lifecycle σ ι → Prop
  /-- Snapshot, runtime and stored flag are left alone. -/
  | aside {bus : Bus} {settings : Settings} {tried : σ} {stopped : Bool} :
      engine.Tries l.engine tried → l.bus.Hears bus l.snapshot.isEnabled →
      l.settings.Keeps settings Settings.enabledKey →
      Effect engine installs l
        { l with engine := tried, settings := settings, bus := bus, stopped := stopped }
  /-- A key is installed. -/
  | install {bus : Bus} {tried : σ} {load : Nat} {unlocked : Unlocked ι} :
      l.snapshot.load? = some load → unlocked.IsSound engine → installs →
      engine.Tries l.engine tried → bus.boxes = l.bus.boxes →
      Effect engine installs l
        ({ l with engine := tried, bus := bus }.installed engine load unlocked)
  /-- An attempt to enable or to disable, whatever has become of the bus: it ends with the flag being
  told to all. -/
  | attempt (bus : Bus) {settings : Settings} (flag : Bool) :
      l.settings.Keeps settings Settings.enabledKey →
      Effect engine installs l
        ({ l with bus := bus, settings := settings }.setEnabled engine flag).2

namespace Effect

theorem withBus {bus : Bus} (hears : l.bus.Hears bus l.snapshot.isEnabled) :
    Effect engine installs l { l with bus := bus } :=
  .aside (.inl rfl) hears (.refl _ _)

theorem imp {others : Prop} (implies : installs → others)
    (effect : Effect engine installs l after) : Effect engine others l after := by
  cases effect with
  | aside tries hears keeps => exact .aside tries hears keeps
  | install loaded sound done tries same => exact .install loaded sound (implies done) tries same
  | attempt bus flag keeps => exact .attempt bus flag keeps

theorem moves (effect : Effect engine installs l after) : Moves engine installs l after := by
  cases effect with
  | aside tries hears keeps => exact ⟨[], .nothing tries, (List.append_nil _).symm⟩
  | install loaded sound done tries same =>
    exact Moves.install (l := { l with bus := _ }) loaded sound done tries
  | attempt bus flag keeps =>
    exact setEnabled_moves (l := { l with bus := bus, settings := _ }) flag

end Effect

/-! ### A command -/

def visited (l : Lifecycle σ ι) (visits : List Visit) : Lifecycle σ ι :=
  { l with bus := l.bus.visitAll visits }

/-- Carries out a command, with what consumers do between its notifications if it has two. -/
def handleAmid (engine : Engine σ ι) (visits : List Visit) (envelope : Envelope)
    (l : Lifecycle σ ι) : Lifecycle σ ι :=
  match envelope.command with
  | .connected => ((l.tellTheme envelope.sender).visited visits).tellFlag envelope.sender
  | .setFlag flag => (((l.broadcast .suspended).visited visits).setEnabled engine flag).2
  | _ => l.handle engine envelope

/-- Takes the next command, if one waits, and carries it out with what consumers do meanwhile. -/
def stepAmid (engine : Engine σ ι) (visits : List Visit) (l : Lifecycle σ ι) : Lifecycle σ ι :=
  match l.bus.next? with
  | (none, _) => l
  | (some envelope, bus) => { l with bus := bus }.handleAmid engine visits envelope

theorem handleAmid_nil (engine : Engine σ ι) (envelope : Envelope) (l : Lifecycle σ ι) :
    l.handleAmid engine [] envelope = l.handle engine envelope := by
  unfold handleAmid handle
  cases envelope.command <;> rfl

/-- If consumers do nothing meanwhile, it is a step. -/
theorem stepAmid_nil (engine : Engine σ ι) (l : Lifecycle σ ι) :
    l.stepAmid engine [] = l.step engine := by
  unfold stepAmid step
  rcases l.bus.next? with ⟨_ | envelope, bus⟩
  · rfl
  · exact handleAmid_nil engine envelope _

theorem handleAmid_effect (visits : List Visit) (envelope : Envelope) {bus : Bus}
    (same : bus.boxes = l.bus.boxes) :
    Effect engine (∃ key keyId, envelope.command = .setMasterKey key keyId ∧
      ({ l with bus := bus }.setMasterKey engine ⟨key⟩ keyId).1 = .ok ()) l
      ({ l with bus := bus }.handleAmid engine visits envelope) := by
  have heard : l.bus.Hears bus l.snapshot.isEnabled := .of_boxes same
  unfold handleAmid handle
  cases envelope.command with
  | connected =>
    refine .aside (.inl rfl) (.trans (.trans (heard.trans (Bus.hears_post _ _ ?_))
      (Bus.hears_visitAll _ visits)) (Bus.hears_post _ _ ?_)) (Settings.keeps_theme _ _)
    · exact nofun
    · exact fun _ => rfl
  | getFlag => exact .withBus (heard.trans (Bus.hears_post _ _ fun _ => rfl))
  | getTheme =>
    exact .aside (.inl rfl) (heard.trans (Bus.hears_post _ _ nofun)) (Settings.keeps_theme _ _)
  | setFlag flag => exact .attempt _ flag (.refl _ _)
  | setTheme name =>
    refine .aside (.inl rfl) (heard.trans (Bus.hears_broadcast _ nofun)) ?_
    exact Settings.keeps_set (by decide) _ _
  | setMasterKey key keyId =>
    rcases setMasterKey_cases engine { l with bus := bus } ⟨key⟩ keyId with
      ⟨error, refused⟩ | ⟨load, unlocked, loaded, -, -, sound, given⟩
    · simp only [refused]
      exact .withBus (heard.trans (Bus.hears_post _ _ nofun))
    · simp only [given]
      exact .install loaded sound ⟨key, keyId, rfl, by rw [given]⟩ (.inl rfl) same

theorem stepAmid_effect (visits : List Visit) :
    Effect engine (Installs engine l .command) l (l.stepAmid engine visits) := by
  unfold stepAmid
  have same := l.bus.boxes_next?
  rcases waiting : l.bus.next? with ⟨_ | ⟨sender, command⟩, bus⟩ <;> rw [waiting] at same
  · exact .withBus (.of_boxes rfl)
  refine Effect.imp ?_ (handleAmid_effect visits ⟨sender, command⟩ same)
  rintro ⟨key, keyId, rfl, done⟩
  exact .command waiting done

/-! ### An event -/

theorem requestEnabled_effect (flag : Bool) :
    Effect engine installs l (l.requestEnabled engine flag).2 := by
  unfold requestEnabled
  split
  · exact .withBus (.of_boxes rfl)
  · exact .attempt l.bus flag (.refl _ _)

theorem requestUnlock_effect (engine : Engine σ ι) (l : Lifecycle σ ι) (passphrase : String) :
    Effect engine (∃ keyId, (l.requestUnlock engine passphrase).1 = .ok keyId) l
      (l.requestUnlock engine passphrase).2 := by
  unfold requestUnlock
  split
  · exact .withBus (.of_boxes rfl)
  obtain ⟨tried, tries, ⟨error, failed⟩ | ⟨load, unlocked, loaded, -, sound, given⟩⟩ :=
    unlock_cases engine l passphrase
  · rw [failed]
    exact .aside tries (.of_boxes rfl) (.refl _ _)
  · rw [given]
    exact .install loaded sound ⟨_, rfl⟩ tries rfl

theorem after_effect (event : Event) :
    Effect engine (Installs engine l event) l (l.after engine event) := by
  cases event with
  | attach => exact .withBus l.bus.hears_attach
  | detach id => exact .withBus (l.bus.hears_detach id)
  | drain id => exact .withBus (l.bus.hears_drain id)
  | send sender command => exact .withBus (.of_boxes (l.bus.boxes_send sender command))
  | command =>
    rw [after, ← stepAmid_nil]
    exact stepAmid_effect []
  | enable flag => exact requestEnabled_effect flag
  | unlock passphrase =>
    refine Effect.imp ?_ (requestUnlock_effect engine l passphrase)
    rintro ⟨keyId, done⟩
    exact .unlock done
  | stop => exact .aside (.inl rfl) (.of_boxes rfl) (.refl _ _)

/-- The start installs no key. -/
theorem startup_effect : Effect engine False l (l.startup engine) := by
  have keeps := l.settings.keeps_enabled Settings.enabledKey
  unfold startup
  simp only
  split
  · exact .attempt l.bus true keeps
  · exact .aside (.inl rfl) (.of_boxes rfl) keeps

theorem after_moves (event : Event) :
    Moves engine (Installs engine l event) l (l.after engine event) :=
  (after_effect event).moves

theorem startup_moves : Moves engine False l (l.startup engine) := startup_effect.moves

end Lifecycle

end SealGate.Session
