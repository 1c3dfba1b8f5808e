import SealGate.Proofs.Session.Informed

/-! A lifecycle with its keys masked. Of every key only whether it is empty is left, and of an index
handle nothing. If the engine looks at no more than that when it makes a handle, a masked lifecycle
does what the lifecycle does: every operation commutes with masking. So the bytes of a key have no
say in what is told, published but for the key itself, or stored. -/

namespace SealGate.Session

/-- A key of which only is left whether it is empty. -/
def maskedBytes (bytes : Bytes) : Bytes := if bytes = [] then [] else [0]

theorem maskedBytes_eq_nil {bytes : Bytes} : maskedBytes bytes = [] ↔ bytes = [] := by
  unfold maskedBytes
  split <;> simp [*]

theorem maskedBytes_eq_iff {one other : Bytes} :
    maskedBytes one = maskedBytes other ↔ (one = [] ↔ other = []) := by
  unfold maskedBytes
  by_cases first : one = [] <;> by_cases second : other = [] <;> simp [first, second]

def maskedKey (key : Vault.MasterKey) : Vault.MasterKey := ⟨maskedBytes key.bytes⟩

/-! ### Messages -/

def Command.masked : Command → Command
  | .setMasterKey key keyId => .setMasterKey (maskedBytes key) keyId
  | command => command

/-- Commands are the same once masked if they are the same but for the bytes of a key. -/
theorem Command.masked_eq_iff {one other : Command} : one.masked = other.masked ↔
    one = other ∨ ∃ key otherKey keyId, one = .setMasterKey key keyId ∧
      other = .setMasterKey otherKey keyId ∧ (key = [] ↔ otherKey = []) := by
  constructor
  · intro same
    cases one with
    | setMasterKey key keyId =>
      cases other with
      | setMasterKey otherKey otherId =>
        obtain ⟨bytes, rfl⟩ := setMasterKey.inj same
        exact .inr ⟨key, otherKey, keyId, rfl, rfl, maskedBytes_eq_iff.1 bytes⟩
      | _ => cases same
    | _ =>
      cases other with
      | setMasterKey otherKey otherId => cases same
      | _ => exact .inl same
  · rintro (rfl | ⟨key, otherKey, keyId, rfl, rfl, same⟩)
    · rfl
    · rw [masked, masked, maskedBytes_eq_iff.2 same]

def Envelope.masked (envelope : Envelope) : Envelope :=
  ⟨envelope.sender, envelope.command.masked⟩

theorem Envelope.describe_masked (envelope : Envelope) :
    envelope.masked.describe = envelope.describe := by
  obtain ⟨sender, command⟩ := envelope
  cases command <;> rfl

def Visit.masked : Visit → Visit
  | .send sender command => .send sender command.masked
  | visit => visit

def Event.masked : Event → Event
  | .send sender sent => .send sender sent.masked
  | event => event

def Turn.masked : Turn → Turn
  | .event done => .event done.masked
  | .command visits => .command (visits.map Visit.masked)

namespace Bus

variable (bus : Bus)

def masked : Bus := { bus with queue := bus.queue.map Envelope.masked }

theorem masked_update (id : Nat) (change : Mailbox → Mailbox) :
    (bus.update id change).masked = bus.masked.update id change := by
  unfold update
  split <;> rfl

theorem masked_post (id : Nat) (notification : Notification) :
    (bus.post id notification).2.masked = (bus.masked.post id notification).2 :=
  bus.masked_update id (·.deliver notification)

theorem masked_send (sender : Nat) (command : Command) :
    (bus.send sender command).2.masked = (bus.masked.send sender command.masked).2 := by
  unfold send
  cases closed : bus.closed <;> simp [masked, closed, Envelope.masked]

theorem next?_masked :
    bus.masked.next? = (bus.next?.1.map Envelope.masked, bus.next?.2.masked) := by
  unfold next?
  cases waiting : bus.queue <;> simp [masked, waiting]

theorem masked_visit (visit : Visit) :
    (bus.visit visit).masked = bus.masked.visit visit.masked := by
  cases visit with
  | attach => rfl
  | detach id => exact bus.masked_update id _
  | drain id => exact bus.masked_update id _
  | send sender command => exact bus.masked_send sender command

theorem masked_visitAll (visits : List Visit) :
    (bus.visitAll visits).masked = bus.masked.visitAll (visits.map Visit.masked) := by
  induction visits generalizing bus with
  | nil => rfl
  | cons visit visits ih =>
    have rest := ih (bus.visit visit)
    rw [masked_visit] at rest
    exact rest

end Bus

/-! ### Snapshots -/

variable {σ ι : Type}

def Unlocked.masked (unlocked : Unlocked ι) : Unlocked Unit :=
  ⟨maskedKey unlocked.key, unlocked.keyId, ()⟩

def Phase.masked : Phase ι → Phase Unit
  | .disabled => .disabled
  | .enabling => .enabling
  | .enabled load unlocked => .enabled load (unlocked.map Unlocked.masked)

namespace Snapshot

variable (snapshot : Snapshot ι)

def masked : Snapshot Unit := ⟨snapshot.version, snapshot.phase.masked⟩

theorem isEnabled_masked : snapshot.masked.isEnabled = snapshot.isEnabled := by
  obtain ⟨version, phase⟩ := snapshot
  cases phase <;> rfl

theorem load?_masked : snapshot.masked.load? = snapshot.load? := by
  obtain ⟨version, phase⟩ := snapshot
  cases phase <;> rfl

/-- Version, status and key id of a snapshot. -/
def outline : Nat × String × Option String :=
  (snapshot.version, snapshot.label, snapshot.unlocked?.map Unlocked.keyId)

theorem outline_masked : snapshot.masked.outline = snapshot.outline := by
  obtain ⟨version, _ | _ | ⟨load, _ | unlocked⟩⟩ := snapshot <;> rfl

theorem describe_masked : snapshot.masked.describe = snapshot.describe := by
  obtain ⟨version, _ | _ | ⟨load, _ | unlocked⟩⟩ := snapshot <;> rfl

end Snapshot

/-! ### The engine -/

namespace Engine

/-- The engine of a masked lifecycle. A key that it unlocks is masked too, for it comes to stand in
a snapshot. -/
def masked (engine : Engine σ ι) : Engine σ Unit where
  start := engine.start
  unlock passphrase state :=
    ((engine.unlock passphrase state).1.map fun unlocked =>
        ⟨maskedKey unlocked.key, unlocked.keyId⟩,
      (engine.unlock passphrase state).2)
  index key := (engine.index key).map fun _ => ()
  forget := engine.forget

/-- Whether there is an index handle for a key depends on no more than whether the key is empty. -/
def IsBlind (engine : Engine σ ι) : Prop :=
  ∀ key, engine.masked.index (maskedKey key) = engine.masked.index key

end Engine

/-! ### The lifecycle -/

namespace Lifecycle

variable (engine : Engine σ ι) (l : Lifecycle σ ι)

def masked : Lifecycle σ Unit where
  engine := l.engine
  runtime := l.runtime
  loads := l.loads
  loadFault? := l.loadFault?
  settings := l.settings
  bus := l.bus.masked
  snapshot := l.snapshot.masked
  past := l.past.map Snapshot.masked
  stopped := l.stopped

theorem isEnabled_masked : l.masked.snapshot.isEnabled = l.snapshot.isEnabled :=
  l.snapshot.isEnabled_masked

theorem load?_masked : l.masked.snapshot.load? = l.snapshot.load? := l.snapshot.load?_masked

theorem published_masked : l.masked.published = l.published.map Snapshot.masked := by
  simp [published, masked]

/-- What does not look at the bytes of a key is the same for all masked snapshots. -/
theorem shown_masked {α : Type} {view : Snapshot Unit → α} {shown : Snapshot ι → α}
    (same : ∀ snapshot : Snapshot ι, view snapshot.masked = shown snapshot) :
    l.masked.published.map view = l.published.map shown := by
  rw [published_masked, List.map_map]
  exact List.map_congr_left fun snapshot _ => same snapshot

theorem descriptions_masked :
    l.masked.bus.queue.map Envelope.describe = l.bus.queue.map Envelope.describe := by
  have queue : l.masked.bus.queue = l.bus.queue.map Envelope.masked := rfl
  rw [queue, List.map_map]
  exact List.map_congr_left fun envelope _ => envelope.describe_masked

theorem masked_publish (phase : Phase ι) :
    (l.publish phase).masked = l.masked.publish phase.masked := rfl

theorem withBus_masked {bus masked : Bus} (same : bus.masked = masked) :
    ({ l with bus := bus } : Lifecycle σ ι).masked = { l.masked with bus := masked } := by
  rw [← same]
  rfl

theorem masked_post (id : Nat) (notification : Notification) :
    (l.post id notification).masked = l.masked.post id notification :=
  withBus_masked l (l.bus.masked_post id notification)

theorem load_masked :
    l.masked.load engine.masked = ((l.load engine).1, (l.load engine).2.masked) := by
  have runtime : l.masked.runtime = l.runtime := rfl
  have fault : l.masked.loadFault? l.masked.loads = l.loadFault? l.loads := rfl
  unfold load
  rw [runtime, fault]
  cases l.runtime with
  | some number => rfl
  | none => cases l.loadFault? l.loads <;> rfl

theorem transition_masked (flag : Bool) : l.masked.transition engine.masked flag =
    ((l.transition engine flag).1, (l.transition engine flag).2.masked) := by
  have loaded := load_masked engine (l.publish .enabling)
  rw [masked_publish] at loaded
  unfold transition
  rw [isEnabled_masked]
  rcases l.snapshot.isEnabled with _ | _ <;> cases flag
  · rfl
  · simp only [Phase.masked] at loaded
    simp only [loaded]
    rcases (l.publish .enabling).load engine with ⟨error | number, after⟩ <;> rfl
  · rfl
  · rfl

theorem setEnabled_masked (flag : Bool) : l.masked.setEnabled engine.masked flag =
    ((l.setEnabled engine flag).1, (l.setEnabled engine flag).2.masked) := by
  unfold setEnabled
  simp only [transition_masked, isEnabled_masked]
  rfl

theorem requestEnabled_masked (flag : Bool) :
    (l.masked.requestEnabled engine.masked flag).2 = (l.requestEnabled engine flag).2.masked := by
  have stopped : l.masked.stopped = l.stopped := rfl
  unfold requestEnabled
  rw [stopped]
  split
  · rfl
  · exact congrArg Prod.snd (setEnabled_masked engine l flag)

theorem startup_masked : l.masked.startup engine.masked = (l.startup engine).masked := by
  have settings : l.masked.settings = l.settings := rfl
  have enabled := setEnabled_masked engine { l with settings := l.settings.enabled.2 } true
  unfold startup
  simp only [settings]
  split
  · exact congrArg Prod.snd enabled
  · rfl

variable {engine}

theorem install_masked (blind : engine.IsBlind) (load : Nat) (key : Vault.MasterKey)
    (keyId : String) : l.masked.install engine.masked load (maskedKey key) keyId =
      ((l.install engine load key keyId).1, (l.install engine load key keyId).2.masked) := by
  have bare : (maskedKey key).bytes = [] ↔ key.bytes = [] := maskedBytes_eq_nil
  have indexed : engine.masked.index key = (engine.index key).map fun _ => () := rfl
  unfold install
  simp only [bare, blind key, indexed]
  split
  · rfl
  split
  · rfl
  cases engine.index key <;> rfl

theorem unlock_masked (blind : engine.IsBlind) (passphrase : String) :
    l.masked.unlock engine.masked passphrase =
      ((l.unlock engine passphrase).1, (l.unlock engine passphrase).2.masked) := by
  unfold unlock
  rw [load?_masked]
  cases l.snapshot.load? with
  | none => rfl
  | some load =>
    have tried : engine.masked.unlock passphrase l.masked.engine =
        ((engine.unlock passphrase l.engine).1.map fun unlocked =>
            ⟨maskedKey unlocked.key, unlocked.keyId⟩,
          (engine.unlock passphrase l.engine).2) := rfl
    rw [tried]
    rcases engine.unlock passphrase l.engine with ⟨error | found, state⟩
    · rfl
    · have installed := install_masked { l with engine := state } blind load found.key found.keyId
      exact congrArg (fun outcome => (outcome.1.map fun _ => found.keyId, outcome.2)) installed

theorem requestUnlock_masked (blind : engine.IsBlind) (passphrase : String) :
    (l.masked.requestUnlock engine.masked passphrase).2 =
      (l.requestUnlock engine passphrase).2.masked := by
  have stopped : l.masked.stopped = l.stopped := rfl
  unfold requestUnlock
  rw [stopped]
  split
  · rfl
  · exact congrArg Prod.snd (unlock_masked l blind passphrase)

theorem setMasterKey_masked (blind : engine.IsBlind) (key : Vault.MasterKey) (keyId : String) :
    l.masked.setMasterKey engine.masked (maskedKey key) keyId =
      ((l.setMasterKey engine key keyId).1, (l.setMasterKey engine key keyId).2.masked) := by
  unfold setMasterKey
  rw [load?_masked]
  cases l.snapshot.load? with
  | none => rfl
  | some load => exact install_masked l blind load key keyId

theorem tellFlag_masked (id : Nat) : l.masked.tellFlag id = (l.tellFlag id).masked := by
  rw [tellFlag, isEnabled_masked, tellFlag, masked_post]

theorem tellTheme_masked (id : Nat) : l.masked.tellTheme id = (l.tellTheme id).masked :=
  (masked_post { l with settings := l.settings.theme.2 } id _).symm

theorem visited_masked (visits : List Visit) :
    l.masked.visited (visits.map Visit.masked) = (l.visited visits).masked :=
  (withBus_masked l (l.bus.masked_visitAll visits)).symm

theorem handleAmid_masked (blind : engine.IsBlind) (visits : List Visit) (envelope : Envelope) :
    l.masked.handleAmid engine.masked (visits.map Visit.masked) envelope.masked =
      (l.handleAmid engine visits envelope).masked := by
  obtain ⟨sender, command⟩ := envelope
  cases command with
  | connected =>
    have told := tellFlag_masked ((l.tellTheme sender).visited visits) sender
    rw [← visited_masked, ← tellTheme_masked] at told
    exact told
  | getFlag => exact l.tellFlag_masked sender
  | getTheme => exact l.tellTheme_masked sender
  | setFlag flag =>
    have set := setEnabled_masked engine ((l.broadcast .suspended).visited visits) flag
    rw [← visited_masked] at set
    exact congrArg Prod.snd set
  | setTheme name => rfl
  | setMasterKey key keyId =>
    -- the one command that masking changes
    have set : l.masked.setMasterKey engine.masked ⟨maskedBytes key⟩ keyId = _ :=
      setMasterKey_masked l blind ⟨key⟩ keyId
    simp only [handleAmid, handle, Envelope.masked, Command.masked, set]
    rcases l.setMasterKey engine ⟨key⟩ keyId with ⟨error | _, after⟩
    · exact (masked_post after sender _).symm
    · rfl

theorem stepAmid_masked (blind : engine.IsBlind) (visits : List Visit) :
    l.masked.stepAmid engine.masked (visits.map Visit.masked) =
      (l.stepAmid engine visits).masked := by
  have next : l.masked.bus.next? = _ := l.bus.next?_masked
  unfold stepAmid
  rw [next]
  rcases l.bus.next? with ⟨_ | envelope, bus⟩
  · rfl
  · exact handleAmid_masked { l with bus := bus } blind visits envelope

theorem after_masked (blind : engine.IsBlind) (event : Event) :
    l.masked.after engine.masked event.masked = (l.after engine event).masked := by
  cases event with
  | attach => exact (withBus_masked l (l.bus.masked_visit .attach)).symm
  | detach id => exact (withBus_masked l (l.bus.masked_visit (.detach id))).symm
  | drain id => exact (withBus_masked l (l.bus.masked_visit (.drain id))).symm
  | send sender sent => exact (withBus_masked l (l.bus.masked_visit (.send sender sent))).symm
  | command =>
    have step := stepAmid_masked l blind []
    rw [List.map_nil, stepAmid_nil, stepAmid_nil] at step
    exact step
  | enable flag => exact requestEnabled_masked engine l flag
  | unlock passphrase => exact requestUnlock_masked l blind passphrase
  | stop => rfl

theorem turn_masked (blind : engine.IsBlind) (turn : Turn) :
    l.masked.turn engine.masked turn.masked = (l.turn engine turn).masked := by
  cases turn with
  | event event => exact after_masked l blind event
  | command visits => exact stepAmid_masked l blind visits

theorem turnAll_masked (blind : engine.IsBlind) (turns : List Turn) :
    l.masked.turnAll engine.masked (turns.map Turn.masked) = (l.turnAll engine turns).masked := by
  induction turns generalizing l with
  | nil => rfl
  | cons turn turns ih =>
    have rest := ih (l.turn engine turn)
    rw [← turn_masked l blind turn] at rest
    exact rest

/-- A masked run tells what a run comes to, once masked. -/
theorem run_masked (blind : engine.IsBlind) (state : σ) (loadFault? : Nat → Option Vault.Error)
    (settings : Settings) (bus : Bus) (turns : List Turn) :
    ((started engine state loadFault? settings bus).turnAll engine turns).masked =
      (started engine.masked state loadFault? settings bus.masked).turnAll engine.masked
        (turns.map Turn.masked) := by
  have start : started engine.masked state loadFault? settings bus.masked =
      (started engine state loadFault? settings bus).masked :=
    startup_masked engine { initial state loadFault? settings with bus := bus }
  rw [start, turnAll_masked _ blind]

end Lifecycle

end SealGate.Session
