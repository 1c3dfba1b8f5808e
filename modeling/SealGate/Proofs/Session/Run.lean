import SealGate.Session.Lifecycle

/-! Runs of a lifecycle. From its start on consumers come and go, read and send commands; commands
are carried out one at a time, and callers ask to enable, to disable and to unlock, in any order.
One event publishes nothing, or the two snapshots of an attempt to enable, or one snapshot that is
disabled or has a key; `Moves` says which, when, and what becomes of the engine. -/

namespace SealGate.Session

variable {σ ι : Type}

inductive Event
  | attach
  | detach (id : Nat)
  | drain (id : Nat)
  | send (sender : Nat) (command : Command)
  /-- The command that has waited longest is carried out. -/
  | command
  /-- A caller asks to enable or to disable. -/
  | enable (flag : Bool)
  /-- A caller asks to unlock. -/
  | unlock (passphrase : String)
  | stop

/-- The engine as it was, or as it is after it has tried a passphrase. -/
def Engine.Tries (engine : Engine σ ι) (state after : σ) : Prop :=
  after = state ∨ ∃ passphrase, after = (engine.unlock passphrase state).2

/-- There are a key and a key id, and the index handle is the one that the engine gives the key. -/
structure Unlocked.IsSound (engine : Engine σ ι) (unlocked : Unlocked ι) : Prop where
  key : unlocked.key.bytes ≠ []
  keyId : unlocked.keyId ≠ ""
  index : engine.index unlocked.key = .ok unlocked.index

namespace Snapshot

variable {snapshot : Snapshot ι} {unlocked : Unlocked ι}

theorem phase_of_unlocked (known : snapshot.unlocked? = some unlocked) :
    ∃ load, snapshot.phase = .enabled load (some unlocked) := by
  unfold unlocked? at known
  split at known
  · rename_i load found phase
    exact ⟨load, known ▸ phase⟩
  · cases known

theorem isEnabled_of_unlocked (known : snapshot.unlocked? = some unlocked) :
    snapshot.isEnabled = true := by
  obtain ⟨load, phase⟩ := phase_of_unlocked known
  simp [isEnabled, phase]

theorem phase_of_load {load : Nat} (loaded : snapshot.load? = some load) :
    ∃ unlocked, snapshot.phase = .enabled load unlocked := by
  unfold load? at loaded
  cases phase : snapshot.phase with
  | disabled => simp [phase] at loaded
  | enabling => simp [phase] at loaded
  | enabled number unlocked =>
    simp only [phase, Option.some.injEq] at loaded
    exact ⟨unlocked, by rw [loaded]⟩

theorem isEnabled_of_load {load : Nat} (loaded : snapshot.load? = some load) :
    snapshot.isEnabled = true := by
  obtain ⟨unlocked, phase⟩ := phase_of_load loaded
  simp [isEnabled, phase]

theorem exists_load (on : snapshot.isEnabled = true) : ∃ load, snapshot.load? = some load := by
  unfold isEnabled at on
  unfold load?
  cases phase : snapshot.phase with
  | disabled => simp [phase] at on
  | enabling => simp [phase] at on
  | enabled load unlocked => exact ⟨load, rfl⟩

theorem withIndex_of_unlocked {load : Nat} (phase : snapshot.phase = .enabled load (some unlocked))
    (index : ι) : snapshot.withIndex index =
      ⟨snapshot.version, .enabled load (some { unlocked with index := index })⟩ := by
  unfold withIndex
  rw [phase]

end Snapshot

namespace Lifecycle

/-- A lifecycle that has started on a bus that others may have used before. -/
def started (engine : Engine σ ι) (state : σ) (loadFault? : Nat → Option Vault.Error)
    (settings : Settings) (bus : Bus) : Lifecycle σ ι :=
  { initial state loadFault? settings with bus := bus }.startup engine

def after (engine : Engine σ ι) (l : Lifecycle σ ι) : Event → Lifecycle σ ι
  | .attach => { l with bus := l.bus.attach.2 }
  | .detach id => { l with bus := l.bus.detach id }
  | .drain id => { l with bus := (l.bus.drain id).2 }
  | .send sender command => { l with bus := (l.bus.send sender command).2 }
  | .command => l.step engine
  | .enable flag => (l.requestEnabled engine flag).2
  | .unlock passphrase => (l.requestUnlock engine passphrase).2
  | .stop => l.stop

def afterAll (engine : Engine σ ι) (l : Lifecycle σ ι) (events : List Event) : Lifecycle σ ι :=
  events.foldl (after engine) l

/-- All snapshots in the order in which they were published. -/
def published (l : Lifecycle σ ι) : List (Snapshot ι) := (l.snapshot :: l.past).reverse

theorem published_publish (l : Lifecycle σ ι) (phase : Phase ι) :
    (l.publish phase).published = l.published ++ [⟨l.snapshot.version + 1, phase⟩] := by
  simp [published, publish]

/-- Both snapshots of an attempt stand behind those of the lifecycle. -/
theorem published_attempt (l : Lifecycle σ ι) (phase : Phase ι) :
    ((l.publish .enabling).publish phase).published = l.published ++
      [⟨l.snapshot.version + 1, .enabling⟩, ⟨l.snapshot.version + 2, phase⟩] := by
  rw [published_publish, published_publish, List.append_assoc]
  rfl

theorem getLast?_published (l : Lifecycle σ ι) : l.published.getLast? = some l.snapshot := by
  simp [published]

theorem snapshot_of_published {l after : Lifecycle σ ι} (h : after.published = l.published) :
    after.snapshot = l.snapshot := by
  have last := congrArg List.getLast? h
  rw [getLast?_published, getLast?_published] at last
  exact Option.some.inj last

theorem snapshot_of_published_append {after : Lifecycle σ ι} {before : List (Snapshot ι)}
    {snapshot : Snapshot ι} (h : after.published = before ++ [snapshot]) :
    after.snapshot = snapshot := by
  have last := congrArg List.getLast? h
  rw [getLast?_published, List.getLast?_concat] at last
  exact Option.some.inj last

/-! ### What one operation does -/

section Operations

variable (engine : Engine σ ι) (l : Lifecycle σ ι)

/-- To load succeeds once the runtime is there, and before as often as the loader does. -/
theorem load_outcome :
    (∃ number, l.load engine = (.ok number, l) ∧ l.runtime = some number) ∨
      (∃ error, l.load engine = (.error error, { l with loads := l.loads + 1 }) ∧
        l.runtime = none ∧ l.loadFault? l.loads = some error) ∨
      l.load engine = (.ok l.loads, { l with
          loads := l.loads + 1, runtime := some l.loads, engine := engine.start l.engine }) ∧
        l.runtime = none ∧ l.loadFault? l.loads = none := by
  unfold load
  cases kept : l.runtime with
  | some number => exact .inl ⟨number, rfl, rfl⟩
  | none =>
    right
    cases fault : l.loadFault? l.loads with
    | some error => exact .inl ⟨error, rfl, rfl, rfl⟩
    | none => exact .inr ⟨rfl, rfl, rfl⟩

/-- A key is installed with all that it unlocks, and what was decrypted before is dropped. -/
def installed (load : Nat) (unlocked : Unlocked ι) : Lifecycle σ ι :=
  { l with engine := engine.forget l.engine }.publish (.enabled load (some unlocked))

theorem install_cases (load : Nat) (key : Vault.MasterKey) (keyId : String) :
    (∃ error, l.install engine load key keyId = (.error error, l)) ∨
      ∃ unlocked, unlocked.key = key ∧ unlocked.keyId = keyId ∧ unlocked.IsSound engine ∧
        l.install engine load key keyId = (.ok (), l.installed engine load unlocked) := by
  unfold install
  split
  · exact .inl ⟨_, rfl⟩
  split
  · exact .inl ⟨_, rfl⟩
  rename_i someKey someId
  cases indexed : engine.index key with
  | error error => exact .inl ⟨_, rfl⟩
  | ok index => exact .inr ⟨⟨key, keyId, index⟩, rfl, rfl, ⟨someKey, someId, indexed⟩, rfl⟩

theorem setMasterKey_cases (key : Vault.MasterKey) (keyId : String) :
    (∃ error, l.setMasterKey engine key keyId = (.error error, l)) ∨
      ∃ load unlocked, l.snapshot.load? = some load ∧ unlocked.key = key ∧
        unlocked.keyId = keyId ∧ unlocked.IsSound engine ∧
        l.setMasterKey engine key keyId = (.ok (), l.installed engine load unlocked) := by
  unfold setMasterKey
  cases l.snapshot.load? with
  | none => exact .inl ⟨_, rfl⟩
  | some load =>
    rcases install_cases engine l load key keyId with refused | ⟨unlocked, given⟩
    · exact .inl refused
    · exact .inr ⟨load, unlocked, rfl, given⟩

theorem unlock_cases (passphrase : String) :
    ∃ state, engine.Tries l.engine state ∧
      ((∃ error, l.unlock engine passphrase = (.error error, { l with engine := state })) ∨
        ∃ load unlocked, l.snapshot.load? = some load ∧
          (engine.unlock passphrase l.engine).1 = .ok ⟨unlocked.key, unlocked.keyId⟩ ∧
          unlocked.IsSound engine ∧
          l.unlock engine passphrase =
            (.ok unlocked.keyId, { l with engine := state }.installed engine load unlocked)) := by
  unfold unlock
  cases l.snapshot.load? with
  | none => exact ⟨l.engine, .inl rfl, .inl ⟨_, rfl⟩⟩
  | some load =>
    refine ⟨(engine.unlock passphrase l.engine).2, .inr ⟨passphrase, rfl⟩, ?_⟩
    rcases engine.unlock passphrase l.engine with ⟨error | found, state⟩
    · exact .inl ⟨_, rfl⟩
    rcases install_cases engine { l with engine := state } load found.key found.keyId with
      ⟨error, refused⟩ | ⟨unlocked, key, keyId, sound, given⟩
    · left
      exact ⟨error, by simp only [refused]; rfl⟩
    · right
      refine ⟨load, unlocked, rfl, ?_, sound, ?_⟩
      · rw [key, keyId]
      · simp only [given, keyId]
        rfl

end Operations

/-! ### What one event publishes -/

/-- What is published behind a snapshot, and what becomes of the engine. A key is published only if
`installs` holds. -/
inductive Publishes (engine : Engine σ ι) (installs : Prop) (snapshot : Snapshot ι) (state : σ) :
    List (Snapshot ι) → σ → Prop
  | nothing {after : σ} : engine.Tries state after →
      Publishes engine installs snapshot state [] after
  | enabled (load : Nat) {after : σ} : snapshot.isEnabled = false →
      after = state ∨ after = engine.start state →
      Publishes engine installs snapshot state
        [⟨snapshot.version + 1, .enabling⟩, ⟨snapshot.version + 2, .enabled load none⟩] after
  | refused : snapshot.isEnabled = false →
      Publishes engine installs snapshot state
        [⟨snapshot.version + 1, .enabling⟩, ⟨snapshot.version + 2, .disabled⟩] state
  | disabled : snapshot.isEnabled = true →
      Publishes engine installs snapshot state
        [⟨snapshot.version + 1, .disabled⟩] (engine.forget state)
  | unlocked (load : Nat) (unlocked : Unlocked ι) {tried : σ} :
      snapshot.load? = some load → unlocked.IsSound engine → installs →
      engine.Tries state tried →
      Publishes engine installs snapshot state
        [⟨snapshot.version + 1, .enabled load (some unlocked)⟩] (engine.forget tried)

theorem Publishes.imp {engine : Engine σ ι} {installs others : Prop} {snapshot : Snapshot ι}
    {state after : σ} {snapshots : List (Snapshot ι)} (implies : installs → others)
    (publishes : Publishes engine installs snapshot state snapshots after) :
    Publishes engine others snapshot state snapshots after := by
  cases publishes with
  | nothing tries => exact .nothing tries
  | enabled load off kept => exact .enabled load off kept
  | refused off => exact .refused off
  | disabled on => exact .disabled on
  | unlocked load unlocked loaded sound done tries =>
    exact .unlocked load unlocked loaded sound (implies done) tries

theorem Publishes.length_le {engine : Engine σ ι} {installs : Prop} {snapshot : Snapshot ι}
    {state after : σ} {snapshots : List (Snapshot ι)}
    (publishes : Publishes engine installs snapshot state snapshots after) :
    snapshots.length ≤ 2 := by
  cases publishes <;> simp

def Moves (engine : Engine σ ι) (installs : Prop) (l after : Lifecycle σ ι) : Prop :=
  ∃ snapshots, Publishes engine installs l.snapshot l.engine snapshots after.engine ∧
    after.published = l.published ++ snapshots

section Moves

variable {engine : Engine σ ι} {installs : Prop} {l : Lifecycle σ ι}

theorem Moves.imp {others : Prop} {after : Lifecycle σ ι} (implies : installs → others)
    (moves : Moves engine installs l after) : Moves engine others l after := by
  obtain ⟨snapshots, publishes, published⟩ := moves
  exact ⟨snapshots, publishes.imp implies, published⟩

/-- Whatever else happens, snapshots and engine stay. -/
theorem Moves.still {after : Lifecycle σ ι} (published : after.published = l.published)
    (kept : after.engine = l.engine) : Moves engine installs l after :=
  ⟨[], .nothing (.inl kept), by rw [published, List.append_nil]⟩

theorem Moves.length_le {after : Lifecycle σ ι} (moves : Moves engine installs l after) :
    after.published.length ≤ l.published.length + 2 := by
  obtain ⟨snapshots, publishes, published⟩ := moves
  rw [published, List.length_append]
  exact Nat.add_le_add_left publishes.length_le _

/-- A key is there that was there before, or one that was installed. -/
theorem Moves.same_or_installs {after : Lifecycle σ ι} (moves : Moves engine installs l after)
    {unlocked : Unlocked ι} (known : after.snapshot.unlocked? = some unlocked) :
    after.snapshot = l.snapshot ∨ installs := by
  obtain ⟨snapshots, publishes, published⟩ := moves
  generalize after.engine = state at publishes
  cases publishes with
  | nothing tries => exact .inl (snapshot_of_published (by rw [published, List.append_nil]))
  | unlocked load unlocked loaded sound done tries => exact .inr done
  | disabled on =>
    rw [snapshot_of_published_append published] at known
    cases known
  | enabled load off kept =>
    rw [List.append_cons] at published
    rw [snapshot_of_published_append published] at known
    cases known
  | refused off =>
    rw [List.append_cons] at published
    rw [snapshot_of_published_append published] at known
    cases known

theorem Moves.install {load : Nat} {unlocked : Unlocked ι} {tried : σ}
    (loaded : l.snapshot.load? = some load) (sound : unlocked.IsSound engine) (done : installs)
    (tries : engine.Tries l.engine tried) :
    Moves engine installs l ({ l with engine := tried }.installed engine load unlocked) :=
  ⟨_, .unlocked load unlocked loaded sound done tries, published_publish _ _⟩

theorem transition_same (flag : Bool) (same : l.snapshot.isEnabled = flag) :
    l.transition engine flag = l.persist flag := by
  unfold transition
  subst same
  cases l.snapshot.isEnabled <;> rfl

theorem transition_moves (flag : Bool) :
    Moves engine installs l (l.transition engine flag).2 := by
  rcases on : l.snapshot.isEnabled with _ | _ <;> cases flag
  · rw [transition_same _ on]
    exact .still rfl rfl
  · rcases load_outcome engine (l.publish .enabling) with
      ⟨load, given, -⟩ | ⟨error, given, -⟩ | ⟨given, -⟩
    all_goals simp only [transition, on, given]
    · exact ⟨_, .enabled load on (.inl rfl), l.published_attempt _⟩
    · exact ⟨_, .refused on, l.published_attempt _⟩
    · exact ⟨_, .enabled l.loads on (.inr rfl), l.published_attempt _⟩
  · simp only [transition, on]
    exact ⟨_, .disabled on, published_publish _ _⟩
  · rw [transition_same _ on]
    exact .still rfl rfl

theorem setEnabled_moves (flag : Bool) :
    Moves engine installs l (l.setEnabled engine flag).2 :=
  transition_moves flag

/-- An unlock or a master key that is accepted. -/
inductive Installs (engine : Engine σ ι) (l : Lifecycle σ ι) : Event → Prop
  | unlock {passphrase keyId : String} : (l.requestUnlock engine passphrase).1 = .ok keyId →
      Installs engine l (.unlock passphrase)
  | command {sender : Nat} {key : Bytes} {keyId : String} {bus : Bus} :
      l.bus.next? = (some ⟨sender, .setMasterKey key keyId⟩, bus) →
      ({ l with bus := bus }.setMasterKey engine ⟨key⟩ keyId).1 = .ok () →
      Installs engine l .command

end Moves

end Lifecycle

end SealGate.Session
