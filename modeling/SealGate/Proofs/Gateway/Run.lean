import SealGate.Proofs.Gateway.Unlocking
import SealGate.Proofs.Outcome
import SealGate.Proofs.Reader.Gathering
import SealGate.Proofs.Session.Effects

/-! Runs of a gateway: requests are served, the lifecycle goes on, and the origin changes what it
answers, in any order. To serve a request either moves the lifecycle, which only an unlock does, or
continues the state: the snapshot keeps its version and key, and what the index and the cache hold
more than before comes from answers given in between. -/

namespace SealGate.Gateway

open Http Session Vault Origin Outcome

inductive Event
  | request (request : Request)
  | session (event : Session.Event)
  /-- The origin answers in another way from now on. -/
  | origin (answer : List Request → Request → Answer)

def after (g : Gateway) : Event → Gateway
  | .request request => (g.serve request).2
  | .session event => Lifecycle.after readerEngine g event
  | .origin answer =>
    { g with engine := { g.engine with link := { g.engine.link with answer := answer } } }

def afterAll (g : Gateway) (events : List Event) : Gateway := events.foldl after g

theorem afterAll_concat (g : Gateway) (events : List Event) (event : Event) :
    g.afterAll (events ++ [event]) = (g.afterAll events).after event := by
  simp [afterAll]

/-- An event of a run was the cause, and all states since then are of a kind. -/
def EverSince (start : Gateway) (events : List Event) (cause : Gateway → Event → Prop)
    (kind : Gateway → Prop) : Prop :=
  ∃ before event rest, events = before ++ event :: rest ∧ cause (start.afterAll before) event ∧
    ∀ since, since <+: rest → kind (start.afterAll (before ++ event :: since))

section EverSince

variable {start : Gateway} {events : List Event} {event : Event}
  {cause : Gateway → Event → Prop} {kind : Gateway → Prop}

theorem EverSince.concat (ever : start.EverSince events cause kind)
    (still : kind ((start.afterAll events).after event)) :
    start.EverSince (events ++ [event]) cause kind := by
  obtain ⟨before, first, rest, rfl, caused, ever⟩ := ever
  refine ⟨before, first, rest ++ [event], by simp, caused, ?_⟩
  intro since within
  rcases List.prefix_concat_iff.1 within with rfl | earlier
  · rw [← afterAll_concat] at still
    simpa using still
  · exact ever since earlier

theorem EverSince.last (caused : cause (start.afterAll events) event)
    (now : kind ((start.afterAll events).after event)) :
    start.EverSince (events ++ [event]) cause kind := by
  refine ⟨events, event, [], rfl, caused, ?_⟩
  intro since within
  rw [List.prefix_nil.1 within, afterAll_concat]
  exact now

end EverSince

/-! ### Serving a request -/

/-- A phase stays, but that a catalog may have come into its index handle. -/
inductive PhaseKeeps (fetched : MasterKey → Catalog → Prop) :
    Phase Reader.Index → Phase Reader.Index → Prop
  | same (phase : Phase Reader.Index) : PhaseKeeps fetched phase phase
  | fetched (load : Nat) (unlocked : Unlocked Reader.Index) (catalog : Catalog) :
      fetched unlocked.index.key catalog →
      PhaseKeeps fetched (.enabled load (some unlocked))
        (.enabled load
          (some { unlocked with index := { unlocked.index with catalog := some catalog } }))

theorem PhaseKeeps.trans {first second fetched : MasterKey → Catalog → Prop}
    {before between later : Phase Reader.Index} (one : PhaseKeeps first before between)
    (two : PhaseKeeps second between later)
    (early : ∀ key catalog, first key catalog → fetched key catalog)
    (late : ∀ key catalog, second key catalog → fetched key catalog) :
    PhaseKeeps fetched before later := by
  cases one with
  | same =>
    cases two with
    | same => exact .same _
    | fetched load unlocked catalog found => exact .fetched load unlocked catalog (late _ _ found)
  | fetched load unlocked catalog found =>
    cases two with
    | same => exact .fetched load unlocked catalog (early _ _ found)
    | fetched _ _ newer again => exact .fetched load unlocked newer (late _ _ again)

/-- The snapshot keeps its version and all but what its index handle holds, and the heads that are
held were held before or opened with its key. -/
structure Continues (g later : Gateway) : Prop where
  grows : g.engine.link.Grows later.engine.link
  version : later.snapshot.version = g.snapshot.version
  phase : PhaseKeeps (Reader.Index.Fetched g.engine.link later.engine.link) g.snapshot.phase
    later.snapshot.phase
  heads : ∀ entry ∈ later.engine.heads.entries, entry ∈ g.engine.heads.entries ∨
    ∃ unlocked, g.snapshot.unlocked? = some unlocked ∧
      Reader.Peeked g.engine.link later.engine.link unlocked.key entry.1 entry.2

namespace Continues

variable {g between later : Gateway}

/-- The same key was unlocked before, and its index handle held no more than it does now. -/
theorem unlocked_before (h : g.Continues later) {unlocked : Unlocked Reader.Index}
    (known : later.snapshot.unlocked? = some unlocked) :
    ∃ before, g.snapshot.unlocked? = some before ∧ before.key = unlocked.key ∧
      before.index.key = unlocked.index.key ∧
      ∀ catalog, unlocked.index.catalog = some catalog → before.index.catalog = some catalog ∨
        Reader.Index.Fetched g.engine.link later.engine.link unlocked.index.key catalog := by
  have phase := h.phase
  unfold Snapshot.unlocked? at known ⊢
  generalize g.snapshot.phase = before at phase
  generalize later.snapshot.phase = final at phase known
  cases phase with
  | same => exact ⟨unlocked, known, rfl, rfl, fun catalog held => .inl held⟩
  | fetched load before catalog found =>
    obtain rfl := Option.some.inj known
    refine ⟨before, rfl, rfl, rfl, ?_⟩
    rintro _ ⟨⟩
    exact .inr found

/-- The same key stays unlocked. -/
theorem unlocked_after (h : g.Continues later) {unlocked : Unlocked Reader.Index}
    (known : g.snapshot.unlocked? = some unlocked) :
    ∃ index, later.snapshot.unlocked? = some { unlocked with index := index } := by
  have phase := h.phase
  unfold Snapshot.unlocked? at known ⊢
  generalize g.snapshot.phase = before at phase known
  generalize later.snapshot.phase = final at phase
  cases phase with
  | same => exact ⟨unlocked.index, known⟩
  | fetched load before catalog found =>
    obtain rfl := Option.some.inj known
    exact ⟨_, rfl⟩

theorem refl (g : Gateway) : g.Continues g :=
  ⟨.refl _, rfl, .same _, fun _ mem => .inl mem⟩

theorem trans (first : g.Continues between) (second : between.Continues later) :
    g.Continues later where
  grows := first.grows.trans second.grows
  version := second.version.trans first.version
  phase := by
    refine first.phase.trans second.phase ?_ ?_
    · exact fun key catalog fetched => fetched.widen (.refl _) second.grows
    · exact fun key catalog fetched => fetched.widen first.grows (.refl _)
  heads := by
    intro entry mem
    rcases second.heads entry mem with before | ⟨unlocked, known, peeked⟩
    · refine (first.heads entry before).imp_right ?_
      rintro ⟨unlocked, known, peeked⟩
      exact ⟨unlocked, known, peeked.widen (.refl _) second.grows⟩
    · obtain ⟨before, was, same, -⟩ := first.unlocked_before known
      refine .inr ⟨before, was, ?_⟩
      rw [same]
      exact peeked.widen first.grows (.refl _)

theorem withBus (h : g.Continues later) (bus : Bus) : g.Continues { later with bus := bus } :=
  ⟨h.grows, h.version, h.phase, h.heads⟩

end Continues

variable {g : Gateway} {unlocked : Unlocked Reader.Index} (request : Request)

theorem relay_continues : g.Continues (g.relay request).2 :=
  ⟨Link.relay_grows request g.engine.link, rfl, .same _, fun _ mem => .inl mem⟩

theorem askIndex_continues {α : Type} {ask : Reader.Index → Link → Reader.Index.Outcome α}
    (known : g.snapshot.unlocked? = some unlocked)
    (keeps : unlocked.index.Keeps g.engine.link (ask unlocked.index g.engine.link)) :
    g.Continues (g.askIndex ask unlocked).2 := by
  obtain ⟨load, phase⟩ := Snapshot.phase_of_unlocked known
  have put : (g.askIndex ask unlocked).2.snapshot =
      ⟨g.snapshot.version, .enabled load
        (some { unlocked with index := (ask unlocked.index g.engine.link).2.1 })⟩ :=
    Snapshot.withIndex_of_unlocked phase _
  refine ⟨keeps.grows, ?_, ?_, fun _ mem => .inl mem⟩
  · rw [put]
  rw [put, phase]
  rcases keeps.held with same | ⟨catalog, more, fetched⟩
  · rw [same]
    exact .same _
  · rw [more]
    exact .fetched load unlocked catalog fetched

/-- An entry is looked up in the catalog, by its id or by its path. -/
theorem askEntry_eq_query (target : String) :
    ∃ answer, askEntry target = Reader.Index.query answer := by
  unfold askEntry
  split
  · exact ⟨_, rfl⟩
  · refine ⟨(·.byPath? (Reader.Index.withoutSlash (Vault.absolute target))), ?_⟩
    funext index link
    rw [Reader.Index.byPath, if_pos (Reader.Index.isAbsolute_absolute target)]

theorem askEntry_keeps (target : String) (index : Reader.Index) (link : Link) :
    index.Keeps link (askEntry target index link) := by
  obtain ⟨answer, query⟩ := askEntry_eq_query target
  rw [query]
  exact index.query_keeps link answer

/-- What a reader gathers with the key that is unlocked. -/
theorem continues_of_gathers {reader : Reader} (known : g.snapshot.unlocked? = some unlocked)
    (gathers : Reader.Gathers unlocked.key g.engine reader) :
    g.Continues { g with engine := reader } where
  grows := gathers.grows
  version := rfl
  phase := .same _
  heads := by
    intro entry mem
    refine (gathers.heads entry mem).imp_right ?_
    intro peeked
    exact ⟨unlocked, known, peeked⟩

variable {request}

theorem requireMethod_eq_ok_iff {method : String} :
    requireMethod request method = .ok () ↔ request.method = method := by
  unfold requireMethod
  split <;> simp_all

/-- The repository is read by a GET while it is unlocked. -/
theorem requireUnlocked_eq_ok_iff : g.requireUnlocked request = .ok unlocked ↔
    request.method = "GET" ∧ g.snapshot.unlocked? = some unlocked := by
  constructor
  · intro required
    simp only [requireUnlocked, bind_eq_ok] at required
    obtain ⟨⟨⟩, allowed, found⟩ := required
    refine ⟨requireMethod_eq_ok_iff.1 allowed, ?_⟩
    split at found
    · cases found
    · rename_i held
      rw [held, Except.ok.inj found]
  · rintro ⟨method, known⟩
    simp only [requireUnlocked, requireMethod_eq_ok_iff.2 method, known]
    rfl

/-- What two handlers need before they ask for anything. -/
theorem ready_eq_ok_iff {lead path : String} :
    (do return (← g.requireUnlocked request, ← pathAfter request lead)) =
        Except.ok (ε := Error) (unlocked, path) ↔
      g.requireUnlocked request = .ok unlocked ∧ pathAfter request lead = .ok path := by
  simp only [bind_eq_ok, pure_eq_ok, Prod.mk.injEq]
  constructor
  · rintro ⟨found, required, behind, read, rfl, rfl⟩
    exact ⟨required, read⟩
  · rintro ⟨required, read⟩
    exact ⟨unlocked, required, path, read, rfl, rfl⟩

variable (request)

theorem handleInfo_continues : g.Continues (g.handleInfo request).2 := by
  have relayed := relay_continues (g := g) request
  unfold handleInfo
  split
  · exact .refl g
  rcases given : g.relay request with ⟨error | response, between⟩ <;> rw [given] at relayed
  · exact relayed
  simp only
  split
  · exact relayed
  split
  · exact relayed
  · rename_i known
    exact relayed.trans (askIndex_continues known (Reader.Index.query_keeps _ _ Catalog.size))

theorem handleTree_continues : g.Continues (g.handleTree request).2 := by
  unfold handleTree
  split
  · exact .refl g
  · rename_i ready
    obtain ⟨-, known⟩ := requireUnlocked_eq_ok_iff.1 (ready_eq_ok_iff.1 ready).1
    exact askIndex_continues known (Reader.Index.listFolder_keeps _ _ _)

theorem handleMetadata_continues : g.Continues (g.handleMetadata request).2 := by
  unfold handleMetadata
  split
  · exact .refl g
  rename_i unlocked target ready
  obtain ⟨-, known⟩ := requireUnlocked_eq_ok_iff.1 (ready_eq_ok_iff.1 ready).1
  have asked := askIndex_continues known (askEntry_keeps target unlocked.index g.engine.link)
  rcases given : g.askIndex (askEntry target) unlocked with ⟨error | found, between⟩ <;>
    rw [given] at asked
  · exact asked
  simp only
  split
  · exact asked
  · rename_i entry fileId _
    obtain ⟨index, known⟩ := asked.unlocked_after known
    exact asked.trans (continues_of_gathers known (Reader.facts_gathers _ fileId between.engine))

theorem handleFile_continues : g.Continues (g.handleFile request).2 := by
  unfold handleFile
  split
  · exact .refl g
  · rename_i unlocked ready
    have gathers := Reader.decrypt_gathers unlocked.key g.engine request
    exact continues_of_gathers (requireUnlocked_eq_ok_iff.1 ready).2 gathers

theorem handleOriginUnlock_continues : g.Continues (g.handleOriginUnlock request).2 := by
  have relayed := relay_continues (g := g) request
  unfold handleOriginUnlock
  rcases given : g.relay request with ⟨error | response, between⟩ <;> rw [given] at relayed
  · exact relayed
  simp only
  split
  · exact relayed.withBus _
  · exact relayed

/-- To serve a request that is not for unlocking here. -/
theorem serve_continues (other : route? g.snapshot.isEnabled request.path ≠ some .unlock) :
    g.Continues (g.serve request).2 := by
  rcases routed : route? g.snapshot.isEnabled request.path with _ | route
  · rw [serve_of_unrouted routed]
    exact relay_continues request
  · rw [serve_of_route routed]
    cases route with
    | info => exact handleInfo_continues request
    | unlock => exact absurd routed other
    | tree => exact handleTree_continues request
    | metadata => exact handleMetadata_continues request
    | file => exact handleFile_continues request
    | originUnlock => exact handleOriginUnlock_continues request

/-! ### One event -/

/-- An unlock, by a request or by a caller, or a master key that is accepted. -/
inductive Installs (g : Gateway) : Event → Prop
  | request {request : Request} {passphrase keyId : String} :
      route? g.snapshot.isEnabled request.path = some .unlock →
      passphraseOf request = .ok passphrase →
      (g.requestUnlock readerEngine passphrase).1 = .ok keyId → Installs g (.request request)
  | session {event : Session.Event} : Lifecycle.Installs readerEngine g event →
      Installs g (.session event)

theorem serve_unlock_moves {request : Request}
    (routed : route? g.snapshot.isEnabled request.path = some .unlock) :
    Lifecycle.Moves readerEngine (g.Installs (.request request)) g (g.serve request).2 := by
  rw [serve_of_route routed, handle, handleUnlock]
  cases asked : passphraseOf request with
  | error error => exact .still rfl rfl
  | ok passphrase =>
    have moves := (Lifecycle.requestUnlock_effect readerEngine g passphrase).moves
    rcases given : g.requestUnlock readerEngine passphrase with ⟨error | keyId, later⟩ <;>
      rw [given] at moves
    all_goals
      simp only [given]
      refine Lifecycle.Moves.imp ?_ moves
      rintro ⟨_, ⟨⟩⟩
    exact .request routed asked (by rw [given])

/-- An event continues the state or moves the lifecycle, unless the origin changes. -/
theorem after_cases (g : Gateway) (event : Event) :
    g.Continues (g.after event) ∨
      Lifecycle.Moves readerEngine (g.Installs event) g (g.after event) ∨
      ∃ answer, event = .origin answer := by
  cases event with
  | request request =>
    by_cases unlocks : route? g.snapshot.isEnabled request.path = some .unlock
    · exact .inr (.inl (serve_unlock_moves unlocks))
    · exact .inl (serve_continues request unlocks)
  | session event =>
    right
    left
    refine Lifecycle.Moves.imp ?_ (Lifecycle.after_moves event)
    exact .session
  | origin answer => exact .inr (.inr ⟨answer, rfl⟩)

end SealGate.Gateway
