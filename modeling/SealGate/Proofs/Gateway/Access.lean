import Mathlib.Data.List.Induction
import SealGate.Proofs.Gateway.Routes
import SealGate.Proofs.Gateway.Run

/-! Who may read. While the repository is locked, a GET for a listing, for metadata or for a file is
refused before anything is asked of the origin, so any other answer tells that a key was installed
in the run and that the gateway has been enabled ever since. Without a key the gateway asks for
nothing of its own but the repository, to try a passphrase. -/

namespace SealGate.Gateway

open Http Session Vault Origin

/-- A GET that the rule for listings, for metadata or for files takes. -/
def Reads (g : Gateway) (request : Request) : Prop :=
  request.method = "GET" ∧ ∃ route ∈ [Route.tree, .metadata, .file],
    route? g.snapshot.isEnabled request.path = some route

/-- An event of a run has installed a key, and the gateway has been enabled ever since. -/
def InstalledIn (start : Gateway) (events : List Event) : Prop :=
  start.EverSince events Installs fun g => g.snapshot.isEnabled = true

/-- What is asked of the origin without a key: for the repository, and what a client asks itself. -/
inductive Keyless (event : Event) : Request → Prop
  | repository : Keyless event (Link.objectRequest Reader.repositoryName none)
  | relayed {request : Request} : event = .request request → Keyless event (Link.relayed request)

/-- After a run nothing is read without a key that was installed in it. -/
structure IsGuarded (start : Gateway) (events : List Event) : Prop where
  takes : ∀ request, (start.afterAll events).Reads request →
    (start.afterAll events).snapshot.isEnabled = true
  reads : ∀ request, (start.afterAll events).Reads request →
    ((start.afterAll events).serve request).1 ≠ Error.notUnlocked.toResponse →
    start.InstalledIn events
  refuses : ∀ request, (start.afterAll events).Reads request →
    (start.afterAll events).snapshot.unlocked? = none →
    (start.afterAll events).serve request = (Error.notUnlocked.toResponse, start.afterAll events)
  asks : ∀ event, (start.afterAll events).snapshot.unlocked? = none →
    (start.afterAll events).engine.link.Asks
      ((start.afterAll events).after event).engine.link (Keyless event)

theorem Reads.isEnabled {g : Gateway} {request : Request} (reads : g.Reads request) :
    g.snapshot.isEnabled = true := by
  obtain ⟨-, route, among, routed⟩ := reads
  refine isEnabled_of_routed routed ?_
  rintro rfl
  simp at among

/-! ### While locked -/

section Locked

variable {g : Gateway} {request : Request}

theorem require_of_locked (request : Request) (locked : g.snapshot.unlocked? = none) :
    g.requireUnlocked request =
      .error (if request.method = "GET" then .notUnlocked else .invalidMethod) := by
  unfold requireUnlocked requireMethod
  rw [locked]
  split
  · rfl
  · rfl

/-- The handlers that need the key refuse before they do anything. -/
theorem handle_of_locked {route : Route} (among : route ∈ [Route.tree, .metadata, .file])
    (locked : g.snapshot.unlocked? = none) : g.handle route request =
      (.error (if request.method = "GET" then .notUnlocked else .invalidMethod), g) := by
  have refused := require_of_locked request locked
  simp only [List.mem_cons, List.not_mem_nil, or_false] at among
  rcases among with rfl | rfl | rfl
  · simp only [handle, handleTree, refused]
    rfl
  · simp only [handle, handleMetadata, refused]
    rfl
  · simp only [handle, handleFile, refused]

theorem serve_of_locked (reads : g.Reads request) (locked : g.snapshot.unlocked? = none) :
    g.serve request = (Error.notUnlocked.toResponse, g) := by
  obtain ⟨method, route, among, routed⟩ := reads
  rw [serve_of_route routed, handle_of_locked among locked, if_pos method]
  rfl

theorem relay_asks (g : Gateway) (request : Request) :
    g.engine.link.Asks (g.relay request).2.engine.link (Keyless (.request request)) :=
  Link.asks_of_send _ (.relayed rfl)

theorem tries_asks {reader tried : Reader} (event : Event)
    (tries : readerEngine.Tries reader tried) : reader.link.Asks tried.link (Keyless event) := by
  rcases tries with same | ⟨passphrase, more⟩
  · rw [same]
    exact .nothing rfl
  · rw [more]
    exact Link.asks_of_send _ .repository

/-- To move the lifecycle is to ask for the repository at most. -/
theorem moves_asks {later : Gateway} {installs : Prop} (event : Event)
    (moves : Lifecycle.Moves readerEngine installs g later) :
    g.engine.link.Asks later.engine.link (Keyless event) := by
  obtain ⟨snapshots, publishes, -⟩ := moves
  generalize later.engine = reader at publishes
  cases publishes with
  | nothing tries => exact tries_asks event tries
  | enabled load off kept => rcases kept with rfl | rfl <;> exact .nothing rfl
  | refused off => exact .nothing rfl
  | disabled on => exact .nothing rfl
  | unlocked load unlocked loaded sound done tries =>
    have asked := tries_asks event tries
    exact asked

theorem handleInfo_asks (locked : g.snapshot.unlocked? = none) :
    g.engine.link.Asks (g.handleInfo request).2.engine.link (Keyless (.request request)) := by
  have relayed := relay_asks g request
  have still : (g.relay request).2.snapshot.unlocked? = none := locked
  unfold handleInfo
  split
  · exact .nothing rfl
  rcases given : g.relay request with ⟨error | response, between⟩ <;> rw [given] at relayed still
  · exact relayed
  simp only [still]
  split
  · exact relayed
  · exact relayed

theorem handleOriginUnlock_asks :
    g.engine.link.Asks (g.handleOriginUnlock request).2.engine.link
      (Keyless (.request request)) := by
  have relayed := relay_asks g request
  unfold handleOriginUnlock
  rcases given : g.relay request with ⟨error | response, between⟩ <;> rw [given] at relayed
  · exact relayed
  simp only
  split
  · exact relayed
  · exact relayed

theorem serve_asks (request : Request) (locked : g.snapshot.unlocked? = none) :
    g.engine.link.Asks (g.serve request).2.engine.link (Keyless (.request request)) := by
  rcases routed : route? g.snapshot.isEnabled request.path with _ | route
  · rw [serve_of_unrouted routed]
    exact relay_asks g request
  have refused (among : route ∈ [Route.tree, .metadata, .file]) :
      g.engine.link.Asks (g.serve request).2.engine.link (Keyless (.request request)) := by
    rw [serve_of_route routed, handle_of_locked among locked]
    exact .nothing rfl
  cases route with
  | info =>
    rw [serve_of_route routed]
    exact handleInfo_asks locked
  | unlock => exact moves_asks _ (serve_unlock_moves routed)
  | tree => exact refused (by simp)
  | metadata => exact refused (by simp)
  | file => exact refused (by simp)
  | originUnlock =>
    rw [serve_of_route routed]
    exact handleOriginUnlock_asks

theorem after_asks (event : Event) (locked : g.snapshot.unlocked? = none) :
    g.engine.link.Asks (g.after event).engine.link (Keyless event) := by
  cases event with
  | request request => exact serve_asks request locked
  | session event => exact moves_asks _ (Lifecycle.after_moves event)
  | origin answer => exact .nothing rfl

end Locked

/-! ### A run -/

section Run

variable {start : Gateway} {events : List Event} {event : Event}

/-- Who finds a key unlocked, knows that it was installed in the run. -/
theorem installedIn_of_unlocked (locked : start.snapshot.unlocked? = none)
    {unlocked : Unlocked Reader.Index}
    (known : (start.afterAll events).snapshot.unlocked? = some unlocked) :
    start.InstalledIn events := by
  induction events using List.reverseRecOn generalizing unlocked with
  | nil =>
    rw [show start.afterAll [] = start from rfl, locked] at known
    cases known
  | append_singleton events event ih =>
    rw [afterAll_concat] at known
    have enabled := Snapshot.isEnabled_of_unlocked known
    rcases after_cases (start.afterAll events) event with continues | moves | ⟨answer, rfl⟩
    · obtain ⟨before, was, -⟩ := continues.unlocked_before known
      exact (ih was).concat enabled
    · rcases moves.same_or_installs known with same | installs
      · rw [same] at known
        exact (ih known).concat enabled
      · exact .last installs enabled
    · exact (ih known).concat enabled

theorem start_locked (link : Link) (loadFault? : Nat → Option Vault.Error) (settings : Settings) :
    (Gateway.start link loadFault? settings).snapshot.unlocked? = none := by
  have moves : Lifecycle.Moves readerEngine False
      (Lifecycle.initial (Reader.ofLink link) loadFault? settings)
      (Gateway.start link loadFault? settings) := Lifecycle.startup_moves
  rcases known : (Gateway.start link loadFault? settings).snapshot.unlocked? with _ | unlocked
  · rfl
  rcases moves.same_or_installs known with same | never
  · rw [same] at known
    cases known
  · exact never.elim

/-- Nothing is read in a run without a key that was installed in it and is in use since then. -/
theorem isGuarded_of_run (link : Link) (loadFault? : Nat → Option Vault.Error)
    (settings : Settings) (events : List Event) :
    (Gateway.start link loadFault? settings).IsGuarded events where
  takes := by
    intro request reads
    exact reads.isEnabled
  reads := by
    intro request reads answered
    rcases known : ((Gateway.start link loadFault? settings).afterAll events).snapshot.unlocked?
      with _ | unlocked
    · rw [serve_of_locked reads known] at answered
      exact absurd rfl answered
    · exact installedIn_of_unlocked (start_locked link loadFault? settings) known
  refuses := by
    intro request reads locked
    exact serve_of_locked reads locked
  asks := by
    intro event locked
    exact after_asks event locked

end Run

end SealGate.Gateway
