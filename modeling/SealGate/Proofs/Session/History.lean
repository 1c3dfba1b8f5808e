import Mathlib.Data.List.Chain
import Mathlib.Data.List.Induction
import SealGate.Proofs.Session.Effects

/-! The history of a lifecycle. Whatever happens to it, its snapshots are numbered from 0 on
without a gap, begin disabled, and each phase follows the one before by a transition, an unlock or a
change of keys. Between two messages nothing is half done, what is already so is not published
again, and every snapshot with a key has its key id and the index handle of that very key. -/

namespace SealGate.Session

variable {σ ι : Type}

/-- One phase may be published right behind another. -/
inductive Phase.Follows : Phase ι → Phase ι → Prop
  | begin : Follows .disabled .enabling
  | loaded (load : Nat) : Follows .enabling (.enabled load none)
  | failed : Follows .enabling .disabled
  | unlocked (load : Nat) (before : Option (Unlocked ι)) (unlocked : Unlocked ι) :
      Follows (.enabled load before) (.enabled load (some unlocked))
  | disabled (load : Nat) (before : Option (Unlocked ι)) :
      Follows (.enabled load before) .disabled

/-- Snapshots as a lifecycle publishes them from its start on. -/
structure IsHistory (engine : Engine σ ι) (snapshots : List (Snapshot ι)) : Prop where
  versions : snapshots.map Snapshot.version = List.range snapshots.length
  start : snapshots.head?.map Snapshot.phase = some .disabled
  follows : snapshots.IsChain fun earlier later => earlier.phase.Follows later.phase
  sound : ∀ snapshot ∈ snapshots, ∀ unlocked, snapshot.unlocked? = some unlocked →
    unlocked.IsSound engine

namespace IsHistory

variable {engine : Engine σ ι} {snapshots : List (Snapshot ι)} {snapshot : Snapshot ι}

theorem initial : IsHistory engine [Snapshot.initial] where
  versions := rfl
  start := rfl
  follows := .singleton _
  sound := by
    intro snapshot mem unlocked known
    rw [List.mem_singleton.1 mem] at known
    cases known

theorem length (history : IsHistory engine snapshots)
    (last : snapshots.getLast? = some snapshot) : snapshots.length = snapshot.version + 1 := by
  have versions := congrArg List.getLast? history.versions
  rw [List.getLast?_map, last, List.getLast?_range] at versions
  split at versions
  · cases versions
  · have version : snapshot.version = snapshots.length - 1 := Option.some.inj versions
    omega

/-- A snapshot with the next version goes on behind the last one. -/
theorem concat (history : IsHistory engine snapshots)
    (last : snapshots.getLast? = some snapshot) {phase : Phase ι}
    (follows : snapshot.phase.Follows phase)
    (sound : ∀ load unlocked, phase = .enabled load (some unlocked) → unlocked.IsSound engine) :
    IsHistory engine (snapshots ++ [⟨snapshot.version + 1, phase⟩]) where
  versions := by
    rw [List.map_append, List.length_append, history.versions, history.length last]
    simp [List.range_succ]
  start := by
    cases snapshots with
    | nil => cases last
    | cons first rest => exact history.start
  follows := by
    refine List.isChain_append.2 ⟨history.follows, .singleton _, ?_⟩
    intro earlier final later next
    rw [last] at final
    obtain rfl := Option.some.inj final
    obtain rfl := Option.some.inj next
    exact follows
  sound := by
    intro held mem unlocked known
    rcases List.mem_append.1 mem with earlier | new
    · exact history.sound held earlier unlocked known
    · rw [List.mem_singleton.1 new] at known
      cases phase with
      | disabled => cases known
      | enabling => cases known
      | enabled load => exact sound load unlocked (congrArg (Phase.enabled load) known)

end IsHistory

namespace Lifecycle

variable {engine : Engine σ ι} {installs : Prop} {l after : Lifecycle σ ι}

/-- The snapshots are a history, and no attempt to enable is under way. -/
structure IsSettled (engine : Engine σ ι) (l : Lifecycle σ ι) : Prop where
  history : IsHistory engine l.published
  settled : l.snapshot.phase ≠ .enabling

theorem isSettled_initial (state : σ) (loadFault? : Nat → Option Vault.Error)
    (settings : Settings) (bus : Bus) :
    IsSettled engine { initial state loadFault? settings with bus := bus } where
  history := .initial
  settled := nofun

theorem IsSettled.phase_of_off (h : l.IsSettled engine) (off : l.snapshot.isEnabled = false) :
    l.snapshot.phase = .disabled := by
  have settled := h.settled
  unfold Snapshot.isEnabled at off
  cases phase : l.snapshot.phase with
  | disabled => rfl
  | enabling => exact absurd phase settled
  | enabled load unlocked => simp [phase] at off

/-- One snapshot more that follows the last one, and that is no attempt to enable. -/
theorem IsSettled.concat (history : IsHistory engine l.published) {phase : Phase ι}
    (published : after.published = l.published ++ [⟨l.snapshot.version + 1, phase⟩])
    (follows : l.snapshot.phase.Follows phase) (settled : phase ≠ .enabling)
    (sound : ∀ load unlocked, phase = .enabled load (some unlocked) → unlocked.IsSound engine) :
    after.IsSettled engine where
  history := by
    rw [published]
    exact history.concat l.getLast?_published follows sound
  settled := by
    rw [snapshot_of_published_append published]
    exact settled

/-- The two snapshots of an attempt to enable, of which the second tells how it ended. -/
theorem IsSettled.attempt (h : l.IsSettled engine) (off : l.snapshot.isEnabled = false)
    {phase : Phase ι}
    (published : after.published =
      l.published ++ [⟨l.snapshot.version + 1, .enabling⟩, ⟨l.snapshot.version + 2, phase⟩])
    (follows : Phase.enabling.Follows phase) (settled : phase ≠ .enabling)
    (sound : ∀ load unlocked, phase = .enabled load (some unlocked) → unlocked.IsSound engine) :
    after.IsSettled engine := by
  have begun : IsHistory engine (l.publish .enabling).published := by
    rw [published_publish]
    refine h.history.concat l.getLast?_published ?_ nofun
    rw [h.phase_of_off off]
    exact .begin
  refine .concat begun ?_ follows settled sound
  rw [published, published_publish, List.append_assoc]
  rfl

/-- What an event publishes goes on with the history. -/
theorem IsSettled.of_moves (h : l.IsSettled engine) (moves : Moves engine installs l after) :
    after.IsSettled engine := by
  obtain ⟨snapshots, publishes, published⟩ := moves
  generalize after.engine = state at publishes
  cases publishes with
  | nothing tries =>
    rw [List.append_nil] at published
    exact ⟨published ▸ h.history, snapshot_of_published published ▸ h.settled⟩
  | enabled load off kept => exact h.attempt off published (.loaded load) nofun nofun
  | refused off => exact h.attempt off published .failed nofun nofun
  | disabled on =>
    obtain ⟨load, loaded⟩ := Snapshot.exists_load on
    obtain ⟨before, phase⟩ := Snapshot.phase_of_load loaded
    refine .concat h.history published ?_ nofun nofun
    rw [phase]
    exact .disabled load before
  | unlocked load unlocked loaded sound done tries =>
    obtain ⟨before, phase⟩ := Snapshot.phase_of_load loaded
    refine .concat h.history published ?_ nofun ?_
    · rw [phase]
      exact .unlocked load before unlocked
    · rintro _ _ ⟨⟩
      exact sound

theorem IsSettled.afterAll (h : l.IsSettled engine) (events : List Event) :
    (l.afterAll engine events).IsSettled engine := by
  induction events generalizing l with
  | nil => exact h
  | cons event events ih => exact ih (h.of_moves (after_moves event))

theorem isSettled_started (engine : Engine σ ι) (state : σ)
    (loadFault? : Nat → Option Vault.Error) (settings : Settings) (bus : Bus) :
    (started engine state loadFault? settings bus).IsSettled engine :=
  (isSettled_initial state loadFault? settings bus).of_moves startup_moves

/-! ### Versions of 64 bits

Versions are counted here without a limit. No run that is short enough to happen reaches 2 ^ 64: an
event publishes at most two snapshots. -/

theorem length_published_afterAll_le (engine : Engine σ ι) (l : Lifecycle σ ι)
    (events : List Event) :
    (l.afterAll engine events).published.length ≤ l.published.length + 2 * events.length := by
  induction events generalizing l with
  | nil => exact Nat.le_refl _
  | cons event events ih =>
    have one : (l.after engine event).published.length ≤ l.published.length + 2 :=
      (after_moves event).length_le
    rw [List.length_cons]
    exact (ih (l.after engine event)).trans (by omega)

theorem version_lt_of_run (engine : Engine σ ι) (state : σ)
    (loadFault? : Nat → Option Vault.Error) (settings : Settings) (bus : Bus)
    {events : List Event} (few : 2 * events.length + 3 ≤ 2 ^ 64) :
    ∀ snapshot ∈ ((started engine state loadFault? settings bus).afterAll engine events).published,
      snapshot.version < 2 ^ 64 := by
  intro snapshot mem
  have history := (isSettled_started engine state loadFault? settings bus).afterAll events
  have place : snapshot.version ∈ List.range _ :=
    history.history.versions ▸ List.mem_map_of_mem mem
  have start : (started engine state loadFault? settings bus).published.length ≤ 1 + 2 :=
    startup_moves.length_le
  have run := length_published_afterAll_le engine
    (started engine state loadFault? settings bus) events
  rw [List.mem_range] at place
  omega

/-! ### What is so already -/

theorem published_setEnabled_same {flag : Bool} (same : l.snapshot.isEnabled = flag) :
    (l.setEnabled engine flag).2.published = l.published := by
  unfold setEnabled
  rw [transition_same flag same]
  rfl

theorem published_requestEnabled_same {flag : Bool} (same : l.snapshot.isEnabled = flag) :
    (l.requestEnabled engine flag).2.published = l.published := by
  unfold requestEnabled
  split
  · rfl
  · exact published_setEnabled_same same

theorem published_step_same {sender : Nat} {rest : List Envelope}
    (waiting : l.bus.queue = ⟨sender, .setFlag l.snapshot.isEnabled⟩ :: rest) :
    (l.step engine).published = l.published := by
  unfold step Bus.next?
  rw [waiting]
  exact published_setEnabled_same rfl

/-- Whatever happens from the start on, the snapshots are a history that ends settled; and when the
flag is asked for or commanded as it is, nothing is published, so that a key stays. -/
theorem isSettled_of_run (engine : Engine σ ι) (state : σ) (loadFault? : Nat → Option Vault.Error)
    (settings : Settings) (bus : Bus) (events : List Event) :
    let l := (started engine state loadFault? settings bus).afterAll engine events
    l.IsSettled engine ∧
      (l.after engine (.enable l.snapshot.isEnabled)).published = l.published ∧
      ∀ sender rest, l.bus.queue = ⟨sender, .setFlag l.snapshot.isEnabled⟩ :: rest →
        (l.after engine .command).published = l.published := by
  intro l
  have start := isSettled_started engine state loadFault? settings bus
  exact ⟨start.afterAll events, published_requestEnabled_same rfl,
    fun sender rest waiting => published_step_same waiting⟩

end Lifecycle

end SealGate.Session
