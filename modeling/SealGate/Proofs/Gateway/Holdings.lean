import Mathlib.Data.List.Induction
import SealGate.Proofs.Gateway.Run
import SealGate.Proofs.Reader.Refresh
import SealGate.Proofs.Vault.Head

/-! What a gateway holds decrypted. The cache outlives the key: it belongs to the reader, and the key
to a snapshot. Still every head in it opens with the key that is unlocked, and it and the catalog in
the index handle come from answers that were opened with this key since it was installed; an event
that publishes a snapshot leaves nothing behind that was decrypted before. Such a catalog is made
from entries, which gives it the order that it is searched by. -/

namespace SealGate.Gateway

open Http Session Vault Origin Reader

/-- An event of a run has brought it about, and from before that event on no other snapshot was
published. -/
def Gained (start : Gateway) (events : List Event) (brings : Link → Link → Prop) : Prop :=
  let version := (start.afterAll events).snapshot.version
  start.EverSince events
    (fun g event => g.snapshot.version = version ∧
      brings g.engine.link (g.after event).engine.link)
    fun g => g.snapshot.version = version

/-- All that is held decrypted opens with the key in use and came in since it was installed. -/
structure IsCurrent (start : Gateway) (events : List Event) : Prop where
  heads : ∀ entry ∈ (start.afterAll events).engine.heads.entries, ∃ unlocked fileKey,
    (start.afterAll events).snapshot.unlocked? = some unlocked ∧
    entry.2.header.unwrap unlocked.key = .ok fileKey ∧
    start.Gained events fun link later => Reader.Peeked link later unlocked.key entry.1 entry.2
  index : ∀ unlocked, (start.afterAll events).snapshot.unlocked? = some unlocked →
    unlocked.index.key = unlocked.key ∧
    ∀ catalog, unlocked.index.catalog = some catalog →
      start.Gained events fun link later => Reader.Index.Fetched link later unlocked.key catalog

/-- Nothing decrypted is held, and the index handle of a key is the one that was made for it. -/
structure IsFresh (g : Gateway) : Prop where
  heads : g.engine.heads.entries = []
  index : ∀ unlocked, g.snapshot.unlocked? = some unlocked → unlocked.index = ⟨unlocked.key, none⟩

section Gained

variable {start : Gateway} {events : List Event} {event : Event} {brings : Link → Link → Prop}

theorem Gained.concat (gained : start.Gained events brings)
    (same : ((start.afterAll events).after event).snapshot.version =
      (start.afterAll events).snapshot.version) : start.Gained (events ++ [event]) brings := by
  unfold Gained
  rw [afterAll_concat, same]
  exact EverSince.concat gained same

theorem Gained.last (same : ((start.afterAll events).after event).snapshot.version =
      (start.afterAll events).snapshot.version)
    (brought : brings (start.afterAll events).engine.link
      ((start.afterAll events).after event).engine.link) :
    start.Gained (events ++ [event]) brings := by
  unfold Gained
  rw [afterAll_concat, same]
  exact .last ⟨rfl, brought⟩ same

end Gained

/-! ### One event -/

theorem IsFresh.of_locked {g : Gateway} (heads : g.engine.heads.entries = [])
    (locked : g.snapshot.unlocked? = none) : g.IsFresh where
  heads := heads
  index := by
    intro unlocked known
    rw [locked] at known
    cases known

/-- Whatever publishes a snapshot leaves nothing decrypted behind, if nothing is held while
disabled. -/
theorem fresh_of_moves {g later : Gateway} {installs : Prop}
    (moves : Lifecycle.Moves readerEngine installs g later)
    (off : g.snapshot.isEnabled = false → g.engine.heads.entries = []) :
    (later.snapshot = g.snapshot ∧ later.engine.heads = g.engine.heads) ∨ later.IsFresh := by
  obtain ⟨snapshots, publishes, published⟩ := moves
  generalize reader : later.engine = after at publishes
  cases publishes with
  | nothing tries =>
    left
    refine ⟨Lifecycle.snapshot_of_published (by rw [published, List.append_nil]), ?_⟩
    rw [link_of_tries tries]
  | enabled load locked kept =>
    right
    rw [List.append_cons] at published
    refine .of_locked ?_ ?_
    · rcases kept with same | started
      · rw [reader, same]
        exact off locked
      · rw [reader, started]
        rfl
    · rw [Lifecycle.snapshot_of_published_append published]
      rfl
  | refused locked =>
    right
    rw [List.append_cons] at published
    refine .of_locked ?_ ?_
    · rw [reader]
      exact off locked
    · rw [Lifecycle.snapshot_of_published_append published]
      rfl
  | disabled enabled =>
    right
    refine .of_locked ?_ ?_
    · rw [reader]
      rfl
    · rw [Lifecycle.snapshot_of_published_append published]
      rfl
  | unlocked load unlocked loaded sound done tries =>
    right
    constructor
    · rw [reader]
      rfl
    · rw [Lifecycle.snapshot_of_published_append published]
      intro _ known
      obtain rfl := Option.some.inj known
      exact Reader.Index.eq_of_ofKey sound.index

theorem IsCurrent.of_fresh {start : Gateway} {events : List Event}
    (fresh : (start.afterAll events).IsFresh) : start.IsCurrent events where
  heads := by
    intro entry mem
    rw [fresh.heads] at mem
    cases mem
  index := by
    intro unlocked known
    rw [fresh.index unlocked known]
    refine ⟨rfl, ?_⟩
    intro _ held
    cases held

section Step

variable {start : Gateway} {events : List Event} {event : Event}

/-- While disabled no head is held. -/
theorem IsCurrent.heads_of_disabled (current : start.IsCurrent events)
    (off : (start.afterAll events).snapshot.isEnabled = false) :
    (start.afterAll events).engine.heads.entries = [] := by
  refine List.eq_nil_iff_forall_not_mem.2 ?_
  intro entry mem
  obtain ⟨unlocked, -, known, -⟩ := current.heads entry mem
  rw [Snapshot.isEnabled_of_unlocked known] at off
  cases off

/-- Neither the snapshot nor the cache changes. -/
theorem IsCurrent.still (current : start.IsCurrent events)
    (snapshot : ((start.afterAll events).after event).snapshot = (start.afterAll events).snapshot)
    (heads : ((start.afterAll events).after event).engine.heads =
      (start.afterAll events).engine.heads) : start.IsCurrent (events ++ [event]) := by
  have same := congrArg Snapshot.version snapshot
  constructor
  · rw [afterAll_concat, snapshot, heads]
    intro entry mem
    obtain ⟨unlocked, fileKey, known, opens, gained⟩ := current.heads entry mem
    exact ⟨unlocked, fileKey, known, opens, gained.concat same⟩
  · rw [afterAll_concat, snapshot]
    intro unlocked known
    obtain ⟨bound, held⟩ := current.index unlocked known
    exact ⟨bound, fun catalog has => (held catalog has).concat same⟩

/-- What the snapshot and the cache hold more opens with the key in use. -/
theorem IsCurrent.continued (current : start.IsCurrent events)
    (continues : (start.afterAll events).Continues ((start.afterAll events).after event)) :
    start.IsCurrent (events ++ [event]) := by
  have same := continues.version
  constructor
  · rw [afterAll_concat]
    intro entry mem
    rcases continues.heads entry mem with before | ⟨unlocked, known, peeked⟩
    · obtain ⟨unlocked, fileKey, known, opens, gained⟩ := current.heads entry before
      obtain ⟨index, known⟩ := continues.unlocked_after known
      exact ⟨_, fileKey, known, opens, gained.concat same⟩
    · obtain ⟨response, data, fileKey, answered, holds, decoded⟩ := peeked
      obtain ⟨-, opens, -⟩ := Head.decode_ok_iff.1 decoded
      obtain ⟨index, known⟩ := continues.unlocked_after known
      refine ⟨_, fileKey, known, opens, .last same ?_⟩
      exact ⟨response, data, fileKey, answered, holds, decoded⟩
  · rw [afterAll_concat]
    intro unlocked known
    obtain ⟨before, was, key, bound, held⟩ := continues.unlocked_before known
    obtain ⟨own, gained⟩ := current.index before was
    have own : unlocked.index.key = unlocked.key := by rw [← bound, own, key]
    refine ⟨own, ?_⟩
    intro catalog has
    rcases held catalog has with already | fetched
    · exact key ▸ (gained catalog already).concat same
    · exact .last same (own ▸ fetched)

/-- An event that publishes a snapshot leaves nothing behind; any other adds what opens. -/
theorem IsCurrent.step (current : start.IsCurrent events) :
    start.IsCurrent (events ++ [event]) ∧
      (((start.afterAll events).after event).snapshot.version ≠
          (start.afterAll events).snapshot.version →
        ((start.afterAll events).after event).IsFresh) := by
  rcases after_cases (start.afterAll events) event with continues | moves | ⟨answer, rfl⟩
  · exact ⟨current.continued continues, fun changed => absurd continues.version changed⟩
  · rcases fresh_of_moves moves current.heads_of_disabled with ⟨snapshot, heads⟩ | fresh
    · exact ⟨current.still snapshot heads,
        fun changed => absurd (congrArg Snapshot.version snapshot) changed⟩
    · refine ⟨.of_fresh ?_, fun _ => fresh⟩
      rw [afterAll_concat]
      exact fresh
  · exact ⟨current.still rfl rfl, fun changed => absurd rfl changed⟩

end Step

/-! ### A run -/

theorem start_fresh (link : Link) (loadFault? : Nat → Option Vault.Error) (settings : Settings) :
    (start link loadFault? settings).IsFresh := by
  have moves : Lifecycle.Moves readerEngine False
      (Lifecycle.initial (Reader.ofLink link) loadFault? settings)
      (start link loadFault? settings) := Lifecycle.startup_moves
  rcases fresh_of_moves moves fun _ => rfl with ⟨snapshot, heads⟩ | fresh
  · exact .of_locked (congrArg Recent.entries heads) (congrArg Snapshot.unlocked? snapshot)
  · exact fresh

/-- All that a gateway holds decrypted was opened with the key that is unlocked, since it was
installed: to replace or to drop the key drops it in the same event. -/
theorem isCurrent_of_run (link : Link) (loadFault? : Nat → Option Vault.Error)
    (settings : Settings) (events : List Event) :
    (start link loadFault? settings).IsCurrent events ∧
      ∀ event,
        (((start link loadFault? settings).afterAll events).after event).snapshot.version ≠
            ((start link loadFault? settings).afterAll events).snapshot.version →
          (((start link loadFault? settings).afterAll events).after event).IsFresh := by
  have current : (start link loadFault? settings).IsCurrent events := by
    induction events using List.reverseRecOn with
    | nil => exact .of_fresh (start_fresh link loadFault? settings)
    | append_singleton events event ih => exact ih.step.1
  exact ⟨current, fun event => current.step.2⟩

/-! ### What a catalog is made from -/

/-- A catalog that is held was made from the entries of an index. -/
def HoldsMade (g : Gateway) : Prop :=
  ∀ unlocked, g.snapshot.unlocked? = some unlocked → ∀ catalog,
    unlocked.index.catalog = some catalog → ∃ entries, catalog = .ofEntries entries

theorem made_of_decode {data : Bytes} {key : MasterKey} {catalog : Catalog}
    (decoded : Index.decode data key = .ok catalog) : ∃ entries, catalog = .ofEntries entries := by
  have opened := Index.toOption_decode data key
  rw [decoded] at opened
  obtain ⟨file, -, read⟩ := Option.bind_eq_some_iff.1 opened.symm
  split at read
  · obtain ⟨index, -, rfl⟩ := Option.map_eq_some_iff.1 read
    exact ⟨_, rfl⟩
  · cases read

theorem made_of_fetched {before later : Link} {key : MasterKey} {catalog : Catalog}
    (fetched : Index.Fetched before later key catalog) :
    ∃ entries, catalog = .ofEntries entries := by
  obtain ⟨response, -, ⟨-, rfl⟩ | ⟨data, -, decoded⟩⟩ := fetched
  · refine ⟨[], ?_⟩
    simp only [Catalog.ofEntries, sortByPath, List.map_nil, List.mergeSort_nil]
    rfl
  · exact made_of_decode decoded

/-- So is one that is fetched when it is asked for. -/
theorem HoldsMade.held {g : Gateway} {link : Link} {unlocked : Unlocked Index} {catalog : Catalog}
    (made : g.HoldsMade) (known : g.snapshot.unlocked? = some unlocked)
    (held : (unlocked.index.held link).1 = .ok catalog) :
    ∃ entries, catalog = .ofEntries entries := by
  have given := unlocked.index.held_index link held
  rcases (unlocked.index.held_keeps link).held with same | ⟨other, more, fetched⟩
  · exact made unlocked known catalog (congrArg Index.catalog (same.symm.trans given))
  · obtain rfl := Option.some.inj (congrArg Index.catalog (more.symm.trans given))
    exact made_of_fetched fetched

theorem IsCurrent.holdsMade {start : Gateway} {events : List Event}
    (current : start.IsCurrent events) : (start.afterAll events).HoldsMade := by
  intro unlocked known catalog held
  obtain ⟨-, gained⟩ := current.index unlocked known
  obtain ⟨before, event, rest, -, ⟨-, fetched⟩, -⟩ := gained catalog held
  exact made_of_fetched fetched

theorem holdsMade_of_run (link : Link) (loadFault? : Nat → Option Vault.Error)
    (settings : Settings) (events : List Event) :
    ((start link loadFault? settings).afterAll events).HoldsMade := by
  have current : (start link loadFault? settings).IsCurrent events := by
    induction events using List.reverseRecOn with
    | nil => exact .of_fresh (start_fresh link loadFault? settings)
    | append_singleton events event ih => exact ih.step.1
  exact current.holdsMade

end SealGate.Gateway
