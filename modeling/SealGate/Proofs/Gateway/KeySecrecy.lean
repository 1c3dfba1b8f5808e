import SealGate.Gateway.Handler
import SealGate.Proofs.Session.Masking

/-! Nobody is told the bytes of a key. Over the reader of a repository, two runs of the lifecycle
that are the same but for the bytes of the keys in commands cannot be told apart by consumers, by
what is shown of snapshots and commands, or by what is stored. -/

namespace SealGate.Gateway

open Session Session.Lifecycle

theorem isBlind_readerEngine : readerEngine.IsBlind := by
  intro key
  have bare : (maskedKey key).bytes = [] ↔ key.bytes = [] := maskedBytes_eq_nil
  simp only [Engine.masked, readerEngine, Reader.Index.ofKey, bare]
  split <;> rfl

/-- Two runs that are the same but for the bytes of keys in commands tell consumers the same, have
snapshots with the same versions, statuses and key ids, store the same, and are left with commands
of the same description. -/
theorem key_bytes_stay_hidden (reader : Reader) (loadFault? : Nat → Option Vault.Error)
    (settings : Settings) {bus otherBus : Bus} {turns otherTurns : List Turn}
    (buses : bus.masked = otherBus.masked)
    (runs : turns.map Turn.masked = otherTurns.map Turn.masked) :
    let one := (started readerEngine reader loadFault? settings bus).turnAll readerEngine turns
    let other := (started readerEngine reader loadFault? settings otherBus).turnAll readerEngine
      otherTurns
    one.bus.boxes = other.bus.boxes ∧
    one.published.map Snapshot.outline = other.published.map Snapshot.outline ∧
    one.published.map Snapshot.describe = other.published.map Snapshot.describe ∧
    one.settings = other.settings ∧
    one.bus.queue.map Envelope.describe = other.bus.queue.map Envelope.describe := by
  intro one other
  have same : one.masked = other.masked := by
    rw [run_masked isBlind_readerEngine, run_masked isBlind_readerEngine, buses, runs]
  have boxes : one.bus.boxes = other.bus.boxes := congrArg (fun l => l.bus.boxes) same
  have stored : one.settings = other.settings := congrArg (fun l => l.settings) same
  refine ⟨boxes, ?_, ?_, stored, ?_⟩
  · rw [← one.shown_masked Snapshot.outline_masked, same,
      other.shown_masked Snapshot.outline_masked]
  · rw [← one.shown_masked Snapshot.describe_masked, same,
      other.shown_masked Snapshot.describe_masked]
  · rw [← one.descriptions_masked, same, other.descriptions_masked]

/-- A consumer enables decryption and sends a key; another key waits. -/
def keySample (key waiting : Bytes) : List Turn :=
  [.event .attach, .event (.send 1 (.setFlag true)), .command [.send 1 (.setMasterKey key "k")],
    .event .command, .event (.send 1 (.setMasterKey waiting ""))]

theorem key_bytes_stay_hidden_of_keySample :
    let reader := Reader.ofLink ⟨"http://origin", fun _ _ => .unreachable, []⟩
    let run (key waiting : Bytes) : Gateway :=
      (started readerEngine reader (fun _ => none) (.ofFile .missing) .empty).turnAll readerEngine
        (keySample key waiting)
    (keySample [1] [2]).map Turn.masked = (keySample [3, 4] [5]).map Turn.masked ∧
      (run [1] [2]).snapshot.unlocked?.map (fun unlocked => unlocked.key.bytes) = some [1] ∧
      (run [3, 4] [5]).snapshot.unlocked?.map (fun unlocked => unlocked.key.bytes) = some [3, 4] ∧
      (run [1] [2]).published.map Snapshot.outline =
        [(0, "disabled", none), (1, "enabling", none), (2, "enabled, locked", none),
          (3, "enabled, unlocked", some "k")] ∧
      (run [3, 4] [5]).bus.queue.map Envelope.describe =
        (run [1] [2]).bus.queue.map Envelope.describe := by
  intro reader run
  have masked : (keySample [1] [2]).map Turn.masked = (keySample [3, 4] [5]).map Turn.masked := rfl
  have hidden := key_bytes_stay_hidden reader (fun _ => none) (.ofFile .missing)
    (rfl : Bus.empty.masked = Bus.empty.masked) masked
  exact ⟨masked, rfl, rfl, rfl, hidden.2.2.2.2.symm⟩

end SealGate.Gateway
