import SealGate.Proofs.Reader.Window
import SealGate.Proofs.Vault.Sealing

/-! Reading from an origin that cannot be trusted. It may send any bytes, cut into any chunks, and
fail where it likes; only packets that someone with the key has made will open. If none opens but
the genuine ones, each at its own place, then the plaintexts that are opened are the genuine ones in
order from the first on, as far as they go. So whatever is handed out is the start of the genuine
window, and an end without a failure can only mean that the window is complete or, where its length
is not known, that whole packets are missing at the end. -/

namespace SealGate.Reader

open Vault Http

/-- None of the byte strings opens at any place, but for the genuine packets, each at its own place
and to its own plaintext. -/
def Authentic (key : Cipher.Key) (genuine strings : List Bytes) : Prop :=
  ∀ stored ∈ strings, ∀ (place : Nat) (plain : Bytes),
    Packet.decode stored key place = .ok plain → genuine[place]? = some plain

variable {key : Cipher.Key} {genuine : List Bytes}

/-- What opens is genuine, in order and without a gap. -/
theorem Authentic.openFrom {strings : List Bytes} (authentic : Authentic key genuine strings)
    (first : Nat) :
    ∃ count, (Packet.openFrom key first strings).1 = (genuine.drop first).take count := by
  induction strings generalizing first with
  | nil => exact ⟨0, rfl⟩
  | cons stored rest ih =>
    rw [Packet.openFrom_cons]
    cases opened : Packet.decode stored key first with
    | error error => exact ⟨0, rfl⟩
    | ok plain =>
      obtain ⟨held, here⟩ :=
        List.getElem?_eq_some_iff.1 (authentic stored (by simp) first plain opened)
      obtain ⟨count, behind⟩ := ih (fun other mem => authentic other (by simp [mem])) (first + 1)
      refine ⟨count + 1, ?_⟩
      rw [behind, List.drop_eq_getElem_cons held, here, List.take_succ_cons]

theorem clip_prefix_append (skip : Nat) (remaining : Option Nat) (front back : Bytes) :
    clip skip remaining front <+: clip skip remaining (front ++ back) := by
  cases remaining with
  | none => simp [clip, List.drop_append]
  | some count => simp [clip, List.drop_append, List.take_append]

/-- A window that the plaintext fills holds as many bytes as it wants. -/
theorem Window.length_clip {window : Window} {total : Bytes} {count : Nat}
    (known : window.length = some count) (filled : window.isFilled total.length = true) :
    (clip window.skip window.length total).length = count := by
  simp only [isFilled, known, decide_eq_true_eq] at filled
  simp only [clip, known, List.length_take, List.length_drop]
  omega

theorem Window.error_not_mem_expected {window : Window} {chunks : List (Except Error Bytes)}
    (clean : ∀ error, .error error ∉ window.expected key chunks) :
    window.isFilled (window.opened key chunks).1.flatten.length = true ∨
      window.length = none ∧ (window.opened key chunks).2 = none ∧
        (delivered chunks).2 = none := by
  rcases filled : window.isFilled (window.opened key chunks).1.flatten.length with _ | _
  · right
    have no := fun error => mt error_mem_itemsThen.2 (clean error)
    simp only [Nat.zero_add, filled, Bool.false_eq_true, if_false] at no
    have none := Option.eq_none_iff_forall_ne_some.2 no
    simp only [ending, Option.or_eq_none_iff, Option.map_eq_none_iff] at none
    exact ⟨none.2, none.1⟩
  · exact .inl rfl

/-- Whatever an origin sends, the bytes handed out are a prefix of the genuine window. If no failure
is reported, they are the whole window when its length is known, and all of it but whole packets at
the end when it is not. -/
theorem Window.emits_genuine_prefix (window : Window) {chunks : List (Except Error Bytes)}
    (authentic : Authentic key genuine (piecesOf (delivered chunks).1 (delivered chunks).2)) :
    emitted (window.read key chunks) <+:
        clip window.skip window.length (genuine.drop window.first).flatten ∧
      ((∀ error, .error error ∉ window.read key chunks) →
        (∀ count, window.length = some count →
          emitted (window.read key chunks) =
              clip window.skip window.length (genuine.drop window.first).flatten ∧
            (emitted (window.read key chunks)).length = count) ∧
        (window.length = none → ∃ count, emitted (window.read key chunks) =
          ((genuine.drop window.first).take count).flatten.drop window.skip)) := by
  obtain ⟨count, opened⟩ := authentic.openFrom window.first
  have handed : emitted (window.read key chunks) =
      clip window.skip window.length ((genuine.drop window.first).take count).flatten := by
    rw [read_eq_expected, expected, shown, emitted_itemsThen, flatten_items_zero, Window.opened,
      opened]
  have front : emitted (window.read key chunks) <+:
      clip window.skip window.length (genuine.drop window.first).flatten := by
    have whole := congrArg List.flatten (List.take_append_drop count (genuine.drop window.first))
    rw [handed, ← whole, List.flatten_append]
    exact clip_prefix_append _ _ _ _
  refine ⟨front, fun clean => ⟨?_, ?_⟩⟩
  · intro wanted known
    rw [read_eq_expected] at clean
    have filled : window.isFilled (window.opened key chunks).1.flatten.length = true := by
      rcases error_not_mem_expected clean with filled | ⟨unknown, -⟩
      · exact filled
      · rw [known] at unknown
        cases unknown
    have full : (emitted (window.read key chunks)).length = wanted := by
      rw [Window.opened, opened] at filled
      rw [handed, length_clip known filled]
    have most : (clip window.skip window.length (genuine.drop window.first).flatten).length ≤
        wanted := by
      simp only [clip, known, List.length_take]
      omega
    exact ⟨front.eq_of_length_le (by omega), full⟩
  · intro unknown
    rw [handed, unknown]
    exact ⟨count, rfl⟩

/-! ### A packet sent twice -/

def replayKey : Cipher.Key := ⟨List.replicate 32 1, rfl⟩

/-- The plaintexts of a file of two packets. -/
def replayGenuine : List Bytes := [List.replicate packetSize 7, [1, 2, 3]]

/-- The first packet as it is stored. -/
def replayPacket : Bytes :=
  Packet.encode (List.replicate packetSize 7) replayKey 0 (List.replicate 8 0)

/-- An origin sends the first packet again in place of the second. -/
def replayChunks : List (Except Error Bytes) := [.ok replayPacket, .ok replayPacket]

theorem pieces_replayChunks :
    piecesOf (delivered replayChunks).1 (delivered replayChunks).2 =
      [replayPacket, replayPacket] := by
  have full : replayPacket.length = storedPacketSize := by
    rw [replayPacket, Packet.length_encode _ List.length_replicate, List.length_replicate,
      storedPacketSize]
  rw [replayChunks, delivered_ok_cons, delivered_ok_cons]
  show Bytes.chunks _ (replayPacket ++ (replayPacket ++ [])) = _
  rw [Bytes.chunks_append storedPacketSize_pos full, Bytes.chunks_append storedPacketSize_pos full,
    Bytes.chunks_nil storedPacketSize_pos]

theorem authentic_replayPacket :
    Authentic replayKey replayGenuine [replayPacket, replayPacket] := by
  intro stored mem place plain opened
  have same : stored = replayPacket := by simpa using mem
  have some : List.replicate packetSize (7 : UInt8) ≠ [] :=
    List.ne_nil_of_length_pos (by rw [List.length_replicate]; decide)
  have fits : (List.replicate packetSize (7 : UInt8)).length ≤ packetSize :=
    Nat.le_of_eq List.length_replicate
  rw [same, replayPacket] at opened
  obtain ⟨rfl, rfl⟩ :=
    Packet.of_decode_encode replayKey some fits List.length_replicate (by decide) opened
  rfl

theorem Window.emits_genuine_prefix_of_replay :
    Authentic replayKey replayGenuine
        (piecesOf (delivered replayChunks).1 (delivered replayChunks).2) ∧
      emitted (Window.read ⟨0, 10, some 65527⟩ replayKey replayChunks) <+:
        clip 10 (some 65527) replayGenuine.flatten := by
  have authentic : Authentic replayKey replayGenuine
      (piecesOf (delivered replayChunks).1 (delivered replayChunks).2) := by
    rw [pieces_replayChunks]
    exact authentic_replayPacket
  exact ⟨authentic, (Window.emits_genuine_prefix ⟨0, 10, some 65527⟩ authentic).1⟩

end SealGate.Reader
