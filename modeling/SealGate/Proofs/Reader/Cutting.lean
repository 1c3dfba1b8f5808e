import SealGate.Proofs.Bytes.Pieces
import SealGate.Proofs.Http.Delivery
import SealGate.Reader.Window

/-! Chunks put together to packets. A buffer holds fewer bytes than a packet has. Feeding it a chunk
gives the full packets in what it held and the chunk together, and leaves the rest in it; so the
packets of a run of chunks are the pieces of the bytes received, wherever the chunks were cut. A
failure leaves only the full pieces. -/

namespace SealGate.Reader

open Vault Http

/-- The pieces in the bytes received; where a failure cuts them off, the full ones alone. -/
def piecesOf (stored : Bytes) (fault : Option Error) : List Bytes :=
  match fault with
  | none => Bytes.chunks storedPacketSize stored
  | some _ => (Bytes.chunks storedPacketSize stored).filter (·.length = storedPacketSize)

theorem piecesOf_append {full : List Bytes} (all : ∀ piece ∈ full, piece.length = storedPacketSize)
    (rest : Bytes) (fault : Option Error) :
    piecesOf (full.flatten ++ rest) fault = full ++ piecesOf rest fault := by
  have cut := Bytes.chunks_flatten_append storedPacketSize_pos all rest
  cases fault with
  | none => exact cut
  | some error =>
    simp only [piecesOf]
    rw [cut, List.filter_append, List.filter_eq_self.2 (by simpa using all)]

/-- Of less than a packet nothing is left by a failure. -/
theorem piecesOf_short {stored : Bytes} (short : stored.length < storedPacketSize) (error : Error) :
    piecesOf stored (some error) = [] := by
  simp only [piecesOf]
  rw [List.filter_eq_nil_iff]
  intro piece mem
  by_cases none : stored = []
  · rw [none, Bytes.chunks_nil storedPacketSize_pos] at mem
    cases mem
  · rw [Bytes.chunks_of_le storedPacketSize_pos none (by omega), List.mem_singleton] at mem
    rw [mem]
    simp only [decide_eq_true_eq]
    omega

theorem mem_piecesOf {stored piece : Bytes} {fault : Option Error}
    (mem : piece ∈ piecesOf stored fault) : piece.length ≤ storedPacketSize := by
  cases fault with
  | none => exact (Bytes.length_of_mem_chunks storedPacketSize_pos mem).2
  | some error =>
    exact (Bytes.length_of_mem_chunks storedPacketSize_pos (List.mem_filter.1 mem).1).2

namespace Buffer

/-- A buffer that holds the given bytes, fewer than a packet has. -/
structure Holds (buffer : Buffer) (bytes : Bytes) : Prop where
  bytes_eq : buffer.bytes = bytes
  length_eq : buffer.length = bytes.length
  short : bytes.length < storedPacketSize

theorem holds_empty : empty.Holds [] := ⟨rfl, rfl, storedPacketSize_pos⟩

theorem bytes_push (buffer : Buffer) (b : UInt8) : (buffer.push b).bytes = buffer.bytes ++ [b] := by
  simp [Buffer.bytes, push]

/-- What feeding does: the full packets, and a buffer that holds the rest. -/
theorem feed_spec {buffer : Buffer} {held : Bytes} (h : buffer.Holds held) (chunk : Bytes) :
    ∃ full rest, held ++ chunk = full.flatten ++ rest ∧
      (∀ piece ∈ full, piece.length = storedPacketSize) ∧
      (buffer.feed chunk).1 = full ∧ (buffer.feed chunk).2.Holds rest := by
  induction chunk generalizing buffer held with
  | nil => exact ⟨[], held, by simp, by simp, rfl, h⟩
  | cons b chunk ih =>
    have pushed : (buffer.push b).bytes = held ++ [b] := by rw [bytes_push, h.bytes_eq]
    by_cases complete : buffer.length + 1 = storedPacketSize
    · obtain ⟨full, rest, split, all, packets, left⟩ := ih holds_empty
      refine ⟨(held ++ [b]) :: full, rest, ?_, ?_, ?_, ?_⟩
      · rw [List.flatten_cons, List.append_assoc, ← split]
        simp
      · intro piece mem
        rcases List.mem_cons.1 mem with rfl | mem
        · rw [List.length_append, ← h.length_eq]
          exact complete
        · exact all piece mem
      · simp only [feed, complete, if_true, pushed, packets]
      · simpa only [feed, complete, if_true] using left
    · have longer : (buffer.push b).Holds (held ++ [b]) := by
        have short := h.short
        have length := h.length_eq
        refine ⟨pushed, ?_, ?_⟩
        · simp [push, length]
        · rw [List.length_append, List.length_singleton]
          omega
      obtain ⟨full, rest, split, all, packets, left⟩ := ih longer
      refine ⟨full, rest, by rw [← split]; simp, all, ?_, ?_⟩
      · simpa only [feed, complete, if_false] using packets
      · simpa only [feed, complete, if_false] using left

end Buffer

/-- The packets behind a buffer are the pieces of what it holds and what is received. -/
theorem packets_spec {buffer : Buffer} {held : Bytes} (h : buffer.Holds held)
    (chunks : List (Except Error Bytes)) :
    packets buffer chunks =
      itemsThen (piecesOf (held ++ (delivered chunks).1) (delivered chunks).2)
        (delivered chunks).2 := by
  induction chunks generalizing buffer held with
  | nil =>
    have clean : delivered ([] : List (Except Error Bytes)) = ([], none) := rfl
    simp only [packets, clean, List.append_nil, itemsThen, piecesOf, h.length_eq,
      List.length_eq_zero_iff]
    split
    · rename_i none
      rw [none, Bytes.chunks_nil storedPacketSize_pos]
      rfl
    · rename_i some
      rw [Bytes.chunks_of_le storedPacketSize_pos some (Nat.le_of_lt h.short), h.bytes_eq]
      rfl
  | cons chunk rest ih =>
    cases chunk with
    | error error =>
      have lost : delivered (Except.error error :: rest) = ([], some error) := rfl
      rw [lost, List.append_nil, piecesOf_short h.short]
      rfl
    | ok chunk =>
      obtain ⟨full, left, split, all, complete, holds⟩ := Buffer.feed_spec h chunk
      rw [delivered_ok_cons, ← List.append_assoc, split, List.append_assoc, piecesOf_append all,
        itemsThen, List.map_append, List.append_assoc]
      simp only [packets, complete]
      rw [ih holds, itemsThen]

/-- The packets of a run of chunks are the pieces of the bytes received. -/
theorem packets_empty (chunks : List (Except Error Bytes)) :
    packets .empty chunks =
      itemsThen (piecesOf (delivered chunks).1 (delivered chunks).2) (delivered chunks).2 :=
  packets_spec Buffer.holds_empty chunks

end SealGate.Reader
