import SealGate.Proofs.Reader.Cutting
import SealGate.Proofs.Vault.PacketRun

/-! What a window shows. The reference works on the whole input: the bytes before the first failure
are cut into packets, each is opened at its place, and of the plaintext put together the window
shows what lies between its two ends, one item for each packet that has some of it. Behind the items
stands nothing if the window is filled; else the reason why the plaintext ends, or the complaint
that it ends too early. Reading packet by packet with a buffer and two counters gives exactly that,
so it does not depend on how the bytes were cut into chunks. -/

namespace SealGate.Reader

open Vault Http

/-- Plaintexts with the places where they start. -/
def placed (place : Nat) : List Bytes → List (Nat × Bytes)
  | [] => []
  | plain :: rest => (place, plain) :: placed (place + plain.length) rest

namespace Window

/-- What lies in the window of a plaintext that starts at the given place. -/
def cut (window : Window) (place : Nat) (plain : Bytes) : Bytes :=
  match window.length with
  | some count => (plain.take (window.skip + count - place)).drop (window.skip - place)
  | none => plain.drop (window.skip - place)

/-- One item for each plaintext that has some of the window. -/
def items (window : Window) (place : Nat) (plains : List Bytes) : List Bytes :=
  ((placed place plains).map fun part => window.cut part.1 part.2).filter (· ≠ [])

/-- The window ends within the first bytes of the plaintext. -/
def isFilled (window : Window) (total : Nat) : Bool :=
  match window.length with
  | some count => decide (count ≤ total - window.skip)
  | none => false

/-- What stands behind the items of a window that is not filled: what is wrong with the packet that
does not open, else the failure of the upstream, else that a window of known length is short. -/
def ending (window : Window) (failure fault : Option Error) : Option Error :=
  (failure.or fault).or (window.length.map fun _ => .corrupted .objectEnded)

/-- The items of the plaintexts of a run of packets, and how they end. -/
def shown (window : Window) (place : Nat) (opened : List Bytes × Option Error)
    (fault : Option Error) : List (Except Error Bytes) :=
  itemsThen (window.items place opened.1)
    (if window.isFilled (place + opened.1.flatten.length) then none
      else window.ending opened.2 fault)

/-- The plaintexts of the packets in a run of stored chunks, each opened at its place, and what is
wrong with the first that does not open. -/
def opened (window : Window) (key : Cipher.Key) (chunks : List (Except Error Bytes)) :
    List Bytes × Option Error :=
  Packet.openFrom key window.first (piecesOf (delivered chunks).1 (delivered chunks).2)

/-- What the window shows of a run of stored chunks. -/
def expected (window : Window) (key : Cipher.Key) (chunks : List (Except Error Bytes)) :
    List (Except Error Bytes) :=
  window.shown 0 (window.opened key chunks) (delivered chunks).2

/-! ### The counters -/

/-- What is still to skip when the plaintext up to the given place has been seen. -/
def skipAt (window : Window) (place : Nat) : Nat := window.skip - place

/-- What is still to hand out when the plaintext up to the given place has been seen. -/
def remainingAt (window : Window) (place : Nat) : Option Nat :=
  window.length.map (· - (place - window.skip))

variable (window : Window)

theorem remainingAt_zero : window.remainingAt 0 = window.length := by
  cases h : window.length <;> simp [remainingAt, h]

theorem remainingAt_eq_some_zero {place : Nat} :
    window.remainingAt place = some 0 ↔ window.isFilled place = true := by
  cases h : window.length with
  | none => simp [remainingAt, isFilled, h]
  | some count =>
    simp only [remainingAt, isFilled, h, Option.map_some, Option.some.injEq, decide_eq_true_eq]
    omega

theorem clip_eq_cut (place : Nat) (plain : Bytes) :
    clip (window.skipAt place) (window.remainingAt place) plain = window.cut place plain := by
  cases h : window.length with
  | none => simp [clip, cut, skipAt, remainingAt, h]
  | some count =>
    simp only [clip, cut, skipAt, remainingAt, h, Option.map_some, List.drop_take]
    congr 1
    omega

theorem skipAt_step (place : Nat) (plain : Bytes) :
    window.skipAt place - plain.length = window.skipAt (place + plain.length) := by
  simp only [skipAt]
  omega

theorem remainingAt_step (place : Nat) (plain : Bytes) :
    (window.remainingAt place).map (· - (window.cut place plain).length) =
      window.remainingAt (place + plain.length) := by
  cases h : window.length with
  | none => simp [remainingAt, h]
  | some count =>
    simp only [remainingAt, cut, h, Option.map_some, List.length_drop, List.length_take,
      Option.some.injEq]
    omega

/-! ### The items -/

theorem isFilled_mono {total more : Nat} (h : window.isFilled total = true) (le : total ≤ more) :
    window.isFilled more = true := by
  cases known : window.length with
  | none => simp [isFilled, known] at h
  | some count =>
    simp only [isFilled, known, decide_eq_true_eq] at h ⊢
    omega

theorem cut_eq_nil {place : Nat} (h : window.isFilled place = true) (plain : Bytes) :
    window.cut place plain = [] := by
  cases known : window.length with
  | none => simp [isFilled, known] at h
  | some count =>
    simp only [isFilled, known, decide_eq_true_eq] at h
    simp only [cut, known]
    rw [List.drop_eq_nil_of_le]
    rw [List.length_take]
    omega

theorem items_cons (place : Nat) (plain : Bytes) (rest : List Bytes) :
    window.items place (plain :: rest) =
      if window.cut place plain = [] then window.items (place + plain.length) rest
      else window.cut place plain :: window.items (place + plain.length) rest := by
  simp only [items, placed, List.map_cons, List.filter_cons]
  by_cases h : window.cut place plain = [] <;> simp [h]

theorem items_eq_nil {place : Nat} (h : window.isFilled place = true) (plains : List Bytes) :
    window.items place plains = [] := by
  induction plains generalizing place with
  | nil => rfl
  | cons plain rest ih =>
    rw [items_cons, if_pos (window.cut_eq_nil h plain)]
    exact ih (window.isFilled_mono h (Nat.le_add_right _ _))

theorem items_append (place : Nat) (front back : List Bytes) :
    window.items place (front ++ back) =
      window.items place front ++ window.items (place + front.flatten.length) back := by
  induction front generalizing place with
  | nil => rfl
  | cons plain front ih =>
    rw [List.cons_append, items_cons, items_cons, ih, List.flatten_cons, List.length_append,
      Nat.add_assoc]
    split <;> rfl

theorem length_of_mem_items {place : Nat} (limit : Nat) {plains : List Bytes}
    (small : ∀ plain ∈ plains, plain.length ≤ limit) {item : Bytes}
    (mem : item ∈ window.items place plains) : 0 < item.length ∧ item.length ≤ limit := by
  induction plains generalizing place with
  | nil => cases mem
  | cons plain rest ih =>
    have behind (inner : item ∈ window.items (place + plain.length) rest) :
        0 < item.length ∧ item.length ≤ limit :=
      ih (fun other h => small other (by simp [h])) inner
    rw [items_cons] at mem
    split at mem
    · exact behind mem
    · rename_i some
      rcases List.mem_cons.1 mem with rfl | mem
      · have bound : (window.cut place plain).length ≤ plain.length := by
          simp only [cut]
          split <;> simp only [List.length_drop, List.length_take] <;> omega
        exact ⟨List.length_pos_iff.2 some, Nat.le_trans bound (small plain (by simp))⟩
      · exact behind mem

/-- The items put together are the window of the plaintext put together. -/
theorem flatten_items (place : Nat) (plains : List Bytes) :
    (window.items place plains).flatten =
      clip (window.skipAt place) (window.remainingAt place) plains.flatten := by
  induction plains generalizing place with
  | nil => cases h : window.remainingAt place <;> simp [items, placed, clip]
  | cons plain rest ih =>
    have both : (window.items place (plain :: rest)).flatten =
        window.cut place plain ++ (window.items (place + plain.length) rest).flatten := by
      rw [items_cons]
      split
      · rename_i none
        rw [none, List.nil_append]
      · rw [List.flatten_cons]
    rw [both, ih, ← remainingAt_step, ← skipAt_step, ← clip_eq_cut, List.flatten_cons]
    cases window.remainingAt place with
    | none => simp [clip, List.drop_append]
    | some count =>
      simp only [clip, Option.map_some, List.drop_append, List.take_append, List.length_take,
        List.length_drop]
      congr 2
      omega

theorem flatten_items_zero (plains : List Bytes) :
    (window.items 0 plains).flatten = clip window.skip window.length plains.flatten := by
  rw [flatten_items, remainingAt_zero, skipAt, Nat.sub_zero]

/-! ### Reading -/

theorem shown_of_isFilled {place : Nat} (h : window.isFilled place = true)
    (opened : List Bytes × Option Error) (fault : Option Error) :
    window.shown place opened fault = [] := by
  rw [shown, items_eq_nil window h, if_pos (window.isFilled_mono h (Nat.le_add_right _ _))]
  rfl

end Window

theorem openPackets_filled (key : Cipher.Key) (sequence skip : Nat)
    (packets : List (Except Error Bytes)) :
    openPackets key sequence skip (some 0) packets = [] := by
  rw [openPackets]

/-- Where no packet is left, the counters do not matter but for the question if one is running. -/
theorem openPackets_end (key : Cipher.Key) (sequence skip : Nat) {remaining : Option Nat}
    (wanted : remaining ≠ some 0) (fault : Option Error) :
    openPackets key sequence skip remaining (itemsThen [] fault) =
      itemsThen [] (fault.or (remaining.map fun _ => .corrupted .objectEnded)) := by
  rcases remaining with _ | _ | count
  · cases fault <;> rfl
  · exact absurd rfl wanted
  · cases fault <;> rfl

theorem openPackets_cons (key : Cipher.Key) (sequence skip : Nat) {remaining : Option Nat}
    (wanted : remaining ≠ some 0) (stored : Bytes) (rest : List (Except Error Bytes)) :
    openPackets key sequence skip remaining (.ok stored :: rest) =
      match Packet.decode stored key sequence with
      | .error error => [.error error]
      | .ok plain =>
        let piece := clip skip remaining plain
        let behind := openPackets key (sequence + 1) (skip - plain.length)
          (remaining.map (· - piece.length)) rest
        if piece = [] then behind else .ok piece :: behind := by
  rcases remaining with _ | _ | count
  · rfl
  · exact absurd rfl wanted
  · rfl

/-- Reading on from a place where the counters stand right. -/
theorem openPackets_eq_shown (window : Window) (key : Cipher.Key) (pieces : List Bytes)
    (fault : Option Error) (sequence place : Nat) :
    openPackets key sequence (window.skipAt place) (window.remainingAt place)
        (itemsThen pieces fault) =
      window.shown place (Packet.openFrom key sequence pieces) fault := by
  -- one packet is opened at a time, and the counters move on by what it held
  induction pieces generalizing sequence place with
  | nil =>
    by_cases filled : window.isFilled place = true
    · rw [(window.remainingAt_eq_some_zero).2 filled, openPackets_filled,
        window.shown_of_isFilled filled]
    · have wanted := mt (window.remainingAt_eq_some_zero).1 filled
      rw [openPackets_end key sequence _ wanted, Packet.openFrom_nil, Window.shown]
      simp only [List.flatten_nil, List.length_nil, Nat.add_zero, filled, Window.ending,
        Window.remainingAt, Option.map_map]
      rfl
  | cons stored rest ih =>
    by_cases filled : window.isFilled place = true
    · rw [(window.remainingAt_eq_some_zero).2 filled, openPackets_filled,
        window.shown_of_isFilled filled]
    · have wanted := mt (window.remainingAt_eq_some_zero).1 filled
      have next : itemsThen (stored :: rest) fault = .ok stored :: itemsThen rest fault := rfl
      rw [next, openPackets_cons key sequence _ wanted, Packet.openFrom_cons]
      cases opened : Packet.decode stored key sequence with
      | error error =>
        simp only [Window.shown, List.flatten_nil, List.length_nil, Nat.add_zero, filled]
        rfl
      | ok plain =>
        simp only [window.clip_eq_cut, window.skipAt_step, window.remainingAt_step, ih]
        simp only [Window.shown, List.flatten_cons, List.length_append, Nat.add_assoc]
        rw [window.items_cons]
        split <;> rfl

namespace Window

/-- Reading chunk by chunk shows what the window shows of the whole. -/
theorem read_eq_expected (window : Window) (key : Cipher.Key)
    (chunks : List (Except Error Bytes)) :
    window.read key chunks = window.expected key chunks := by
  have whole := openPackets_eq_shown window key
    (piecesOf (delivered chunks).1 (delivered chunks).2) (delivered chunks).2 window.first 0
  rw [remainingAt_zero] at whole
  rw [read, packets_empty]
  exact whole

theorem delivered_expected (window : Window) (key : Cipher.Key)
    (chunks : List (Except Error Bytes)) :
    delivered (window.expected key chunks) =
      (clip window.skip window.length (window.opened key chunks).1.flatten,
        if window.isFilled (window.opened key chunks).1.flatten.length then none
        else window.ending (window.opened key chunks).2 (delivered chunks).2) := by
  rw [expected, shown, delivered_itemsThen, flatten_items_zero, Nat.zero_add]

/-- Behind full packets that all open the next ones are opened at the places that follow. -/
theorem opened_append (window : Window) (key : Cipher.Key) {chunks : List (Except Error Bytes)}
    (clean : (delivered chunks).2 = none) (whole : storedPacketSize ∣ (delivered chunks).1.length)
    (more : List (Except Error Bytes)) :
    ∃ behind failure, window.opened key (chunks ++ more) =
      ((window.opened key chunks).1 ++ behind, (window.opened key chunks).2.or failure) := by
  have full : ∀ piece ∈ Bytes.chunks storedPacketSize (delivered chunks).1,
      piece.length = storedPacketSize :=
    fun _ mem => Bytes.full_of_mem_chunks storedPacketSize_pos whole mem
  have split := piecesOf_append full (delivered more).1 (delivered more).2
  rw [Bytes.flatten_chunks storedPacketSize_pos] at split
  have front : window.opened key chunks = Packet.openFrom key window.first
      (Bytes.chunks storedPacketSize (delivered chunks).1) := by
    rw [opened, clean, piecesOf]
  rw [front, opened, delivered_append clean, split, Packet.openFrom_append]
  rcases Packet.openFrom key window.first (Bytes.chunks storedPacketSize (delivered chunks).1) with
    ⟨plains, _ | error⟩
  · exact ⟨_, _, rfl⟩
  · exact ⟨[], none, by rw [List.append_nil]; rfl⟩

/-- A window that full packets have filled shows nothing of what follows them. -/
theorem expected_append {window : Window} {key : Cipher.Key} {chunks : List (Except Error Bytes)}
    (clean : (delivered chunks).2 = none) (whole : storedPacketSize ∣ (delivered chunks).1.length)
    (filled : window.isFilled (window.opened key chunks).1.flatten.length = true)
    (more : List (Except Error Bytes)) :
    window.expected key (chunks ++ more) = window.expected key chunks := by
  obtain ⟨behind, failure, both⟩ := opened_append window key clean whole more
  rw [← Nat.zero_add (window.opened key chunks).1.flatten.length] at filled
  rw [expected, expected, both, shown, shown, items_append, window.items_eq_nil filled,
    List.append_nil, if_pos filled, if_pos]
  refine window.isFilled_mono filled ?_
  rw [List.flatten_append, List.length_append]
  omega

/-- A window whose whole length has been shown is filled. -/
theorem isFilled_of_length {window : Window} {total : Bytes}
    (h : window.length = some (clip window.skip window.length total).length) :
    window.isFilled total.length = true := by
  cases known : window.length with
  | none => rw [known] at h; cases h
  | some count =>
    rw [known] at h
    simp only [clip, List.length_take, List.length_drop, Option.some.injEq] at h
    simp only [isFilled, known, decide_eq_true_eq]
    omega

/-- Reading a run of stored chunks, whatever it holds and however it is cut, gives what the window
shows of the whole; together the items are the wanted part of the plaintext. Only the bytes before
the first failure and that failure matter, and nothing behind full packets that fill the window. An
item is never empty nor larger than a packet. -/
theorem read_shows_window (window : Window) (key : Cipher.Key)
    (chunks : List (Except Error Bytes)) :
    window.read key chunks = window.expected key chunks ∧
      (delivered (window.read key chunks)).1 =
        clip window.skip window.length (window.opened key chunks).1.flatten ∧
      (∀ others, delivered others = delivered chunks →
        window.read key others = window.read key chunks) ∧
      (∀ more, (delivered chunks).2 = none →
        storedPacketSize ∣ (delivered chunks).1.length →
        window.length = some (delivered (window.read key chunks)).1.length →
        window.read key (chunks ++ more) = window.read key chunks) ∧
      ∀ item, .ok item ∈ window.read key chunks → 0 < item.length ∧ item.length ≤ packetSize := by
  have emitted := congrArg Prod.fst (window.delivered_expected key chunks)
  refine ⟨window.read_eq_expected key chunks, ?_, ?_, ?_, ?_⟩
  · rw [read_eq_expected, emitted]
  · intro others same
    rw [read_eq_expected, read_eq_expected, expected, expected, opened, opened, same]
  · intro more clean whole filled
    rw [read_eq_expected, emitted] at filled
    rw [read_eq_expected, read_eq_expected,
      expected_append clean whole (isFilled_of_length filled) more]
  · intro item mem
    rw [read_eq_expected, expected, shown, ok_mem_itemsThen] at mem
    refine window.length_of_mem_items packetSize ?_ mem
    intro plain opened
    obtain ⟨stored, held, place, opens⟩ := Packet.exists_of_mem_openFrom opened
    have length := (Packet.of_decode opens).2.2
    have short := mem_piecesOf held
    have size : storedPacketSize = packetSize + 32 := rfl
    omega

end Window

end SealGate.Reader
