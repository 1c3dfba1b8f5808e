import SealGate.Session.Bus

/-! The list of what was done with a bus. Who is attached, what each consumer has heard and which
commands were sent can be told from the operations alone; this is said here without a mailbox or a
queue, together with what one more operation adds. -/

namespace SealGate.Session.Bus

inductive Operation
  | attach
  | detach (id : Nat)
  | broadcast (notification : Notification)
  | post (id : Nat) (notification : Notification)
  | send (sender : Nat) (command : Command)
  /-- The command that has waited longest is taken. -/
  | take
  | close
  | drain (id : Nat)
  deriving DecidableEq

inductive Reply
  | done
  | id (id : Nat)
  | told (flag : Bool)
  | command (envelope : Option Envelope)
  | read (notifications : List Notification)

def perform (bus : Bus) : Operation → Reply × Bus
  | .attach => (.id bus.attach.1, bus.attach.2)
  | .detach id => (.done, bus.detach id)
  | .broadcast notification => (.done, bus.broadcast notification)
  | .post id notification => (.told (bus.post id notification).1, (bus.post id notification).2)
  | .send sender command => (.told (bus.send sender command).1, (bus.send sender command).2)
  | .take => (.command bus.next?.1, bus.next?.2)
  | .close => (.done, bus.close)
  | .drain id => (.read (bus.drain id).1, (bus.drain id).2)

/-- Operations and the replies to them. -/
abbrev Log := List (Operation × Reply)

def advance (state : Log × Bus) (operation : Operation) : Log × Bus :=
  (state.1 ++ [(operation, (state.2.perform operation).1)], (state.2.perform operation).2)

/-- What is replied to operations on a new bus, and the bus afterwards. -/
def run (operations : List Operation) : Log × Bus := operations.foldl advance ([], .empty)

theorem run_concat (operations : List Operation) (operation : Operation) :
    run (operations ++ [operation]) = advance (run operations) operation := by
  simp [run]

namespace Log

/-- The ids that were given out. -/
def ids (log : Log) : List Nat :=
  log.filterMap fun
    | (_, .id id) => some id
    | _ => none

/-- The commands that were taken. -/
def taken (log : Log) : List Envelope :=
  log.filterMap fun
    | (_, .command envelope) => envelope
    | _ => none

/-- What a consumer has read. -/
def drained (id : Nat) (log : Log) : List Notification :=
  log.flatMap fun
    | (.drain other, .read notifications) => if other = id then notifications else []
    | _ => []

end Log

/-! ### What the operations tell -/

namespace Operation

/-- The notification that an operation has for a consumer. -/
def news? (id : Nat) : Operation → Option Notification
  | .broadcast notification => some notification
  | .post other notification => if other = id then some notification else none
  | _ => none

def envelope? : Operation → Option Envelope
  | .send sender command => some ⟨sender, command⟩
  | _ => none

/-- The one consumer that an operation is about. -/
def consumer? : Operation → Option Nat
  | .detach id | .post id _ | .send id _ | .drain id => some id
  | _ => none

end Operation

/-- How many consumers have come. -/
def joined (operations : List Operation) : Nat := operations.count .attach

/-- What was done since the consumer with an id came, which the attaches give from 1 on. -/
def behind : Nat → List Operation → List Operation
  | _, [] => []
  | id, .attach :: rest => if id = 1 then rest else behind (id - 1) rest
  | id, _ :: rest => behind id rest

/-- A consumer has come and not gone. -/
def stays (id : Nat) (operations : List Operation) : Bool :=
  0 < id ∧ id ≤ joined operations ∧ .detach id ∉ behind id operations

/-- The broadcasts, and the posts to a consumer, from its coming until its going. -/
def heard (id : Nat) (operations : List Operation) : List Notification :=
  ((behind id operations).takeWhile (· ≠ .detach id)).filterMap (·.news? id)

/-- The commands that were sent until the queue was closed. -/
def sent (operations : List Operation) : List Envelope :=
  (operations.takeWhile (· ≠ .close)).filterMap (·.envelope?)

/-- Of one operation more something is told, unless the mark that ends it stands before. -/
theorem filterMap_until_concat {α : Type} (tell : Operation → Option α) {mark : Operation}
    (none : tell mark = none) (operations : List Operation) (operation : Operation) :
    ((operations ++ [operation]).takeWhile (· ≠ mark)).filterMap tell =
      (operations.takeWhile (· ≠ mark)).filterMap tell ++
        if mark ∈ operations then [] else (tell operation).toList := by
  induction operations with
  | nil =>
    by_cases same : operation = mark
    · simp [same, none]
    · cases told : tell operation <;> simp [same, told]
  | cons first rest ih =>
    by_cases same : first = mark
    · simp [same]
    · have other : mark ≠ first := Ne.symm same
      simp only [List.cons_append, List.takeWhile_cons, same, ne_eq, not_false_eq_true, decide_true,
        if_true, List.mem_cons, other, false_or]
      cases told : tell first with
      | none => rw [List.filterMap_cons_none told, List.filterMap_cons_none told, ih]
      | some given =>
        rw [List.filterMap_cons_some told, List.filterMap_cons_some told, ih, List.cons_append]

theorem behind_of_absent {id : Nat} {operations : List Operation}
    (absent : ¬ (0 < id ∧ id ≤ joined operations)) : behind id operations = [] := by
  fun_induction behind id operations with
  | case1 => rfl
  | case2 rest => simp [joined] at absent
  | case3 id rest other ih =>
    apply ih
    simp only [joined, List.count_cons_self] at absent ⊢
    omega
  | case4 id first rest other ih =>
    apply ih
    rwa [joined, List.count_cons_of_ne (fun same => other same)] at absent

theorem behind_concat (id : Nat) (operations : List Operation) (operation : Operation) :
    behind id (operations ++ [operation]) =
      if 0 < id ∧ id ≤ joined operations then behind id operations ++ [operation] else [] := by
  fun_induction behind id operations with
  | case1 id =>
    have nobody : ¬ (0 < id ∧ id ≤ joined []) := by
      simp only [joined, List.count_nil]
      omega
    rw [if_neg nobody]
    cases operation <;> simp [behind]
  | case2 rest => simp [behind, joined]
  | case3 id rest other ih =>
    have here : (0 < id - 1 ∧ id - 1 ≤ joined rest) ↔
        0 < id ∧ id ≤ joined (.attach :: rest) := by
      simp only [joined, List.count_cons_self]
      omega
    rw [List.cons_append, behind, if_neg other, ih]
    simp only [here]
  | case4 id first rest other ih =>
    have here : joined (first :: rest) = joined rest :=
      List.count_cons_of_ne fun same => other same
    rw [List.cons_append, behind, ih, here]
    exact other

theorem joined_concat (operations : List Operation) (operation : Operation) :
    joined (operations ++ [operation]) =
      joined operations + if operation = .attach then 1 else 0 := by
  by_cases same : operation = .attach
  · simp [joined, same]
  · simp [joined, same]

theorem stays_of_absent {id : Nat} {operations : List Operation}
    (absent : ¬ (0 < id ∧ id ≤ joined operations)) : stays id operations = false := by
  rw [stays, decide_eq_false_iff_not]
  rintro ⟨one, few, -⟩
  exact absent ⟨one, few⟩

theorem stays_concat (id : Nat) (operations : List Operation) (operation : Operation) :
    stays id (operations ++ [operation]) =
      if operation = .attach ∧ id = joined operations + 1 then true
      else stays id operations && operation ≠ .detach id := by
  have count := joined_concat operations operation
  by_cases new : operation = .attach ∧ id = joined operations + 1
  · obtain ⟨rfl, rfl⟩ := new
    simp [stays, count, behind_concat]
  rw [if_neg new]
  by_cases came : 0 < id ∧ id ≤ joined operations
  · have still : id ≤ joined (operations ++ [operation]) := by omega
    have gone : operation ≠ .detach id ↔ .detach id ≠ operation := ne_comm
    simp [stays, came, still, behind_concat, gone, Bool.decide_and]
  · rw [stays_of_absent came, Bool.false_and]
    apply stays_of_absent
    rintro ⟨one, few⟩
    by_cases same : operation = .attach
    · rw [if_pos same] at count
      exact new ⟨same, by omega⟩
    · rw [if_neg same] at count
      exact came ⟨one, by omega⟩

theorem heard_concat (id : Nat) (operations : List Operation) (operation : Operation) :
    heard id (operations ++ [operation]) =
      heard id operations ++ if stays id operations then (operation.news? id).toList else [] := by
  unfold heard
  rw [behind_concat]
  by_cases came : 0 < id ∧ id ≤ joined operations
  · rw [if_pos came, filterMap_until_concat (·.news? id) rfl]
    by_cases gone : .detach id ∈ behind id operations
    · simp [stays, gone]
    · simp [stays, came, gone]
  · simp [came, behind_of_absent came, stays_of_absent came]

theorem sent_concat (operations : List Operation) (operation : Operation) :
    sent (operations ++ [operation]) =
      sent operations ++ if .close ∈ operations then [] else operation.envelope?.toList :=
  filterMap_until_concat Operation.envelope? rfl operations operation

end SealGate.Session.Bus
