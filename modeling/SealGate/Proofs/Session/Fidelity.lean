import Mathlib.Data.List.Induction
import SealGate.Proofs.Session.Ledger
import SealGate.Proofs.Session.Mailboxes

/-! The bus does what the list of operations tells. After whatever was done with it, each mailbox
holds what its consumer has heard and the queue holds the commands that were sent and not taken yet;
so every reply, an id, a delivery, a command or what is read, can be told from the operations. -/

namespace SealGate.Session.Bus

/-! ### Mailboxes -/

/-- The mailbox of a consumer; one that has not come has an empty one. -/
def contents (bus : Bus) (id : Nat) : Mailbox := (bus.box? id).getD ⟨false, [], 0⟩

theorem isAttached_eq (bus : Bus) (id : Nat) : bus.isAttached id = (bus.contents id).attached := by
  unfold isAttached contents
  cases bus.box? id <;> rfl

theorem drain_fst (bus : Bus) (id : Nat) : (bus.drain id).1 = (bus.contents id).waiting := by
  unfold drain contents
  cases bus.box? id <;> rfl

theorem contents_attach (bus : Bus) (id : Nat) :
    bus.attach.2.contents id = if id = bus.boxes.length + 1 then .empty else bus.contents id := by
  rw [contents, box?_attach]
  by_cases new : id = bus.boxes.length + 1
  · rw [if_pos new, if_pos (show id = bus.attach.1 from new), Option.getD_some]
  · rw [if_neg new, if_neg (show id ≠ bus.attach.1 from new), contents]

theorem contents_update (bus : Bus) (id other : Nat) {change : Mailbox → Mailbox}
    (nobody : change ⟨false, [], 0⟩ = ⟨false, [], 0⟩) :
    (bus.update id change).contents other =
      if other = id then change (bus.contents id) else bus.contents other := by
  unfold contents
  rw [box?_update]
  by_cases same : other = id
  · rw [if_pos same, if_pos same]
    cases bus.box? id with
    | none => exact nobody.symm
    | some box => rfl
  · rw [if_neg same, if_neg same]

theorem contents_broadcast (bus : Bus) (notification : Notification) (id : Nat) :
    (bus.broadcast notification).contents id = (bus.contents id).deliver notification := by
  unfold contents
  rw [box?_broadcast]
  cases bus.box? id <;> rfl

theorem contents_of_boxes {before after : Bus} (same : after.boxes = before.boxes) (id : Nat) :
    after.contents id = before.contents id := by
  rw [contents, contents, box?, box?, same]

theorem contents_new (bus : Bus) : bus.contents (bus.boxes.length + 1) = ⟨false, [], 0⟩ := by
  simp [contents, box?]

/-- What becomes of a mailbox by an operation. -/
theorem contents_perform (bus : Bus) (operation : Operation) (id : Nat) :
    (bus.perform operation).2.contents id =
      { attached := if operation = .attach ∧ id = bus.boxes.length + 1 then true
          else (bus.contents id).attached && operation ≠ .detach id
        delivered := (bus.contents id).delivered ++
          if (bus.contents id).attached then (operation.news? id).toList else []
        read := if operation = .drain id then (bus.contents id).delivered.length
          else (bus.contents id).read } := by
  cases operation with
  | attach =>
    rw [perform, contents_attach]
    by_cases new : id = bus.boxes.length + 1
    · simp [new, contents_new, Mailbox.empty]
    · simp [new, Operation.news?]
  | detach gone =>
    rw [perform, detach, contents_update _ _ _ rfl]
    by_cases same : id = gone
    · simp [same, Operation.news?]
    · simp [same, Ne.symm same, Operation.news?]
  | broadcast notification =>
    rw [perform, contents_broadcast, deliver_eq]
    simp [Operation.news?]
  | post addressee notification =>
    rw [perform, post, contents_update _ _ _ rfl]
    by_cases same : id = addressee
    · simp [same, deliver_eq, Operation.news?]
    · simp [same, Ne.symm same, Operation.news?]
  | send sender command =>
    rw [perform, contents_of_boxes (bus.boxes_send sender command)]
    simp [Operation.news?]
  | take =>
    rw [perform, contents_of_boxes bus.boxes_next?]
    simp [Operation.news?]
  | close =>
    have same : (bus.perform .close).2.boxes = bus.boxes := rfl
    rw [contents_of_boxes same]
    simp [Operation.news?]
  | drain reader =>
    rw [perform, drain, contents_update _ _ _ rfl]
    by_cases same : id = reader
    · simp [same, Mailbox.markRead, Operation.news?]
    · simp [same, Ne.symm same, Operation.news?]

theorem length_boxes_perform (bus : Bus) (operation : Operation) :
    (bus.perform operation).2.boxes.length =
      bus.boxes.length + if operation = .attach then 1 else 0 := by
  cases operation with
  | attach => simp [perform, attach]
  | detach id => simp [perform, detach, update_frame]
  | broadcast notification => simp [perform, broadcast]
  | post id notification => simp [perform, post, update_frame]
  | send sender command => simp [perform, boxes_send]
  | take => simp [perform, boxes_next?]
  | close => rfl
  | drain id => simp [perform, drain, update_frame]

theorem ids_perform (bus : Bus) (operation : Operation) :
    Log.ids [(operation, (bus.perform operation).1)] =
      if operation = .attach then [bus.boxes.length + 1] else [] := by
  cases operation <;> simp [Log.ids, perform, attach]

theorem drained_perform (bus : Bus) (operation : Operation) (id : Nat) :
    Log.drained id [(operation, (bus.perform operation).1)] =
      if operation = .drain id then (bus.contents id).waiting else [] := by
  cases operation with
  | drain reader =>
    by_cases same : reader = id
    · simp [Log.drained, perform, drain_fst, same]
    · simp [Log.drained, perform, same]
  | _ => simp [Log.drained, perform]

theorem closed_perform (bus : Bus) (operation : Operation) :
    (bus.perform operation).2.closed = (bus.closed || operation = .close) := by
  cases operation with
  | send sender command =>
    simp only [perform, send]
    split <;> simp
  | take =>
    simp only [perform, next?]
    split <;> simp
  | _ => simp [perform, attach, detach, broadcast, post, close, drain, update_frame]

theorem queue_perform (bus : Bus) (operation : Operation) :
    (bus.perform operation).2.queue =
      if operation = .close then []
      else (if operation = .take then bus.queue.tail else bus.queue) ++
        if bus.closed then [] else operation.envelope?.toList := by
  cases operation with
  | send sender command =>
    simp only [perform, send]
    split <;> simp_all [Operation.envelope?]
  | take =>
    simp only [perform, next?]
    split <;> simp_all [Operation.envelope?]
  | _ =>
    simp [perform, attach, detach, broadcast, post, close, drain, update_frame,
      Operation.envelope?]

theorem next?_fst (bus : Bus) : bus.next?.1 = bus.queue.head? := by
  unfold next?
  cases bus.queue <;> rfl

theorem taken_perform (bus : Bus) (operation : Operation) :
    Log.taken [(operation, (bus.perform operation).1)] =
      if operation = .take then bus.queue.head?.toList else [] := by
  cases operation with
  | take => cases queue : bus.queue <;> simp [Log.taken, perform, next?, queue]
  | _ => simp [Log.taken, perform]

/-- What is taken comes off the front of what waits, and what is sent comes behind it. -/
theorem taken_append_queue (bus : Bus) {operation : Operation} (still : operation ≠ .close) :
    Log.taken [(operation, (bus.perform operation).1)] ++ (bus.perform operation).2.queue =
      bus.queue ++ if bus.closed then [] else operation.envelope?.toList := by
  rw [taken_perform, queue_perform, if_neg still]
  by_cases takes : operation = .take
  · cases queue : bus.queue <;> simp [takes]
  · simp [takes]

/-- The bus is as the operations tell, and so are the replies to them. -/
structure Agrees (operations : List Operation) (log : Log) (bus : Bus) : Prop where
  boxes : bus.boxes.length = joined operations
  ids : log.ids = List.range' 1 (joined operations)
  attached : ∀ id, (bus.contents id).attached = stays id operations
  delivered : ∀ id, (bus.contents id).delivered = heard id operations
  within : ∀ id, (bus.contents id).read ≤ (bus.contents id).delivered.length
  drained : ∀ id, log.drained id = (bus.contents id).delivered.take (bus.contents id).read
  closed : bus.closed = decide (.close ∈ operations)
  queue : ∃ dropped, log.taken ++ bus.queue ++ dropped = sent operations ∧
    (.close ∉ operations → dropped = []) ∧ (.close ∈ operations → bus.queue = [])

theorem agrees_empty : Agrees [] [] .empty where
  boxes := rfl
  ids := rfl
  attached := by
    intro id
    have nobody : ¬ (0 < id ∧ id ≤ joined []) := by
      simp only [joined, List.count_nil]
      omega
    rw [stays_of_absent nobody]
    simp [contents, box?, empty]
  delivered := by simp [contents, box?, empty, heard, behind]
  within := by simp [contents, box?, empty]
  drained := by simp [contents, box?, empty, Log.drained]
  closed := rfl
  queue := ⟨[], rfl, fun _ => rfl, fun _ => rfl⟩

variable {operations : List Operation} {log : Log} {bus : Bus}

namespace Agrees

theorem concat_boxes (agrees : Agrees operations log bus) (operation : Operation) :
    (bus.perform operation).2.boxes.length = joined (operations ++ [operation]) := by
  rw [length_boxes_perform, agrees.boxes, joined_concat]

theorem concat_ids (agrees : Agrees operations log bus) (operation : Operation) :
    Log.ids (log ++ [(operation, (bus.perform operation).1)]) =
      List.range' 1 (joined (operations ++ [operation])) := by
  have split : Log.ids (log ++ [(operation, (bus.perform operation).1)]) =
      log.ids ++ Log.ids [(operation, (bus.perform operation).1)] := List.filterMap_append
  rw [split, agrees.ids, ids_perform, joined_concat, agrees.boxes]
  by_cases new : operation = .attach
  · rw [if_pos new, if_pos new, List.range'_concat, Nat.one_mul, Nat.add_comm]
  · rw [if_neg new, if_neg new, List.append_nil, Nat.add_zero]

theorem concat_attached (agrees : Agrees operations log bus) (operation : Operation) (id : Nat) :
    ((bus.perform operation).2.contents id).attached = stays id (operations ++ [operation]) := by
  rw [contents_perform, stays_concat, agrees.boxes, agrees.attached]

theorem concat_delivered (agrees : Agrees operations log bus) (operation : Operation)
    (id : Nat) :
    ((bus.perform operation).2.contents id).delivered = heard id (operations ++ [operation]) := by
  rw [contents_perform, heard_concat, agrees.delivered, agrees.attached]

theorem drained_concat (log : Log) (bus : Bus) (operation : Operation) (id : Nat) :
    Log.drained id (log ++ [(operation, (bus.perform operation).1)]) =
      log.drained id ++ if operation = .drain id then (bus.contents id).waiting else [] := by
  rw [← drained_perform]
  exact List.flatMap_append

theorem concat_within (agrees : Agrees operations log bus) (operation : Operation) (id : Nat) :
    ((bus.perform operation).2.contents id).read ≤
      ((bus.perform operation).2.contents id).delivered.length := by
  have within := agrees.within id
  simp only [contents_perform, List.length_append]
  split <;> omega

theorem concat_drained (agrees : Agrees operations log bus) (operation : Operation) (id : Nat) :
    Log.drained id (log ++ [(operation, (bus.perform operation).1)]) =
      ((bus.perform operation).2.contents id).delivered.take
        ((bus.perform operation).2.contents id).read := by
  rw [drained_concat, agrees.drained, contents_perform]
  by_cases read : operation = .drain id
  · simp [read, Mailbox.waiting, Operation.news?]
  · simp only [read, if_false, List.append_nil]
    exact (List.take_append_of_le_length (agrees.within id)).symm

theorem concat_closed (agrees : Agrees operations log bus) (operation : Operation) :
    (bus.perform operation).2.closed = decide (.close ∈ operations ++ [operation]) := by
  rw [closed_perform, agrees.closed]
  by_cases same : operation = .close
  · simp [same]
  · simp [same, Ne.symm same]

theorem concat_queue (agrees : Agrees operations log bus) (operation : Operation) :
    ∃ dropped, Log.taken (log ++ [(operation, (bus.perform operation).1)]) ++
        (bus.perform operation).2.queue ++ dropped = sent (operations ++ [operation]) ∧
      (.close ∉ operations ++ [operation] → dropped = []) ∧
      (.close ∈ operations ++ [operation] → (bus.perform operation).2.queue = []) := by
  obtain ⟨dropped, whole, opened, shut⟩ := agrees.queue
  have split : Log.taken (log ++ [(operation, (bus.perform operation).1)]) =
      log.taken ++ Log.taken [(operation, (bus.perform operation).1)] := List.filterMap_append
  rw [split, sent_concat, ← whole]
  by_cases closes : operation = .close
  · rw [taken_perform, queue_perform]
    refine ⟨bus.queue ++ dropped, ?_, ?_, ?_⟩
    · simp [closes, Operation.envelope?]
    · simp [closes]
    · simp [closes]
  have still : .close ∈ operations ++ [operation] ↔ .close ∈ operations := by
    simp [Ne.symm closes]
  rw [List.append_assoc log.taken, taken_append_queue bus closes, still, agrees.closed]
  refine ⟨dropped, ?_, opened, ?_⟩
  · by_cases closed : .close ∈ operations
    · simp [closed]
    · simp [closed, opened closed]
  · intro closed
    rw [queue_perform, if_neg closes, shut closed, agrees.closed]
    simp [closed]

theorem concat (agrees : Agrees operations log bus) (operation : Operation) :
    Agrees (operations ++ [operation]) (log ++ [(operation, (bus.perform operation).1)])
      (bus.perform operation).2 where
  boxes := agrees.concat_boxes operation
  ids := agrees.concat_ids operation
  attached := agrees.concat_attached operation
  delivered := agrees.concat_delivered operation
  within := agrees.concat_within operation
  drained := agrees.concat_drained operation
  closed := agrees.concat_closed operation
  queue := agrees.concat_queue operation

end Agrees

theorem agrees_run (operations : List Operation) :
    Agrees operations (run operations).1 (run operations).2 := by
  induction operations using List.reverseRecOn with
  | nil => exact agrees_empty
  | append_singleton operations operation ih =>
    rw [run_concat]
    exact ih.concat operation

/-- Ids are counted here without a limit. No run that is short enough to happen reaches 2 ^ 64. -/
theorem id_lt_of_run {operations : List Operation} (few : operations.length < 2 ^ 64 - 1) :
    (run operations).2.attach.1 < 2 ^ 64 ∧ ∀ id ∈ (run operations).1.ids, id < 2 ^ 64 := by
  have agrees := agrees_run operations
  have joins : joined operations ≤ operations.length := List.count_le_length
  refine ⟨?_, ?_⟩
  · have next : (run operations).2.attach.1 = joined operations + 1 :=
      congrArg (· + 1) agrees.boxes
    omega
  · intro id mem
    rw [agrees.ids, List.mem_range'_1] at mem
    omega

/-! ### What can be relied on -/

theorem box?_perform_other (bus : Bus) {operation : Operation} {id other : Nat}
    (about : operation.consumer? = some id) (different : other ≠ id) :
    (bus.perform operation).2.box? other = bus.box? other := by
  have updated (change : Mailbox → Mailbox) :
      (bus.update id change).box? other = bus.box? other := by
    rw [box?_update, if_neg different]
  cases operation with
  | detach gone =>
    obtain rfl := Option.some.inj about
    exact updated _
  | post addressee notification =>
    obtain rfl := Option.some.inj about
    exact updated _
  | send sender command => simp only [perform, box?, boxes_send]
  | drain reader =>
    obtain rfl := Option.some.inj about
    exact updated _
  | _ => cases about

/-- The replies to operations and the bus afterwards, as the operations tell. -/
structure IsFaithful (operations : List Operation) (log : Log) (bus : Bus) : Prop where
  /-- The ids that were given out are 1, 2, 3 and so on, and the next one follows. -/
  ids : log.ids = List.range' 1 (joined operations)
  next : bus.attach.1 = joined operations + 1
  /-- What a consumer has read, and what it would read now, is what it has heard. -/
  heard : ∀ id, log.drained id ++ (bus.drain id).1 = heard id operations
  /-- A post is delivered exactly if its consumer is attached. -/
  posts : ∀ id notification, (bus.post id notification).1 = stays id operations
  /-- What is done with one consumer, old or new, changes no other mailbox. -/
  apart : ∀ operation id other, operation.consumer? = some id → other ≠ id →
    (bus.perform operation).2.box? other = bus.box? other
  newcomer : ∀ other, other ≠ bus.attach.1 → bus.attach.2.box? other = bus.box? other
  /-- The commands that were taken are the first that were sent, and the next one follows. -/
  taken : log.taken <+: sent operations
  waiting : .close ∉ operations → log.taken ++ bus.queue = sent operations
  command : bus.next?.1 =
    if .close ∈ operations then none else (sent operations)[log.taken.length]?
  sends : ∀ sender command, (bus.send sender command).1 = false ↔ .close ∈ operations

/-- Whatever is done with a bus from its start on, its replies are what the operations tell. -/
theorem isFaithful_of_run (operations : List Operation) :
    IsFaithful operations (run operations).1 (run operations).2 := by
  have agrees := agrees_run operations
  obtain ⟨dropped, whole, opened, shut⟩ := agrees.queue
  refine ⟨agrees.ids, ?_, ?_, ?_, ?_, ?_, ?_, ?_, ?_, ?_⟩
  · exact congrArg (· + 1) agrees.boxes
  · intro id
    rw [drain_fst, agrees.drained, ← agrees.delivered, Mailbox.waiting, List.take_append_drop]
  · intro id notification
    rw [← agrees.attached, ← isAttached_eq]
    rfl
  · intro operation id other
    exact box?_perform_other _
  · intro other old
    rw [box?_attach, if_neg old]
  · rw [← whole, List.append_assoc]
    exact List.prefix_append _ _
  · intro still
    rw [opened still, List.append_nil] at whole
    exact whole
  · rw [next?_fst]
    by_cases closed : .close ∈ operations
    · rw [if_pos closed, shut closed]
      rfl
    · rw [if_neg closed, ← whole, opened closed, List.append_nil,
        List.getElem?_append_right (Nat.le_refl _), Nat.sub_self, List.head?_eq_getElem?]
  · intro sender command
    unfold send
    rw [agrees.closed]
    by_cases closed : .close ∈ operations <;> simp [closed]

end SealGate.Session.Bus
