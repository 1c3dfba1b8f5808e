import SealGate.Session.Bus

/-! What consumers are sent. A broadcast reaches every consumer that is attached and a post the one
that it is addressed to; each notification stands behind what was delivered before, and nothing else
in a mailbox changes. -/

namespace SealGate.Session.Bus

variable {bus before after : Bus}

/-- Every mailbox gets the news of its consumer and is otherwise as it was. -/
def Sends (before after : Bus) (news : Nat → List Notification) : Prop :=
  ∀ id, after.box? id =
    (before.box? id).map fun box => { box with delivered := box.delivered ++ news id }

theorem Sends.nothing (same : after.boxes = before.boxes) : before.Sends after fun _ => [] := by
  intro id
  unfold box?
  rw [same]
  split
  · rfl
  · cases before.boxes[id - 1]? <;> simp

theorem isAttached_of_box {id : Nat} {box : Mailbox} (h : bus.box? id = some box) :
    bus.isAttached id = box.attached := by
  rw [isAttached, h]
  rfl

/-- A notification is put behind those that were delivered, if the consumer is attached. -/
theorem deliver_eq (box : Mailbox) (notification : Notification) :
    box.deliver notification =
      { box with delivered := box.delivered ++ if box.attached then [notification] else [] } := by
  obtain ⟨attached, delivered, read⟩ := box
  cases attached <;> simp [Mailbox.deliver]

theorem box?_broadcast (bus : Bus) (notification : Notification) (id : Nat) :
    (bus.broadcast notification).box? id = (bus.box? id).map (·.deliver notification) := by
  unfold box? broadcast
  split
  · rfl
  · exact List.getElem?_map

theorem sends_broadcast (bus : Bus) (notification : Notification) :
    bus.Sends (bus.broadcast notification) fun id =>
      if bus.isAttached id then [notification] else [] := by
  intro id
  rw [box?_broadcast]
  cases found : bus.box? id with
  | none => rfl
  | some box => simp only [Option.map_some, deliver_eq, isAttached_of_box found]

theorem box?_attach (bus : Bus) (id : Nat) :
    bus.attach.2.box? id = if id = bus.attach.1 then some .empty else bus.box? id := by
  unfold attach box?
  by_cases nobody : id = 0
  · simp [nobody]
  simp only [if_neg nobody]
  rcases Nat.lt_trichotomy (id - 1) bus.boxes.length with inside | last | behind
  · rw [List.getElem?_append_left inside, if_neg (by omega)]
  · rw [last, List.getElem?_concat_length, if_pos (by omega)]
  · have longer : (bus.boxes ++ [Mailbox.empty]).length ≤ id - 1 := by
      rw [List.length_append]
      exact behind
    rw [List.getElem?_eq_none longer, List.getElem?_eq_none (by omega), if_neg (by omega)]

theorem box?_update (id other : Nat) (change : Mailbox → Mailbox) :
    (bus.update id change).box? other =
      if other = id then (bus.box? id).map change else bus.box? other := by
  unfold update box?
  by_cases none : id = 0
  · subst none
    by_cases same : other = 0 <;> simp [same]
  by_cases nobody : other = 0
  · simp [nobody, Ne.symm none]
  simp only [if_neg none, if_neg nobody, List.getElem?_modify]
  by_cases same : other = id
  · simp [same]
  · have apart : id - 1 ≠ other - 1 := by omega
    simp [same, apart]

/-- No mailbox comes or goes, and commands wait as before. -/
theorem update_frame (bus : Bus) (id : Nat) (change : Mailbox → Mailbox) :
    (bus.update id change).boxes.length = bus.boxes.length ∧
      (bus.update id change).queue = bus.queue ∧ (bus.update id change).closed = bus.closed := by
  unfold update
  split
  · exact ⟨rfl, rfl, rfl⟩
  · exact ⟨List.length_modify _ _ _, rfl, rfl⟩

theorem boxes_send (bus : Bus) (sender : Nat) (command : Command) :
    (bus.send sender command).2.boxes = bus.boxes := by
  unfold send
  split <;> rfl

theorem boxes_next? (bus : Bus) : bus.next?.2.boxes = bus.boxes := by
  unfold next?
  split <;> rfl

theorem sends_post (bus : Bus) (id : Nat) (notification : Notification) :
    bus.Sends (bus.post id notification).2 fun other =>
      if other = id ∧ bus.isAttached id then [notification] else [] := by
  intro other
  unfold post
  rw [box?_update]
  by_cases same : other = id
  · subst same
    simp only [if_true, true_and]
    cases found : bus.box? other with
    | none => rfl
    | some box => simp only [Option.map_some, deliver_eq, isAttached_of_box found]
  · simp only [same, if_false, false_and]
    cases bus.box? other <;> simp

end SealGate.Session.Bus
