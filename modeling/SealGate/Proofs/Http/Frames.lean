import SealGate.Proofs.Http.Delivery

/-! A body while it is handed out. Whoever sends it on polls it for frames, asks whether it is over
and how much is still to come, or takes all that is left in one piece. These views agree after any
number of polls: what was handed out and what is left make up the whole, and a body that is held in
memory always knows what is left. A streamed body promises nothing that it does not know. -/

namespace SealGate.Http

variable {ε : Type}

theorem emitted_append (items rest : List (Except ε Bytes)) :
    emitted (items ++ rest) = emitted items ++ emitted rest := by
  simp only [emitted, List.filterMap_append, List.flatten_append]

/-- Items without a failure are chunks. -/
theorem exists_chunks {items : List (Except ε Bytes)} (clean : ∀ error, .error error ∉ items) :
    ∃ chunks : List Bytes, items = chunks.map .ok := by
  induction items with
  | nil => exact ⟨[], rfl⟩
  | cons item items ih =>
    obtain ⟨chunks, rfl⟩ := ih fun error mem => clean error (List.mem_cons_of_mem _ mem)
    cases item with
    | error error => exact absurd List.mem_cons_self (clean error)
    | ok chunk => exact ⟨chunk :: chunks, rfl⟩

namespace Body

/-- What polling a number of times hands out, and the body behind it. -/
def poll : Nat → Body ε → List (Except ε Bytes) × Body ε
  | 0, body => ([], body)
  | count + 1, body =>
    let (frame, rest) := body.frame
    let (frames, last) := poll count rest
    (frame.toList ++ frames, last)

/-- All that polling hands out, however often the body is polled. -/
def Yields (body : Body ε) (frames : List (Except ε Bytes)) : Prop :=
  ∃ enough, ∀ count ≥ enough, (body.poll count).1 = frames

/-- The bytes that a body was given. -/
def whole : Body ε → Bytes
  | .buffered bytes => bytes.getD []
  | .streamed items => emitted items

/-- The first failure that a body was given. -/
def fault? : Body ε → Option ε
  | .buffered _ => none
  | .streamed items => (untilError items).2

variable (body : Body ε) (count : Nat)

/-! ### Polling -/

theorem frame_fst : body.frame.1 = body.items.head? := by
  cases body with
  | buffered held =>
    cases held with
    | none => rfl
    | some bytes => by_cases none : bytes = [] <;> simp [frame, items, none]
  | streamed items => cases items <;> rfl

theorem items_frame : body.frame.2.items = body.items.tail := by
  cases body with
  | buffered held =>
    cases held with
    | none => rfl
    | some bytes => by_cases none : bytes = [] <;> simp [frame, items, none]
  | streamed items => cases items <;> rfl

theorem poll_fst : (body.poll count).1 = body.items.take count := by
  induction count generalizing body with
  | zero => rfl
  | succ count ih =>
    show body.frame.1.toList ++ (body.frame.2.poll count).1 = _
    rw [ih, frame_fst, items_frame]
    cases body.items with
    | nil => rw [List.tail_nil, List.take_nil, List.take_nil]; rfl
    | cons item items => rfl

theorem items_poll : (body.poll count).2.items = body.items.drop count := by
  induction count generalizing body with
  | zero => rfl
  | succ count ih =>
    show (body.frame.2.poll count).2.items = _
    rw [ih, items_frame, List.drop_tail]

theorem yields_items : body.Yields body.items := by
  refine ⟨body.items.length, fun count enough => ?_⟩
  rw [poll_fst, List.take_of_length_le enough]

theorem yields_poll : (body.poll count).2.Yields (body.items.drop count) := by
  rw [← items_poll]
  exact yields_items _

/-- A body stays in memory, or streamed. -/
theorem poll_buffered (held : Option Bytes) :
    ∃ left, ((buffered held : Body ε).poll count).2 = .buffered left := by
  induction count generalizing held with
  | zero => exact ⟨held, rfl⟩
  | succ count ih => cases held <;> exact ih none

theorem poll_streamed (items : List (Except ε Bytes)) :
    ((streamed items).poll count).2 = .streamed (items.drop count) := by
  induction count generalizing items with
  | zero => rfl
  | succ count ih =>
    cases items with
    | nil => exact (ih []).trans (by rw [List.drop_nil, List.drop_nil])
    | cons item items => exact ih items

/-! ### What is left -/

theorem join_eq (items : List (Except ε Bytes)) :
    join items = (untilError items).2.elim (Except.ok (emitted items)) Except.error := by
  induction items with
  | nil => rfl
  | cons item items ih =>
    cases item with
    | error error => rfl
    | ok chunk =>
      have tail : (untilError (.ok chunk :: items)).2 = (untilError items).2 := rfl
      rw [join, ih, tail]
      cases (untilError items).2 <;> rfl

theorem emitted_items : emitted body.items = body.whole := by
  cases body with
  | streamed items => rfl
  | buffered held =>
    by_cases none : held.getD [] = [] <;> simp [items, whole, none, emitted, Except.toOption]

theorem untilError_items : (untilError body.items).2 = body.fault? := by
  cases body with
  | streamed items => rfl
  | buffered held => by_cases none : held.getD [] = [] <;> simp [items, fault?, none, untilError]

theorem collect_eq :
    body.collect = body.fault?.elim (Except.ok body.whole) Except.error := by
  rw [← join_items, join_eq, emitted_items, untilError_items]

/-- What was handed out and what is left make up the body. -/
theorem whole_poll : emitted (body.poll count).1 ++ (body.poll count).2.whole = body.whole := by
  rw [← emitted_items, ← emitted_items, poll_fst, items_poll, ← emitted_append,
    List.take_append_drop]

/-- A failure that was not handed out is still to come. -/
theorem fault?_poll (clean : ∀ error, .error error ∉ (body.poll count).1) :
    (body.poll count).2.fault? = body.fault? := by
  obtain ⟨chunks, frames⟩ := exists_chunks clean
  rw [poll_fst] at frames
  have split : body.items = chunks.map .ok ++ body.items.drop count := by
    rw [← frames, List.take_append_drop]
  rw [← untilError_items, ← untilError_items, items_poll, split, untilError_append, ← split]

/-! ### The views -/

/-- A body in memory is over when no frame is left, and knows how much is left. -/
theorem views_buffered (held : Option Bytes) :
    ((buffered held : Body ε).isEnd = true ↔ (buffered held : Body ε).items = []) ∧
      (buffered held : Body ε).sizeHint =
        ((emitted (buffered held : Body ε).items).length,
          some (emitted (buffered held : Body ε).items).length) := by
  rw [emitted_items]
  refine ⟨?_, rfl⟩
  by_cases none : held.getD [] = [] <;> simp [isEnd, items, none]

/-- However often a body has been polled, its views agree on what is left, which is all that polling
it further hands out. Unless a failure was among the frames, taking the rest in one piece gives the
bytes behind them, or the first failure that there is. A body in memory is over exactly if no frame
is left and hints at exactly the bytes that are left. A streamed body hands out what it was given,
in order and unchanged, is never over while a chunk is left, and hints at no more than is left. -/
theorem polled_views_agree (body : Body ε) (count : Nat) :
    let frames := (body.poll count).1
    let rest := (body.poll count).2
    ∃ left, rest.Yields left ∧
      ((∀ error, .error error ∉ frames) →
        match body.fault? with
        | some error => rest.collect = .error error
        | none => ∃ behind, rest.collect = .ok behind ∧ emitted frames ++ behind = body.whole) ∧
      (∀ held, body = .buffered held →
        (rest.isEnd = true ↔ left = []) ∧
        rest.sizeHint = ((emitted left).length, some (emitted left).length)) ∧
      ∀ given, body = .streamed given →
        frames = given.take count ∧ left = given.drop count ∧
        (rest.isEnd = true → ∀ chunk, .ok chunk ∉ left) ∧
        rest.sizeHint.1 ≤ (emitted left).length := by
  intro frames rest
  refine ⟨body.items.drop count, yields_poll body count, fun clean => ?_, fun held same => ?_,
    fun given same => ?_⟩
  · have still := fault?_poll body count clean
    have collected := rest.collect_eq
    rw [still] at collected
    split
    · rename_i error fault
      rw [collected, fault]
      rfl
    · rename_i sound
      rw [collected, sound]
      exact ⟨rest.whole, rfl, whole_poll body count⟩
  · subst same
    obtain ⟨left, buffered⟩ := poll_buffered (ε := ε) count held
    have views := views_buffered (ε := ε) left
    rw [← buffered, items_poll] at views
    exact views
  · subst same
    have streamed := poll_streamed count given
    refine ⟨poll_fst _ count, rfl, ?_, ?_⟩
    · intro ended
      rw [show rest = _ from streamed] at ended
      cases ended
    · rw [show rest = _ from streamed]
      exact Nat.zero_le _

/-- Two chunks, one of them empty, come before a failure, and one behind it. -/
theorem polled_views_agree_of_broken :
    let body : Body String :=
      .streamed [.ok [1, 2], .ok [], .error "upstream went away", .ok [3]]
    (∀ error, .error error ∉ (body.poll 2).1) ∧ (body.poll 2).1 = [.ok [1, 2], .ok []] ∧
      (body.poll 2).2.collect = .error "upstream went away" := by
  intro body
  have clean : ∀ error, .error error ∉ (body.poll 2).1 := by
    intro error mem
    simp [body, poll, frame] at mem
  obtain ⟨left, -, collected, -, streamed⟩ := polled_views_agree body 2
  exact ⟨clean, (streamed _ rfl).1, collected clean⟩

end Body

end SealGate.Http
