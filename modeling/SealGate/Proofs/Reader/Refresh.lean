import Mathlib.Data.List.Induction
import SealGate.Proofs.Reader.Gathering

/-! What an index handle answers over a run, while the origin changes as it likes. The origin is
asked for the index once when a refresh is forced, and when something else is asked of the handle
that holds no catalog; a relative path asks for nothing. The catalog that is held is always the one
of the last fetch that gave a catalog, so a fetch that fails, at whatever stage, leaves it, and
whatever is answered is computed from it. -/

namespace SealGate

open Http Json Vault Origin

namespace Reader.Index

/-! ### Answers of the origin -/

/-- The catalog of an object that opens with the key and has the content type and the text of an
index. -/
def opened? (key : MasterKey) (data : Bytes) : Option Catalog :=
  (StoredFile.decode data key).toOption.bind fun file =>
    if file.info.contentType = contentType then
      ((Node.ofBytes? file.content).bind IndexFile.ofNode?).map fun index =>
        Catalog.ofEntries index.files
    else none

/-- The catalog of a reply: that of the object, or the empty one if there is no object. -/
def catalogOf? (key : MasterKey) : Except (Option String) Answer → Option Catalog
  | .ok (.response response) =>
    if response.status = 404 then some .empty
    else if response.status = 200 ∨ response.status = 206 then
      response.body.collect.toOption.bind (opened? key)
    else none
  | _ => none

variable {index : Index} {link : Link}

theorem toOption_decode (data : Bytes) (key : MasterKey) :
    (decode data key).toOption = opened? key data := by
  rw [decode, opened?]
  cases StoredFile.decode data key with
  | error error => rfl
  | ok file =>
    simp only [bind, Except.bind, Except.toOption, Option.bind_some]
    by_cases typed : file.info.contentType = contentType
    · rw [if_neg (not_not.2 typed), if_pos typed]
      cases (Node.ofBytes? file.content).bind IndexFile.ofNode? <;> rfl
    · rw [if_pos typed, if_neg typed]
      rfl

theorem fetch_of_missing (failed : (link.fetch objectName none).1 = .error .notFound) :
    (index.fetch link).1 = .ok .empty := by
  unfold fetch
  split
  next => rfl
  next other got =>
    rw [got] at failed
    exact absurd (Except.error.inj failed) other
  next got =>
    rw [got] at failed
    cases failed

theorem fetch_of_error {error : Error} (failed : (link.fetch objectName none).1 = .error error)
    (other : error ≠ .notFound) : (index.fetch link).1 = .error error := by
  unfold fetch
  split
  next got =>
    rw [got] at failed
    exact absurd (Except.error.inj failed).symm other
  next got =>
    rw [got] at failed
    exact congrArg Except.error (Except.error.inj failed)
  next got =>
    rw [got] at failed
    cases failed

theorem fetch_of_ok {data : Bytes} (held : (link.fetch objectName none).1 = .ok data) :
    (index.fetch link).1 = decode data index.key := by
  unfold fetch
  split
  next got =>
    rw [got] at held
    cases held
  next got =>
    rw [got] at held
    cases held
  next got =>
    rw [got] at held
    rw [Except.ok.inj held]

/-- A fetch asks for the index once and gives the catalog of the answer. -/
theorem fetch_spec (index : Index) (link : Link) :
    (index.fetch link).1.toOption = catalogOf? index.key (link.reply link.sent request) ∧
      (index.fetch link).2 = link.asked request := by
  refine ⟨?_, by rw [fetch_link, Link.fetch_snd]; rfl⟩
  by_cases answered : ∃ response, link.reply link.sent request = .ok (.response response)
  · obtain ⟨response, answered⟩ := answered
    rw [answered, catalogOf?]
    by_cases missing : response.status = 404
    · rw [if_pos missing, fetch_of_missing (Link.fetch_of_missing answered missing)]
      rfl
    rw [if_neg missing]
    by_cases good : response.status = 200 ∨ response.status = 206
    · have fetched := Link.fetch_of_good answered good
      rw [if_pos good]
      cases collected : response.body.collect with
      | error fault =>
        rw [collected] at fetched
        rw [fetch_of_error fetched (by cases fault <;> simp [ReadFault.toError])]
        rfl
      | ok data =>
        rw [collected] at fetched
        rw [fetch_of_ok fetched, toOption_decode]
        rfl
    · rw [if_neg good, fetch_of_error (Link.fetch_of_refused answered good missing) (by simp)]
      rfl
  · obtain ⟨error, failed, other⟩ := Link.fetch_of_unanswered fun response same =>
      answered ⟨response, same⟩
    rw [fetch_of_error failed other]
    rcases reply : link.reply link.sent request with cause | answer
    · rfl
    · cases answer with
      | response response => exact absurd ⟨response, reply⟩ answered
      | _ => rfl

/-- A fetch that gives a catalog replaces the one that is held. -/
theorem refetch_of_given {catalog : Catalog}
    (given : catalogOf? index.key (link.reply link.sent request) = some catalog) :
    index.refetch link =
      (.ok catalog, { index with catalog := some catalog }, link.asked request) := by
  obtain ⟨result, asked⟩ := index.fetch_spec link
  rw [given] at result
  rw [refetch, ← asked]
  rcases fetched : index.fetch link with ⟨error | other, later⟩ <;> rw [fetched] at result
  · cases result
  · obtain rfl := Option.some.inj result
    rfl

/-- A fetch that fails leaves the one that is held. -/
theorem refetch_of_none (fails : catalogOf? index.key (link.reply link.sent request) = none) :
    ∃ error, index.refetch link = (.error error, index, link.asked request) := by
  obtain ⟨result, asked⟩ := index.fetch_spec link
  rw [fails] at result
  rw [refetch, ← asked]
  rcases fetched : index.fetch link with ⟨error | other, later⟩ <;> rw [fetched] at result
  · exact ⟨error, rfl⟩
  · cases result

/-! ### Operations -/

/-- What can be asked of an index. -/
inductive Operation
  | refresh (force : Bool)
  | size
  | byPath (path : String)
  | byId (fileId : String)
  | listFolder (path : String)
  deriving DecidableEq

inductive Reply
  | refreshed
  | size (count : Nat)
  | entry (entry : Option Entry)
  | listing (entries : List Entry)
  deriving DecidableEq

/-- An outcome whose result is changed. -/
def Outcome.map {α β : Type} (change : α → β) (outcome : Outcome α) : Outcome β :=
  (outcome.1.map change, outcome.2)

namespace Operation

def perform (operation : Operation) (index : Index) (link : Link) : Outcome Reply :=
  match operation with
  | refresh force => Outcome.map (fun _ => .refreshed) (index.refresh force link)
  | size => Outcome.map .size (index.size link)
  | byPath path => Outcome.map .entry (index.byPath path link)
  | byId fileId => Outcome.map .entry (index.byId fileId link)
  | listFolder path => Outcome.map .listing (index.listFolder path link)

/-- The reply that a catalog gives. -/
def answer : Operation → Catalog → Reply
  | refresh _, _ => .refreshed
  | size, catalog => .size catalog.size
  | byPath path, catalog => .entry (catalog.byPath? (withoutSlash path))
  | byId fileId, catalog => .entry (catalog.byId? fileId)
  | listFolder path, catalog => .listing (catalog.listFolder path)

/-- The path that is asked for. -/
def path? : Operation → Option String
  | byPath path => some path
  | listFolder path => some path
  | _ => none

/-- The path that is asked for does not start with a slash. -/
def IsRelative (operation : Operation) : Prop :=
  ∃ path, operation.path? = some path ∧ path.toList.head? ≠ some '/'

variable {operation : Operation}

theorem perform_of_relative (relative : operation.IsRelative) (index : Index) (link : Link) :
    operation.perform index link = (.error (.invalidRequest .relativePath), index, link) := by
  obtain ⟨path, named, start⟩ := relative
  cases operation with
  | byPath own =>
    obtain rfl := Option.some.inj named
    simp [perform, Index.byPath, isAbsolute, start, Outcome.map]
    rfl
  | listFolder own =>
    obtain rfl := Option.some.inj named
    simp [perform, Index.listFolder, isAbsolute, start, Outcome.map]
    rfl
  | _ => cases named

theorem map_refresh {β : Type} (reply : β) (force : Bool) (index : Index) (link : Link) :
    Outcome.map (fun _ => reply) (index.refresh force link) = Outcome.map (fun _ => reply)
      (if force = true then index.refetch link else index.held link) := by
  rw [Index.refresh]
  rcases (if force = true then index.refetch link else index.held link) with ⟨error | _, after⟩ <;>
    rfl

theorem map_query {α β : Type} (reply : α → β) (ask : Catalog → α) (index : Index) (link : Link) :
    Outcome.map reply (index.query ask link) =
      Outcome.map (fun catalog => reply (ask catalog)) (index.held link) := by
  rw [Index.query]
  rcases index.held link with ⟨error | catalog, after⟩ <;> rfl

/-- Otherwise the catalog is fetched, or the held one taken, and the reply computed from it. -/
theorem perform_of_absolute (absolute : ¬ operation.IsRelative) (index : Index) (link : Link) :
    operation.perform index link = Outcome.map operation.answer
      (if operation = refresh true then index.refetch link else index.held link) := by
  have starts : ∀ path, operation.path? = some path → isAbsolute path = true := by
    intro path named
    by_contra other
    exact absolute ⟨path, named, by simpa [isAbsolute] using other⟩
  cases operation with
  | refresh force =>
    rw [perform, map_refresh]
    simp only [refresh.injEq]
    rfl
  | size =>
    rw [if_neg (by simp)]
    exact map_query Reply.size _ index link
  | byId fileId =>
    rw [if_neg (by simp)]
    exact map_query Reply.entry _ index link
  | byPath path =>
    rw [if_neg (by simp), perform, Index.byPath, if_pos (starts path rfl)]
    exact map_query Reply.entry _ index link
  | listFolder path =>
    rw [if_neg (by simp), perform, Index.listFolder, if_pos (starts path rfl)]
    exact map_query Reply.listing _ index link

end Operation

/-! ### Steps -/

/-- One operation with its reply, and the link before and after it. -/
structure Step where
  operation : Operation
  before : Link
  reply : Except Error Reply
  after : Link

namespace Step

/-- The catalog that the origin gave during a step, if it was asked for the index. -/
def fetched? (key : MasterKey) (step : Step) : Option Catalog :=
  if step.after.sent = step.before.sent ++ [request] then
    catalogOf? key (step.before.reply step.before.sent request)
  else none

/-- An operation on a handle does what it should do if the handle holds a catalog, or none. -/
structure IsRight (key : MasterKey) (held : Option Catalog) (step : Step) : Prop where
  /-- A relative path is refused, and the origin is not asked. -/
  relative : step.operation.IsRelative →
    step.reply = .error (.invalidRequest .relativePath) ∧ step.after = step.before
  /-- What is held is used as it is unless a refresh is forced. -/
  kept : ∀ catalog, held = some catalog → ¬ step.operation.IsRelative →
    step.operation ≠ .refresh true →
      step.reply = .ok (step.operation.answer catalog) ∧ step.after = step.before
  /-- Otherwise the origin is asked once. -/
  asks : ¬ step.operation.IsRelative → held = none ∨ step.operation = .refresh true →
    step.after = step.before.asked request
  /-- It is answered from the catalog that the origin gives, and fails if it gives none. -/
  given : ¬ step.operation.IsRelative → held = none ∨ step.operation = .refresh true →
    step.reply.toOption = (step.fetched? key).map step.operation.answer

section Fetched

variable {key : MasterKey} {step : Step} {held : Option Catalog}

theorem fetched?_of_same (same : step.after = step.before) : step.fetched? key = none := by
  rw [fetched?, same, if_neg (by simp)]

/-- A catalog that the origin gives when it is asked is fetched. -/
theorem fetched?_of_asked (asked : step.after = step.before.asked request) :
    step.fetched? key = catalogOf? key (step.before.reply step.before.sent request) := by
  rw [fetched?, asked, Link.asked, Link.reaches]
  rcases step.before.reply step.before.sent request with cause | answer
  · exact if_neg (by simp)
  · cases answer with
    | unreachable => exact if_neg (by simp)
    | unconnected => exact if_neg (by simp)
    | closed => exact if_pos rfl
    | silent => exact if_pos rfl
    | response response => exact if_pos rfl

theorem isRight_of_refused (relative : step.operation.IsRelative)
    (refused : step.reply = .error (.invalidRequest .relativePath))
    (same : step.after = step.before) : step.IsRight key held where
  relative _ := ⟨refused, same⟩
  kept _ _ absolute := absurd relative absolute
  asks absolute := absurd relative absolute
  given absolute := absurd relative absolute

theorem isRight_of_held {catalog : Catalog} (absolute : ¬ step.operation.IsRelative)
    (known : held = some catalog) (unforced : step.operation ≠ .refresh true)
    (replied : step.reply = .ok (step.operation.answer catalog))
    (same : step.after = step.before) : step.IsRight key held := by
  have unasked : ¬ (held = none ∨ step.operation = .refresh true) := by
    simp [known, unforced]
  refine ⟨fun relative => absurd relative absolute, ?_, fun _ asking => absurd asking unasked,
    fun _ asking => absurd asking unasked⟩
  intro other same_catalog _ _
  obtain rfl : catalog = other := Option.some.inj (known.symm.trans same_catalog)
  exact ⟨replied, same⟩

theorem isRight_of_asked (absolute : ¬ step.operation.IsRelative)
    (asking : held = none ∨ step.operation = .refresh true)
    (asked : step.after = step.before.asked request)
    (replied : step.reply.toOption =
      (catalogOf? key (step.before.reply step.before.sent request)).map
        step.operation.answer) : step.IsRight key held := by
  refine ⟨fun relative => absurd relative absolute, ?_, fun _ _ => asked, fun _ _ => ?_⟩
  · intro catalog known _ unforced
    exact absurd (asking.resolve_left (by simp [known])) unforced
  · rw [fetched?_of_asked asked, replied]

/-- A reply is computed from what was fetched, or else held before. -/
theorem IsRight.exists_catalog (right : step.IsRight key held) {reply : Reply}
    (replied : step.reply = .ok reply) :
    ∃ catalog, (step.fetched? key).or held = some catalog ∧
      reply = step.operation.answer catalog := by
  by_cases relative : step.operation.IsRelative
  · rw [(right.relative relative).1] at replied
    cases replied
  by_cases asking : held = none ∨ step.operation = .refresh true
  · have given := right.given relative asking
    rw [replied] at given
    obtain ⟨catalog, fetched, same⟩ := Option.map_eq_some_iff.1 given.symm
    exact ⟨catalog, by rw [fetched, Option.some_or], same.symm⟩
  · obtain ⟨holds, unforced⟩ := not_or.1 asking
    obtain ⟨catalog, known⟩ := Option.ne_none_iff_exists'.1 holds
    obtain ⟨answered, same⟩ := right.kept catalog known relative unforced
    rw [replied] at answered
    exact ⟨catalog, by rw [fetched?_of_same same, Option.none_or, known], Except.ok.inj answered⟩

end Fetched

end Step

/-- An operation as a step. -/
def Operation.step (operation : Operation) (index : Index) (link : Link) : Step :=
  ⟨operation, link, (operation.perform index link).1, (operation.perform index link).2.2⟩

section Steps

variable (operation : Operation) (index : Index) (link : Link)

/-- All that an operation can come to. -/
inductive Performed : Outcome Reply → Prop
  | refused (relative : operation.IsRelative) :
      Performed (.error (.invalidRequest .relativePath), index, link)
  | held (absolute : ¬ operation.IsRelative) {catalog : Catalog}
      (known : index.catalog = some catalog) (unforced : operation ≠ .refresh true) :
      Performed (.ok (operation.answer catalog), index, link)
  | fetched (absolute : ¬ operation.IsRelative)
      (asking : index.catalog = none ∨ operation = .refresh true) {catalog : Catalog}
      (given : catalogOf? index.key (link.reply link.sent request) = some catalog) :
      Performed (.ok (operation.answer catalog), { index with catalog := some catalog },
        link.asked request)
  | failed (absolute : ¬ operation.IsRelative)
      (asking : index.catalog = none ∨ operation = .refresh true)
      (fails : catalogOf? index.key (link.reply link.sent request) = none) (error : Error) :
      Performed (.error error, index, link.asked request)

theorem performed_of_asking (absolute : ¬ operation.IsRelative)
    (asking : index.catalog = none ∨ operation = .refresh true) :
    Performed operation index link (Outcome.map operation.answer (index.refetch link)) := by
  cases given : catalogOf? index.key (link.reply link.sent request) with
  | some catalog =>
    rw [refetch_of_given given]
    exact .fetched absolute asking given
  | none =>
    obtain ⟨error, failed⟩ := refetch_of_none given
    rw [failed]
    exact .failed absolute asking given error

theorem performed : Performed operation index link (operation.perform index link) := by
  by_cases relative : operation.IsRelative
  · rw [operation.perform_of_relative relative]
    exact .refused relative
  rw [operation.perform_of_absolute relative]
  by_cases forced : operation = .refresh true
  · rw [if_pos forced]
    exact performed_of_asking operation index link relative (.inr forced)
  rw [if_neg forced, held]
  cases known : index.catalog with
  | none => exact performed_of_asking operation index link relative (.inl known)
  | some catalog => exact .held relative known forced

/-- An operation is right for what the handle holds, and afterwards the handle holds what was
fetched, or else what it held. -/
theorem step_spec :
    (operation.perform index link).2.1 =
        ⟨index.key, ((operation.step index link).fetched? index.key).or index.catalog⟩ ∧
      (operation.step index link).IsRight index.key index.catalog := by
  have performed := performed operation index link
  rw [Operation.step]
  generalize operation.perform index link = outcome at performed ⊢
  cases performed with
  | refused relative =>
    rw [Step.fetched?_of_same rfl]
    exact ⟨rfl, Step.isRight_of_refused relative rfl rfl⟩
  | held absolute known unforced =>
    rw [Step.fetched?_of_same rfl]
    exact ⟨rfl, Step.isRight_of_held absolute known unforced rfl rfl⟩
  | fetched absolute asking given =>
    rw [Step.fetched?_of_asked rfl, given]
    refine ⟨rfl, Step.isRight_of_asked absolute asking rfl ?_⟩
    rw [given]
    rfl
  | failed absolute asking fails error =>
    rw [Step.fetched?_of_asked rfl, fails]
    refine ⟨rfl, Step.isRight_of_asked absolute asking rfl ?_⟩
    rw [fails]
    rfl

end Steps

/-- The catalog of the last fetch that gave one. -/
def lastFetched? (key : MasterKey) (steps : List Step) : Option Catalog :=
  (steps.filterMap (Step.fetched? key)).getLast?

theorem lastFetched?_concat (key : MasterKey) (steps : List Step) (step : Step) :
    lastFetched? key (steps ++ [step]) = (step.fetched? key).or (lastFetched? key steps) := by
  rw [lastFetched?, List.filterMap_append]
  cases fetched : step.fetched? key <;> simp [fetched, lastFetched?]

/-! ### Runs -/

inductive Event
  | operation (operation : Operation)
  /-- The origin changes, or is asked for something else. -/
  | origin (link : Link)

/-- A handle over a run, with the steps so far. -/
structure Course where
  index : Index
  link : Link
  steps : List Step

namespace Course

/-- A handle that was made for a key. -/
def start (key : MasterKey) (link : Link) : Course := ⟨⟨key, none⟩, link, []⟩

def after (course : Course) : Event → Course
  | .operation operation =>
    let (_, index, link) := operation.perform course.index course.link
    ⟨index, link, course.steps ++ [operation.step course.index course.link]⟩
  | .origin link => { course with link := link }

def afterAll (course : Course) (events : List Event) : Course := events.foldl after course

/-- Each step was right, for a handle that held the catalog fetched last before it, and what was
answered comes from the catalog fetched last. -/
structure IsRight (key : MasterKey) (course : Course) : Prop where
  held : course.index = ⟨key, lastFetched? key course.steps⟩
  steps : ∀ before step, before ++ [step] <+: course.steps →
    step.IsRight key (lastFetched? key before)
  answers : ∀ before step, before ++ [step] <+: course.steps → ∀ reply, step.reply = .ok reply →
    ∃ catalog, lastFetched? key (before ++ [step]) = some catalog ∧
      reply = step.operation.answer catalog

variable {key : MasterKey} {course : Course}

theorem isRight_start (key : MasterKey) (link : Link) : (start key link).IsRight key where
  held := rfl
  steps := by
    intro before step within
    simp [start] at within
  answers := by
    intro before step within
    simp [start] at within

theorem IsRight.after (right : course.IsRight key) (event : Event) :
    (course.after event).IsRight key := by
  cases event with
  | origin link => exact ⟨right.held, right.steps, right.answers⟩
  | operation operation =>
    obtain ⟨index, step⟩ := step_spec operation course.index course.link
    have bound : course.index.key = key := congrArg Index.key right.held
    have known : course.index.catalog = lastFetched? key course.steps :=
      congrArg Index.catalog right.held
    rw [bound, known] at step
    rw [bound, known, ← lastFetched?_concat] at index
    -- The step taken is the last one; those before it are as they were.
    have last_or : ∀ before own, before ++ [own] <+:
        (course.after (.operation operation)).steps →
          before = course.steps ∧ own = operation.step course.index course.link ∨
            before ++ [own] <+: course.steps := by
      intro before own within
      rcases List.prefix_concat_iff.1 within with same | within
      · obtain ⟨rfl, last⟩ := List.append_inj' same rfl
        exact .inl ⟨rfl, List.singleton_inj.1 last⟩
      · exact .inr within
    refine ⟨index, fun before own within => ?_, fun before own within reply replied => ?_⟩
    · rcases last_or before own within with ⟨rfl, rfl⟩ | within
      · exact step
      · exact right.steps before own within
    · rcases last_or before own within with ⟨rfl, rfl⟩ | within
      · rw [lastFetched?_concat]
        exact step.exists_catalog replied
      · exact right.answers before own within reply replied

/-- Over every run, whatever the origin does: the catalog of the last fetch that gave one is held
and answered from, and the origin is asked when there is none or a refresh is forced. -/
theorem answers_from_last_fetch (key : MasterKey) (link : Link) (events : List Event) :
    ((start key link).afterAll events).IsRight key := by
  induction events using List.reverseRecOn with
  | nil => exact isRight_start key link
  | append_singleton events event ih =>
    rw [afterAll, List.foldl_append]
    exact ih.after event

/-- A first use that fails is tried again, and what is then held outlasts a refresh that fails. -/
example :
    ((start ⟨[5]⟩ (.always .unreachable)).afterAll [.operation .size,
        .origin (.always (.response ⟨404, [], .empty⟩)), .operation (.listFolder "/"),
        .origin (.always .closed), .operation (.refresh true), .operation .size]).steps.map
      (fun step => (step.reply.toOption, step.after.sent.length)) =
    [(none, 0), (some (.listing []), 1), (none, 1), (some (.size 0), 1)] := by
  decide +kernel

end Course

end Reader.Index

end SealGate
