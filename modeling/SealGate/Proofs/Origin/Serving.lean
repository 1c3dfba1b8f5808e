import Mathlib.Data.Bool.AllAny
import SealGate.Origin.Link
import SealGate.Proofs.Bytes.Text
import SealGate.Proofs.Http.Delivery

/-! Origins that honour ranges. Such an origin answers a request for a piece of an object, closed or
open at its end, with that piece, whatever it was asked before and in whatever chunks it likes; a
piece that reaches beyond the object is the rest of it. Fetching and streaming from such an origin
give the piece. An origin that holds one object and reads the ranges it is asked for is of this
kind. -/

namespace SealGate.Origin

open Http Text

def closedRange (first last : Nat) : String :=
  "bytes=" ++ Decimal.render first ++ "-" ++ Decimal.render last

def openRange (first : Nat) : String := "bytes=" ++ Decimal.render first ++ "-"

namespace Link

/-- The link when one more request has gone out. -/
def after (link : Link) (request : Request) : Link :=
  { link with sent := link.sent ++ [request] }

/-- What comes of a request behind others: why it has no URL, or the origin's answer. -/
def reply (link : Link) (sent : List Request) (request : Request) : Except (Option String) Answer :=
  (locate link.base request).map fun url =>
    link.answer (sent.map link.arrival) (arriving url request)

/-- The link gives the pieces of an object that start within it. -/
structure Serves (link : Link) (name : String) (object : Bytes) : Prop where
  closed : ∀ (sent : List Request) (first last : Nat), first < object.length → first ≤ last →
    ∃ response, link.reply sent (objectRequest name (some (closedRange first last))) =
        .ok (.response response) ∧
      response.status = 206 ∧
      response.body.collect = .ok ((object.drop first).take (last + 1 - first))
  tail : ∀ (sent : List Request) (first : Nat), first < object.length →
    ∃ response, link.reply sent (objectRequest name (some (openRange first))) =
        .ok (.response response) ∧
      response.status = 206 ∧ response.body.collect = .ok (object.drop first)

section Asking

variable {link : Link} {name : String} {object : Bytes}

theorem Serves.after (serves : link.Serves name object) (request : Request) :
    (link.after request).Serves name object :=
  ⟨serves.closed, serves.tail⟩

variable {range : Option String} {response : Response ReadFault} {bytes : Bytes}

theorem send_of_response {request : Request}
    (answered : link.reply link.sent request = .ok (.response response)) :
    link.send request = (.ok response, link.after request) := by
  unfold reply at answered
  cases located : locate link.base request with
  | error url => rw [located] at answered; cases answered
  | ok url =>
    rw [located] at answered
    have given : link.answer link.received (arriving url request) = .response response :=
      Except.ok.inj answered
    simp only [send, located, given]
    rfl

theorem objectOf_piece (good : response.status = 206) : objectOf response = .ok response.body := by
  rw [objectOf, if_pos (.inr good)]

theorem fetch_of_response
    (answered : link.reply link.sent (objectRequest name range) = .ok (.response response))
    (good : response.status = 206) (held : response.body.collect = .ok bytes) :
    link.fetch name range = (.ok bytes, link.after (objectRequest name range)) := by
  have whole : (response.body.mapError ReadFault.toError).collect = .ok bytes := by
    rw [Body.collect_mapError, held]
    rfl
  rw [fetch, send_of_response answered]
  simp only [bind, Except.bind, objectOf_piece good, whole]

theorem stream_of_object {body : Body ReadFault}
    (answered : link.reply link.sent (objectRequest name range) = .ok (.response response))
    (good : objectOf response = .ok body) : link.stream name range =
      (.ok (body.mapError ReadFault.toError).items, link.after (objectRequest name range)) := by
  rw [stream, send_of_response answered]
  simp only [bind, Except.bind, good]
  rfl

theorem stream_of_response
    (answered : link.reply link.sent (objectRequest name range) = .ok (.response response))
    (good : response.status = 206) (held : response.body.collect = .ok bytes) :
    ∃ chunks, link.stream name range = (.ok chunks, link.after (objectRequest name range)) ∧
      delivered chunks = (bytes, none) := by
  have whole : (response.body.mapError ReadFault.toError).collect = .ok bytes := by
    rw [Body.collect_mapError, held]
    rfl
  exact ⟨_, stream_of_object answered (objectOf_piece good), Body.delivered_items whole⟩

theorem Serves.fetch_closed (serves : link.Serves name object) (first last : Nat)
    (inside : first < object.length) (order : first ≤ last) :
    link.fetch name (some (closedRange first last)) =
      (.ok ((object.drop first).take (last + 1 - first)),
        link.after (objectRequest name (some (closedRange first last)))) := by
  obtain ⟨response, answered, good, held⟩ := serves.closed link.sent first last inside order
  exact fetch_of_response answered good held

theorem Serves.stream_closed (serves : link.Serves name object) (first last : Nat)
    (inside : first < object.length) (order : first ≤ last) :
    ∃ chunks, link.stream name (some (closedRange first last)) =
        (.ok chunks, link.after (objectRequest name (some (closedRange first last)))) ∧
      delivered chunks = ((object.drop first).take (last + 1 - first), none) := by
  obtain ⟨response, answered, good, held⟩ := serves.closed link.sent first last inside order
  exact stream_of_response answered good held

theorem Serves.stream_open (serves : link.Serves name object) {first : Nat}
    (inside : first < object.length) :
    ∃ chunks, link.stream name (some (openRange first)) =
        (.ok chunks, link.after (objectRequest name (some (openRange first)))) ∧
      delivered chunks = (object.drop first, none) := by
  obtain ⟨response, answered, good, held⟩ := serves.tail link.sent first inside
  exact stream_of_response answered good held

end Asking

/-! ### An origin that always answers the same -/

def always (answer : Answer) : Link := ⟨"http://[::1]", fun _ _ => answer, []⟩

theorem exists_url {base : String} {request : Request} {user : Option String}
    (found : (locate base request).toOption.map Net.Url.user = some user) :
    ∃ url, locate base request = .ok url ∧ url.user = user := by
  cases located : locate base request with
  | error cause => rw [located] at found; cases found
  | ok url => rw [located] at found; exact ⟨url, rfl, Option.some.inj found⟩

theorem reply_always {request : Request} {user : Option String}
    (found : (locate "http://[::1]" request).toOption.map Net.Url.user = some user)
    (answer : Answer) (sent : List Request) : (always answer).reply sent request = .ok answer := by
  obtain ⟨url, located, -⟩ := exists_url found
  exact congrArg (Except.map _) located

theorem send_always {request : Request} {user : Option String}
    (found : (locate "http://[::1]" request).toOption.map Net.Url.user = some user)
    (response : Response ReadFault) :
    ((always (.response response)).send request).1 = .ok response :=
  congrArg Prod.fst (send_of_response (reply_always found (.response response) []))

/-! ### An origin with one object -/

/-- The first byte that a request asks for, and the last one if it is named. -/
def rangeOf? (request : Request) : Option (Nat × Option Nat) := do
  let value ← request.headers.get? "range"
  let text ← Bytes.text? value
  let bounds ← after? "bytes=".toList text.toList
  let (first, last) ← splitFirst '-' bounds
  return (Decimal.value first, if last = [] then none else some (Decimal.value last))

/-- An origin that answers with a piece of its object whatever name it is asked for. -/
def holding (object : Bytes) : Link where
  base := "http://[::1]"
  answer _ request :=
    match rangeOf? request with
    | some (first, some last) =>
      .response ⟨206, [], .ofBytes ((object.drop first).take (last + 1 - first))⟩
    | some (first, none) => .response ⟨206, [], .ofBytes (object.drop first)⟩
    | none => .response ⟨200, [], .ofBytes object⟩
  sent := []

theorem splitFirst_digits (first : Nat) (behind : List Char) :
    splitFirst '-' (Decimal.digits first ++ '-' :: behind) =
      some (Decimal.digits first, behind) := by
  refine splitFirst_eq_some_iff.2 ⟨rfl, fun mem => ?_⟩
  exact absurd (Decimal.isDigit_of_mem_digits first _ mem) (by decide)

section Ranges

variable (first last : Nat) {name range : String}

theorem toList_closedRange : (closedRange first last).toList =
    "bytes=".toList ++ (Decimal.digits first ++ '-' :: Decimal.digits last) := by
  simp [closedRange, Decimal.render]

theorem toList_openRange :
    (openRange first).toList = "bytes=".toList ++ (Decimal.digits first ++ '-' :: []) := by
  simp [openRange, Decimal.render]

theorem get?_range (others : Headers) :
    Headers.get? (("range", Bytes.ofText range) :: others) "range" = some (Bytes.ofText range) := by
  simp [Headers.get?, Headers.values]

/-- The range arrives as it is asked for. -/
theorem rangeOf?_arriving (url : Net.Url) :
    rangeOf? (arriving url (objectRequest name (some range))) =
      rangeOf? (objectRequest name (some range)) := by
  have arrives : (arriving url (objectRequest name (some range))).headers.get? "range" =
      some (Bytes.ofText range) := get?_range _
  have asked : (objectRequest name (some range)).headers.get? "range" =
      some (Bytes.ofText range) := get?_range _
  rw [rangeOf?, rangeOf?, arrives, asked]

theorem rangeOf?_closedRange :
    rangeOf? (objectRequest name (some (closedRange first last))) = some (first, some last) := by
  have asked : (objectRequest name (some (closedRange first last))).headers.get? "range" =
      some (Bytes.ofText (closedRange first last)) := get?_range _
  rw [rangeOf?, asked]
  simp only [Option.bind_eq_bind, Option.bind_some, Bytes.text?_ofText, toList_closedRange,
    after?_append, splitFirst_digits, Decimal.value_digits, Decimal.digits_ne_nil, if_false]
  rfl

theorem rangeOf?_openRange :
    rangeOf? (objectRequest name (some (openRange first))) = some (first, none) := by
  have asked : (objectRequest name (some (openRange first))).headers.get? "range" =
      some (Bytes.ofText (openRange first)) := get?_range _
  rw [rangeOf?, asked]
  simp only [Option.bind_eq_bind, Option.bind_some, Bytes.text?_ofText, toList_openRange,
    after?_append, splitFirst_digits, Decimal.value_digits, if_true]
  rfl

/-- A range is a text that a header may have. -/
theorem isValue_range (shown : ∀ c ∈ range.toList, 32 ≤ c.toNat ∧ c.toNat < 127) :
    (Bytes.ofText range).all Headers.isValueByte = true := by
  rw [← String.ofList_toList (s := range), Bytes.ofText_ofList, List.all_flatMap, List.all_eq_true]
  intro c mem
  obtain ⟨above, below⟩ := shown c mem
  have byte : (UInt8.ofNat c.toNat).toNat = c.toNat := by
    rw [UInt8.toNat_ofNat', Nat.mod_eq_of_lt (by omega)]
  rw [Bytes.utf8EncodeChar_ascii (by omega)]
  simp [Headers.isValueByte, byte, above, Nat.ne_of_lt below]

theorem shown_of_mem_digits {n : Nat} {c : Char} (mem : c ∈ Decimal.digits n) :
    32 ≤ c.toNat ∧ c.toNat < 127 := by
  have digit := Decimal.isDigit_of_mem_digits n c mem
  simp only [Decimal.isDigit, Bool.and_eq_true, decide_eq_true_eq, Char.le_def,
    UInt32.le_iff_toNat_le] at digit
  exact ⟨Nat.le_trans (by decide) digit.1, Nat.lt_of_le_of_lt digit.2 (by decide)⟩

theorem isValue_closedRange :
    (Bytes.ofText (closedRange first last)).all Headers.isValueByte = true := by
  refine isValue_range ?_
  rw [toList_closedRange, List.forall_mem_append, List.forall_mem_append, List.forall_mem_cons]
  exact ⟨List.all_iff_forall_prop.1 (by decide), fun c => shown_of_mem_digits, by decide,
    fun c => shown_of_mem_digits⟩

theorem isValue_openRange : (Bytes.ofText (openRange first)).all Headers.isValueByte = true := by
  refine isValue_range ?_
  rw [toList_openRange, List.forall_mem_append, List.forall_mem_append]
  exact ⟨List.all_iff_forall_prop.1 (by decide), fun c => shown_of_mem_digits,
    List.all_iff_forall_prop.1 (by decide)⟩

/-- An object has the same URL in whole and in part. -/
theorem locate_range (base : String) (fits : (Bytes.ofText range).all Headers.isValueByte = true) :
    locate base (objectRequest name (some range)) = locate base (objectRequest name none) := by
  simp [locate, objectRequest, fits]

end Ranges

theorem serves_holding (object : Bytes) {name : String} {user : Option String}
    (found : (locate "http://[::1]" (objectRequest name none)).toOption.map Net.Url.user =
      some user) : (holding object).Serves name object where
  closed sent first last inside order := by
    refine ⟨⟨206, [], .ofBytes ((object.drop first).take (last + 1 - first))⟩, ?_, rfl, rfl⟩
    obtain ⟨url, located, -⟩ := exists_url found
    have part := (locate_range "http://[::1]" (isValue_closedRange first last)).trans located
    simp only [reply, holding, part, Except.map, rangeOf?_arriving, rangeOf?_closedRange]
  tail sent first inside := by
    refine ⟨⟨206, [], .ofBytes (object.drop first)⟩, ?_, rfl, rfl⟩
    obtain ⟨url, located, -⟩ := exists_url found
    have part := (locate_range "http://[::1]" (isValue_openRange first)).trans located
    simp only [reply, holding, part, Except.map, rangeOf?_arriving, rangeOf?_openRange]

end Link

end SealGate.Origin
