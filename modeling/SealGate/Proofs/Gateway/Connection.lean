import Mathlib.Data.List.DropRight
import SealGate.Proofs.Gateway.PassThrough

/-! What is for one connection only. A message says with its `Connection` headers which of its other
headers are meant for its receiver alone; besides, some names always are. A relay drops the names of
its own list, in whatever case and however often they stand in the message, and lets all others
pass: what a `Connection` header names is dropped only if it is on the list anyway. -/

namespace SealGate

open Http Origin

namespace Http.Headers

/-- A space or a tab, which may stand around what commas separate. -/
def isPadding (c : Char) : Bool := c = ' ' || c = '\t'

/-- The names in the value of a `Connection` header, in lower case. -/
def connectionOptions (value : Bytes) : List String :=
  (Text.pieces (· == ',') (value.map fun b => Char.ofNat b.toNat)).map fun piece =>
    String.ofList (((piece.dropWhile isPadding).rdropWhile isPadding).map Char.toLower)

/-- A `Connection` header of the message names a header. -/
def IsNamed (written : List (String × Bytes)) (name : String) : Prop :=
  ∃ header ∈ written, header.1.map Char.toLower = "connection" ∧
    name.map Char.toLower ∈ connectionOptions header.2

instance (written : List (String × Bytes)) (name : String) : Decidable (IsNamed written name) :=
  inferInstanceAs (Decidable (∃ header ∈ written, _))

/-- A header of the message is for one connection only. -/
def IsHopByHop (written : List (String × Bytes)) (name : String) : Prop :=
  name.map Char.toLower ∈ connectionNames ∨ IsNamed written name

/-- Nothing is relayed that is for one connection only. -/
def IsClean (written : List (String × Bytes)) (relayed : Headers) : Prop :=
  ∀ name, IsHopByHop written name → relayed.values (name.map Char.toLower) = []

variable {written : List (String × Bytes)}

theorem values_ofPairs_eq_nil_iff {name : String} :
    (ofPairs written).values name = [] ↔ ∀ header ∈ written, header.1.map Char.toLower ≠ name := by
  rw [values, ofPairs, List.map_eq_nil_iff, List.filter_eq_nil_iff, List.forall_mem_map]
  simp

/-- Headers whose names are dropped leave the message clean if and only if no others are named, as
long as the names that are always for one connection are among those dropped. -/
theorem isClean_without_iff {dropped : List String} (fixed : connectionNames ⊆ dropped) :
    IsClean written ((ofPairs written).without dropped) ↔
      ∀ header ∈ written, IsNamed written header.1 → header.1.map Char.toLower ∈ dropped := by
  constructor
  · intro clean header mem named
    by_contra kept
    have none := clean header.1 (.inr named)
    rw [values_without, if_neg kept, values_ofPairs_eq_nil_iff] at none
    exact none header mem rfl
  · intro listed name hop
    rw [values_without]
    split
    · rfl
    rename_i kept
    rw [values_ofPairs_eq_nil_iff]
    intro header mem same
    rcases hop with always | ⟨connection, among, own, option⟩
    · exact kept (fixed always)
    · rw [← same] at option kept
      exact kept (listed header mem ⟨connection, among, own, option⟩)

theorem values_without_of_mem {headers : Headers} {dropped : List String} {name : String}
    (mem : name ∈ dropped) : (headers.without dropped).values name = [] := by
  rw [values_without, if_pos mem]

end Http.Headers

namespace Origin.Link

open Headers

theorem headers_relayed (request : Request) :
    (relayed request).headers =
      request.headers.without (connectionNames ++ ["host", "content-length"]) := by
  simp [relayed, endToEnd, without, List.filter_filter, Bool.and_comm]

/-- A request and the answer to it are relayed without the headers of the fixed list. Headers that
the message itself names as those of its connection are dropped if and only if they are on the list,
or name the host or the length of a request. -/
theorem isClean_relay_iff (link : Link) (method : String) (target : Target)
    (written : List (String × Bytes)) (body : Bytes) :
    let request : Request := ⟨method, target, .ofPairs written, body⟩
    (link.relay request).2 = link.asked (relayed request) ∧
    (∀ name ∈ connectionNames, (relayed request).headers.values name = []) ∧
    (IsClean written (relayed request).headers ↔ ∀ header ∈ written, IsNamed written header.1 →
      header.1.map Char.toLower ∈ connectionNames ++ ["host", "content-length"]) ∧
    ∀ status answered body,
      (link.send (relayed request)).1 = .ok ⟨status, .ofPairs answered, body⟩ →
      ∃ response, (link.relay request).1 = .ok response ∧
        (∀ name ∈ connectionNames, response.headers.values name = []) ∧
        (IsClean answered response.headers ↔ ∀ header ∈ answered, IsNamed answered header.1 →
          header.1.map Char.toLower ∈ connectionNames) := by
  intro request
  refine ⟨send_snd (relayed request) link, ?_, ?_, ?_⟩
  · intro name fixed
    rw [headers_relayed]
    exact values_without_of_mem (List.mem_append_left _ fixed)
  · rw [headers_relayed]
    exact isClean_without_iff (List.subset_append_left _ _)
  · intro status answered body given
    refine ⟨_, congrArg (Except.map _) given, fun name fixed => values_without_of_mem fixed, ?_⟩
    exact isClean_without_iff (List.Subset.refl _)

/-- A message whose `Connection` header names no header but one of the fixed list. -/
def persistent : List (String × Bytes) :=
  [("Connection", Bytes.ofText "Keep-Alive"), ("Keep-Alive", Bytes.ofText "timeout=5"),
    ("X-Trace", Bytes.ofText "1")]

theorem isClean_relay_iff_of_persistent :
    let request : Request := ⟨"GET", .here ⟨"/", none⟩, .ofPairs persistent, []⟩
    let link : Link := .always (.response ⟨200, .ofPairs persistent, .empty⟩)
    IsClean persistent (relayed request).headers ∧
      (link.send (relayed request)).1 = .ok ⟨200, .ofPairs persistent, .empty⟩ ∧
      ∃ response, (link.relay request).1 = .ok response ∧ IsClean persistent response.headers := by
  have listed : ∀ header ∈ persistent, IsNamed persistent header.1 →
      header.1.map Char.toLower ∈ connectionNames := by decide +kernel
  intro request link
  obtain ⟨-, -, sent, answers⟩ :=
    isClean_relay_iff link "GET" (.here ⟨"/", none⟩) persistent []
  have found : (locate "http://[::1]" (relayed request)).toOption.map Net.Url.user = some none := by
    decide +kernel
  have answered : (link.send (relayed request)).1 = .ok ⟨200, .ofPairs persistent, .empty⟩ :=
    send_always found _
  obtain ⟨response, relayed, -, clean⟩ := answers 200 persistent .empty answered
  exact ⟨sent.2 fun header mem named => List.mem_append_left _ (listed header mem named), answered,
    response, relayed, clean.2 listed⟩

/-- A message with a header that its `Connection` header names. -/
def traced : List (String × Bytes) :=
  [("Connection", Bytes.ofText "X-Trace, close"), ("X-Trace", Bytes.ofText "1")]

theorem isNamed_traced : IsNamed traced "X-Trace" := by decide +kernel

/-- A relay lets pass a header that the `Connection` header of its message names, on the way to the
origin and on the way back. -/
theorem named_header_passes :
    let request : Request := ⟨"GET", .here ⟨"/", none⟩, .ofPairs traced, []⟩
    let link : Link := .always (.response ⟨200, .ofPairs traced, .empty⟩)
    IsHopByHop traced "X-Trace" ∧
      (relayed request).headers = [("x-trace", Bytes.ofText "1")] ∧
      ¬ IsClean traced (relayed request).headers ∧
      ∃ response, (link.relay request).1 = .ok response ∧
        response.headers = [("x-trace", Bytes.ofText "1")] ∧ ¬ IsClean traced response.headers := by
  have lower : "X-Trace".map Char.toLower = "x-trace" := by decide +kernel
  have passed : (Headers.ofPairs traced).endToEnd = [("x-trace", Bytes.ofText "1")] := by
    decide +kernel
  have unclean : ¬ IsClean traced [("x-trace", Bytes.ofText "1")] := by
    intro clean
    have none := clean "X-Trace" (.inr isNamed_traced)
    rw [lower] at none
    cases none
  intro request link
  have sent : (relayed request).headers = [("x-trace", Bytes.ofText "1")] := by
    decide +kernel
  have found : (locate "http://[::1]" (relayed request)).toOption.map Net.Url.user = some none := by
    decide +kernel
  have answered : (link.send (relayed request)).1 = .ok ⟨200, .ofPairs traced, .empty⟩ :=
    send_always found _
  refine ⟨.inr isNamed_traced, sent, ?_,
    ⟨200, (Headers.ofPairs traced).endToEnd, .streamed Body.empty.items⟩,
    congrArg (Except.map _) answered, passed, ?_⟩
  · rw [sent]
    exact unclean
  · rw [passed]
    exact unclean

end Origin.Link

end SealGate
