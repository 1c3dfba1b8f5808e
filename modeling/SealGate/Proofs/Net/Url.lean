import Mathlib.Data.List.TakeWhile
import SealGate.Net.Url
import SealGate.Proofs.Bytes.Text

/-! What a URL says of the text that it was read from. The place behind a server, which is a path
with a query, is written as it was read if and only if it is plain: a path behind a slash, without
backslashes and dot segments, and a query, both of characters that need no escape. Every other place
is written in another way. -/

namespace SealGate.Net.Url

open Text

/-! ### Escapes -/

/-- A character that is shown as it is. -/
def isShownChar (except : String) (c : Char) : Bool :=
  32 < c.toNat && c.toNat < 127 && c ∉ except.toList

/-- The characters of which escapes consist. -/
def escapeChars : List Char := "%0123456789ABCDEF".toList

theorem upperDigit_mem : ∀ n < 16, Percent.upperDigit n ∈ escapeChars := by decide

section Escapes

variable {except : String} {text : List Char} {c : Char}

theorem isShown_ofNat (shown : isShownChar except c) : isShown except (UInt8.ofNat c.toNat) := by
  simp only [isShownChar, Bool.and_eq_true, decide_eq_true_eq] at shown
  have byte : (UInt8.ofNat c.toNat).toNat = c.toNat := by
    rw [UInt8.toNat_ofNat', Nat.mod_eq_of_lt (by omega)]
  simp only [isShown, byte, Char.ofNat_toNat, Bool.and_eq_true, decide_eq_true_eq]
  exact shown

/-- A text that needs no escape is left as it is. -/
theorem escape_eq_self (shown : ∀ c ∈ text, isShownChar except c) :
    Percent.escape (isShown except) (String.ofList text) = String.ofList text := by
  rw [Percent.escape, Bytes.ofText_ofList]
  congr 1
  induction text with
  | nil => rfl
  | cons c text ih =>
    have own := shown c List.mem_cons_self
    have ascii : c.toNat < 127 := by
      simp only [isShownChar, Bool.and_eq_true, decide_eq_true_eq] at own
      exact own.1.2
    have same : Char.ofNat (UInt8.ofNat c.toNat).toNat = c := by
      rw [UInt8.toNat_ofNat', Nat.mod_eq_of_lt (by omega), Char.ofNat_toNat]
    rw [List.flatMap_cons, List.flatMap_append,
      ih fun other mem => shown other (List.mem_cons_of_mem c mem),
      Bytes.utf8EncodeChar_ascii (by omega), List.flatMap_singleton, Percent.escapeByte,
      if_pos (isShown_ofNat own), same]
    rfl

/-- A text with its escapes has characters that are shown: its own and those of escapes. -/
theorem shown_of_mem_escape (marks : escapeChars.all (isShownChar except) = true)
    (mem : c ∈ (Percent.escape (isShown except) (String.ofList text)).toList) :
    isShownChar except c ∧ (c ∈ text ∨ c ∈ escapeChars) := by
  rw [Percent.escape, String.toList_ofList, List.mem_flatMap] at mem
  obtain ⟨b, among, mem⟩ := mem
  rw [Percent.escapeByte] at mem
  split at mem
  · rename_i kept
    obtain rfl := List.mem_singleton.1 mem
    simp only [isShown, Bool.and_eq_true, decide_eq_true_eq] at kept
    refine ⟨?_, .inl ((Bytes.mem_ofText_iff (by omega)).1 among)⟩
    simp only [isShownChar, Bytes.toNat_ofNat_byte, Bool.and_eq_true, decide_eq_true_eq]
    exact kept
  · have small := b.toNat_lt
    have mark : c ∈ escapeChars := by
      rcases List.mem_cons.1 mem with rfl | digit
      · decide
      rcases List.mem_cons.1 digit with rfl | digit
      · exact upperDigit_mem _ (by omega)
      · obtain rfl := List.mem_singleton.1 digit
        exact upperDigit_mem _ (by omega)
    exact ⟨List.all_eq_true.1 marks c mark, .inr mark⟩

end Escapes

/-- The characters of a path that stand for themselves, slashes among them. -/
def isPathChar (c : Char) : Bool := isShownChar "\"#<>?`\x7b\x7d\\" c

def isQueryChar (c : Char) : Bool := isShownChar "\"#<>'" c

/-! ### Segments -/

/-- A path has this segment only on its way to another one. -/
def IsDotted (segment : List Char) : Prop := isDots "." segment ∨ isDots ".." segment

instance (segment : List Char) : Decidable (IsDotted segment) :=
  inferInstanceAs (Decidable (_ ∨ _))

section Segments

variable {isMark : Char → Bool} {text : List Char} {known : List String}
  {segments : List (List Char)}

theorem pieces_ne_nil (isMark : Char → Bool) (text : List Char) : pieces isMark text ≠ [] := by
  cases text with
  | nil => simp [pieces]
  | cons c text =>
    rw [pieces]
    split
    · simp
    · split <;> simp

theorem unmarked_of_mem_pieces {piece : List Char} {c : Char} (mem : piece ∈ pieces isMark text)
    (among : c ∈ piece) : c ∈ text ∧ isMark c = false := by
  induction text generalizing piece with
  | nil =>
    obtain rfl := List.mem_singleton.1 mem
    cases among
  | cons d text ih =>
    rw [pieces] at mem
    split at mem
    · rcases List.mem_cons.1 mem with rfl | mem
      · cases among
      · exact ⟨List.mem_cons_of_mem d (ih mem among).1, (ih mem among).2⟩
    rename_i own
    split at mem
    · rename_i first rest split
      rw [split] at ih
      rcases List.mem_cons.1 mem with rfl | mem
      · rcases List.mem_cons.1 among with rfl | among
        · exact ⟨List.mem_cons_self, by simpa using own⟩
        · have inside := ih List.mem_cons_self among
          exact ⟨List.mem_cons_of_mem d inside.1, inside.2⟩
      · have inside := ih (List.mem_cons_of_mem first mem) among
        exact ⟨List.mem_cons_of_mem d inside.1, inside.2⟩
    · rename_i none
      exact absurd none (pieces_ne_nil isMark text)

/-- The pieces with a slash in front of each. -/
def joined (segments : List (List Char)) : List Char := segments.flatMap ('/' :: ·)

/-- Pieces are put together again if all that separated them were slashes. -/
theorem joined_pieces (forward : '\\' ∉ text) : joined (pieces isSlash text) = '/' :: text := by
  induction text with
  | nil => rfl
  | cons c text ih =>
    rw [List.mem_cons, not_or] at forward
    have behind := ih forward.2
    rw [pieces]
    split
    · rename_i mark
      have slash : c = '/' := by simpa [isSlash, Ne.symm forward.1] using mark
      rw [joined, List.flatMap_cons, slash]
      exact congrArg ('/' :: ·) behind
    · split
      · rename_i first rest split
        rw [split, joined, List.flatMap_cons] at behind
        rw [joined, List.flatMap_cons]
        exact congrArg (fun text => '/' :: c :: text) (List.cons.inj behind).2
      · rename_i none
        exact absurd none (pieces_ne_nil isSlash text)

theorem pathChars_append (one other : List String) :
    pathChars (one ++ other) = pathChars one ++ pathChars other := List.flatMap_append

/-- A dotted segment leaves nothing but an empty one if it is the last; any other is added. -/
theorem resolve_cons (known : List String) (segment : List Char) (rest : List (List Char)) :
    (IsDotted segment ∧ ∃ front, (front = known ∨ front = known.dropLast) ∧
      resolve known (segment :: rest) = resolve (front ++ if rest = [] then [""] else []) rest) ∨
    (¬ IsDotted segment ∧
      resolve known (segment :: rest) = resolve (known ++ [escapeSegment segment]) rest) := by
  by_cases dot : isDots "." segment
  · exact .inl ⟨.inl dot, known, .inl rfl, by rw [resolve, if_pos dot]⟩
  by_cases up : isDots ".." segment
  · exact .inl ⟨.inr up, known.dropLast, .inr rfl, by rw [resolve, if_neg dot, if_pos up]⟩
  · exact .inr ⟨not_or.2 ⟨dot, up⟩, by rw [resolve, if_neg dot, if_neg up]⟩

theorem resolve_of_plain (plain : ∀ segment ∈ segments, ¬ IsDotted segment) :
    resolve known segments = known ++ segments.map escapeSegment := by
  induction segments generalizing known with
  | nil => exact (List.append_nil known).symm
  | cons segment rest ih =>
    rcases resolve_cons known segment rest with ⟨dotted, -⟩ | ⟨-, next⟩
    · exact absurd dotted (plain segment List.mem_cons_self)
    · rw [next, ih fun other mem => plain other (List.mem_cons_of_mem segment mem),
        List.append_assoc]
      rfl

theorem resolve_ne_nil (some : segments ≠ [] ∨ known ≠ []) : resolve known segments ≠ [] := by
  induction segments generalizing known with
  | nil => exact some.resolve_left fun none => none rfl
  | cons segment rest ih =>
    rcases resolve_cons known segment rest with ⟨-, front, -, next⟩ | ⟨-, next⟩
    · rw [next]
      refine ih ?_
      by_cases last : rest = [] <;> simp [last]
    · rw [next]
      exact ih (.inr (by simp))

/-- What segments lead to is made of those that were known, of theirs and of empty ones. -/
theorem mem_resolve {shown : String} (mem : shown ∈ resolve known segments) :
    shown ∈ known ∨ shown = "" ∨ ∃ segment ∈ segments, shown = escapeSegment segment := by
  induction segments generalizing known with
  | nil => exact .inl mem
  | cons segment rest ih =>
    have widen (found : ∃ segment ∈ rest, shown = escapeSegment segment) :
        ∃ other ∈ segment :: rest, shown = escapeSegment other := by
      obtain ⟨other, among, same⟩ := found
      exact ⟨other, List.mem_cons_of_mem segment among, same⟩
    rcases resolve_cons known segment rest with ⟨-, front, source, next⟩ | ⟨-, next⟩
    · rw [next] at mem
      rcases ih mem with among | empty | found
      · rcases List.mem_append.1 among with among | empty
        · rcases source with rfl | rfl
          · exact .inl among
          · exact .inl (List.dropLast_subset known among)
        · split at empty
          · exact .inr (.inl (List.mem_singleton.1 empty))
          · cases empty
      · exact .inr (.inl empty)
      · exact .inr (.inr (widen found))
    · rw [next] at mem
      rcases ih mem with among | empty | found
      · rcases List.mem_append.1 among with among | own
        · exact .inl among
        · exact .inr (.inr ⟨segment, List.mem_cons_self, List.mem_singleton.1 own⟩)
      · exact .inr (.inl empty)
      · exact .inr (.inr (widen found))

theorem IsDotted.length_pos {segment : List Char} (dotted : IsDotted segment) :
    0 < segment.length := by
  cases segment with
  | nil => exact absurd dotted (by decide)
  | cons => exact Nat.succ_pos _

theorem length_pathChars_dropLast (known : List String) :
    (pathChars known.dropLast).length ≤ (pathChars known).length := by
  rcases List.eq_nil_or_concat known with rfl | ⟨front, last, rfl⟩
  · rfl
  · rw [List.concat_eq_append, List.dropLast_concat, pathChars_append, List.length_append]
    omega

/-- Where no segment needs an escape, the path that is written is no longer than the segments, and
shorter than they are if there are dots among them. -/
theorem length_resolve
    (shown : ∀ segment ∈ segments, escapeSegment segment = String.ofList segment) :
    (pathChars (resolve known segments)).length +
        (if ∃ segment ∈ segments, IsDotted segment then 1 else 0) ≤
      (pathChars known).length + (joined segments).length := by
  induction segments generalizing known with
  | nil => simp [resolve, joined]
  | cons segment rest ih =>
    have behind (known : List String) : (pathChars (resolve known rest)).length +
          (if ∃ segment ∈ rest, IsDotted segment then 1 else 0) ≤
        (pathChars known).length + (joined rest).length :=
      ih fun other mem => shown other (List.mem_cons_of_mem segment mem)
    have whole : (joined (segment :: rest)).length = 1 + segment.length + (joined rest).length := by
      simp only [joined, List.flatMap_cons, List.length_append, List.length_cons]
      omega
    rcases resolve_cons known segment rest with ⟨dotted, front, source, next⟩ | ⟨plain, next⟩
    · have some := dotted.length_pos
      have tail : (pathChars (if rest = [] then [""] else [])).length ≤ 1 := by
        split <;> simp [pathChars]
      have less : (pathChars front).length ≤ (pathChars known).length := by
        rcases source with rfl | rfl
        · exact Nat.le_refl _
        · exact length_pathChars_dropLast known
      have bound := behind (front ++ if rest = [] then [""] else [])
      rw [pathChars_append, List.length_append] at bound
      have one : (if ∃ other ∈ segment :: rest, IsDotted other then 1 else 0) = 1 :=
        if_pos ⟨segment, List.mem_cons_self, dotted⟩
      rw [whole, next, one]
      omega
    · have own : (pathChars [escapeSegment segment]).length = 1 + segment.length := by
        rw [shown segment List.mem_cons_self]
        simp [pathChars, Nat.add_comm]
      have bound := behind (known ++ [escapeSegment segment])
      rw [pathChars_append, List.length_append, own] at bound
      rw [whole, next]
      simp only [List.exists_mem_cons_iff, plain, false_or]
      omega

end Segments

/-! ### Paths -/

section Paths

variable {path rest : List Char} {c : Char}

theorem isPathChar_iff :
    isPathChar c ↔ isShownChar "\"#<>?`\x7b\x7d" c ∧ c ≠ '\\' := by
  have marks : "\"#<>?`\x7b\x7d\\".toList = "\"#<>?`\x7b\x7d".toList ++ ['\\'] := by decide
  simp only [isPathChar, isShownChar, marks, List.mem_append, List.mem_singleton, not_or,
    Bool.and_eq_true, decide_eq_true_eq, and_assoc]

theorem endsPath_of_isPathChar (plain : isPathChar c) : endsPath c = false := by
  have apart : c ≠ '?' ∧ c ≠ '#' := by
    constructor <;> rintro rfl <;> exact absurd plain (by decide)
  simp [endsPath, apart]

/-- Whatever a path is, what is written starts with a slash. -/
theorem head?_pathChars (path : List Char) : (pathChars (segmentsOf path)).head? = some '/' := by
  have some : segmentsOf path ≠ [] := by
    cases path with
    | nil => simp [segmentsOf]
    | cons => exact resolve_ne_nil (.inl (pieces_ne_nil _ _))
  obtain ⟨first, others, split⟩ := List.exists_cons_of_ne_nil some
  rw [split, pathChars, List.flatMap_cons]
  rfl

/-- Whatever a path is, what is written stands for itself. -/
theorem isPathChar_of_mem (mem : c ∈ pathChars (segmentsOf path)) : isPathChar c := by
  obtain ⟨shown, among, mem⟩ := List.mem_flatMap.1 mem
  rcases List.mem_cons.1 mem with rfl | mem
  · decide
  have source : shown = "" ∨
      ∃ segment ∈ pieces isSlash path.tail, shown = escapeSegment segment := by
    cases path with
    | nil => exact .inl (List.mem_singleton.1 among)
    | cons first rest => exact (mem_resolve among).resolve_left (by simp)
  rcases source with rfl | ⟨segment, piece, rfl⟩
  · cases mem
  obtain ⟨shown, own⟩ := shown_of_mem_escape (by decide) mem
  refine isPathChar_iff.2 ⟨shown, ?_⟩
  rintro rfl
  rcases own with own | mark
  · exact absurd (unmarked_of_mem_pieces piece own).2 (by decide)
  · exact absurd mark (by decide)

/-- A path is written as it was read if and only if its characters stand for themselves and no
segment of it is dotted. -/
theorem pathChars_segmentsOf_iff : pathChars (segmentsOf ('/' :: rest)) = '/' :: rest ↔
    (∀ c ∈ rest, isPathChar c) ∧ ∀ segment ∈ pieces isSlash rest, ¬ IsDotted segment := by
  have kept (plain : ∀ c ∈ rest, isPathChar c) : ∀ segment ∈ pieces isSlash rest,
      escapeSegment segment = String.ofList segment :=
    fun segment mem => escape_eq_self fun c among =>
      (isPathChar_iff.1 (plain c (unmarked_of_mem_pieces mem among).1)).1
  have whole (plain : ∀ c ∈ rest, isPathChar c) : joined (pieces isSlash rest) = '/' :: rest :=
    joined_pieces fun mem => absurd (plain _ mem) (by decide)
  constructor
  · intro same
    have plain : ∀ c ∈ rest, isPathChar c := by
      intro c mem
      have written := List.mem_cons_of_mem '/' mem
      rw [← same] at written
      exact isPathChar_of_mem written
    refine ⟨plain, fun segment mem dotted => ?_⟩
    have bound : (pathChars (resolve [] _)).length + _ ≤ _ := length_resolve (kept plain)
    have length := congrArg List.length same
    rw [segmentsOf] at length
    rw [if_pos ⟨segment, mem, dotted⟩, whole plain, length] at bound
    simp only [pathChars, List.flatMap_nil, List.length_nil] at bound
    omega
  · rintro ⟨plain, straight⟩
    rw [segmentsOf, resolve_of_plain straight, List.nil_append, List.map_congr_left (kept plain),
      pathChars, List.flatMap_map, ← whole plain, joined]
    simp

end Paths

/-! ### Places -/

/-- A place that is written as it was read. -/
structure IsPlain (place : List Char) : Prop where
  slash : place.head? = some '/'
  path : ∀ c ∈ place.takeWhile (!endsPath ·), isPathChar c
  segments : ∀ segment ∈ pieces isSlash (place.takeWhile (!endsPath ·)), ¬ IsDotted segment
  query : place.dropWhile (!endsPath ·) = [] ∨
    ∃ query, place.dropWhile (!endsPath ·) = '?' :: query ∧ ∀ c ∈ query, isQueryChar c

/-- The path and the query of a URL as they are written. -/
def placeChars (url : Url) : List Char :=
  pathChars url.segments ++ (url.query.map fun query => '?' :: query.toList).getD []

section Places

variable {place : List Char} {url : Url}

theorem isQueryChar_of_mem {text : List Char} {c : Char} (mem : c ∈ (escapeQuery text).toList) :
    isQueryChar c := (shown_of_mem_escape (by decide) mem).1

/-- What is written behind a path ends it. -/
theorem queryChars_cases (text : List Char) :
    let written := ((queryOf text).map fun query => '?' :: query.toList).getD []
    written = [] ∨ ∃ query, written = '?' :: query ∧ ∀ c ∈ query, isQueryChar c := by
  intro written
  cases asked : queryOf text with
  | none => exact .inl (by simp [written, asked])
  | some query =>
    refine .inr ⟨query.toList, by simp [written, asked], fun c mem => ?_⟩
    unfold queryOf at asked
    split at asked
    · obtain rfl := Option.some.inj asked
      exact isQueryChar_of_mem mem
    · cases asked

/-- A query is written as it was read if its characters stand for themselves. -/
theorem queryChars_of_plain {query : List Char} (plain : ∀ c ∈ query, isQueryChar c) :
    queryOf ('?' :: query) = some (String.ofList query) := by
  have whole : ('?' :: query).takeWhile (· ≠ '#') = '?' :: query := by
    refine List.takeWhile_eq_self_iff.2 fun c mem => ?_
    rcases List.mem_cons.1 mem with rfl | mem
    · decide
    · refine decide_eq_true ?_
      rintro rfl
      exact absurd (plain _ mem) (by decide)
  rw [queryOf, whole]
  exact congrArg some (escape_eq_self plain)

/-- A place behind a slash is written as it was read if and only if it is plain. -/
theorem placeChars_eq_iff (slash : place.head? = some '/')
    (path : url.segments = segmentsOf (place.takeWhile (!endsPath ·)))
    (query : url.query = queryOf (place.dropWhile (!endsPath ·))) :
    url.placeChars = place ↔ IsPlain place := by
  obtain ⟨rest, front⟩ : ∃ rest, place.takeWhile (!endsPath ·) = '/' :: rest := by
    obtain ⟨rest, rfl⟩ : ∃ rest, place = '/' :: rest := by
      cases place with
      | nil => cases slash
      | cons c rest => exact ⟨rest, by rw [Option.some.inj slash]⟩
    exact ⟨_, List.takeWhile_cons_of_pos (by decide)⟩
  have cut := List.takeWhile_append_dropWhile (p := (!endsPath ·)) (l := place)
  rw [placeChars, path, query]
  constructor
  · intro same
    have behind := queryChars_cases (place.dropWhile (!endsPath ·))
    -- what is written for the path goes on for as long as the path itself
    have ends : ∀ c ∈ pathChars (segmentsOf (place.takeWhile (!endsPath ·))),
        (!endsPath c) = true := fun c mem => by
      rw [endsPath_of_isPathChar (isPathChar_of_mem mem)]
      rfl
    have stop : ∀ text : List Char, (text = [] ∨ ∃ query, text = '?' :: query ∧
        ∀ c ∈ query, isQueryChar c) → text.takeWhile (!endsPath ·) = [] ∧
          text.dropWhile (!endsPath ·) = text := by
      rintro _ (rfl | ⟨query, rfl, -⟩)
      · exact ⟨rfl, rfl⟩
      · exact ⟨List.takeWhile_cons_of_neg (by decide), List.dropWhile_cons_of_neg (by decide)⟩
    have written := congrArg (List.takeWhile (!endsPath ·)) same
    rw [List.takeWhile_append_of_pos ends, (stop _ behind).1, List.append_nil] at written
    have left := congrArg (List.dropWhile (!endsPath ·)) same
    rw [List.dropWhile_append_of_pos ends, (stop _ behind).2] at left
    rw [front] at written
    obtain ⟨plain, straight⟩ := pathChars_segmentsOf_iff.1 written
    refine ⟨slash, ?_, ?_, left ▸ behind⟩
    · rw [front]
      exact List.forall_mem_cons.2 ⟨by decide, plain⟩
    · rw [front, pieces, if_pos (by decide)]
      exact List.forall_mem_cons.2 ⟨by decide, straight⟩
  · intro plain
    have path := plain.path
    have segments := plain.segments
    rw [front] at path segments
    rw [pieces, if_pos (by decide)] at segments
    have written := pathChars_segmentsOf_iff.2
      ⟨(List.forall_mem_cons.1 path).2, (List.forall_mem_cons.1 segments).2⟩
    refine Eq.trans ?_ cut
    rw [front, written]
    congr 1
    rcases plain.query with none | ⟨query, some, shown⟩
    · rw [none]
      rfl
    · rw [some, queryChars_of_plain shown]
      simp

end Places

/-! ### Reading -/

/-- A text that names a server, with a place behind it. -/
def IsAddress (text place : List Char) : Prop :=
  ∃ scheme authority : List Char, text = scheme ++ ':' :: '/' :: '/' :: (authority ++ place) ∧
    ':' ∉ scheme ∧ (∀ c ∈ scheme, isBlank c = false) ∧ authority ≠ [] ∧
    ∀ c ∈ authority, isBlank c = false ∧ isSlash c = false ∧ endsPath c = false

section Reading

variable {text place : List Char} {url : Url}

theorem IsAddress.append (address : IsAddress text place) (behind : List Char) :
    IsAddress (text ++ behind) (place ++ behind) := by
  obtain ⟨scheme, authority, rfl, rest⟩ := address
  exact ⟨scheme, authority, by simp, rest⟩

theorem clean_eq_self (shown : ∀ c ∈ text, isBlank c = false) : clean text = text := by
  have trim : ∀ text : List Char, (∀ c ∈ text, isBlank c = false) → text.dropWhile isBlank = text
    | [], _ => rfl
    | c :: text, shown => List.dropWhile_cons_of_neg (by simp [shown c List.mem_cons_self])
  have back : (text.reverse.dropWhile isBlank).reverse = text := by
    rw [trim _ fun c mem => shown c (List.mem_reverse.1 mem), List.reverse_reverse]
  rw [clean]
  simp only [back, trim text shown]
  refine List.filter_eq_self.2 fun c mem => ?_
  have own := shown c mem
  have apart : c ≠ '\t' ∧ c ≠ '\n' ∧ c ≠ '\r' := by
    refine ⟨?_, ?_, ?_⟩ <;> rintro rfl <;> exact absurd own (by decide)
  simp [apart]

/-- A URL has its path and its query from the text. -/
theorem exists_of_parse? {text : String} (read : parse? text = some url) :
    ∃ path behind, url.segments = segmentsOf path ∧ url.query = queryOf behind := by
  simp only [parse?, Option.bind_eq_bind, Option.bind_eq_some_iff, Option.pure_def,
    Option.some.injEq] at read
  obtain ⟨_, -, _, -, _, -, rfl⟩ := read
  exact ⟨_, _, rfl, rfl⟩

/-- What stands behind a server is read as a path and a query. -/
theorem segments_of_parse? (address : IsAddress text place) (slash : place.head? = some '/')
    (shown : ∀ c ∈ place, isBlank c = false) (read : parse? (String.ofList text) = some url) :
    url.segments = segmentsOf (place.takeWhile (!endsPath ·)) ∧
      url.query = queryOf (place.dropWhile (!endsPath ·)) := by
  obtain ⟨scheme, authority, rfl, single, plain, some, server⟩ := address
  have cleaned : clean (scheme ++ ':' :: '/' :: '/' :: (authority ++ place)) =
      scheme ++ ':' :: '/' :: '/' :: (authority ++ place) := by
    refine clean_eq_self fun c mem => ?_
    simp only [List.mem_append, List.mem_cons] at mem
    rcases mem with mem | rfl | rfl | rfl | mem | mem
    · exact plain c mem
    · decide
    · decide
    · decide
    · exact (server c mem).1
    · exact shown c mem
  have split : splitFirst ':' (scheme ++ ':' :: '/' :: '/' :: (authority ++ place)) =
      .some (scheme, '/' :: '/' :: (authority ++ place)) :=
    splitFirst_eq_some_iff.2 ⟨rfl, single⟩
  have slashes : ('/' :: '/' :: (authority ++ place)).dropWhile isSlash = authority ++ place := by
    obtain ⟨c, rest, rfl⟩ := List.exists_cons_of_ne_nil some
    have own := (server c List.mem_cons_self).2.1
    rw [List.dropWhile_cons_of_pos (by decide), List.dropWhile_cons_of_pos (by decide)]
    exact List.dropWhile_cons_of_neg (by simp [own])
  have stop : (authority ++ place).takeWhile (fun c => !isSlash c && !endsPath c) = authority := by
    rw [List.takeWhile_append_of_pos fun c mem => by simp [(server c mem).2]]
    cases place with
    | nil => cases slash
    | cons c rest =>
      obtain rfl := Option.some.inj slash
      rw [List.takeWhile_cons_of_neg (by decide), List.append_nil]
  simp only [parse?, String.toList_ofList, cleaned, scheme?, split, Option.bind_eq_bind,
    Option.bind_some, Option.bind_eq_some_iff, Option.pure_def, Option.some.injEq] at read
  obtain ⟨_, ⟨_, -, rfl⟩, _, -, _, -, rfl⟩ := read
  simp only [slashes, stop, List.drop_left, true_and]
  have front : place.take (place.takeWhile (!endsPath ·)).length = place.takeWhile (!endsPath ·) :=
    (List.prefix_iff_eq_take.1 (List.takeWhile_prefix _)).symm
  have both := (congrArg (· ++ _) front.symm).trans
    (List.take_append_drop (place.takeWhile (!endsPath ·)).length place)
  exact congrArg queryOf
    (List.append_cancel_left (both.trans List.takeWhile_append_dropWhile.symm))

/-- The place behind a server is written as it was read if and only if it is plain. -/
theorem placeChars_of_parse?_iff (address : IsAddress text place)
    (read : parse? (String.ofList text) = some url) : url.placeChars = place ↔ IsPlain place := by
  have step (slash : place.head? = some '/') (shown : ∀ c ∈ place, isBlank c = false) :
      url.placeChars = place ↔ IsPlain place :=
    (segments_of_parse? address slash shown read).elim (placeChars_eq_iff slash)
  have blank {except : String} {c : Char} (own : isShownChar except c) : isBlank c = false := by
    simp only [isShownChar, Bool.and_eq_true, decide_eq_true_eq] at own
    exact decide_eq_false (by omega)
  have behind {written : List Char} (query : written = [] ∨
      ∃ query, written = '?' :: query ∧ ∀ c ∈ query, isQueryChar c) :
      ∀ c ∈ written, isBlank c = false := by
    rcases query with rfl | ⟨query, rfl, shown⟩
    · simp
    · exact List.forall_mem_cons.2 ⟨by decide, fun c mem => blank (shown c mem)⟩
  constructor
  · intro same
    obtain ⟨path, rest, segments, query⟩ := exists_of_parse? read
    rw [placeChars, segments, query] at same
    refine (step ?_ ?_).1 ?_
    · rw [← same, List.head?_append, head?_pathChars]
      rfl
    · rw [← same]
      exact List.forall_mem_append.2
        ⟨fun c mem => blank (isPathChar_of_mem mem), behind (queryChars_cases rest)⟩
    · rw [placeChars, segments, query, same]
  · intro plain
    refine (step plain.slash ?_).2 plain
    rw [← List.takeWhile_append_dropWhile (p := (!endsPath ·)) (l := place)]
    exact List.forall_mem_append.2 ⟨fun c mem => blank (plain.path c mem), behind plain.query⟩

end Reading

end SealGate.Net.Url
