import Mathlib.Data.List.TakeWhile
import SealGate.Proofs.Gateway.Folders

/-! How the rest of a path is written. Each character of it can stand as it is, if it is one that a
path may have, or as the escapes of its UTF-8 bytes, whose digits are of either case; so one text
has many spellings, and a slash or a percent sign can be among what is escaped. All of them are read
as that text, behind whatever the path starts with. Bytes that are no text are not read at all. So a
folder can be asked for in every spelling of its path. -/

namespace SealGate

open Http Session Vault Origin Reader

/-- What is read as a text is made of its bytes. -/
theorem Bytes.ofText_of_text? {bytes : Bytes} {text : String} (read : text? bytes = some text) :
    ofText text = bytes := by
  unfold text? String.fromUTF8? at read
  split at read
  · obtain rfl := Option.some.inj read
    rfl
  · cases read

namespace Text.Percent

/-- An ASCII character that may stand in a path, where a percent sign would start an escape and the
two others would end the path. -/
def IsPathChar (c : Char) : Prop := 32 < c.toNat ∧ c.toNat < 127 ∧ c ≠ '%' ∧ c ≠ '?' ∧ c ≠ '#'

instance (c : Char) : Decidable (IsPathChar c) := inferInstanceAs (Decidable (_ ∧ _))

/-- Bytes that are all written as escapes. -/
inductive Escapes : List Char → Bytes → Prop
  | nil : Escapes [] []
  | cons {high low : Char} {h l : Nat} {escapes : List Char} {bytes : Bytes} :
      Hex.digitValue? high = some h → Hex.digitValue? low = some l → Escapes escapes bytes →
      Escapes ('%' :: high :: low :: escapes) (UInt8.ofNat (16 * h + l) :: bytes)

/-- A text that is written in a path, character by character. -/
inductive Writes : List Char → List Char → Prop
  | nil : Writes [] []
  | literal {c : Char} {spelling text : List Char} : IsPathChar c → Writes spelling text →
      Writes (c :: spelling) (c :: text)
  | escaped {c : Char} {escapes spelling text : List Char} :
      Escapes escapes (String.utf8EncodeChar c) → Writes spelling text →
      Writes (escapes ++ spelling) (c :: text)

variable {spelling text : List Char} {bytes : Bytes}

theorem spells_of_digits {high low : Char} {h l : Nat} (first : Hex.digitValue? high = some h)
    (second : Hex.digitValue? low = some l) :
    Spells (['%', high, low].flatMap String.utf8EncodeChar) [UInt8.ofNat (16 * h + l)] := by
  have digit {c : Char} {n : Nat} (value : Hex.digitValue? c = some n) :
      String.utf8EncodeChar c = [UInt8.ofNat c.toNat] ∧
        digitValue? (UInt8.ofNat c.toNat) = some n := by
    have ascii : c.toNat ≤ 127 := (isHexDigit_bounds (by simp [isHexDigit, value])).1
    refine ⟨Bytes.utf8EncodeChar_ascii ascii, ?_⟩
    rw [digitValue?, UInt8.toNat_ofNat', Nat.mod_eq_of_lt (by omega), Char.ofNat_toNat, value]
  have percent : String.utf8EncodeChar '%' = [37] := rfl
  simp only [List.flatMap_cons, List.flatMap_nil, percent, (digit first).1, (digit second).1]
  exact .escaped (digit first).2 (digit second).2 .nil

theorem Escapes.spells (escapes : Escapes spelling bytes) :
    Spells (spelling.flatMap String.utf8EncodeChar) bytes := by
  induction escapes with
  | nil => exact .nil
  | @cons high low h l escapes bytes first second _ ih =>
    have split : '%' :: high :: low :: escapes = ['%', high, low] ++ escapes := rfl
    rw [split, List.flatMap_append]
    exact (spells_of_digits first second).append ih

theorem Writes.spells (writes : Writes spelling text) :
    Spells (spelling.flatMap String.utf8EncodeChar) (text.flatMap String.utf8EncodeChar) := by
  induction writes with
  | nil => exact .nil
  | @literal c spelling text plain _ ih =>
    have alone : ∀ other ∈ [c], other.toNat ≤ 127 ∧ other ≠ '%' :=
      List.forall_mem_singleton.2 ⟨plain.2.1.le, plain.2.2.1⟩
    have one := spells_ascii alone
    rw [List.flatMap_singleton] at one
    exact one.append ih
  | escaped escapes _ ih =>
    rw [List.flatMap_append, List.flatMap_cons]
    exact escapes.spells.append ih

theorem Writes.isSpelling {spelling text : String} (writes : Writes spelling.toList text.toList) :
    IsSpelling spelling text := by
  have spells := writes.spells
  rwa [← Bytes.ofText_ofList, ← Bytes.ofText_ofList, String.ofList_toList, String.ofList_toList]
    at spells

theorem writes_self (plain : ∀ c ∈ text, IsPathChar c) : Writes text text := by
  induction text with
  | nil => exact .nil
  | cons c text ih =>
    obtain ⟨first, rest⟩ := List.forall_mem_cons.1 plain
    exact .literal first (ih rest)

theorem Escapes.inside (escapes : Escapes spelling bytes) : ∀ c ∈ spelling, c ≠ '?' ∧ c ≠ '#' := by
  have digit {c : Char} {n : Nat} (value : Hex.digitValue? c = some n) : c ≠ '?' ∧ c ≠ '#' := by
    constructor <;> rintro rfl <;> cases value
  induction escapes with
  | nil => exact fun c mem => absurd mem List.not_mem_nil
  | cons first second _ ih =>
    rw [List.forall_mem_cons, List.forall_mem_cons, List.forall_mem_cons]
    exact ⟨by decide, digit first, digit second, ih⟩

/-- No spelling ends a path before its own end. -/
theorem Writes.inside (writes : Writes spelling text) : ∀ c ∈ spelling, c ≠ '?' ∧ c ≠ '#' := by
  induction writes with
  | nil => exact fun c mem => absurd mem List.not_mem_nil
  | literal plain _ ih => exact List.forall_mem_cons.2 ⟨plain.2.2.2, ih⟩
  | escaped escapes _ ih => exact List.forall_mem_append.2 ⟨escapes.inside, ih⟩

end Text.Percent

namespace Http

/-- A text that starts with a slash, and has no query or fragment, is read as a path. -/
theorem Target.path_parse {text : String} (rooted : text.toList.head? = some '/')
    (inside : ∀ c ∈ text.toList, c ≠ '?' ∧ c ≠ '#') : (Target.parse text).path = text := by
  have whole : text.toList.takeWhile (· ≠ '#') = text.toList :=
    List.takeWhile_eq_self_iff.2 fun c mem => by simpa using (inside c mem).2
  have unmarked : Text.splitFirst '?' text.toList = none :=
    Text.splitFirst_eq_none_iff.2 fun mem => (inside '?' mem).1 rfl
  rw [Target.parse, if_pos (.inr rooted), Place.ofChars]
  simp only [whole, unmarked]
  exact String.ofList_toList

end Http

namespace Gateway

open Text

/-- Bytes that no text has are not decoded. -/
theorem pathAfter_of_unreadable {request : Request} {lead rest : String}
    (unreadable : ∀ text, Percent.decodeBytes (Bytes.ofText rest) ≠ Bytes.ofText text)
    (path : request.path = lead ++ rest) : pathAfter request lead = .error .invalidPath := by
  rw [pathAfter_of_path path]
  cases decoded : Percent.decode? rest with
  | none => rfl
  | some text => exact absurd (Bytes.ofText_of_text? decoded).symm (unreadable text)

/-- However a text is written behind the start of a path, it is read as that text, and a place on a
server that is written so has that path. What is no text is refused. So a request for a folder, in
every spelling of its path, is answered with the listing of that folder, from the catalog that is
held or fetched. -/
theorem path_is_read_in_every_spelling :
    (∀ (request : Request) (lead spelling text : String),
      Percent.Writes spelling.toList text.toList → request.path = lead ++ spelling →
      pathAfter request lead = .ok text) ∧
    (∀ lead spelling text : String, lead.toList.head? = some '/' →
      (∀ c ∈ lead.toList, c ≠ '?' ∧ c ≠ '#') → Percent.Writes spelling.toList text.toList →
      (Target.parse (lead ++ spelling)).path = lead ++ spelling) ∧
    (∀ (request : Request) (lead rest : String), request.path = lead ++ rest →
      (∀ text, Percent.decodeBytes (Bytes.ofText rest) ≠ Bytes.ofText text) →
      pathAfter request lead = .error .invalidPath) ∧
    ∀ (g : Gateway) (unlocked : Unlocked Index) (request : Request) (spelling text : String),
      g.snapshot.unlocked? = some unlocked → request.method = "GET" →
      Percent.Writes spelling.toList ("/" ++ text).toList →
      request.path = "/api/tree" ++ spelling →
      let asked := g.askIndex (Index.query (·.listFolder ("/" ++ text))) unlocked
      g.serve request =
          (respond (asked.1.map fun entries => jsonResponse 200 (Entry.listNode entries)),
            asked.2) ∧
        ∀ catalog, (unlocked.index.held g.engine.link).1 = .ok catalog →
          (g.serve request).1 =
            jsonResponse 200 (Entry.listNode (catalog.listFolder ("/" ++ text))) := by
  refine ⟨fun request lead spelling text writes => pathAfter_of_spelling writes.isSpelling,
    fun lead spelling text rooted ends writes => ?_,
    fun request lead rest path unreadable => pathAfter_of_unreadable unreadable path,
    fun g unlocked request spelling text known method writes path => ?_⟩
  · refine Target.path_parse ?_ ?_
    · rw [String.toList_append, List.head?_append, rooted]
      rfl
    · rw [String.toList_append, List.forall_mem_append]
      exact ⟨ends, writes.inside⟩
  · have rooted : Index.isAbsolute ("/" ++ text) = true := by simp [Index.isAbsolute]
    have asks : AsksForFolder ("/" ++ text) request :=
      ⟨method, spelling, writes.isSpelling, path⟩
    exact ⟨serve_tree_eq known rooted asks, fun catalog held => serve_tree known held rooted asks⟩

/-- A path in capital and small digits, one that is no text, and a folder with an escaped slash. -/
theorem path_is_read_in_every_spelling_of_sample :
    let request (path : String) : Request := ⟨"GET", .here ⟨path, none⟩, [], []⟩
    let listing := (Catalog.ofEntries [deepSample]).listFolder "/docs//"
    Percent.Writes "%c3%B6/%25".toList "ö/%".toList ∧
      pathAfter (request "/api/metadata/%c3%B6/%25") "/api/metadata/" = .ok "ö/%" ∧
      (Target.parse "/api/metadata/%c3%B6/%25").path = "/api/metadata/%c3%B6/%25" ∧
    pathAfter (request "/api/tree/%FF") "/api/tree" = .error .invalidPath ∧
    Percent.Writes "%2Fdocs//".toList "/docs//".toList ∧
      (deepIndexed.serve (request "/api/tree%2Fdocs//")).1 =
        jsonResponse 200 (Entry.listNode listing) := by
  intro request listing
  obtain ⟨reads, parses, refuses, lists⟩ := path_is_read_in_every_spelling
  have umlaut : Percent.Escapes ['%', 'c', '3', '%', 'B', '6'] (String.utf8EncodeChar 'ö') :=
    .cons (h := 12) (l := 3) rfl rfl (.cons (h := 11) (l := 6) rfl rfl .nil)
  have percent : Percent.Escapes ['%', '2', '5'] (String.utf8EncodeChar '%') :=
    .cons (h := 2) (l := 5) rfl rfl .nil
  have slash : Percent.Escapes ['%', '2', 'F'] (String.utf8EncodeChar '/') :=
    .cons (h := 2) (l := 15) rfl rfl .nil
  have name : Percent.Writes "%c3%B6/%25".toList "ö/%".toList :=
    .escaped umlaut (.literal (by decide) (.escaped percent .nil))
  have plain : Percent.Writes "docs//".toList "docs//".toList :=
    Percent.writes_self (by simp [Percent.IsPathChar])
  have folder : Percent.Writes "%2Fdocs//".toList "/docs//".toList := .escaped slash plain
  have unreadable (text : String) :
      Percent.decodeBytes (Bytes.ofText "/%FF") ≠ Bytes.ofText text := by
    intro same
    have read := congrArg Bytes.text? same
    rw [Bytes.text?_ofText] at read
    have none : Bytes.text? (Percent.decodeBytes (Bytes.ofText "/%FF")) = none := by
      decide +kernel
    rw [none] at read
    cases read
  have index : (deepUnlocked.index.held deepIndexed.engine.link).1 =
      .ok (.ofEntries [deepSample]) := rfl
  exact ⟨name, reads (request "/api/metadata/%c3%B6/%25") _ _ _ name (by decide +kernel),
    parses "/api/metadata/" _ _ (by decide +kernel) (by simp) name,
    refuses (request "/api/tree/%FF") _ _ (by decide +kernel) unreadable, folder,
    (lists deepIndexed deepUnlocked (request "/api/tree%2Fdocs//") _ "docs//" rfl rfl folder
      (by decide +kernel)).2 _ index⟩

end Gateway

end SealGate
