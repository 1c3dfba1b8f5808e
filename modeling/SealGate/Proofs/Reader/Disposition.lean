import SealGate.Proofs.Bytes.Text
import SealGate.Reader

/-! The name in an answer. It stands between quotes behind which nothing comes, without the quotes
and control characters that it has itself. No byte of it can be refused in a header. A backslash is
not taken out, though, and whoever reads a quoted text takes it for the start of an escape: so the
answer says the name that is meant if and only if the name has no backslash. -/

namespace SealGate

open Vault Http

namespace Reader

/-! ### Quoted texts -/

def IsControlByte (b : UInt8) : Prop := b.toNat < 32 ∨ b.toNat = 127

instance (b : UInt8) : Decidable (IsControlByte b) := inferInstanceAs (Decidable (_ ∨ _))

/-- A byte that stands for itself between quotes. -/
def IsPlainByte (b : UInt8) : Prop :=
  (b.toNat = 9 ∨ ¬ IsControlByte b) ∧ b ≠ 34 ∧ b ≠ 92

instance (b : UInt8) : Decidable (IsPlainByte b) := inferInstanceAs (Decidable (_ ∧ _))

/-- The text between quotes, and what it says: a backslash gives the byte behind it. -/
inductive Quotes : Bytes → Bytes → Prop
  | nil : Quotes [] []
  | plain {b : UInt8} {text content : Bytes} : IsPlainByte b → Quotes text content →
      Quotes (b :: text) (b :: content)
  | escaped {b : UInt8} {text content : Bytes} : b.toNat = 9 ∨ ¬ IsControlByte b →
      Quotes text content → Quotes (92 :: b :: text) (b :: content)

/-- A text in quotes that says a content. -/
def IsQuotedString (quoted content : Bytes) : Prop :=
  ∃ text, quoted = 34 :: (text ++ [34]) ∧ Quotes text content

theorem Quotes.length_le {text content : Bytes} (quotes : Quotes text content) :
    content.length ≤ text.length := by
  induction quotes with
  | nil => exact Nat.le_refl 0
  | plain _ _ ih => exact Nat.succ_le_succ ih
  | escaped _ _ ih => exact Nat.succ_le_succ (Nat.le_succ_of_le ih)

/-- Without a backslash a text says itself. -/
theorem quotes_self_iff {text : Bytes} (proper : ∀ b ∈ text, ¬ IsControlByte b ∧ b ≠ 34) :
    Quotes text text ↔ 92 ∉ text := by
  induction text with
  | nil => exact iff_of_true .nil List.not_mem_nil
  | cons b text ih =>
    obtain ⟨first, rest⟩ := List.forall_mem_cons.1 proper
    rw [List.mem_cons, not_or, ← ih rest]
    constructor
    · intro quotes
      cases quotes with
      | plain plain quotes => exact ⟨Ne.symm plain.2.2, quotes⟩
      | escaped _ quotes =>
        -- the escape takes two bytes for one
        have shorter := quotes.length_le
        rw [List.length_cons] at shorter
        omega
    · rintro ⟨plain, quotes⟩
      exact .plain ⟨.inr first.1, first.2, Ne.symm plain⟩ quotes

/-! ### The name that is shown -/

/-- The text of the header for a name. -/
def dispositionText (name : String) : String :=
  if shownName name = [] then "inline"
  else "inline; filename=\"" ++ String.ofList (shownName name) ++ "\""

/-- A header that says a name without its quotes and control characters, if anything is left. -/
def QuotesName (name : String) (value : Bytes) : Prop :=
  if shownName name = [] then value = Bytes.ofText "inline"
  else ∃ quoted, value = Bytes.ofText "inline; filename=" ++ quoted ∧
    IsQuotedString quoted (Bytes.ofText (String.ofList (shownName name)))

theorem mem_shownName {name : String} {c : Char} :
    c ∈ shownName name ↔ c ∈ name.toList ∧ c ≠ '"' ∧ isControl c = false := by
  simp [shownName]

/-- No byte of the shown name is a control byte or a quote. -/
theorem proper_shownName (name : String) :
    ∀ b ∈ Bytes.ofText (String.ofList (shownName name)), ¬ IsControlByte b ∧ b ≠ 34 := by
  intro b mem
  by_cases ascii : b.toNat ≤ 127
  · obtain ⟨-, quote, control⟩ := mem_shownName.1 ((Bytes.mem_ofText_iff ascii).1 mem)
    simp only [isControl, Bytes.toNat_ofNat_byte, Bool.or_eq_false_iff, Bool.and_eq_false_iff,
      decide_eq_false_iff_not] at control
    refine ⟨by rw [IsControlByte]; omega, ?_⟩
    rintro rfl
    exact quote rfl
  · refine ⟨by rw [IsControlByte]; omega, ?_⟩
    rintro rfl
    exact ascii (by decide)

theorem backslash_mem_iff (name : String) :
    92 ∈ Bytes.ofText (String.ofList (shownName name)) ↔ '\\' ∈ name.toList := by
  rw [Bytes.mem_ofText_iff (by decide), mem_shownName]
  exact and_iff_left ⟨by decide, by decide⟩

theorem ofText_dispositionText {name : String} (left : shownName name ≠ []) :
    Bytes.ofText (dispositionText name) = Bytes.ofText "inline; filename=" ++
      34 :: (Bytes.ofText (String.ofList (shownName name)) ++ [34]) := by
  have front : Bytes.ofText "inline; filename=\"" = Bytes.ofText "inline; filename=" ++ [34] := rfl
  have back : Bytes.ofText "\"" = [34] := rfl
  rw [dispositionText, if_neg left, Bytes.ofText_append, Bytes.ofText_append, front, back]
  simp

/-- No byte of a text of printable ASCII characters is a control byte. -/
theorem proper_of_printable {text : String}
    (printable : ∀ c ∈ text.toList, 32 ≤ c.toNat ∧ c.toNat < 127) :
    ∀ b ∈ Bytes.ofText text, ¬ IsControlByte b := by
  intro b mem
  rw [← String.ofList_toList (s := text)] at mem
  rw [IsControlByte]
  by_cases ascii : b.toNat ≤ 127
  · have bounds := printable _ ((Bytes.mem_ofText_iff ascii).1 mem)
    rw [Bytes.toNat_ofNat_byte] at bounds
    omega
  · omega

theorem proper_dispositionText (name : String) :
    ∀ b ∈ Bytes.ofText (dispositionText name), ¬ IsControlByte b := by
  by_cases none : shownName name = []
  · rw [dispositionText, if_pos none]
    exact proper_of_printable (by simp)
  · rw [ofText_dispositionText none, List.forall_mem_append, List.forall_mem_cons,
      List.forall_mem_append]
    have quote : ¬ IsControlByte 34 := by decide
    exact ⟨proper_of_printable (by simp), quote,
      fun b mem => (proper_shownName name b mem).1, List.forall_mem_singleton.2 quote⟩

/-- A header has any value without control bytes, so nothing stands in for it. -/
theorem valueOr_of_proper {value : String} (proper : ∀ b ∈ Bytes.ofText value, ¬ IsControlByte b)
    (fallback : String) : valueOr fallback value = Bytes.ofText value := by
  refine if_pos (List.all_eq_true.2 fun b mem => ?_)
  have free := proper b mem
  simp only [IsControlByte, not_or, not_lt] at free
  simp [Headers.isValueByte, free.1, free.2]

theorem ofText_dispositionText_eq_iff (name : String) :
    Bytes.ofText (dispositionText name) = Bytes.ofText "inline" ↔ shownName name = [] := by
  constructor
  · intro same
    by_contra left
    have lengths := congrArg List.length same
    have short : (Bytes.ofText "inline").length = 6 := rfl
    have long : (Bytes.ofText "inline; filename=").length = 17 := rfl
    rw [ofText_dispositionText left, List.length_append, short, long] at lengths
    omega
  · intro none
    rw [dispositionText, if_pos none]

theorem quotesName_iff (name : String) :
    QuotesName name (Bytes.ofText (dispositionText name)) ↔ '\\' ∉ name.toList := by
  rw [← backslash_mem_iff, QuotesName]
  by_cases none : shownName name = []
  · rw [if_pos none, none]
    exact iff_of_true ((ofText_dispositionText_eq_iff name).2 none) List.not_mem_nil
  · rw [if_neg none, ofText_dispositionText none, ← quotes_self_iff (proper_shownName name)]
    constructor
    · rintro ⟨quoted, same, text, rfl, quotes⟩
      have inner := (List.cons.inj (List.append_cancel_left same)).2
      rw [List.append_cancel_right inner] at quotes ⊢
      exact quotes
    · exact fun quotes => ⟨_, rfl, _, rfl, quotes⟩

theorem disposition_eq_ofText (info : FileInfo) :
    disposition info = Bytes.ofText (dispositionText info.name) :=
  valueOr_of_proper (proper_dispositionText info.name) "inline"

/-- What is said of a file's name is one value, which no byte makes invalid, whatever would stand in
for it. It says nothing if no character is left of the name, and it says what is left between quotes
if and only if the name has no backslash. -/
theorem disposition_quotes_name_iff (info : FileInfo) :
    (contentHeaders info).values "content-disposition" = [disposition info] ∧
    (∀ b ∈ disposition info, ¬ IsControlByte b) ∧
    (∀ fallback, valueOr fallback (dispositionText info.name) = disposition info) ∧
    (disposition info = Bytes.ofText "inline" ↔ shownName info.name = []) ∧
    (QuotesName info.name (disposition info) ↔ '\\' ∉ info.name.toList) := by
  rw [disposition_eq_ofText]
  exact ⟨congrArg (fun value => [value]) (disposition_eq_ofText info),
    proper_dispositionText info.name,
    valueOr_of_proper (proper_dispositionText info.name),
    ofText_dispositionText_eq_iff info.name, quotesName_iff info.name⟩

/-- A name with a backslash is said without it, and one that ends in a backslash leaves its quotes
open. -/
theorem backslash_breaks_quotes :
    disposition ⟨"a\\b", "", 0⟩ = Bytes.ofText "inline; filename=\"a\\b\"" ∧
      IsQuotedString (Bytes.ofText "\"a\\b\"") (Bytes.ofText "ab") ∧
      ¬ QuotesName "a\\b" (disposition ⟨"a\\b", "", 0⟩) ∧
    disposition ⟨"a\\", "", 0⟩ = Bytes.ofText "inline; filename=\"a\\\"" ∧
      (∀ content, ¬ IsQuotedString (Bytes.ofText "\"a\\\"") content) ∧
      ¬ QuotesName "a\\" (disposition ⟨"a\\", "", 0⟩) := by
  have unsaid {name : String} (backslash : '\\' ∈ name.toList) :
      ¬ QuotesName name (disposition ⟨name, "", 0⟩) := by
    rw [disposition_eq_ofText, quotesName_iff]
    exact not_not_intro backslash
  refine ⟨by decide +kernel, ⟨[97, 92, 98], by decide +kernel, ?_⟩, unsaid (by decide +kernel),
    by decide +kernel, ?_, unsaid (by decide +kernel)⟩
  · exact .plain (by decide) (.escaped (by decide) .nil)
  · rintro content ⟨text, same, quotes⟩
    have bytes : Bytes.ofText "\"a\\\"" = 34 :: ([97, 92] ++ [34]) := by decide +kernel
    rw [bytes] at same
    obtain rfl := List.append_cancel_right (List.cons.inj same).2
    -- the backslash has no byte behind it
    rcases quotes with _ | ⟨-, _ | ⟨backslash, -⟩⟩
    exact backslash.2.2 rfl

end Reader

end SealGate
