import SealGate.Proofs.Json.RoundTrip
import SealGate.Proofs.Reader.Recent
import SealGate.Session.Settings

/-! What a settings store keeps. Reading changes no stored text and writing changes the one that is
written. If no access fails, a read tells what the stored text spells, and a proper value that was
written is read back. -/

namespace SealGate.Session

open Json

namespace SettingsFile

variable (file : SettingsFile)

theorem lookup?_migrated (key : String) : file.migrated.lookup? key = file.lookup? key := rfl

theorem lookup?_put (key text : String) : (file.put key text).lookup? key = some text := by
  simp [put, lookup?, rows]

theorem lookup?_put_of_ne {key other : String} (different : other ≠ key) (text : String) :
    (file.put key text).lookup? other = file.lookup? other := by
  simp only [put, lookup?]
  exact congrArg (Option.map Prod.snd) (Entries.find?_replaced file.rows text different)

end SettingsFile

namespace Settings

/-- No access fails. -/
def IsReliable (store : Settings) : Prop := ∀ number, store.fault? number = none

theorem isReliable_ofFile (file : SettingsFile) : (ofFile file).IsReliable := fun _ => rfl

/-- The same text is stored under a name, and accesses fail as before. -/
structure Keeps (before after : Settings) (key : String) : Prop where
  fault? : after.fault? = before.fault?
  lookup? : after.file.lookup? key = before.file.lookup? key

variable {α : Type} {read : Node → Option α} {before between after store : Settings} {key : String}

theorem Keeps.refl (store : Settings) (key : String) : store.Keeps store key := ⟨rfl, rfl⟩

theorem Keeps.trans (first : before.Keeps between key) (second : between.Keeps after key) :
    before.Keeps after key :=
  ⟨second.fault?.trans first.fault?, second.lookup?.trans first.lookup?⟩

theorem Keeps.isReliable (keeps : before.Keeps after key) (reliable : before.IsReliable) :
    after.IsReliable := by
  intro number
  rw [keeps.fault?]
  exact reliable number

theorem keeps_access (store : Settings) (key : String) : store.Keeps store.access.2 key := by
  unfold access
  cases store.fault? store.accesses with
  | none => exact ⟨rfl, store.file.lookup?_migrated key⟩
  | some error => exact ⟨rfl, rfl⟩

/-- Reading changes no stored text. -/
theorem keeps_get (read : Node → Option α) (key other : String) (store : Settings) :
    store.Keeps (store.get read key).2 other := by
  have keeps := store.keeps_access other
  unfold get
  rcases accessed : store.access with ⟨error | _, after⟩ <;> rw [accessed] at keeps
  · exact keeps
  simp only
  split
  · exact keeps
  · split <;> exact keeps

/-- Writing changes no text with another name. -/
theorem keeps_set {other : String} (different : other ≠ key) (value : Node) (store : Settings) :
    store.Keeps (store.set key value).2 other := by
  have keeps := store.keeps_access other
  unfold set
  rcases accessed : store.access with ⟨error | _, after⟩ <;> rw [accessed] at keeps
  · exact keeps
  · exact ⟨keeps.fault?, (after.file.lookup?_put_of_ne different _).trans keeps.lookup?⟩

/-- A write that fails changes no text at all. -/
theorem keeps_set_of_error {value : Node} {error : SettingsError}
    (failed : (store.set key value).1 = .error error) (other : String) :
    store.Keeps (store.set key value).2 other := by
  have keeps := store.keeps_access other
  unfold set at failed ⊢
  rcases accessed : store.access with ⟨error | _, after⟩ <;> rw [accessed] at keeps failed
  · exact keeps
  · cases failed

/-! ### A store of which no access fails -/

/-- The value that a stored text spells. -/
def spelled (read : Node → Option α) : Option String → Except SettingsError (Option α)
  | none => .ok none
  | some text =>
    match (Node.parse? text).bind read with
    | none => .error .value
    | some value => .ok (some value)

theorem access_of_reliable (reliable : store.IsReliable) :
    store.access =
      (.ok (), { store with accesses := store.accesses + 1, file := store.file.migrated }) := by
  rw [access, reliable]

theorem get_of_reliable (reliable : store.IsReliable) (read : Node → Option α) (key : String) :
    (store.get read key).1 = spelled read (store.file.lookup? key) := by
  simp only [get, access_of_reliable reliable, SettingsFile.lookup?_migrated]
  cases store.file.lookup? key with
  | none => rfl
  | some text =>
    simp only [spelled]
    cases (Node.parse? text).bind read <;> rfl

theorem set_of_reliable (reliable : store.IsReliable) (key : String) (value : Node) :
    (store.set key value).1 = .ok () ∧ (store.set key value).2.IsReliable ∧
      (store.set key value).2.file.lookup? key = some value.render := by
  simp only [set, access_of_reliable reliable]
  exact ⟨trivial, reliable, SettingsFile.lookup?_put _ _ _⟩

/-- What was written is read back. -/
theorem get_set (reliable : store.IsReliable) (key : String) {value : Node}
    (proper : value.IsProper) {given : α} (reads : read value = some given) :
    ((store.set key value).2.get read key).1 = .ok (some given) := by
  obtain ⟨-, still, stored⟩ := set_of_reliable reliable key value
  rw [get_of_reliable still, stored, spelled, Node.parse?_render proper, Option.bind_some, reads]

theorem Keeps.get (keeps : before.Keeps after key) (reliable : before.IsReliable) :
    (after.get read key).1 = (before.get read key).1 := by
  rw [get_of_reliable (keeps.isReliable reliable), get_of_reliable reliable, keeps.lookup?]

/-! ### The flag -/

theorem enabled_fst (store : Settings) :
    store.enabled.1 = (store.get Node.bool? enabledKey).1.map (·.getD false) := rfl

theorem keeps_enabled (store : Settings) (key : String) : store.Keeps store.enabled.2 key :=
  keeps_get Node.bool? enabledKey key store

theorem keeps_theme (store : Settings) (key : String) : store.Keeps store.theme.2 key :=
  keeps_get Node.text? themeKey key store

theorem Keeps.enabled (keeps : before.Keeps after enabledKey) (reliable : before.IsReliable) :
    after.enabled.1 = before.enabled.1 := by
  rw [enabled_fst, enabled_fst, keeps.get reliable]

theorem setEnabled_of_reliable (reliable : store.IsReliable) (flag : Bool) :
    (store.setEnabled flag).1 = .ok () ∧ (store.setEnabled flag).2.IsReliable ∧
      (store.setEnabled flag).2.enabled.1 = .ok flag := by
  obtain ⟨done, still, -⟩ := set_of_reliable reliable enabledKey (.bool flag)
  have back := get_set reliable enabledKey (.bool flag) (Node.bool?_bool flag)
  refine ⟨done, still, ?_⟩
  rw [enabled_fst, setEnabled, back]
  rfl

end Settings

end SealGate.Session
