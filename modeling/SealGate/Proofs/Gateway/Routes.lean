import SealGate.Gateway.Route

/-! Which rule takes a path. A rule with a leading text takes the paths that start with it, so the
paths for unlocking are taken in both tables, by the origin's rule while decryption is off and by
our own while it is on. -/

namespace SealGate.Gateway

theorem accepts_startsWith_iff {lead path : String} :
    (Matcher.startsWith lead).accepts path = true ↔ lead.toList <+: path.toList := by
  rw [Matcher.accepts, Option.isSome_iff_exists]
  constructor
  · rintro ⟨rest, found⟩
    exact ⟨rest, (Text.after?_eq_some_iff.1 found).symm⟩
  · rintro ⟨rest, same⟩
    exact ⟨rest, Text.after?_eq_some_iff.2 same.symm⟩

theorem accepts_startsWith_eq_false {lead path : String}
    (apart : ¬ lead.toList <+: path.toList) : (Matcher.startsWith lead).accepts path = false := by
  rwa [← Bool.not_eq_true, accepts_startsWith_iff]

/-- No path starts with two texts of which neither starts the other. -/
theorem accepts_of_apart {lead other path : String} (starts : other.toList <+: path.toList)
    (apart : ¬ lead.toList <+: other.toList ∧ ¬ other.toList <+: lead.toList) :
    (Matcher.startsWith lead).accepts path = false :=
  accepts_startsWith_eq_false fun begins =>
    (List.prefix_or_prefix_of_prefix begins starts).elim apart.1 apart.2

/-- The path is the one for unlocking, or goes on behind it. -/
def IsUnlockPath (path : String) : Prop := "/api/repo/unlock".toList <+: path.toList

instance (path : String) : Decidable (IsUnlockPath path) := inferInstanceAs (Decidable (_ <+: _))

variable {path : String} {enabled : Bool}

theorem route?_unlock (on : enabled = true) (unlocks : IsUnlockPath path) :
    route? enabled path = some .unlock := by
  -- the rule for the description of the origin stands before
  have info : (Matcher.startsWith "/api/info").accepts path = false :=
    accepts_of_apart unlocks (by decide)
  simp [route?, rules, on, enabledRules, info, accepts_startsWith_iff.2 unlocks]

theorem route?_info (on : enabled = true) (asks : "/api/info".toList <+: path.toList) :
    route? enabled path = some .info := by
  simp [route?, rules, on, enabledRules, accepts_startsWith_iff.2 asks]

theorem route?_tree (on : enabled = true) (asks : "/api/tree".toList <+: path.toList) :
    route? enabled path = some .tree := by
  have info : (Matcher.startsWith "/api/info").accepts path = false :=
    accepts_of_apart asks (by decide)
  have unlock : (Matcher.startsWith "/api/repo/unlock").accepts path = false :=
    accepts_of_apart asks (by decide)
  simp [route?, rules, on, enabledRules, info, unlock, accepts_startsWith_iff.2 asks]

theorem route?_metadata (on : enabled = true) (asks : "/api/metadata".toList <+: path.toList) :
    route? enabled path = some .metadata := by
  have info : (Matcher.startsWith "/api/info").accepts path = false :=
    accepts_of_apart asks (by decide)
  have unlock : (Matcher.startsWith "/api/repo/unlock").accepts path = false :=
    accepts_of_apart asks (by decide)
  have tree : (Matcher.startsWith "/api/tree").accepts path = false :=
    accepts_of_apart asks (by decide)
  simp [route?, rules, on, enabledRules, info, unlock, tree, accepts_startsWith_iff.2 asks]

theorem route?_originUnlock (off : enabled = false) (unlocks : IsUnlockPath path) :
    route? enabled path = some .originUnlock := by
  simp [route?, rules, off, disabledRules, accepts_startsWith_iff.2 unlocks]

/-- While decryption is off there is no other rule. -/
theorem route?_of_other (off : enabled = false) (other : ¬ IsUnlockPath path) :
    route? enabled path = none := by
  simp [route?, rules, off, disabledRules, accepts_startsWith_eq_false other]

/-- Every rule but the one for unlocks by the origin stands in the table that is in use while
enabled, and in no other. -/
theorem isEnabled_of_routed {route : Route} (routed : route? enabled path = some route)
    (other : route ≠ .originUnlock) : enabled = true := by
  cases enabled with
  | true => rfl
  | false =>
    obtain ⟨rule, found, rfl⟩ := Option.map_eq_some_iff.1 routed
    have only := List.mem_singleton.1 (List.mem_of_find?_eq_some found)
    rw [only] at other
    exact absurd rfl other

end SealGate.Gateway
