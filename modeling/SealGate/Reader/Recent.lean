/-! A cache that forgets what has not been used for longest. Entries stand in the order of their
last use, the latest first; looking an entry up counts as a use. At least one entry fits. -/

namespace SealGate.Reader

structure Recent (α : Type) where
  capacity : Nat
  entries : List (String × α)

namespace Recent

variable {α : Type}

def withCapacity (capacity : Nat) : Recent α := ⟨max capacity 1, []⟩

def defaultCapacity : Nat := 200

def lookup? (cache : Recent α) (key : String) : Option α :=
  (cache.entries.find? fun entry => entry.1 = key).map Prod.snd

/-- The entries with other keys. -/
def others (cache : Recent α) (key : String) : List (String × α) :=
  cache.entries.filter fun entry => entry.1 ≠ key

/-- The entry of a key, which is thereby used. -/
def get (cache : Recent α) (key : String) : Option α × Recent α :=
  match cache.lookup? key with
  | none => (none, cache)
  | some value => (some value, { cache with entries := (key, value) :: cache.others key })

/-- Puts an entry in front; one entry too many falls off the end. -/
def put (cache : Recent α) (key : String) (value : α) : Recent α :=
  { cache with entries := ((key, value) :: cache.others key).take cache.capacity }

def clear (cache : Recent α) : Recent α := { cache with entries := [] }

end Recent

end SealGate.Reader
