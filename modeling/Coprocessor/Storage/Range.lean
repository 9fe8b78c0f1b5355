/-!
# Range checks — an index against a capacity

Every access to storage of fixed capacity is checked, never clamped or wrapped.
-/

namespace Coprocessor

/-- An index that does not fit a capacity. -/
structure RangeError where
  index : Nat
  capacity : Nat
deriving DecidableEq

namespace RangeError

/-- The wording of a failed check. -/
def message (e : RangeError) : String :=
  "index " ++ toString e.index ++ " out of range (capacity " ++ toString e.capacity ++ ")"

/-- Accepts the indices below the capacity. -/
def check (index capacity : Nat) : Except RangeError Unit :=
  if index < capacity then .ok () else .error ⟨index, capacity⟩

end RangeError

end Coprocessor
