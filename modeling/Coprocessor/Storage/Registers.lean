import Coprocessor.Storage.Range

/-!
# Registers — two independent spaces of 256 words

One space holds 32-bit words, the other 64-bit words, and an index in one says
nothing about the same index in the other. Words are bit patterns; whether they
are read as numbers is up to the reader.

  • A read outside a space is absent.
  • A write outside a space is refused and changes nothing.
-/

namespace Coprocessor

/-- How many registers each space has. -/
def registerCount : Nat := 256

/-- One of the two register spaces. -/
inductive Space where
  | single
  | double
deriving DecidableEq

/-- The name of a space. -/
def Space.name : Space → String
  | .single => "r32"
  | .double => "r64"

/-- The contents of both spaces. -/
structure Registers where
  single : Vector UInt32 registerCount
  double : Vector UInt64 registerCount
deriving DecidableEq

namespace Registers

/-- Every word zero. -/
def cleared : Registers := ⟨Vector.replicate _ 0, Vector.replicate _ 0⟩

/-- The 32-bit word at an index. -/
def read32 (r : Registers) (i : Nat) : Option UInt32 := r.single[i]?

/-- The 64-bit word at an index. -/
def read64 (r : Registers) (i : Nat) : Option UInt64 := r.double[i]?

/-- Puts a 32-bit word at an index. -/
def write32 (r : Registers) (i : Nat) (word : UInt32) : Except RangeError Registers :=
  if h : i < registerCount then .ok { r with single := r.single.set i word h }
  else .error ⟨i, registerCount⟩

/-- Puts a 64-bit word at an index. -/
def write64 (r : Registers) (i : Nat) (word : UInt64) : Except RangeError Registers :=
  if h : i < registerCount then .ok { r with double := r.double.set i word h }
  else .error ⟨i, registerCount⟩

/-! ## Reading after writing -/

/-- A 32-bit word is present exactly below the register count. -/
theorem isSome_read32 (r : Registers) (i : Nat) : (r.read32 i).isSome ↔ i < registerCount := by
  unfold read32
  constructor
  · intro h
    by_cases hi : i < registerCount
    · exact hi
    · rw [Vector.getElem?_eq_none (Nat.le_of_not_lt hi)] at h
      exact absurd h (by decide)
  · intro hi
    rw [Vector.getElem?_eq_getElem hi]
    rfl

/-- A 64-bit word is present exactly below the register count. -/
theorem isSome_read64 (r : Registers) (i : Nat) : (r.read64 i).isSome ↔ i < registerCount := by
  unfold read64
  constructor
  · intro h
    by_cases hi : i < registerCount
    · exact hi
    · rw [Vector.getElem?_eq_none (Nat.le_of_not_lt hi)] at h
      exact absurd h (by decide)
  · intro hi
    rw [Vector.getElem?_eq_getElem hi]
    rfl

/-- A 32-bit write below the register count is accepted, any other refused. -/
theorem write32_eq (r : Registers) (i : Nat) (word : UInt32) :
    (∃ h : i < registerCount, r.write32 i word = .ok { r with single := r.single.set i word h })
      ∨ (registerCount ≤ i ∧ r.write32 i word = .error ⟨i, registerCount⟩) := by
  unfold write32
  by_cases hi : i < registerCount
  · exact Or.inl ⟨hi, dif_pos hi⟩
  · exact Or.inr ⟨Nat.le_of_not_lt hi, dif_neg hi⟩

/-- A 64-bit write below the register count is accepted, any other refused. -/
theorem write64_eq (r : Registers) (i : Nat) (word : UInt64) :
    (∃ h : i < registerCount, r.write64 i word = .ok { r with double := r.double.set i word h })
      ∨ (registerCount ≤ i ∧ r.write64 i word = .error ⟨i, registerCount⟩) := by
  unfold write64
  by_cases hi : i < registerCount
  · exact Or.inl ⟨hi, dif_pos hi⟩
  · exact Or.inr ⟨Nat.le_of_not_lt hi, dif_neg hi⟩

/-- A 32-bit write changes the word at its index and no other. -/
theorem read32_write32 {r s : Registers} {i : Nat} {word : UInt32}
    (h : r.write32 i word = .ok s) (j : Nat) :
    s.read32 j = if i = j then some word else r.read32 j := by
  obtain ⟨hi, hw⟩ | ⟨_, hw⟩ := r.write32_eq i word
  · rw [hw] at h
    obtain rfl := Except.ok.inj h
    unfold read32
    rw [Vector.getElem?_set]
  · rw [hw] at h
    exact nomatch h

/-- A 64-bit write changes the word at its index and no other. -/
theorem read64_write64 {r s : Registers} {i : Nat} {word : UInt64}
    (h : r.write64 i word = .ok s) (j : Nat) :
    s.read64 j = if i = j then some word else r.read64 j := by
  obtain ⟨hi, hw⟩ | ⟨_, hw⟩ := r.write64_eq i word
  · rw [hw] at h
    obtain rfl := Except.ok.inj h
    unfold read64
    rw [Vector.getElem?_set]
  · rw [hw] at h
    exact nomatch h

/-- A 32-bit write leaves the 64-bit space alone. -/
theorem double_write32 {r s : Registers} {i : Nat} {word : UInt32}
    (h : r.write32 i word = .ok s) : s.double = r.double := by
  obtain ⟨hi, hw⟩ | ⟨_, hw⟩ := r.write32_eq i word
  · rw [hw] at h
    obtain rfl := Except.ok.inj h
    rfl
  · rw [hw] at h
    exact nomatch h

/-- A 64-bit write leaves the 32-bit space alone. -/
theorem single_write64 {r s : Registers} {i : Nat} {word : UInt64}
    (h : r.write64 i word = .ok s) : s.single = r.single := by
  obtain ⟨hi, hw⟩ | ⟨_, hw⟩ := r.write64_eq i word
  · rw [hw] at h
    obtain rfl := Except.ok.inj h
    rfl
  · rw [hw] at h
    exact nomatch h

end Registers

end Coprocessor
