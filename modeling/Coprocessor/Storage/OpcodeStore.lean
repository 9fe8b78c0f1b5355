import Coprocessor.Opcode
import Coprocessor.Storage.Range

/-!
# Opcode store — 1024 slots of opcode records

Slots are read and overwritten one at a time. A slot is occupied when its
record is of a kind other than `nop`.
-/

namespace Coprocessor

/-- How many slots the store has. -/
def slotCount : Nat := 1024

/-- The contents of every slot. -/
structure OpcodeStore where
  slots : Vector Record slotCount
deriving DecidableEq

namespace OpcodeStore

/-- Every slot cleared. -/
def cleared : OpcodeStore := ⟨Vector.replicate _ .cleared⟩

/-- The record in a slot. -/
def read (s : OpcodeStore) (i : Nat) : Option Record := s.slots[i]?

/-- Overwrites a slot. -/
def write (s : OpcodeStore) (i : Nat) (record : Record) : Except RangeError OpcodeStore :=
  if h : i < slotCount then .ok { s with slots := s.slots.set i record h }
  else .error ⟨i, slotCount⟩

/-- The occupied slots with their records, in ascending order. -/
def occupied (s : OpcodeStore) : List (Nat × Record) :=
  (s.slots.toList.zipIdx.map fun (record, i) => (i, record)).filter fun (_, record) =>
    !record.isNop

/-! ## Reading after writing -/

/-- A write below the slot count is accepted, any other refused. -/
theorem write_eq (s : OpcodeStore) (i : Nat) (record : Record) :
    (∃ h : i < slotCount, s.write i record = .ok { s with slots := s.slots.set i record h })
      ∨ (slotCount ≤ i ∧ s.write i record = .error ⟨i, slotCount⟩) := by
  unfold write
  by_cases hi : i < slotCount
  · exact Or.inl ⟨hi, dif_pos hi⟩
  · exact Or.inr ⟨Nat.le_of_not_lt hi, dif_neg hi⟩

/-- A write changes the record in its slot and no other. -/
theorem read_write {s t : OpcodeStore} {i : Nat} {record : Record}
    (h : s.write i record = .ok t) (j : Nat) :
    t.read j = if i = j then some record else s.read j := by
  obtain ⟨hi, hw⟩ | ⟨_, hw⟩ := s.write_eq i record
  · rw [hw] at h
    obtain rfl := Except.ok.inj h
    unfold read
    rw [Vector.getElem?_set]
  · rw [hw] at h
    exact nomatch h

end OpcodeStore

end Coprocessor
