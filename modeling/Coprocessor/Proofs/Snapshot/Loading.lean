import Coprocessor.Proofs.Atomic
import Coprocessor.Snapshot

/-!
# Loading — a snapshot written over storage in place

Restoring a snapshot yields the new storage as one value. Written over live
storage, a snapshot is three checks and then three sections, word after word,
and a check that fails leaves the storage of its moment. Both are the same:
since every check stands in front of the first word, a snapshot that is refused
has changed nothing, whichever of its sections is wrong.

  • `copyFrom` — words over a vector; `copyFrom_eq` — as many as the vector holds
    replace all of it.
  • `Snapshot.apply` — the checks and the sections, in their order.
  • `atomic_apply` — the order alone tells that a refusal changes nothing.
  • `apply_eq` — what checks and sections come to.
-/

namespace Coprocessor

/-! ## Words over a vector -/

/-- Writes entries over a vector, from a place on; what does not fit is left out. -/
def copyFrom {α : Type} {n : Nat} : Nat → List α → Vector α n → Vector α n
  | _, [], v => v
  | i, a :: rest, v => copyFrom (i + 1) rest (v.setIfInBounds i a)

/-- An entry that is set is the last of those up to it. -/
theorem take_succ_set {α : Type} {l : List α} {i : Nat} (h : i < l.length) (a : α) :
    (l.set i a).take (i + 1) = l.take i ++ [a] := by
  have hi : i < (l.set i a).length := by
    rw [List.length_set]
    exact h
  rw [List.take_succ_eq_append_getElem hi, List.take_set_of_le (Nat.le_refl i),
    List.getElem_set_self]

/-- Entries that reach the end of a vector replace all of it from their place on. -/
theorem toList_copyFrom {α : Type} {n i : Nat} (xs : List α) (v : Vector α n)
    (h : i + xs.length = n) : (copyFrom i xs v).toList = v.toList.take i ++ xs := by
  induction xs generalizing i v with
  | nil =>
      have hlength : v.toList.length ≤ i := by
        rw [Vector.length_toList]
        exact Nat.le_of_eq h.symm
      rw [copyFrom, List.take_of_length_le hlength, List.append_nil]
  | cons a rest ih =>
      rw [List.length_cons] at h
      have hlt : i < v.toList.length := by
        rw [Vector.length_toList]
        omega
      rw [copyFrom, ih _ (by omega), Vector.toList_setIfInBounds, take_succ_set hlt,
        List.append_assoc]
      rfl

/-- In its domain a write in place is the write of an entry. -/
theorem setIfInBounds_eq {α : Type} {n i : Nat} (v : Vector α n) (h : i < n) (a : α) :
    v.setIfInBounds i a = v.set i a h := by
  rw [← Vector.toList_inj, Vector.toList_setIfInBounds, Vector.toList_set]

/-- As many entries as a vector holds replace all of it. -/
theorem copyFrom_eq {α : Type} {n : Nat} (xs : List α) (v : Vector α n) (h : xs.length = n) :
    copyFrom 0 xs v = ⟨xs.toArray, by simp [h]⟩ := by
  rw [← Vector.toList_inj, toList_copyFrom xs v ((Nat.zero_add _).trans h), List.take_zero,
    List.nil_append]
  rfl

namespace Snapshot

/-! ## Three checks and three sections -/

/-- Refuses a section of a wrong length. -/
def checkLength (part : Part) (expected found : Nat) :
    EStateM CoprocessorError Storage Unit :=
  if found = expected then pure () else throw (.snapshotMismatch part expected found)

/-- Writes a snapshot over storage in place. -/
def apply (s : Snapshot) : EStateM CoprocessorError Storage Unit := do
  checkLength .single registerCount s.single.length
  checkLength .double registerCount s.double.length
  checkLength .opcodes slotCount s.opcodes.length
  modify fun storage =>
    { storage with
      registers :=
        { storage.registers with single := copyFrom 0 s.single storage.registers.single } }
  modify fun storage =>
    { storage with
      registers :=
        { storage.registers with double := copyFrom 0 s.double storage.registers.double } }
  modify fun storage =>
    { storage with opcodes := ⟨copyFrom 0 s.opcodes storage.opcodes.slots⟩ }

/-- A check writes nothing. -/
theorem keeps_checkLength {ρ : Type} {view : Storage → ρ} (part : Part)
    (expected found : Nat) : Keeps view (checkLength part expected found) := by
  rw [checkLength]
  by_cases h : found = expected
  · rw [if_pos h]
    exact fun _ => rfl
  · rw [if_neg h]
    exact keeps_throw _

/-- No check stands behind a word that is written. -/
theorem atomic_apply (s : Snapshot) : Atomic id s.apply :=
  (keeps_checkLength _ _ _).bind_atomic fun _ =>
    (keeps_checkLength _ _ _).bind_atomic fun _ =>
      (keeps_checkLength _ _ _).bind_atomic fun _ =>
        ((certain_modify _).bind fun _ =>
          (certain_modify _).bind fun _ => certain_modify _).atomic

/-- A snapshot written over storage replaces all of it or is refused and changes
    nothing. -/
theorem apply_eq (s : Snapshot) (storage : Storage) :
    s.apply.run storage = changed storage s.toStorage := by
  by_cases hs : s.single.length = registerCount
  · by_cases hd : s.double.length = registerCount
    · by_cases ho : s.opcodes.length = slotCount
      · simp only [apply, toStorage, checkLength, if_pos hs, if_pos hd, if_pos ho, dif_pos hs,
          dif_pos hd, dif_pos ho, ← copyFrom_eq s.single storage.registers.single hs,
          ← copyFrom_eq s.double storage.registers.double hd,
          ← copyFrom_eq s.opcodes storage.opcodes.slots ho]
        rfl
      · simp only [apply, toStorage, checkLength, if_pos hs, if_pos hd, if_neg ho, dif_pos hs,
          dif_pos hd, dif_neg ho]
        rfl
    · simp only [apply, toStorage, checkLength, if_pos hs, if_neg hd, dif_pos hs, dif_neg hd]
      rfl
  · simp only [apply, toStorage, checkLength, if_neg hs, dif_neg hs]
    rfl

end Snapshot

end Coprocessor
