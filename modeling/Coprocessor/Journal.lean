/-!
# Journals — records kept in order

A journal grows at its end and is read from its beginning. Entries are stored
with the newest in front, so that adding one takes one step however long the
journal is; `toList` is the view through which everything else speaks about a
journal.

  • `toList_push` — adding an entry appends it to the view.
  • `ext` — the view determines the journal.
-/

namespace Coprocessor

/-- A record of entries in the order in which they were added. -/
structure Journal (α : Type) where
  /-- The entries, the newest one in front. -/
  newestFirst : List α
deriving DecidableEq

namespace Journal

variable {α : Type}

/-- Nothing recorded. -/
def empty : Journal α := ⟨[]⟩

/-- Adds an entry. -/
def push (j : Journal α) (a : α) : Journal α := ⟨a :: j.newestFirst⟩

/-- The entries in the order in which they were added. -/
def toList (j : Journal α) : List α := j.newestFirst.reverse

/-- How many entries there are. -/
def size (j : Journal α) : Nat := j.newestFirst.length

@[simp] theorem toList_push (j : Journal α) (a : α) : (j.push a).toList = j.toList ++ [a] := by
  simp [push, toList]

/-- Journals with the same entries in the same order are equal. -/
theorem ext {j k : Journal α} (h : j.toList = k.toList) : j = k := by
  obtain ⟨l⟩ := j
  obtain ⟨m⟩ := k
  have hlm : l = m := List.reverse_inj.1 h
  rw [hlm]

end Journal

end Coprocessor
