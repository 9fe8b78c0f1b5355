import Mathlib.Data.List.Sort
import Coprocessor.Proofs.Script.Words
import Coprocessor.Proofs.Snapshot.Format
import Coprocessor.Proofs.Text.Widths

/-!
# The lines of a snapshot — which state they are about

The description of a snapshot has one line for each word that is not zero and each slot
that is not `nop`, the 32-bit words first, then the 64-bit words, then the slots, each
group by ascending index. A line is read back: its heading is the section, what is between
the brackets the index, and behind them stand the digits of the word or the record, in front
of anything that depends on them. So two snapshots of the right lengths with the same lines
have the same words, and differ at most in the operands of slots that are `nop`.

  • `Cell` — a word or a record at its index; `Holds` and `Before` tell which cells are
    shown, and in which order.
  • `describe_eq`, `mem_cells`, `pairwise_cells` — the description is the lines of these
    cells.
  • `Record.text_inj`, `Cell.text_inj` — a record and a cell are read back from their text.
  • `describe_identifies` — the state that lines are about.
-/

namespace Coprocessor

/-! ## Cells -/

/-- A word or a record at its index. -/
inductive Cell where
  | single (index : Nat) (word : UInt32)
  | double (index : Nat) (word : UInt64)
  | slot (index : Nat) (record : Record)

namespace Cell

/-- The line of a cell. -/
def text : Cell → String
  | .single i word =>
      "r32[" ++ Text.column 3 i ++ "] = 0x" ++ Text.hex 8 word.toNat ++ " ("
        ++ Binary.Format.single.text word.toNat ++ ")"
  | .double i word =>
      "r64[" ++ Text.column 3 i ++ "] = 0x" ++ Text.hex 16 word.toNat ++ " ("
        ++ Binary.Format.double.text word.toNat ++ ")"
  | .slot i record => "slot[" ++ Text.column 4 i ++ "] = " ++ record.text

/-- Sections stand one after the other, each by ascending index. -/
inductive Before : Cell → Cell → Prop where
  | single {i j : Nat} {v w : UInt32} : i < j → Before (.single i v) (.single j w)
  | double {i j : Nat} {v w : UInt64} : i < j → Before (.double i v) (.double j w)
  | slot {i j : Nat} {r q : Record} : i < j → Before (.slot i r) (.slot j q)
  | singleDouble {i j : Nat} {v : UInt32} {w : UInt64} : Before (.single i v) (.double j w)
  | singleSlot {i j : Nat} {v : UInt32} {r : Record} : Before (.single i v) (.slot j r)
  | doubleSlot {i j : Nat} {v : UInt64} {r : Record} : Before (.double i v) (.slot j r)

end Cell

namespace Snapshot

/-- Whether a snapshot has a cell that is shown: no zero, and no `nop`. -/
def Holds (s : Snapshot) : Cell → Prop
  | .single i word => s.single[i]? = some word ∧ word ≠ 0
  | .double i word => s.double[i]? = some word ∧ word ≠ 0
  | .slot i record => s.opcodes[i]? = some record ∧ record.kind ≠ .nop

/-- The entries of one section with a property, as cells. -/
def shown {α : Type} (cell : Nat → α → Cell) (p : α → Bool) (entries : List α) : List Cell :=
  (entries.zipIdx.filter fun x => p x.1).map fun x => cell x.2 x.1

/-- The cells of a snapshot that are shown. -/
def cells (s : Snapshot) : List Cell :=
  shown .single (fun word => word ≠ 0) s.single ++ shown .double (fun word => word ≠ 0) s.double
    ++ shown .slot (fun record => !record.isNop) s.opcodes

/-- A dump has one line for each cell that is shown. -/
theorem describe_eq (s : Snapshot) : s.describe = s.cells.map Cell.text := by
  rw [describe, cells, List.map_append, List.map_append, shown, shown, shown, List.map_map,
    List.map_map, List.map_map]
  rfl

section

variable {α : Type} {cell : Nat → α → Cell} {p : α → Bool} {entries : List α}

/-- An entry is shown if it passes. -/
theorem mem_shown {c : Cell} :
    c ∈ shown cell p entries ↔ ∃ i a, c = cell i a ∧ entries[i]? = some a ∧ p a = true := by
  rw [shown, List.mem_map]
  constructor
  · rintro ⟨⟨a, i⟩, hmem, rfl⟩
    obtain ⟨hmem, ha⟩ := List.mem_filter.1 hmem
    exact ⟨i, a, rfl, List.mk_mem_zipIdx_iff_getElem?.1 hmem, ha⟩
  · rintro ⟨i, a, rfl, hentry, ha⟩
    exact ⟨(a, i), List.mem_filter.2 ⟨List.mk_mem_zipIdx_iff_getElem?.2 hentry, ha⟩, rfl⟩

/-- The cells of a section stand by ascending index. -/
theorem pairwise_shown (h : ∀ {i j : Nat} {a b : α}, i < j → (cell i a).Before (cell j b)) :
    (shown cell p entries).Pairwise Cell.Before := by
  have hindices : entries.zipIdx.Pairwise fun x y => x.2 < y.2 := by
    refine List.pairwise_map.1 ?_
    rw [List.zipIdx_map_snd]
    exact List.pairwise_lt_range'
  refine List.pairwise_map.2 ((hindices.filter _).imp ?_)
  intro x y hxy
  exact h hxy

end

/-- The cells of a snapshot are those that it has and that are shown. -/
theorem mem_cells {s : Snapshot} {c : Cell} : c ∈ s.cells ↔ s.Holds c := by
  rw [cells, List.mem_append, List.mem_append, mem_shown, mem_shown, mem_shown]
  constructor
  · rintro ((⟨i, word, rfl, hentry, hword⟩ | ⟨i, word, rfl, hentry, hword⟩)
      | ⟨i, record, rfl, hentry, hrecord⟩)
    · exact ⟨hentry, of_decide_eq_true hword⟩
    · exact ⟨hentry, of_decide_eq_true hword⟩
    · exact ⟨hentry, fun hnop => by simp [Record.isNop, hnop] at hrecord⟩
  · intro h
    cases c with
    | single i word => exact Or.inl (Or.inl ⟨i, word, rfl, h.1, decide_eq_true h.2⟩)
    | double i word => exact Or.inl (Or.inr ⟨i, word, rfl, h.1, decide_eq_true h.2⟩)
    | slot i record => exact Or.inr ⟨i, record, rfl, h.1, by simpa [Record.isNop] using h.2⟩

/-- They stand in one order. -/
theorem pairwise_cells (s : Snapshot) : s.cells.Pairwise Cell.Before := by
  refine List.pairwise_append.2 ⟨List.pairwise_append.2
    ⟨pairwise_shown .single, pairwise_shown .double, ?_⟩, pairwise_shown .slot, ?_⟩
  · intro c hc d hd
    obtain ⟨i, word, rfl, -⟩ := mem_shown.1 hc
    obtain ⟨j, word', rfl, -⟩ := mem_shown.1 hd
    exact .singleDouble
  · intro c hc d hd
    obtain ⟨j, record, rfl, -⟩ := mem_shown.1 hd
    rcases List.mem_append.1 hc with hc | hc
    · obtain ⟨i, word, rfl, -⟩ := mem_shown.1 hc
      exact .singleSlot
    · obtain ⟨i, word, rfl, -⟩ := mem_shown.1 hc
      exact .doubleSlot

end Snapshot

/-! ## Lines that are read back -/

/-- Kinds have different names. -/
theorem Kind.mnemonic_inj {k l : Kind} (h : k.mnemonic = l.mnemonic) : k = l := by
  have hk := k.ofMnemonic?_mnemonic
  rw [h, l.ofMnemonic?_mnemonic] at hk
  exact (Option.some.inj hk).symm

/-- Bytes have different digits. -/
theorem UInt8.toDigits_inj {a b : UInt8}
    (h : Nat.toDigits 10 a.toNat = Nat.toDigits 10 b.toNat) : a = b :=
  UInt8.toNat.inj (Text.toDigits_inj h)

/-- A record is written as its kind and its three operands. -/
theorem Record.toList_text (r : Record) :
    r.text.toList = r.kind.mnemonic.toList ++ ' ' :: (Nat.toDigits 10 r.operand0.toNat
      ++ ',' :: ' ' :: (Nat.toDigits 10 r.operand1.toNat
        ++ ',' :: ' ' :: Nat.toDigits 10 r.operand2.toNat)) := by
  have hdigits (n : Nat) : (toString n).toList = Nat.toDigits 10 n := String.toList_ofList
  simp only [Record.text, String.toList_append, hdigits, List.append_assoc]
  rfl

/-- A record is read back from its text. -/
theorem Record.text_inj {r q : Record} (h : r.text = q.text) : r = q := by
  have hname (k : Kind) : ' ' ∉ k.mnemonic.toList := by cases k <;> decide
  have hcomma (n : Nat) : ',' ∉ Nat.toDigits 10 n := Text.not_mem_toDigits rfl n
  replace h := congrArg String.toList h
  rw [toList_text, toList_text] at h
  obtain ⟨hkind, h⟩ := Text.append_mark_inj h (hname _) (hname _)
  obtain ⟨hfirst, h⟩ := Text.append_mark_inj h (hcomma _) (hcomma _)
  obtain ⟨hsecond, h⟩ := Text.append_mark_inj (List.cons.inj h).2 (hcomma _) (hcomma _)
  obtain ⟨kind, a, b, c⟩ := r
  obtain rfl := Kind.mnemonic_inj (String.toList_injective hkind)
  obtain rfl := UInt8.toDigits_inj hfirst
  obtain rfl := UInt8.toDigits_inj hsecond
  obtain rfl := UInt8.toDigits_inj (List.cons.inj h).2
  rfl

namespace Cell

/-- What a line starts with: the section of the cell. -/
def heading : Cell → String
  | .single _ _ => "r32"
  | .double _ _ => "r64"
  | .slot _ _ => "slot"

/-- The index of a cell. -/
def index : Cell → Nat
  | .single i _ => i
  | .double i _ => i
  | .slot i _ => i

/-- What stands behind the index. -/
def contents : Cell → String
  | .single _ word =>
      " = 0x" ++ (Text.hex 8 word.toNat ++ (" (" ++ Binary.Format.single.text word.toNat ++ ")"))
  | .double _ word =>
      " = 0x" ++ (Text.hex 16 word.toNat ++ (" (" ++ Binary.Format.double.text word.toNat ++ ")"))
  | .slot _ record => " = " ++ record.text

/-- A line is its heading, its index in brackets and what stands behind. -/
theorem exists_toList_text (c : Cell) : ∃ width, c.text.toList
    = c.heading.toList
      ++ '[' :: ((Text.column width c.index).toList ++ ']' :: c.contents.toList) := by
  have hclose : "] = 0x".toList = ']' :: " = 0x".toList := by decide
  cases c with
  | single i word =>
      have hopen : "r32[".toList = "r32".toList ++ ['['] := by decide
      refine ⟨3, ?_⟩
      rw [text, heading, index, contents]
      simp only [String.toList_append, hopen, hclose, List.append_assoc, List.cons_append,
        List.nil_append]
  | double i word =>
      have hopen : "r64[".toList = "r64".toList ++ ['['] := by decide
      refine ⟨3, ?_⟩
      rw [text, heading, index, contents]
      simp only [String.toList_append, hopen, hclose, List.append_assoc, List.cons_append,
        List.nil_append]
  | slot i record =>
      have hopen : "slot[".toList = "slot".toList ++ ['['] := by decide
      have hclose : "] = ".toList = ']' :: " = ".toList := by decide
      refine ⟨4, ?_⟩
      rw [text, heading, index, contents]
      simp only [String.toList_append, hopen, hclose, List.append_assoc, List.cons_append,
        List.nil_append]

/-- Lines are equal only with their headings, their indices and what stands behind. -/
theorem parts_of_text {c d : Cell} (h : c.text = d.text) :
    c.heading = d.heading ∧ c.index = d.index ∧ c.contents = d.contents := by
  have hheading (c : Cell) : '[' ∉ c.heading.toList := by
    cases c with
    | single i word => exact show '[' ∉ "r32".toList by decide
    | double i word => exact show '[' ∉ "r64".toList by decide
    | slot i record => exact show '[' ∉ "slot".toList by decide
  obtain ⟨width, hc⟩ := c.exists_toList_text
  obtain ⟨width', hd⟩ := d.exists_toList_text
  rw [h, hd] at hc
  -- the first bracket ends the heading, and the first closing one behind it the index
  obtain ⟨hfront, hrest⟩ := Text.append_mark_inj hc (hheading d) (hheading c)
  obtain ⟨hcolumn, hcontents⟩ := Text.append_mark_inj hrest
    (Text.not_mem_column rfl (by decide) _ _) (Text.not_mem_column rfl (by decide) _ _)
  exact ⟨(String.toList_injective hfront).symm, (Text.column_inj hcolumn).symm,
    (String.toList_injective hcontents).symm⟩

/-- A cell is read back from its line. -/
theorem text_inj {c d : Cell} (h : c.text = d.text) : c = d := by
  obtain ⟨hheading, hindex, hcontents⟩ := parts_of_text h
  -- the digits of a word have a fixed width, so the number behind them is never looked at
  cases c with
  | single i word =>
      cases d with
      | single j word' =>
          obtain rfl : i = j := hindex
          obtain ⟨hword, -⟩ := Text.hex_append_inj 8 word.toNat_lt word'.toNat_lt
            ((String.append_right_inj _).1 hcontents)
          rw [UInt32.toNat.inj hword]
      | double j word' => exact absurd (show "r32" = "r64" from hheading) (by decide)
      | slot j record => exact absurd (show "r32" = "slot" from hheading) (by decide)
  | double i word =>
      cases d with
      | single j word' => exact absurd (show "r64" = "r32" from hheading) (by decide)
      | double j word' =>
          obtain rfl : i = j := hindex
          obtain ⟨hword, -⟩ := Text.hex_append_inj 16 word.toNat_lt word'.toNat_lt
            ((String.append_right_inj _).1 hcontents)
          rw [UInt64.toNat.inj hword]
      | slot j record => exact absurd (show "r64" = "slot" from hheading) (by decide)
  | slot i record =>
      cases d with
      | single j word' => exact absurd (show "slot" = "r32" from hheading) (by decide)
      | double j word' => exact absurd (show "slot" = "r64" from hheading) (by decide)
      | slot j record' =>
          obtain rfl : i = j := hindex
          rw [Record.text_inj ((String.append_right_inj _).1 hcontents)]

end Cell

namespace Snapshot

/-! ## The state that lines are about -/

instance : Std.Irrefl Cell.Before where
  irrefl c h := by
    cases h with
    | single hlt => exact lt_irrefl _ hlt
    | double hlt => exact lt_irrefl _ hlt
    | slot hlt => exact lt_irrefl _ hlt

instance : Std.Antisymm Cell.Before where
  antisymm c d h h' := by
    cases h with
    | single hlt => cases h' with | single hgt => exact absurd hgt hlt.asymm
    | double hlt => cases h' with | double hgt => exact absurd hgt hlt.asymm
    | slot hlt => cases h' with | slot hgt => exact absurd hgt hlt.asymm
    | singleDouble => exact nomatch h'
    | singleSlot => exact nomatch h'
    | doubleSlot => exact nomatch h'

/-- Descriptions are equal exactly when the same cells are shown. -/
theorem describe_eq_iff {s t : Snapshot} :
    s.describe = t.describe ↔ ∀ c, s.Holds c ↔ t.Holds c := by
  rw [describe_eq, describe_eq]
  constructor
  · intro h c
    have hcells := List.map_injective_iff.2 (fun _ _ => Cell.text_inj) h
    rw [← mem_cells, ← mem_cells, hcells]
  · intro h
    have hcells : s.cells = t.cells := (pairwise_cells s).eq_of_mem_iff (pairwise_cells t)
      fun c => by rw [mem_cells, mem_cells, h c]
    rw [hcells]

/-- Lists of one length are equal when they have their entries other than one in common. -/
theorem eq_of_getElem?_iff {α : Type} (hidden : α) {xs ys : List α}
    (hlength : xs.length = ys.length)
    (h : ∀ (i : Nat) (a : α), a ≠ hidden → (xs[i]? = some a ↔ ys[i]? = some a)) : xs = ys := by
  refine List.ext_getElem hlength fun i hx hy => ?_
  -- an entry that is left out in one list cannot be told by the other, unless it is left out too
  by_cases hentry : xs[i] = hidden
  · by_contra hne
    have hother : ys[i] ≠ hidden := fun heq => hne (hentry.trans heq.symm)
    have hback := (h i ys[i] hother).2 (List.getElem?_eq_getElem hy)
    rw [List.getElem?_eq_getElem hx] at hback
    exact hne (Option.some.inj hback)
  · have hforth := (h i xs[i] hentry).1 (List.getElem?_eq_getElem hx)
    rw [List.getElem?_eq_getElem hy] at hforth
    exact (Option.some.inj hforth).symm

/-- Snapshots of the right lengths have the same lines exactly when they have the same words
and the same records in slots that are not `nop`; the lines are one for each word that is not
zero and each such record, sections in their order and indices ascending. -/
theorem describe_identifies :
    (∀ s t : Snapshot, s.IsFull → t.IsFull →
      (s.describe = t.describe ↔ s.single = t.single ∧ s.double = t.double
        ∧ ∀ (i : Nat) (record : Record), record.kind ≠ .nop →
          (s.opcodes[i]? = some record ↔ t.opcodes[i]? = some record)))
      ∧ ∀ s : Snapshot, ∃ entries : List Cell, s.describe = entries.map Cell.text
        ∧ entries.Pairwise Cell.Before ∧ ∀ c, c ∈ entries ↔ s.Holds c := by
  refine ⟨fun s t hs ht => ?_, fun s =>
    ⟨s.cells, describe_eq s, pairwise_cells s, fun c => mem_cells⟩⟩
  rw [describe_eq_iff]
  constructor
  · intro h
    refine ⟨eq_of_getElem?_iff 0 ((hs .single).trans (ht .single).symm) fun i word hword => ?_,
      eq_of_getElem?_iff 0 ((hs .double).trans (ht .double).symm) fun i word hword => ?_,
      fun i record hrecord => ?_⟩
    · exact ⟨fun hi => ((h (.single i word)).1 ⟨hi, hword⟩).1,
        fun hi => ((h (.single i word)).2 ⟨hi, hword⟩).1⟩
    · exact ⟨fun hi => ((h (.double i word)).1 ⟨hi, hword⟩).1,
        fun hi => ((h (.double i word)).2 ⟨hi, hword⟩).1⟩
    · exact ⟨fun hi => ((h (.slot i record)).1 ⟨hi, hrecord⟩).1,
        fun hi => ((h (.slot i record)).2 ⟨hi, hrecord⟩).1⟩
  · rintro ⟨hsingle, hdouble, hopcodes⟩ c
    cases c with
    | single i word => rw [Holds, Holds, hsingle]
    | double i word => rw [Holds, Holds, hdouble]
    | slot i record => exact and_congr_left fun hrecord => hopcodes i record hrecord

/-- A snapshot with one word that may be shown, and records that are not. -/
def sparse (word : UInt32) (operand : UInt8) : Snapshot :=
  ⟨word :: List.replicate 255 0, List.replicate 256 0, List.replicate 1024 ⟨.nop, operand, 0, 0⟩⟩

theorem isFull_sparse (word : UInt32) (operand : UInt8) : (sparse word operand).IsFull :=
  (isFull_iff _).2 ⟨congrArg (· + 1) List.length_replicate, List.length_replicate,
    List.length_replicate⟩

/-- The operands of a `nop` are told by no line; the sign of a zero is. -/
theorem describe_identifies_negative_zero :
    (sparse 0x80000000 0).describe = (sparse 0x80000000 7).describe
      ∧ (sparse 0x80000000 0).describe ≠ (sparse 0 0).describe := by
  have hhidden (operand : UInt8) (i : Nat) (record : Record) (hkind : record.kind ≠ .nop) :
      (sparse 0x80000000 operand).opcodes[i]? ≠ some record := by
    intro hentry
    have hmem := List.mem_of_getElem? hentry
    rw [List.eq_of_mem_replicate hmem] at hkind
    exact hkind rfl
  constructor
  · exact (describe_identifies.1 _ _ (isFull_sparse _ 0) (isFull_sparse _ 7)).2
      ⟨rfl, rfl, fun i record hkind => iff_of_false (hhidden 0 i record hkind)
        (hhidden 7 i record hkind)⟩
  · intro h
    obtain ⟨hsingle, -⟩ :=
      (describe_identifies.1 _ _ (isFull_sparse _ 0) (isFull_sparse _ 0)).1 h
    exact absurd (List.cons.inj hsingle).1 (by decide)

end Snapshot

end Coprocessor
