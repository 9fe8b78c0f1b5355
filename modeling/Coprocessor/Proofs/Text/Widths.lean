import Mathlib.Algebra.Group.Nat.Defs
import Coprocessor.Proofs.Text.Digits

/-!
# Widths — numbers are read back from padded text

A number in a fixed width of hexadecimal digits, and one that is padded with blanks, are
told by their text. Where a text goes on behind them, the width or a mark tells where they
end. So it is with the bytes of a list, each in two digits.

  • `ofDigits_hexDigits`, `hexDigits_inj` — a number that fits its width is read back.
  • `hexBytes_append_inj` — a list of bytes is read back, whatever its length.
  • `column_inj` — a padded number is read back, whatever its width.
  • `append_mark_inj` — texts up to their first mark, and what is behind it.
-/

namespace Coprocessor.Text

/-! ## Hexadecimal digits of a fixed width -/

/-- There are as many digits as the width says. -/
@[simp] theorem length_hexDigits (width n : Nat) : (hexDigits width n).length = width := by
  induction width generalizing n with
  | zero => rfl
  | succ width ih => rw [hexDigits, List.length_append, ih, List.length_singleton]

/-- The last digits of a number denote what is left of it. -/
theorem ofDigits_hexDigits (width n : Nat) : ofDigits 16 (hexDigits width n) = n % 16 ^ width := by
  induction width generalizing n with
  | zero => rw [Nat.pow_zero, Nat.mod_one]; rfl
  | succ width ih =>
      have hlast : digitValue (Nat.digitChar (n % 16)) = n % 16 :=
        digitValue_digitChar (Nat.mod_lt n (by decide))
      rw [hexDigits, ofDigits_append_singleton, ih, hlast, Nat.pow_succ', Nat.mod_mul]
      omega

/-- Numbers that fit a width are told apart by their digits. -/
theorem hexDigits_inj {width m n : Nat} (hm : m < 16 ^ width) (hn : n < 16 ^ width)
    (h : hexDigits width m = hexDigits width n) : m = n := by
  have hvalue := congrArg (ofDigits 16) h
  rw [ofDigits_hexDigits, ofDigits_hexDigits, Nat.mod_eq_of_lt hm, Nat.mod_eq_of_lt hn] at hvalue
  exact hvalue

/-- What stands behind digits of one width has no part in them. -/
theorem hexDigits_append_inj (width : Nat) {m n : Nat} {back back' : List Char}
    (hm : m < 16 ^ width) (hn : n < 16 ^ width)
    (h : hexDigits width m ++ back = hexDigits width n ++ back') : m = n ∧ back = back' := by
  obtain ⟨hdigits, hback⟩ := List.append_inj h (by rw [length_hexDigits, length_hexDigits])
  exact ⟨hexDigits_inj hm hn hdigits, hback⟩

/-- A number of a fixed width is cut from what is behind it. -/
theorem hex_append_inj (width : Nat) {m n : Nat} {back back' : String} (hm : m < 16 ^ width)
    (hn : n < 16 ^ width) (h : hex width m ++ back = hex width n ++ back') :
    m = n ∧ back = back' := by
  have hchars := congrArg String.toList h
  rw [hex, hex, String.toList_append, String.toList_append, String.toList_ofList,
    String.toList_ofList] at hchars
  obtain ⟨hvalue, hback⟩ := hexDigits_append_inj width hm hn hchars
  exact ⟨hvalue, String.toList_injective hback⟩

/-! ## Lists of bytes -/

/-- Bytes are written with blanks between them. -/
theorem toList_hexBytes_cons (b : UInt8) (bs : List UInt8) :
    (hexBytes (b :: bs)).toList
      = hexDigits 2 b.toNat ++ bs.flatMap fun c => ' ' :: hexDigits 2 c.toNat := by
  have hdigits (c : UInt8) : (hex 2 c.toNat).toList = hexDigits 2 c.toNat := String.toList_ofList
  induction bs generalizing b with
  | nil =>
      show (" ".intercalate [hex 2 b.toNat]).toList = _
      rw [String.intercalate_singleton, hdigits]
      exact (List.append_nil _).symm
  | cons c bs ih =>
      have hrest : hexBytes (b :: c :: bs) = hex 2 b.toNat ++ " " ++ hexBytes (c :: bs) :=
        String.intercalate_cons_cons
      rw [hrest, String.toList_append, String.toList_append, hdigits, ih, List.append_assoc]
      rfl

/-- Two digits do not start with a character that is none. -/
theorem ne_hexDigits_append {mark : Char} (hmark : isHexDigit mark = false) (n : Nat)
    (back back' : List Char) : mark :: back ≠ hexDigits 2 n ++ back' := by
  intro h
  obtain ⟨rfl, -⟩ := List.cons.inj h
  rw [isHexDigit_digitChar (Nat.mod_lt _ (by decide))] at hmark
  exact nomatch hmark

/-- Bytes with a blank in front of each are read back up to a mark. -/
theorem spaced_append_inj {mark : Char} (hblank : mark ≠ ' ') {bs cs : List UInt8}
    {back back' : List Char}
    (h : (bs.flatMap fun b => ' ' :: hexDigits 2 b.toNat) ++ mark :: back
      = (cs.flatMap fun c => ' ' :: hexDigits 2 c.toNat) ++ mark :: back') :
    bs = cs ∧ back = back' := by
  induction bs generalizing cs with
  | nil =>
      cases cs with
      | nil => exact ⟨rfl, (List.cons.inj h).2⟩
      | cons c cs => exact absurd (List.cons.inj h).1 hblank
  | cons b bs ih =>
      cases cs with
      | nil => exact absurd (List.cons.inj h).1.symm hblank
      | cons c cs =>
          rw [List.flatMap_cons, List.flatMap_cons, List.append_assoc, List.append_assoc] at h
          obtain ⟨hbyte, hrest⟩ :=
            hexDigits_append_inj 2 b.toNat_lt c.toNat_lt (List.cons.inj h).2
          obtain rfl := UInt8.toNat.inj hbyte
          obtain ⟨rfl, hback⟩ := ih hrest
          exact ⟨rfl, hback⟩

/-- A list of bytes is read back up to a mark that is no digit and no blank. -/
theorem hexBytes_append_inj {mark : Char} (hdigit : isHexDigit mark = false)
    (hblank : mark ≠ ' ') {bs cs : List UInt8} {back back' : List Char}
    (h : (hexBytes bs).toList ++ mark :: back = (hexBytes cs).toList ++ mark :: back') :
    bs = cs ∧ back = back' := by
  -- a list without bytes has no text, so the mark stands where the other list has a digit
  cases bs with
  | nil =>
      cases cs with
      | nil => exact ⟨rfl, (List.cons.inj h).2⟩
      | cons c cs =>
          rw [toList_hexBytes_cons, List.append_assoc] at h
          exact absurd h (ne_hexDigits_append hdigit _ _ _)
  | cons b bs =>
      cases cs with
      | nil =>
          rw [toList_hexBytes_cons, List.append_assoc] at h
          exact absurd h.symm (ne_hexDigits_append hdigit _ _ _)
      | cons c cs =>
          rw [toList_hexBytes_cons, toList_hexBytes_cons] at h
          have hspaced : ((b :: bs).flatMap fun b => ' ' :: hexDigits 2 b.toNat) ++ mark :: back
              = ((c :: cs).flatMap fun c => ' ' :: hexDigits 2 c.toNat) ++ mark :: back' :=
            congrArg (' ' :: ·) h
          exact spaced_append_inj hblank hspaced

/-! ## Decimal digits -/

/-- Numbers are told apart by their decimal digits. -/
theorem toDigits_inj {m n : Nat} (h : Nat.toDigits 10 m = Nat.toDigits 10 n) : m = n := by
  have hvalue := congrArg (ofDigits 10) h
  rw [ofDigits_toDigits (by decide) (by decide), ofDigits_toDigits (by decide) (by decide)]
    at hvalue
  exact hvalue

/-- Only digits are in a number. -/
theorem not_mem_toDigits {c : Char} (hc : c.isDigit = false) (n : Nat) :
    c ∉ Nat.toDigits 10 n := by
  intro hmem
  rw [Nat.isDigit_of_mem_toDigits (by decide) (by decide) hmem] at hc
  exact nomatch hc

theorem toList_column (width n : Nat) :
    (column width n).toList
      = List.replicate (width - (Nat.toDigits 10 n).length) ' ' ++ Nat.toDigits 10 n := by
  rw [column, String.toList_ofList]
  rfl

/-- Without its blanks a padded number is its digits. -/
theorem filter_column (width n : Nat) :
    (column width n).toList.filter (fun c => c != ' ') = Nat.toDigits 10 n := by
  have hdigits : (Nat.toDigits 10 n).filter (fun c => c != ' ') = Nat.toDigits 10 n := by
    refine List.filter_eq_self.2 fun c hc => bne_iff_ne.2 ?_
    rintro rfl
    exact not_mem_toDigits rfl n hc
  have hblanks : (List.replicate (width - (Nat.toDigits 10 n).length) ' ').filter
      (fun c => c != ' ') = [] := List.filter_replicate_of_neg (by decide)
  rw [toList_column, List.filter_append, hblanks, hdigits, List.nil_append]

/-- Numbers are told apart also in columns. -/
theorem column_inj {width width' m n : Nat}
    (h : (column width m).toList = (column width' n).toList) : m = n := by
  have hdigits := congrArg (List.filter fun c => c != ' ') h
  rw [filter_column, filter_column] at hdigits
  exact toDigits_inj hdigits

theorem not_mem_column {c : Char} (hdigit : c.isDigit = false) (hblank : c ≠ ' ')
    (width n : Nat) : c ∉ (column width n).toList := by
  rw [toList_column]
  intro hmem
  rcases List.mem_append.1 hmem with hmem | hmem
  · exact hblank (List.eq_of_mem_replicate hmem)
  · exact not_mem_toDigits hdigit n hmem

/-! ## Marks -/

/-- Texts are cut in one way at their first mark. -/
theorem append_mark_inj {mark : Char} {front front' back back' : List Char}
    (h : front ++ mark :: back = front' ++ mark :: back') (hfront : mark ∉ front)
    (hfront' : mark ∉ front') : front = front' ∧ back = back' := by
  induction front generalizing front' with
  | nil =>
      cases front' with
      | nil => exact ⟨rfl, (List.cons.inj h).2⟩
      | cons c front' =>
          obtain ⟨rfl, -⟩ := List.cons.inj h
          exact absurd List.mem_cons_self hfront'
  | cons c front ih =>
      cases front' with
      | nil =>
          obtain ⟨rfl, -⟩ := List.cons.inj h
          exact absurd List.mem_cons_self hfront
      | cons c' front' =>
          obtain ⟨rfl, htail⟩ := List.cons.inj h
          obtain ⟨rfl, hback⟩ := ih htail (fun hmem => hfront (List.mem_cons_of_mem c hmem))
            fun hmem => hfront' (List.mem_cons_of_mem c hmem)
          exact ⟨rfl, hback⟩

end Coprocessor.Text
