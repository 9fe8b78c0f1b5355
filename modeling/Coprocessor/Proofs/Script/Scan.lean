import Mathlib.Algebra.Group.Nat.Defs
import Coprocessor.Proofs.Script.Lexeme
import Coprocessor.Proofs.Text.Digits

/-!
# Scans — words between blanks become tokens

A scan steps over blanks, and cuts a word off as a whole when its longest match
is the whole word. A line of such words, each behind one blank, is scanned to
their tokens.

  • `scanFrom_blanks` — blanks only move the column.
  • `Spells` — a word that is cut off as one token.
  • `scanFrom_word` — the step over such a word.
  • `spells_name`, `spells_decimal`, `spells_hexadecimal` — names and integers as
    such words; `scanFrom_tooLarge` is the step at a decimal integer that is none.
  • `scanFrom_line` — the scan of a line of such words.
-/

namespace Coprocessor.Script

/-! ## Columns -/

/-- As many characters as pass are those in front that pass. -/
theorem take_countWhile (p : Char → Bool) (cs : List Char) :
    cs.take (countWhile p cs) = cs.takeWhile p := by
  conv => lhs; arg 2; rw [← List.takeWhile_append_dropWhile (p := p) (l := cs)]
  exact List.take_left

/-- What is behind them is what begins with one that does not. -/
theorem drop_countWhile (p : Char → Bool) (cs : List Char) :
    cs.drop (countWhile p cs) = cs.dropWhile p := by
  conv => lhs; arg 2; rw [← List.takeWhile_append_dropWhile (p := p) (l := cs)]
  exact List.drop_left

/-- A blank takes one byte. -/
theorem byteLength_blank {c : Char} (h : isBlank c = true) (cs : List Char) :
    byteLength (c :: cs) = byteLength cs + 1 := by
  have hsize : c.utf8Size = 1 := by
    rcases eq_of_isBlank h with rfl | rfl | rfl <;> rfl
  rw [byteLength, List.map_cons, List.sum_cons, hsize, Nat.add_comm]
  rfl

/-! ## One step -/

@[simp] theorem scanFrom_nil (column : Nat) : scanFrom column [] = .ok [] := by
  rw [scanFrom]
  exact dif_pos rfl

/-- A scan cuts off the longest match and goes on behind it. -/
theorem scanFrom_of_longest {cs : List Char} {p : Pattern} {n : Nat}
    (hfound : Pattern.longest cs = (p, n)) (hn : n ≠ 0) (column : Nat) :
    scanFrom column cs = match p.meaning (cs.take n) with
      | .tooLarge => .error column
      | .skipped => scanFrom (column + byteLength (cs.take n)) (cs.drop n)
      | .token token =>
          (scanFrom (column + byteLength (cs.take n)) (cs.drop n)).map (⟨token, column⟩ :: ·) := by
  have hne : cs ≠ [] := by
    rintro rfl
    exact hn (Prod.mk.inj hfound).2.symm
  conv => lhs; rw [scanFrom]
  rw [dif_neg hne]
  simp only [hfound, dif_neg hn]
  cases p.meaning (cs.take n) with
  | tooLarge => rfl
  | skipped => rfl
  | token token =>
      cases scanFrom (column + byteLength (cs.take n)) (cs.drop n) with
      | error e => rfl
      | ok tokens => rfl

/-- A text that starts with a blank starts with all the blanks it starts with. -/
theorem longest_blank {c : Char} (h : isBlank c = true) (rest : List Char) :
    Pattern.longest (c :: rest) = (.blank, countWhile isBlank (c :: rest)) := by
  have hpos : 0 < countWhile isBlank (c :: rest) := by
    rw [countWhile_cons, if_pos h]
    exact Nat.succ_pos _
  refine Pattern.longest_of_unique ?_ hpos
  intro q hq
  suffices hzero : q.length (c :: rest) = 0 by
    rw [hzero]
    exact hpos
  cases q with
  | blank => exact absurd rfl hq
  | comment | identifier | decimal | hexadecimal | fractional =>
      rcases eq_of_isBlank h with rfl | rfl | rfl <;> rfl

/-- Blanks only move the column. -/
theorem scanFrom_blanks (column : Nat) (cs : List Char) :
    scanFrom column cs
      = scanFrom (column + byteLength (cs.takeWhile isBlank)) (cs.dropWhile isBlank) := by
  cases cs with
  | nil => rfl
  | cons c rest =>
      by_cases h : isBlank c = true
      · have hn : countWhile isBlank (c :: rest) ≠ 0 := by
          rw [countWhile_cons, if_pos h]
          exact Nat.succ_ne_zero _
        rw [scanFrom_of_longest (longest_blank h rest) hn, take_countWhile, drop_countWhile]
        rfl
      · rw [List.takeWhile_cons_of_neg h, List.dropWhile_cons_of_neg h]
        rfl

/-- One blank only moves the column. -/
theorem scanFrom_blank {c : Char} (h : isBlank c = true) (column : Nat) (cs : List Char) :
    scanFrom column (c :: cs) = scanFrom (column + 1) cs := by
  rw [scanFrom_blanks, List.takeWhile_cons_of_pos h, List.dropWhile_cons_of_pos h,
    scanFrom_blanks (column + 1), byteLength_blank h, Nat.add_comm (byteLength _), Nat.add_assoc]

/-! ## Words -/

/-- A word that is cut off as one token. -/
structure Spells (w : List Char) (token : Token) : Prop where
  starts : StartsWord w
  whole : ∃ p, Pattern.longest w = (p, w.length) ∧ p.meaning w = .token token

/-- A word is cut off whatever blank, comment or end is behind it. -/
theorem scanFrom_word {w : List Char} {token : Token} (hw : Spells w token) {rest : List Char}
    (h : Ends rest) (column : Nat) :
    scanFrom column (w ++ rest)
      = (scanFrom (column + byteLength w) rest).map (⟨token, column⟩ :: ·) := by
  obtain ⟨p, hlongest, hmeaning⟩ := hw.whole
  have hfound : Pattern.longest (w ++ rest) = (p, w.length) := by
    rw [Pattern.longest_append hw.starts h, hlongest]
  have hn : w.length ≠ 0 := fun hzero => hw.starts.ne_nil (List.eq_nil_of_length_eq_zero hzero)
  rw [scanFrom_of_longest hfound hn, List.take_left, List.drop_left, hmeaning]

/-- A name spells its own token. -/
theorem spells_name {name : String} (h : isName name.toList = true) :
    Spells name.toList (.identifier name) := by
  obtain ⟨hstarts, hlongest⟩ := longest_identifier h
  refine ⟨hstarts, .identifier, hlongest, ?_⟩
  rw [Pattern.meaning, String.ofList_toList]

/-! ## Integers as words -/

section

variable {digits : List Char} {n : Nat}

theorem decimalValue_eq (h : Text.IsDecimal digits n) : Pattern.decimalValue digits = n := by
  rw [Pattern.decimalValue, h.value]
  exact Pattern.ne_minus_cons h.all

/-- A decimal integer below the sign bit is one token. -/
theorem spells_decimal (h : Text.IsDecimal digits n) (hn : n < 2 ^ 63) :
    Spells digits (.number (Int64.ofInt n)) := by
  obtain ⟨hstarts, hlongest⟩ := longest_decimal h.ne_nil h.all
  refine ⟨hstarts, .decimal, hlongest, ?_⟩
  rw [Pattern.meaning, decimalValue_eq h]
  exact if_pos (by omega)

/-- A decimal integer from the sign bit up is refused, at its column. -/
theorem scanFrom_tooLarge (h : Text.IsDecimal digits n) (hn : 2 ^ 63 ≤ n) {rest : List Char}
    (hrest : Ends rest) (column : Nat) : scanFrom column (digits ++ rest) = .error column := by
  obtain ⟨hstarts, hlongest⟩ := longest_decimal h.ne_nil h.all
  have hfound : Pattern.longest (digits ++ rest) = (.decimal, digits.length) := by
    rw [Pattern.longest_append hstarts hrest, hlongest]
  have hlength : digits.length ≠ 0 := fun hzero =>
    h.ne_nil (List.eq_nil_of_length_eq_zero hzero)
  have hmeaning : Pattern.decimal.meaning digits = .tooLarge := by
    rw [Pattern.meaning, decimalValue_eq h]
    exact if_neg (by omega)
  rw [scanFrom_of_longest hfound hlength, List.take_left, hmeaning]

/-- A hexadecimal integer of 64 bits is one token. -/
theorem spells_hexadecimal (h : Text.IsHexadecimal digits n) (hn : n < 2 ^ 64) :
    Spells ('0' :: 'x' :: digits) (.hexadecimal (UInt64.ofNat n)) := by
  obtain ⟨hstarts, hlongest⟩ := longest_hexadecimal h.ne_nil h.all
  refine ⟨hstarts, .hexadecimal, hlongest, ?_⟩
  show (if Text.ofDigits 16 digits < 2 ^ 64 then
      Pattern.Meaning.token (.hexadecimal (UInt64.ofNat (Text.ofDigits 16 digits)))
    else .tooLarge) = _
  rw [h.value, if_pos hn]

end

/-- A hexadecimal number of at most 64 bits is one token, and denotes itself. -/
theorem spells_hexNumber (value : UInt64) :
    Spells (Text.hexNumber value.toNat).toList (.hexadecimal value) := by
  have hspells := spells_hexadecimal (Text.isHexadecimal_toDigits value.toNat) value.toNat_lt
  rw [UInt64.ofNat_toNat] at hspells
  rw [Text.toList_hexNumber]
  exact hspells

/-! ## Lines of words -/

/-- Words behind single blanks are scanned to their tokens. -/
theorem scanFrom_line {words : List (List Char × Token)} (h : ∀ p ∈ words, Spells p.1 p.2)
    (column : Nat) :
    ∃ tokens, scanFrom column ([' '].intercalate (words.map Prod.fst)) = .ok tokens
      ∧ tokens.map Located.token = words.map Prod.snd := by
  induction words generalizing column with
  | nil => exact ⟨[], scanFrom_nil column, rfl⟩
  | cons p words ih =>
      have hp : Spells p.1 p.2 := h p List.mem_cons_self
      have hwords : ∀ q ∈ words, Spells q.1 q.2 := fun q hq => h q (List.mem_cons_of_mem p hq)
      cases words with
      | nil =>
          refine ⟨[⟨p.2, column⟩], ?_, rfl⟩
          have hscan := scanFrom_word hp ends_nil column
          rw [List.append_nil, scanFrom_nil] at hscan
          rw [List.map_singleton, List.intercalate_singleton, hscan]
          rfl
      | cons q words =>
          obtain ⟨tokens, hscan, htokens⟩ := ih hwords (column + byteLength p.1 + 1)
          refine ⟨⟨p.2, column⟩ :: tokens, ?_, congrArg (p.2 :: ·) htokens⟩
          rw [List.map_cons, List.map_cons, List.intercalate_cons_cons, List.append_assoc]
          show scanFrom column (p.1 ++ ' ' :: [' '].intercalate (q.1 :: words.map Prod.fst)) = _
          rw [scanFrom_word hp (ends_cons rfl _), scanFrom_blank rfl]
          rw [List.map_cons] at hscan
          rw [hscan]
          rfl

end Coprocessor.Script
