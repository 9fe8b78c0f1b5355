import Coprocessor.Binary.Literal
import Coprocessor.Proofs.Text.Caseless
import Mathlib.Data.List.TakeDrop

/-!
# Literals — what reading a number literal can give

  • `read?_lt` — whatever is read is a pattern of the format, sign bit included.
  • `read?_inf`, `read?_nan` — the two names of values that are no numbers are
    read in any letter case, as infinity and as the quiet NaN.
  • `read?_toLower` — so is every other literal.
-/

namespace Coprocessor.Binary

-- powers are those of the core library, whatever else is imported
attribute [local instance (high)] instPowNat

namespace Format

variable {f : Format}

/-! ## Patterns fit their format -/

/-- The exponent field of infinity ends just below the sign bit. -/
theorem infinity_add (f : Format) : f.infinity + 2 ^ f.fractionBits = f.signBit := by
  have hpos : 1 ≤ 2 ^ f.exponentBits := Nat.one_le_two_pow
  show (2 ^ f.exponentBits - 1) * 2 ^ f.fractionBits + 2 ^ f.fractionBits
    = 2 ^ (f.exponentBits + f.fractionBits)
  rw [← Nat.succ_mul, Nat.succ_eq_add_one, Nat.sub_add_cancel hpos, ← Nat.pow_add]

/-- The exponent and the fraction lie below the sign. -/
theorem infinity_lt_signBit (f : Format) : f.infinity < f.signBit := by
  have hpos : 0 < 2 ^ f.fractionBits := Nat.two_pow_pos f.fractionBits
  have hsum := f.infinity_add
  omega

/-- The quiet NaN is below the sign bit if there is a fraction to mark it in. -/
theorem quietNaN_lt_signBit (h : 0 < f.fractionBits) : f.quietNaN < f.signBit := by
  have hlt : 2 ^ (f.fractionBits - 1) < 2 ^ f.fractionBits :=
    Nat.pow_lt_pow_right (by omega) (by omega)
  have hsum := f.infinity_add
  show f.infinity + 2 ^ (f.fractionBits - 1) < f.signBit
  omega

/-- Rounding does not go beyond infinity, so it never reaches the sign. -/
theorem round_lt_signBit (f : Format) (num den : Nat) : f.round num den < f.signBit := by
  have hle : f.round num den ≤ f.infinity := Nat.min_le_left _ _
  have hlt := f.infinity_lt_signBit
  omega

theorem signed_lt {magnitude : Nat} (h : magnitude < f.signBit) (negative : Bool) :
    f.signed negative magnitude < 2 * f.signBit := by
  cases negative with
  | true =>
      show f.signBit + magnitude < 2 * f.signBit
      omega
  | false =>
      show magnitude < 2 * f.signBit
      omega

/-- A decimal number of any size is a pattern of the format. -/
theorem ofDecimal_lt (f : Format) (d : Decimal) : f.ofDecimal d < 2 * f.signBit := by
  have hinf := f.infinity_lt_signBit
  have hzero : 0 < f.signBit := Nat.two_pow_pos _
  refine signed_lt ?_ d.negative
  -- a zero, a value far above the range, one far below it, and the two roundings
  split
  next => exact hzero
  next =>
    split
    next =>
      dsimp only
      split
      next => exact hinf
      next => exact f.round_lt_signBit _ _
    next =>
      dsimp only
      split
      next => exact hzero
      next => exact f.round_lt_signBit _ _

/-- Whatever is read is a pattern of the format. -/
theorem read?_lt (hf : 0 < f.fractionBits) {text : List Char} {bits : Nat}
    (h : f.read? text = some bits) : bits < 2 * f.signBit := by
  rw [read?] at h
  dsimp only at h
  split at h
  next d _ =>
    obtain rfl := Option.some.inj h
    exact f.ofDecimal_lt d
  next =>
    split at h
    next =>
      obtain rfl := Option.some.inj h
      exact signed_lt f.infinity_lt_signBit _
    next =>
      split at h
      next =>
        obtain rfl := Option.some.inj h
        exact signed_lt (quietNaN_lt_signBit hf) _
      next => exact nomatch h

end Format

/-! ## The parts of a literal -/

/-- A text that begins with no sign keeps its first character. -/
theorem splitSign_of_ne {c : Char} (hminus : c ≠ '-') (hplus : c ≠ '+') (rest : List Char) :
    splitSign (c :: rest) = (false, c :: rest) := by
  unfold splitSign
  split
  next heq => exact absurd (List.cons.inj heq).1 hminus
  next heq => exact absurd (List.cons.inj heq).1 hplus
  next => rfl

/-- A text that begins with no point has no digits behind one. -/
theorem splitFraction_of_ne {c : Char} (hpoint : c ≠ '.') (rest : List Char) :
    splitFraction (c :: rest) = ([], c :: rest) := by
  unfold splitFraction
  split
  next heq => exact absurd (List.cons.inj heq).1 hpoint
  next => rfl

/-! ## Names of values -/

/-- No letter, in either case, starts a number. -/
theorem ne_of_isLower_toLower {c : Char} (h : c.toLower.isLower = true) :
    c ≠ '-' ∧ c ≠ '+' ∧ c ≠ '.' ∧ c.isDigit = false := by
  refine ⟨?_, ?_, ?_, ?_⟩
  · rintro rfl
    exact absurd h (by decide)
  · rintro rfl
    exact absurd h (by decide)
  · rintro rfl
    exact absurd h (by decide)
  · cases hdigit : c.isDigit with
    | false => rfl
    | true =>
        -- a digit is its own small letter, and it is none
        have hbounds : '0'.val ≤ c.val ∧ c.val ≤ '9'.val := by
          simpa [Char.isDigit] using hdigit
        have hself : c.toLower = c := by
          unfold Char.toLower
          refine dif_neg ?_
          rintro ⟨hlow, -⟩
          exact absurd (UInt32.le_trans hlow hbounds.2) (by decide)
        rw [hself] at h
        have hlower : 'a'.val ≤ c.val := of_decide_eq_true (Bool.and_eq_true_iff.1 h).1
        exact absurd (UInt32.le_trans hlower hbounds.2) (by decide)

/-- A text that starts with a letter has no sign and is no decimal. -/
theorem Format.read?_of_letter (f : Format) {c : Char} (h : c.toLower.isLower = true)
    (rest : List Char) :
    f.read? (c :: rest) =
      (let name := String.ofList ((c :: rest).map Char.toLower)
      if name = "inf" ∨ name = "infinity" then some f.infinity
      else if name = "nan" then some f.quietNaN
      else none) := by
  obtain ⟨hminus, hplus, hpoint, hdigit⟩ := ne_of_isLower_toLower h
  have hsign := splitSign_of_ne hminus hplus rest
  have hwhole : (c :: rest).span Char.isDigit = ([], c :: rest) := by
    have hnot : ¬ c.isDigit = true := by
      rw [hdigit]
      exact Bool.false_ne_true
    rw [List.span_eq_takeWhile_dropWhile, List.takeWhile_cons_of_neg hnot,
      List.dropWhile_cons_of_neg hnot]
  have hfraction := splitFraction_of_ne hpoint rest
  have hdecimal : Decimal.read? false (c :: rest) = none := by
    simp only [Decimal.read?, hwhole, hfraction, and_self, if_true]
  simp only [Format.read?, hsign, hdecimal]
  rfl

/-- A name is read by its small letters, the first of which is one. -/
theorem Format.read?_of_toLower (f : Format) {name lower : String} {c : Char} {rest : List Char}
    (h : name.toLower = lower) (hlower : lower.toList = c :: rest) (hc : c.isLower = true) :
    f.read? name.toList =
      if lower = "inf" ∨ lower = "infinity" then some f.infinity
      else if lower = "nan" then some f.quietNaN
      else none := by
  have hmap : name.toList.map Char.toLower = lower.toList := by
    rw [← h]
    exact String.toList_map.symm
  obtain ⟨d, more, hname, hd, -⟩ := List.map_eq_cons_iff.1 (hmap.trans hlower)
  have hletter : d.toLower.isLower = true := hd ▸ hc
  have hwhole : String.ofList ((d :: more).map Char.toLower) = lower := by
    rw [← hname, hmap, String.ofList_toList]
  rw [hname, f.read?_of_letter hletter]
  dsimp only
  rw [hwhole]

/-- `inf` is infinity, in any letter case. -/
theorem Format.read?_inf (f : Format) {name : String} (h : name.toLower = "inf") :
    f.read? name.toList = some f.infinity :=
  f.read?_of_toLower h rfl (by decide)

/-- `nan` is the quiet NaN, in any letter case. -/
theorem Format.read?_nan (f : Format) {name : String} (h : name.toLower = "nan") :
    f.read? name.toList = some f.quietNaN :=
  f.read?_of_toLower h rfl (by decide)

/-! ## Letter case -/

/-- A sign is no letter, so it is split off as before. -/
theorem splitSign_toLower (cs : List Char) :
    splitSign (cs.map Char.toLower) = ((splitSign cs).1, (splitSign cs).2.map Char.toLower) := by
  cases cs with
  | nil => rfl
  | cons c rest =>
      by_cases hminus : c = '-'
      · subst hminus
        rfl
      · by_cases hplus : c = '+'
        · subst hplus
          rfl
        · have hminus' : c.toLower ≠ '-' :=
            fun h => hminus ((Text.toLower_eq_iff (by decide) c).1 h)
          have hplus' : c.toLower ≠ '+' :=
            fun h => hplus ((Text.toLower_eq_iff (by decide) c).1 h)
          rw [List.map_cons, splitSign_of_ne hminus' hplus', splitSign_of_ne hminus hplus]
          rfl

theorem span_toLower (cs : List Char) :
    (cs.map Char.toLower).span Char.isDigit
      = ((cs.span Char.isDigit).1.map Char.toLower, (cs.span Char.isDigit).2.map Char.toLower) := by
  rw [List.span_eq_takeWhile_dropWhile, List.span_eq_takeWhile_dropWhile,
    Text.caseless_isDigit.takeWhile_map, Text.caseless_isDigit.dropWhile_map]

/-- The digits behind a point are found in either case. -/
theorem splitFraction_toLower (cs : List Char) :
    splitFraction (cs.map Char.toLower)
      = ((splitFraction cs).1.map Char.toLower, (splitFraction cs).2.map Char.toLower) := by
  cases cs with
  | nil => rfl
  | cons c rest =>
      by_cases hpoint : c = '.'
      · subst hpoint
        exact span_toLower rest
      · have hpoint' : c.toLower ≠ '.' :=
          fun h => hpoint ((Text.toLower_eq_iff (by decide) c).1 h)
        rw [List.map_cons, splitFraction_of_ne hpoint', splitFraction_of_ne hpoint]
        rfl

/-- The mark of an exponent counts in either case. -/
theorem exponent?_toLower (cs : List Char) : exponent? (cs.map Char.toLower) = exponent? cs := by
  cases cs with
  | nil => rfl
  | cons c rest =>
      have hmark : Text.Caseless fun c => decide (c = 'e' ∨ c = 'E') :=
        Text.caseless_of_letters (by decide)
      rw [List.map_cons, exponent?, exponent?]
      simp only [decide_eq_decide.1 (hmark c), splitSign_toLower, Text.ofDigits_toLower,
        Text.caseless_isDigit.all_map, ne_eq, List.map_eq_nil_iff]

/-- A decimal number is the same in either case. -/
theorem Decimal.read?_toLower (negative : Bool) (cs : List Char) :
    Decimal.read? negative (cs.map Char.toLower) = Decimal.read? negative cs := by
  simp only [Decimal.read?, span_toLower, splitFraction_toLower, exponent?_toLower,
    List.map_eq_nil_iff, ← List.map_append, Text.ofDigits_toLower, List.length_map]

/-- A literal is read in any letter case. -/
theorem Format.read?_toLower (f : Format) (cs : List Char) :
    f.read? (cs.map Char.toLower) = f.read? cs := by
  have hcomp : Char.toLower ∘ Char.toLower = Char.toLower := funext Text.toLower_toLower
  simp only [Format.read?, splitSign_toLower, Decimal.read?_toLower, List.map_map, hcomp]

end Coprocessor.Binary
