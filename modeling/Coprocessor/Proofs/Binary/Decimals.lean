import Coprocessor.Proofs.Binary.Nearest

/-!
# Decimals — a decimal number is rounded once

A decimal of any size goes straight to the magnitude nearest to it. Its exponent is only
looked at as a power if the number can be in the range of the format: far above and far
below, the rounding is known without it.

  • `Decimal.magnitude` — the number that a decimal is, but for its sign.
  • `Format.IsRounded` — a whole pattern as the rounding of a number with a sign.
  • `isRounded_ofDecimal` — every decimal is rounded in that sense.
-/

namespace Coprocessor.Binary

-- powers are those of the core library, whatever else is imported
attribute [local instance (high)] instPowNat

/-- The number that a decimal is, but for its sign. -/
def Decimal.magnitude (d : Decimal) : ℚ := d.coefficient * 10 ^ d.exponent

namespace Format

/-- A whole pattern is a sign and the one magnitude that a number is rounded to. -/
def IsRounded (f : Format) (negative : Bool) (x : ℚ) (bits : ℕ) : Prop :=
  ∃ m, bits = f.signed negative m ∧ ∀ n, f.Rounds x n ↔ n = m

variable {f : Format}

/-- A rounded magnitude under a sign is the rounded number of that sign. -/
theorem Rounds.isRounded (hf : f.Regular) {x : ℚ} {m : ℕ} (h : f.Rounds x m) (negative : Bool) :
    f.IsRounded negative x (f.signed negative m) := by
  refine ⟨m, rfl, fun n => ⟨fun h' => h'.unique hf h, ?_⟩⟩
  rintro rfl
  exact h

/-! ## Far above and far below -/

/-- The smallest patterns are the numbers of their units. -/
theorem units_small {k : ℕ} (hk : k < 2 ^ (f.fractionBits + 1)) : f.units k = k := by
  have hkept := units_kept hk (s := 0) (Or.inl rfl)
  rw [Nat.zero_mul, Nat.zero_add, Nat.pow_zero, Nat.mul_one] at hkept
  exact hkept

/-- The lowest magnitude is zero. -/
theorem value_zero (hf : f.Regular) : f.value 0 = 0 := by
  rw [value_eq hf, units_small (Nat.two_pow_pos _), Nat.cast_zero, zero_div]

/-- The magnitude after zero is one unit of the format. -/
theorem value_one (hf : f.Regular) : f.value 1 = 1 / 2 ^ f.scale := by
  rw [value_eq hf, units_small (Nat.one_lt_two_pow (Nat.succ_ne_zero _)), Nat.cast_one]

/-- What is below half of the smallest value is rounded to zero. -/
theorem rounds_tiny (hf : f.Regular) {x : ℚ} (hx : 0 ≤ x) (hsmall : 2 * x < 1 / 2 ^ f.scale) :
    f.Rounds x 0 := by
  have hpos : 0 < f.infinity := Nat.lt_of_lt_of_le Nat.two_pos (infinity_even hf).2
  refine rounds_below hf hpos ?_ ?_ fun _ => rfl
  · rw [value_zero hf]
    exact hx
  · rw [value_zero hf, value_one hf]
    linarith

/-- A power of ten whose exponent is above all those of the format is above its range. -/
theorem value_infinity_le (hf : f.Regular) {c e : ℕ} (hc : c ≠ 0) (he : 2 ^ f.exponentBits < e) :
    f.value f.infinity ≤ c * 10 ^ e := by
  have hexponent : f.bias + 1 = ((2 ^ (f.exponentBits - 1) : ℕ) : ℤ) := by
    rw [bias]
    push_cast
    ring
  have hle : 2 ^ (f.exponentBits - 1) ≤ e :=
    Nat.le_trans (Nat.pow_le_pow_right (by decide) (Nat.sub_le _ _)) (Nat.le_of_lt he)
  have hnat : 2 ^ 2 ^ (f.exponentBits - 1) ≤ c * 10 ^ e := calc
    2 ^ 2 ^ (f.exponentBits - 1) ≤ 2 ^ e := Nat.pow_le_pow_right (by decide) hle
    _ ≤ 10 ^ e := Nat.pow_le_pow_left (by decide) e
    _ ≤ c * 10 ^ e := Nat.le_mul_of_pos_left _ (Nat.pos_of_ne_zero hc)
  rw [value_infinity hf, hexponent, zpow_natCast]
  exact_mod_cast hnat

/-- A fraction with so many places is below half of the smallest value. -/
theorem two_mul_lt (hf : f.Regular) {c e : ℕ} (he : 2 ^ f.exponentBits + c.log2 + 1 < e) :
    2 * ((c : ℚ) / 10 ^ e) < 1 / 2 ^ f.scale := by
  have hhalf : 2 ^ (f.exponentBits - 1) ≤ 2 ^ f.exponentBits :=
    Nat.pow_le_pow_right (by decide) (Nat.sub_le _ _)
  have hrange := hf.range
  have hscale : f.scale = 2 ^ (f.exponentBits - 1) + f.fractionBits - 2 := rfl
  have hnat : 2 * c * 2 ^ f.scale < 10 ^ e := calc
    2 * c * 2 ^ f.scale < 2 * 2 ^ (c.log2 + 1) * 2 ^ f.scale :=
      Nat.mul_lt_mul_of_pos_right (Nat.mul_lt_mul_of_pos_left Nat.lt_log2_self Nat.two_pos)
        (Nat.two_pow_pos _)
    _ = 2 ^ (c.log2 + 2 + f.scale) := by
      rw [Nat.mul_comm 2, ← Nat.pow_succ, ← Nat.pow_add]
    _ ≤ 2 ^ (3 * e) := Nat.pow_le_pow_right (by decide) (by omega)
    _ = 8 ^ e := Nat.pow_mul 2 3 e
    _ ≤ 10 ^ e := Nat.pow_le_pow_left (by decide) e
  have hcast : 2 * (c : ℚ) * 2 ^ f.scale < 10 ^ e := by exact_mod_cast hnat
  rw [← mul_div_assoc, div_lt_div_iff₀ (pow_pos (by norm_num) e) (pow_pos two_pos _), one_mul]
  exact hcast

/-! ## Every decimal -/

/-- A decimal is rounded once, its sign being kept. -/
theorem isRounded_ofDecimal (hf : f.Regular) (d : Decimal) :
    f.IsRounded d.negative d.magnitude (f.ofDecimal d) := by
  have hpos : (0 : ℚ) < 2 ^ f.scale := pow_pos two_pos _
  obtain ⟨negative, c, exponent⟩ := d
  refine Rounds.isRounded hf ?_ negative
  by_cases hc : c = 0
  · have hzero : Decimal.magnitude ⟨negative, c, exponent⟩ = 0 := by
      rw [Decimal.magnitude, hc, Nat.cast_zero, zero_mul]
    rw [hzero, if_pos hc]
    exact rounds_tiny hf (le_refl 0) (by rw [mul_zero]; exact one_div_pos.2 hpos)
  rw [if_neg hc]
  -- each sign of the exponent has a bound from which the power of ten is not computed
  by_cases hsign : 0 ≤ exponent
  · obtain ⟨e, rfl⟩ := Int.eq_ofNat_of_zero_le hsign
    have hmagnitude : Decimal.magnitude ⟨negative, c, e⟩ = c * 10 ^ e := by
      rw [Decimal.magnitude, zpow_natCast]
    rw [hmagnitude, if_pos hsign, Int.toNat_natCast]
    by_cases hlarge : 2 ^ f.exponentBits < e
    · rw [if_pos hlarge]
      exact rounds_beyond hf (value_infinity_le hf hc hlarge)
    · have hunits : (c * 10 ^ e : ℚ) = (c * 10 ^ e * 2 ^ f.scale : ℕ) / (1 : ℕ) / 2 ^ f.scale := by
        push_cast
        field_simp
      rw [if_neg hlarge, hunits]
      exact rounds_round hf _ Nat.one_pos
  · obtain ⟨e, rfl⟩ : ∃ e : ℕ, exponent = -e := ⟨(-exponent).toNat, by omega⟩
    have hmagnitude : Decimal.magnitude ⟨negative, c, -e⟩ = c / 10 ^ e := by
      rw [Decimal.magnitude, zpow_neg, zpow_natCast, div_eq_mul_inv]
    rw [hmagnitude, if_neg hsign, Int.neg_neg, Int.toNat_natCast]
    by_cases hsmall : 2 ^ f.exponentBits + c.log2 + 1 < e
    · rw [if_pos hsmall]
      exact rounds_tiny hf (div_nonneg (Nat.cast_nonneg c) (pow_nonneg (by norm_num) e))
        (two_mul_lt hf hsmall)
    · have hunits : (c / 10 ^ e : ℚ) = (c * 2 ^ f.scale : ℕ) / (10 ^ e : ℕ) / 2 ^ f.scale := by
        push_cast
        field_simp
      rw [if_neg hsmall, hunits]
      exact rounds_round hf _ (Nat.pow_pos (by decide))

end Format

end Coprocessor.Binary
