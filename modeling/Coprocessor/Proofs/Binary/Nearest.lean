import Mathlib.Algebra.Order.Field.Rat
import Mathlib.Order.Monotone.Basic
import Mathlib.Tactic.FieldSimp
import Mathlib.Tactic.Linarith
import Mathlib.Tactic.Ring
import Coprocessor.Proofs.Binary.Widening

/-!
# Nearest — roundings told by the values of a format

Which pattern a number is rounded to depends on the values of the patterns alone: on the
nearest one, on the even one of two that are as near, and on the boundary above which
nothing finite is meant. No digits are kept or dropped in that.

  • `Format.value` — the value of a magnitude by its two fields; `value_eq` counts it in
    units, and `value_strictMono` says that values grow with the patterns.
  • `Format.Rounds` — the magnitude that a number is rounded to; `Rounds.unique` says
    that there is one at most.
  • `rounds_below`, `rounds_above` — a number between two neighbours goes to either.
  • `rounds_round` — keeping the digits of a quotient is such a rounding.
-/

namespace Coprocessor.Binary

-- powers are those of the core library, whatever else is imported
attribute [local instance (high)] instPowNat

namespace Format

/-! ## Values and roundings -/

section

variable (f : Format)

/-- What is taken off an exponent field. -/
def bias : ℤ := 2 ^ (f.exponentBits - 1) - 1

/-- The value of a finite magnitude. The fraction has a one in front, but for an exponent
field of zero. -/
def value (magnitude : ℕ) : ℚ :=
  let fraction : ℚ := (magnitude % 2 ^ f.fractionBits : ℕ) / 2 ^ f.fractionBits
  match magnitude / 2 ^ f.fractionBits with
  | 0 => fraction * 2 ^ (1 - f.bias)
  | e + 1 => (1 + fraction) * 2 ^ (((e + 1 : ℕ) : ℤ) - f.bias)

/-- Halfway from the largest finite value to the power of two above it. -/
def overflow : ℚ := (f.value (f.infinity - 1) + 2 ^ (f.bias + 1)) / 2

/-- A finite magnitude that no other is nearer to a number than; if another one is as near,
its pattern is the even one. -/
structure Nearest (x : ℚ) (m : ℕ) : Prop where
  finite : m < f.infinity
  nearest : ∀ n < f.infinity, |x - f.value m| ≤ |x - f.value n|
  even : ∀ n < f.infinity, n ≠ m → |x - f.value n| = |x - f.value m| → m % 2 = 0

/-- The magnitude that a number from zero up is rounded to: the nearest one, or infinity from
the overflow on. -/
inductive Rounds (x : ℚ) : ℕ → Prop where
  | finite {m : ℕ} (h : f.Nearest x m) (hx : x < f.overflow) : Rounds x m
  | infinite (hx : f.overflow ≤ x) : Rounds x f.infinity

/-- The formats that there are: with a fraction, with more exponents than that of zero and
that of infinity, and with no more digits than exponents. -/
structure Regular : Prop where
  fraction : 1 ≤ f.fractionBits
  exponent : 2 ≤ f.exponentBits
  range : f.fractionBits ≤ 2 ^ f.exponentBits

end

/-- Single precision has the proportions that rounding relies on. -/
theorem regular_single : single.Regular := ⟨by decide, by decide, by decide⟩

theorem regular_double : double.Regular := ⟨by decide, by decide, by decide⟩

variable {f : Format}

/-! ## Patterns and their successors -/

/-- Every pattern is one of kept digits with their power in front. -/
theorem exists_digits (f : Format) (m : ℕ) :
    ∃ s k, m = s * 2 ^ f.fractionBits + k ∧ k < 2 ^ (f.fractionBits + 1)
      ∧ (s = 0 ∨ 2 ^ f.fractionBits ≤ k) := by
  have hsucc : 2 ^ (f.fractionBits + 1) = 2 ^ f.fractionBits + 2 ^ f.fractionBits :=
    Nat.two_pow_succ f.fractionBits
  have hsplit : m = m / 2 ^ f.fractionBits * 2 ^ f.fractionBits + m % 2 ^ f.fractionBits :=
    (Nat.div_add_mod' m _).symm
  have hlt : m % 2 ^ f.fractionBits < 2 ^ f.fractionBits := Nat.mod_lt m (Nat.two_pow_pos _)
  cases he : m / 2 ^ f.fractionBits with
  | zero =>
      rw [he] at hsplit
      exact ⟨0, m % 2 ^ f.fractionBits, hsplit, by omega, Or.inl rfl⟩
  | succ e =>
      rw [he, Nat.succ_mul] at hsplit
      exact ⟨e, 2 ^ f.fractionBits + m % 2 ^ f.fractionBits, by omega, by omega,
        Or.inr (Nat.le_add_right _ _)⟩

/-- The next pattern has one more of the last digit that is kept. -/
theorem units_succ {s k : ℕ} (hk : k < 2 ^ (f.fractionBits + 1))
    (hidden : s = 0 ∨ 2 ^ f.fractionBits ≤ k) :
    f.units (s * 2 ^ f.fractionBits + k + 1) = (k + 1) * 2 ^ s := by
  by_cases hlt : k + 1 < 2 ^ (f.fractionBits + 1)
  · exact units_kept hlt (hidden.imp_right fun hle => Nat.le_succ_of_le hle)
  · -- a carry out of the fraction moves into the exponent
    have hsucc : 2 ^ (f.fractionBits + 1) = 2 ^ f.fractionBits * 2 := Nat.pow_succ ..
    have hcarry : k + 1 = 2 ^ f.fractionBits * 2 := by omega
    have hpattern : s * 2 ^ f.fractionBits + k + 1
        = (s + 1) * 2 ^ f.fractionBits + 2 ^ f.fractionBits := by
      rw [Nat.succ_mul]
      omega
    have hfits : 2 ^ f.fractionBits < 2 ^ (f.fractionBits + 1) :=
      Nat.pow_lt_pow_right (by decide) (Nat.lt_succ_self _)
    rw [hpattern, units_kept hfits (Or.inr (Nat.le_refl _)), hcarry, Nat.pow_succ, Nat.mul_assoc,
      Nat.mul_comm 2]

/-- Magnitudes grow in units from each one to the next. -/
theorem units_lt_succ (f : Format) (m : ℕ) : f.units m < f.units (m + 1) := by
  obtain ⟨s, k, rfl, hk, hidden⟩ := f.exists_digits m
  rw [units_succ hk hidden, units_kept hk hidden]
  exact Nat.mul_lt_mul_of_pos_right (Nat.lt_succ_self k) (Nat.two_pow_pos s)

/-! ## Values in units -/

/-- The scale of the smallest normal numbers, in units of the format. -/
theorem two_pow_bias (hf : f.Regular) :
    (2 : ℚ) ^ (1 - f.bias) = 2 ^ f.fractionBits / 2 ^ f.scale := by
  have htwo : 2 ^ 1 ≤ 2 ^ (f.exponentBits - 1) :=
    Nat.pow_le_pow_right (by decide) (Nat.le_sub_of_add_le hf.exponent)
  have hscale : (f.scale : ℤ) = 2 ^ (f.exponentBits - 1) + f.fractionBits - 2 := by
    rw [scale, Nat.cast_sub (by omega)]
    push_cast
    rfl
  have hbias : 1 - f.bias = (f.fractionBits : ℤ) - (f.scale : ℤ) := by
    rw [hscale, bias]
    ring
  rw [hbias, zpow_sub₀ two_ne_zero, zpow_natCast, zpow_natCast]

/-- Values are counted in units, that of infinity being the power of two above them. -/
theorem value_eq (hf : f.Regular) (m : ℕ) : f.value m = f.units m / 2 ^ f.scale := by
  have hpow : (2 : ℚ) ^ f.fractionBits ≠ 0 := pow_ne_zero _ two_ne_zero
  have hbias := two_pow_bias hf
  rw [value, units]
  cases m / 2 ^ f.fractionBits with
  | zero =>
      dsimp only
      rw [hbias]
      field_simp
  | succ e =>
      have hexponent : ((e + 1 : ℕ) : ℤ) - f.bias = (e : ℤ) + (1 - f.bias) := by
        push_cast
        ring
      dsimp only
      rw [hexponent, zpow_add₀ two_ne_zero, zpow_natCast, hbias]
      push_cast
      field_simp

/-- Larger magnitudes have larger values. -/
theorem value_strictMono (hf : f.Regular) : StrictMono f.value := by
  refine strictMono_nat_of_lt_succ fun m => ?_
  rw [value_eq hf, value_eq hf]
  have hlt : (f.units m : ℚ) < f.units (m + 1) := Nat.cast_lt.2 (f.units_lt_succ m)
  exact div_lt_div_of_pos_right hlt (pow_pos two_pos _)

/-! ## The end of the range -/

/-- Infinity has an even pattern, and two patterns are below it. -/
theorem infinity_even (hf : f.Regular) : f.infinity % 2 = 0 ∧ 2 ≤ f.infinity := by
  have hfraction : 2 ^ f.fractionBits = 2 ^ (f.fractionBits - 1) * 2 :=
    (Nat.two_pow_pred_mul_two hf.fraction).symm
  have hpos : 1 ≤ 2 ^ (f.fractionBits - 1) := Nat.one_le_two_pow
  have hfour : 2 ^ 2 ≤ 2 ^ f.exponentBits := Nat.pow_le_pow_right (by decide) hf.exponent
  have hle : 1 * 2 ^ f.fractionBits ≤ f.infinity := Nat.mul_le_mul_right _ (by omega)
  have hinfinity : f.infinity = (2 ^ f.exponentBits - 1) * 2 ^ (f.fractionBits - 1) * 2 := by
    rw [infinity, hfraction, Nat.mul_assoc]
  omega

/-- The power of two above the finite values is what infinity would stand for. -/
theorem value_infinity (hf : f.Regular) : f.value f.infinity = 2 ^ (f.bias + 1) := by
  have hpos : 0 < 2 ^ f.fractionBits := Nat.two_pow_pos _
  have hdouble : 2 ^ f.exponentBits = 2 ^ (f.exponentBits - 1) * 2 :=
    (Nat.two_pow_pred_mul_two (Nat.le_of_succ_le hf.exponent)).symm
  have hone : 1 ≤ 2 ^ (f.exponentBits - 1) := Nat.one_le_two_pow
  have hdiv : f.infinity / 2 ^ f.fractionBits = 2 ^ (f.exponentBits - 1) * 2 - 2 + 1 := by
    rw [infinity, Nat.mul_div_cancel _ hpos, hdouble]
    omega
  have hmod : f.infinity % 2 ^ f.fractionBits = 0 := Nat.mul_mod_left _ _
  have hexponent : ((2 ^ (f.exponentBits - 1) * 2 - 2 + 1 : ℕ) : ℤ) - f.bias = f.bias + 1 := by
    have hsub : 2 ^ (f.exponentBits - 1) * 2 - 2 + 1 = 2 ^ (f.exponentBits - 1) * 2 - 1 := by
      omega
    rw [hsub, Nat.cast_sub (by omega), bias]
    push_cast
    ring
  rw [value, hdiv, hmod]
  dsimp only
  rw [hexponent, Nat.cast_zero, zero_div, add_zero, one_mul]

/-- Overflow begins half-way between the largest finite number and the one that would follow
    it. -/
theorem overflow_eq (hf : f.Regular) :
    f.overflow = (f.value (f.infinity - 1) + f.value f.infinity) / 2 := by
  rw [overflow, value_infinity hf]

/-! ## Numbers between neighbours -/

section

variable {x : ℚ} {m n : ℕ}

/-- Below a magnitude that a number exceeds, none is nearer to the number. -/
theorem le_abs_of_le (hf : f.Regular) (h : n ≤ m) : x - f.value m ≤ |x - f.value n| := by
  have hle : f.value n ≤ f.value m := (value_strictMono hf).monotone h
  have habs := le_abs_self (x - f.value n)
  linarith

theorem le_abs_of_ge (hf : f.Regular) (h : m ≤ n) : f.value m - x ≤ |x - f.value n| := by
  have hle : f.value m ≤ f.value n := (value_strictMono hf).monotone h
  have habs := neg_abs_le (x - f.value n)
  linarith

/-- In the lower half between two neighbours the lower one is the rounding. -/
theorem rounds_below (hf : f.Regular) (hm : m < f.infinity) (hlow : f.value m ≤ x)
    (hhalf : x - f.value m ≤ f.value (m + 1) - x)
    (heven : x - f.value m = f.value (m + 1) - x → m % 2 = 0) : f.Rounds x m := by
  have hmono := value_strictMono hf
  have hself : |x - f.value m| = x - f.value m := abs_of_nonneg (sub_nonneg.2 hlow)
  refine .finite ⟨hm, fun n _ => ?_, fun n _ hne htie => ?_⟩ ?_
  · rw [hself]
    rcases Nat.lt_or_ge m n with hlt | hge
    · exact hhalf.trans (le_abs_of_ge hf hlt)
    · exact le_abs_of_le hf hge
  · rw [hself] at htie
    rcases Nat.lt_or_gt_of_ne hne with hlt | hgt
    · have hless : f.value n < f.value m := hmono hlt
      have hfar : x - f.value n ≤ |x - f.value n| := le_abs_self _
      linarith
    · exact heven (le_antisymm hhalf (htie ▸ le_abs_of_ge hf hgt))
  · have hstep : f.value m < f.value (m + 1) := hmono (Nat.lt_succ_self m)
    obtain ⟨hinfinity, htwo⟩ := infinity_even hf
    have hlast : f.value (f.infinity - 1) < f.value f.infinity := hmono (by omega)
    rw [overflow_eq hf]
    rcases Nat.lt_or_eq_of_le (Nat.succ_le_of_lt hm) with hlt | heq
    · have hle : f.value (m + 1) ≤ f.value (f.infinity - 1) := hmono.monotone (by omega)
      linarith
    · -- the largest finite pattern is odd, so no number halfway to infinity goes to it
      have hne : x - f.value m ≠ f.value (m + 1) - x := fun htie => by
        have hmod := heven htie
        omega
      have hlt : x - f.value m < f.value (m + 1) - x := lt_of_le_of_ne hhalf hne
      rw [← heq, Nat.succ_sub_one]
      linarith

/-- In the upper half it is the upper one, be it infinity. -/
theorem rounds_above (hf : f.Regular) (hm : m + 1 ≤ f.infinity) (hhigh : x ≤ f.value (m + 1))
    (hhalf : f.value (m + 1) - x ≤ x - f.value m)
    (heven : f.value (m + 1) - x = x - f.value m → (m + 1) % 2 = 0) : f.Rounds x (m + 1) := by
  have hmono := value_strictMono hf
  rcases Nat.lt_or_eq_of_le hm with hfinite | heq
  · have hself : |x - f.value (m + 1)| = f.value (m + 1) - x := by
      rw [abs_sub_comm]
      exact abs_of_nonneg (sub_nonneg.2 hhigh)
    refine .finite ⟨hfinite, fun n _ => ?_, fun n _ hne htie => ?_⟩ ?_
    · rw [hself]
      rcases Nat.lt_or_ge m n with hlt | hge
      · exact le_abs_of_ge hf hlt
      · exact hhalf.trans (le_abs_of_le hf hge)
    · rw [hself] at htie
      rcases Nat.lt_or_gt_of_ne hne with hlt | hgt
      · exact heven (le_antisymm hhalf (htie ▸ le_abs_of_le hf (Nat.le_of_lt_succ hlt)))
      · have hless : f.value (m + 1) < f.value n := hmono hgt
        have hfar : f.value n - x ≤ |x - f.value n| := le_abs_of_ge hf (Nat.le_refl n)
        linarith
    · have hle : f.value (m + 1) ≤ f.value (f.infinity - 1) := hmono.monotone (by omega)
      have hlast : f.value (f.infinity - 1) < f.value f.infinity := hmono (by omega)
      rw [overflow_eq hf]
      linarith
  · rw [heq]
    refine .infinite ?_
    rw [overflow_eq hf, ← heq, Nat.add_sub_cancel]
    linarith

/-- From the power of two above the finite values on it is infinity. -/
theorem rounds_beyond (hf : f.Regular) (hx : f.value f.infinity ≤ x) :
    f.Rounds x f.infinity := by
  obtain ⟨-, htwo⟩ := infinity_even hf
  have hlast : f.value (f.infinity - 1) < f.value f.infinity := value_strictMono hf (by omega)
  refine .infinite ?_
  rw [overflow_eq hf]
  linarith

/-- Two even patterns have one between them, which is nearer to what is halfway. -/
theorem Nearest.not_lt (hf : f.Regular) (h : f.Nearest x m) (h' : f.Nearest x n) : ¬ m < n := by
  intro hlt
  have htie : |x - f.value m| = |x - f.value n| :=
    le_antisymm (h.nearest n h'.finite) (h'.nearest m h.finite)
  have hmod := h.even n h'.finite (Nat.ne_of_gt hlt) htie.symm
  have hmod' := h'.even m h.finite (Nat.ne_of_lt hlt) htie
  have hbetween : m + 1 < n := by omega
  have hlow : f.value m < f.value (m + 1) := value_strictMono hf (Nat.lt_succ_self m)
  have hhigh : f.value (m + 1) < f.value n := value_strictMono hf hbetween
  have hnear := h.nearest (m + 1) (Nat.lt_trans hbetween h'.finite)
  rcases abs_eq_abs.1 htie with heq | heq
  · linarith
  · have hself : |x - f.value m| = x - f.value m := abs_of_nonneg (by linarith)
    have hless : |x - f.value (m + 1)| < x - f.value m := abs_lt.2 ⟨by linarith, by linarith⟩
    linarith

/-- No number goes to two magnitudes. -/
theorem Rounds.unique (hf : f.Regular) (h : f.Rounds x m) (h' : f.Rounds x n) : m = n := by
  cases h with
  | finite h hx =>
      cases h' with
      | finite h' _ =>
          exact Nat.le_antisymm (Nat.le_of_not_lt (h'.not_lt hf h))
            (Nat.le_of_not_lt (h.not_lt hf h'))
      | infinite hx' => exact absurd hx (not_lt.2 hx')
  | infinite hx =>
      cases h' with
      | finite _ hx' => exact absurd hx' (not_lt.2 hx)
      | infinite _ => rfl

end

/-! ## Digits that are kept -/

/-- A quotient of units is as far from the two patterns around it as the remainder says. -/
theorem kept_between (hf : f.Regular) (num : ℕ) {den s : ℕ} (hden : 0 < den)
    (hs : (num / den).log2 - f.fractionBits = s) :
    (num / den / 2 ^ f.scale : ℚ) - f.value (s * 2 ^ f.fractionBits + num / (den * 2 ^ s))
        = (num % (den * 2 ^ s) : ℕ) * (1 / (den * 2 ^ f.scale))
      ∧ f.value (s * 2 ^ f.fractionBits + num / (den * 2 ^ s) + 1) - (num / den / 2 ^ f.scale : ℚ)
        = (den * 2 ^ s - num % (den * 2 ^ s) : ℕ) * (1 / (den * 2 ^ f.scale)) := by
  have hpos : 0 < den * 2 ^ s := Nat.mul_pos hden (Nat.two_pow_pos s)
  have hkept : num / (den * 2 ^ s) < 2 ^ (f.fractionBits + 1)
      ∧ (s = 0 ∨ 2 ^ f.fractionBits ≤ num / (den * 2 ^ s)) := by
    rw [← Nat.div_div_eq_div_mul]
    exact kept_digits (num / den) hs
  have hlt : num % (den * 2 ^ s) < den * 2 ^ s := Nat.mod_lt num hpos
  have hsplit : (num : ℚ)
      = den * 2 ^ s * (num / (den * 2 ^ s) : ℕ) + (num % (den * 2 ^ s) : ℕ) := by
    exact_mod_cast (Nat.div_add_mod num (den * 2 ^ s)).symm
  have hden' : (den : ℚ) ≠ 0 := Nat.cast_ne_zero.2 (Nat.ne_of_gt hden)
  rw [value_eq hf, value_eq hf, units_kept hkept.1 hkept.2, units_succ hkept.1 hkept.2,
    Nat.cast_sub (Nat.le_of_lt hlt), hsplit]
  generalize num / (den * 2 ^ s) = k
  generalize num % (den * 2 ^ s) = r
  push_cast
  constructor
  · field_simp
    ring
  · field_simp
    ring

/-- Where the distances to both neighbours are counted in one step, the smaller count tells the
rounding. -/
theorem rounds_of_steps (hf : f.Regular) {x step : ℚ} {m r d : ℕ} (hstep : 0 < step)
    (hlow : x - f.value m = r * step) (hhigh : f.value (m + 1) - x = (d - r : ℕ) * step)
    (hr : r < d) :
    f.Rounds x
      (min f.infinity (if 2 * r < d then m else if d < 2 * r then m + 1 else m + m % 2)) := by
  have hge : f.value m ≤ x := sub_nonneg.1 (hlow ▸ mul_nonneg (Nat.cast_nonneg r) hstep.le)
  have hle : x ≤ f.value (m + 1) :=
    sub_nonneg.1 (hhigh ▸ mul_nonneg (Nat.cast_nonneg (d - r)) hstep.le)
  have hmono {i j : ℕ} (h : i ≤ j) : (i : ℚ) * step ≤ j * step :=
    mul_le_mul_of_nonneg_right (Nat.cast_le.2 h) hstep.le
  have hinj {i j : ℕ} (h : (i : ℚ) * step = j * step) : i = j :=
    Nat.cast_injective (mul_right_cancel₀ hstep.ne' h)
  -- below infinity the count decides between the two neighbours, above it there is no choice
  by_cases hm : m < f.infinity
  · have hbelow (hhalf : 2 * r ≤ d) (heven : 2 * r = d → m % 2 = 0) : f.Rounds x m := by
      refine rounds_below hf hm hge ?_ fun htie => ?_
      · rw [hlow, hhigh]
        exact hmono (by omega)
      · rw [hlow, hhigh] at htie
        have hcount := hinj htie
        exact heven (by omega)
    have habove (hhalf : d ≤ 2 * r) (heven : 2 * r = d → (m + 1) % 2 = 0) :
        f.Rounds x (m + 1) := by
      refine rounds_above hf hm hle ?_ fun htie => ?_
      · rw [hlow, hhigh]
        exact hmono (by omega)
      · rw [hlow, hhigh] at htie
        have hcount := hinj htie
        exact heven (by omega)
    rcases Nat.lt_trichotomy (2 * r) d with hlt | heq | hgt
    · rw [if_pos hlt, Nat.min_eq_right (Nat.le_of_lt hm)]
      exact hbelow (Nat.le_of_lt hlt) fun heq => absurd heq (Nat.ne_of_lt hlt)
    · rw [if_neg (Nat.not_lt_of_ge heq.ge), if_neg (Nat.not_lt_of_ge heq.le)]
      rcases Nat.mod_two_eq_zero_or_one m with hmod | hmod
      · rw [hmod, Nat.add_zero, Nat.min_eq_right (Nat.le_of_lt hm)]
        exact hbelow heq.le fun _ => hmod
      · rw [hmod, Nat.min_eq_right hm]
        exact habove heq.ge fun _ => by omega
    · rw [if_neg (Nat.not_lt_of_gt hgt), if_pos hgt, Nat.min_eq_right hm]
      exact habove (Nat.le_of_lt hgt) fun heq => absurd heq.symm (Nat.ne_of_lt hgt)
  · have hbeyond : f.value f.infinity ≤ x :=
      ((value_strictMono hf).monotone (Nat.le_of_not_lt hm)).trans hge
    have hmin : f.infinity ≤ if 2 * r < d then m else if d < 2 * r then m + 1 else m + m % 2 := by
      split
      · omega
      · split
        · omega
        · omega
    rw [Nat.min_eq_left hmin]
    exact rounds_beyond hf hbeyond

/-- Keeping the digits of a quotient of units, a half going to the even neighbour, rounds it. -/
theorem rounds_round (hf : f.Regular) (num : ℕ) {den : ℕ} (hden : 0 < den) :
    f.Rounds (num / den / 2 ^ f.scale) (f.round num den) := by
  generalize hs : (num / den).log2 - f.fractionBits = s
  have hstep : (0 : ℚ) < 1 / (den * 2 ^ f.scale) :=
    one_div_pos.2 (mul_pos (Nat.cast_pos.2 hden) (pow_pos two_pos _))
  have hlt : num % (den * 2 ^ s) < den * 2 ^ s :=
    Nat.mod_lt num (Nat.mul_pos hden (Nat.two_pow_pos s))
  obtain ⟨hlow, hhigh⟩ := kept_between hf num hden hs
  have hrounds := rounds_of_steps hf hstep hlow hhigh hlt
  -- the pattern and its kept digits are even or odd together
  have heven : (s * 2 ^ f.fractionBits + num / (den * 2 ^ s)) % 2 = num / (den * 2 ^ s) % 2 := by
    have hfraction : 2 ^ f.fractionBits = 2 ^ (f.fractionBits - 1) * 2 :=
      (Nat.two_pow_pred_mul_two hf.fraction).symm
    rw [hfraction, ← Nat.mul_assoc, Nat.mul_add_mod_self_right]
  have hround : f.round num den
      = min f.infinity (s * 2 ^ f.fractionBits + roundHalfEven num (den * 2 ^ s)) := by
    rw [← hs]
    rfl
  rw [hround, roundHalfEven, add_ite, add_ite, ← Nat.add_assoc, ← Nat.add_assoc]
  rw [heven] at hrounds
  exact hrounds

end Format

end Coprocessor.Binary
