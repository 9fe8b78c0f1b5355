import Coprocessor.Binary.Arithmetic
import Coprocessor.Binary.Trigonometry
import Coprocessor.Proofs.Binary.Literal

/-!
# Results — what is computed is a pattern of its format

Every operation ends in a quiet NaN, in an infinity, in a zero or in one
rounding, each with a sign, and all of these fit the format. So a result is kept
whole in a word of that width.

  • `Value.add_lt`, `sub_lt`, `mul_lt`, `div_lt`, `sqrt_lt` — arithmetic, in any
    format that can mark a NaN.
  • `Trigonometry.sin_lt`, `cos_lt`, `tan_lt` — the functions of an angle, in double
    precision.
-/

namespace Coprocessor.Binary

namespace Format

variable {f : Format}

/-- The pattern that stands for no number has only the fraction's highest bit and the
    exponent. -/
theorem quietNaN_lt (hf : 0 < f.fractionBits) : f.quietNaN < 2 * f.signBit :=
  signed_lt (quietNaN_lt_signBit hf) false

/-- An infinity of either sign is a pattern of its format. -/
theorem signed_infinity_lt (f : Format) (s : Bool) : f.signed s f.infinity < 2 * f.signBit :=
  signed_lt f.infinity_lt_signBit s

/-- A zero of either sign is a pattern of its format. -/
theorem signed_zero_lt (f : Format) (s : Bool) : f.signed s 0 < 2 * f.signBit :=
  signed_lt (Nat.two_pow_pos _) s

/-- However large the quotient is, rounding ends at infinity, so its pattern fits. -/
theorem signed_round_lt (f : Format) (s : Bool) (num den : Nat) :
    f.signed s (f.round num den) < 2 * f.signBit :=
  signed_lt (f.round_lt_signBit num den) s

end Format

namespace Value

variable {f : Format} (hf : 0 < f.fractionBits)
include hf

/-- One case for each pair of operands: what is not finite, opposite zeros, and a sum that
    is rounded. -/
theorem add_lt (a b : Value) : add f a b < 2 * f.signBit := by
  unfold add
  split
  next => exact Format.quietNaN_lt hf
  next => exact Format.quietNaN_lt hf
  next =>
    split
    · exact f.signed_infinity_lt _
    · exact Format.quietNaN_lt hf
  next => exact f.signed_infinity_lt _
  next => exact f.signed_infinity_lt _
  next =>
    -- equal signs, opposite values, and the larger of two opposite signs
    split
    · exact f.signed_round_lt _ _ _
    · split
      · exact f.signed_zero_lt false
      · split
        · exact f.signed_round_lt _ _ _
        · exact f.signed_round_lt _ _ _

theorem sub_lt (a b : Value) : sub f a b < 2 * f.signBit := add_lt hf a b.negate

/-- A product is no number, an infinity or a rounded product of magnitudes. -/
theorem mul_lt (a b : Value) : mul f a b < 2 * f.signBit := by
  unfold mul
  split
  next => exact Format.quietNaN_lt hf
  next => exact Format.quietNaN_lt hf
  next => exact f.signed_infinity_lt _
  next =>
    split
    · exact Format.quietNaN_lt hf
    · exact f.signed_infinity_lt _
  next =>
    split
    · exact Format.quietNaN_lt hf
    · exact f.signed_infinity_lt _
  next => exact f.signed_round_lt _ _ _

/-- A quotient by zero is an infinity or no number, any other is rounded. -/
theorem div_lt (a b : Value) : div f a b < 2 * f.signBit := by
  unfold div
  split
  next => exact Format.quietNaN_lt hf
  next => exact Format.quietNaN_lt hf
  next => exact Format.quietNaN_lt hf
  next => exact f.signed_infinity_lt _
  next => exact f.signed_zero_lt _
  next =>
    split
    · split
      · exact Format.quietNaN_lt hf
      · exact f.signed_infinity_lt _
    · exact f.signed_round_lt _ _ _

/-- A root is rounded from a floor and whether something is left behind it. -/
theorem sqrt_lt (a : Value) : sqrt f a < 2 * f.signBit := by
  unfold sqrt
  split
  next => exact Format.quietNaN_lt hf
  next =>
    split
    · exact Format.quietNaN_lt hf
    · exact f.signed_infinity_lt false
  next =>
    split
    · exact f.signed_zero_lt _
    · split
      · exact Format.quietNaN_lt hf
      · exact f.signed_round_lt false _ _

end Value

namespace Trigonometry

/-- A number in fixed point is rounded like any other quotient. -/
theorem ofFixed_lt (s : Bool) (n : Nat) : ofFixed s n < 2 * Format.double.signBit :=
  Format.double.signed_round_lt s _ _

/-- A quotient of fixed-point numbers is rounded like any other. -/
theorem ofQuotient_lt (s : Bool) (num den : Nat) :
    ofQuotient s num den < 2 * Format.double.signBit :=
  Format.double.signed_round_lt s _ _

/-- Outside the finite numbers a sine is no number, inside it is one in fixed point. -/
theorem sin_lt (a : Value) : sin a < 2 * Format.double.signBit := by
  unfold sin
  split
  next =>
    dsimp only
    split <;> exact ofFixed_lt _ _
  next => exact Format.quietNaN_lt (by decide)

theorem cos_lt (a : Value) : cos a < 2 * Format.double.signBit := by
  unfold cos
  split
  next =>
    dsimp only
    split <;> exact ofFixed_lt _ _
  next => exact Format.quietNaN_lt (by decide)

theorem tan_lt (a : Value) : tan a < 2 * Format.double.signBit := by
  unfold tan
  split
  next =>
    dsimp only
    split <;> exact ofQuotient_lt _ _ _
  next => exact Format.quietNaN_lt (by decide)

end Trigonometry

end Coprocessor.Binary
