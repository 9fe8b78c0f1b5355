import Coprocessor.Binary.Format

/-!
# Sine, cosine and tangent — fixed point, rounded once

The argument is a double-precision value, so it is an exact fixed-point number.
It is reduced to the first quadrant with enough digits of a quarter turn for
the largest double, and the two power series are summed in fixed point.

  • `angleBits` fraction bits are 128 more than the unit of the double format
    has, so that even the smallest subnormal keeps 128 significant bits.
  • A quarter turn is kept with 1024 further bits for the quotient of the
    largest argument, and some guard bits.
  • A power series ends when its term vanishes at this precision; the step
    count only bounds the recursion.
-/

namespace Coprocessor.Binary.Trigonometry

-- powers are those of the core library, whatever else is imported
attribute [local instance (high)] instPowNat

/-- Fraction bits of a reduced angle and of the sums. -/
def angleBits : Nat := Format.double.scale + 128

/-- Fraction bits of the angle before reduction. -/
def turnBits : Nat := angleBits + 2 ^ (Format.double.exponentBits - 1) + 64

/-- The alternating sum of `power / odd` over the odd numbers, the power being
    divided by `square` at each step. -/
def arctanSum (square : Nat) : Nat → Nat → Nat → Int
  | 0, _, _ => 0
  | steps + 1, power, odd =>
      if power = 0 then 0
      else (power / odd : Nat) - arctanSum square steps (power / square) (odd + 2)

/-- The arc tangent of `1 / n` as a multiple of `1 / one`. -/
def arctanInverse (one n : Nat) : Int :=
  arctanSum (n * n) (one.log2 + 1) (one / n) 1

/-- A quarter turn at `turnBits` fraction bits: eight arc tangents of a fifth
    less two of a two hundred and thirty-ninth. -/
def quarterTurn : Nat :=
  let one := 2 ^ (turnBits + 64)
  (8 * arctanInverse one 5 - 2 * arctanInverse one 239).toNat / 2 ^ (64 : Nat)

/-- The alternating power series with terms `term`, `term * square / (k + 1) (k + 2)`
    and so on, at `angleBits` fraction bits. -/
def series (square : Nat) : Nat → Nat → Nat → Int
  | 0, _, _ => 0
  | steps + 1, term, k =>
      if term = 0 then 0
      else term - series square steps
        ((term * square) >>> angleBits / ((k + 1) * (k + 2))) (k + 2)

/-- An angle as a count of quarter turns and the sine and cosine of what is left
    over, at `angleBits` fraction bits. -/
structure Reduced where
  quarters : Nat
  sine : Nat
  cosine : Nat

/-- Reduces an angle given in units of the double format. -/
def reduce (units : Nat) : Reduced :=
  let angle := units * 2 ^ (turnBits - Format.double.scale)
  let rest := (angle % quarterTurn) >>> (turnBits - angleBits)
  let square := (rest * rest) >>> angleBits
  { quarters := angle / quarterTurn
    sine := (series square angleBits rest 1).toNat
    cosine := (series square angleBits (2 ^ angleBits) 0).toNat }

/-- The double nearest to a fixed-point number. -/
def ofFixed (negative : Bool) (n : Nat) : Nat :=
  Format.double.signed negative
    (Format.double.round n (2 ^ (angleBits - Format.double.scale)))

/-- The pattern of the sine of a double-precision value. -/
def sin : Value → Nat
  | .finite s x =>
      let r := reduce x
      match r.quarters % 4 with
      | 0 => ofFixed s r.sine
      | 1 => ofFixed s r.cosine
      | 2 => ofFixed (!s) r.sine
      | _ => ofFixed (!s) r.cosine
  | _ => Format.double.quietNaN

/-- The pattern of the cosine of a double-precision value. -/
def cos : Value → Nat
  | .finite _ x =>
      let r := reduce x
      match r.quarters % 4 with
      | 0 => ofFixed false r.cosine
      | 1 => ofFixed true r.sine
      | 2 => ofFixed true r.cosine
      | _ => ofFixed false r.sine
  | _ => Format.double.quietNaN

/-- The double nearest to a quotient of fixed-point numbers. -/
def ofQuotient (negative : Bool) (num den : Nat) : Nat :=
  Format.double.signed negative (Format.double.round (num * 2 ^ Format.double.scale) den)

/-- The pattern of the tangent of a double-precision value. -/
def tan : Value → Nat
  | .finite s x =>
      let r := reduce x
      if r.quarters % 2 = 0 then ofQuotient s r.sine r.cosine
      else ofQuotient (!s) r.cosine r.sine
  | _ => Format.double.quietNaN

end Coprocessor.Binary.Trigonometry
