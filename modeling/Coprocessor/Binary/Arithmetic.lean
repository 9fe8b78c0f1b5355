import Coprocessor.Binary.Format

/-!
# Arithmetic on patterns — exact in units, rounded once

Each operation decodes its operands, forms the exact result as a quotient of
natural numbers of units, and rounds that quotient once. Every result that is
not a number is the quiet NaN with no payload and no sign.

  • A sum of opposite values is positive zero; a sum of two negative zeros is
    negative zero.
  • Products and quotients take the exclusive or of the operands' signs, zeros
    and infinities included.
  • A square root that is not exact is rounded from the midpoint between the
    two integers of units around it, which no rounding boundary separates from
    the root itself.
-/

namespace Coprocessor.Binary

-- powers are those of the core library, whatever else is imported
attribute [local instance (high)] instPowNat

/-- The largest integer whose square is at most `n`. -/
def floorSqrt (n : Nat) : Nat :=
  if h : n < 1 then 0
  else
    let r := 2 * floorSqrt (n / 4)
    if (r + 1) * (r + 1) ≤ n then r + 1 else r
termination_by n
decreasing_by omega

namespace Value

variable (f : Format)

/-- The pattern of `a + b`. -/
def add : Value → Value → Nat
  | .nan, _ => f.quietNaN
  | _, .nan => f.quietNaN
  | .infinite s, .infinite t => if s = t then f.signed s f.infinity else f.quietNaN
  | .infinite s, .finite _ _ => f.signed s f.infinity
  | .finite _ _, .infinite t => f.signed t f.infinity
  | .finite s x, .finite t y =>
      if s = t then f.signed s (f.round (x + y) 1)
      else if x = y then 0
      else if y < x then f.signed s (f.round (x - y) 1)
      else f.signed t (f.round (y - x) 1)

/-- The pattern of `a - b`. -/
def sub (a b : Value) : Nat := add f a b.negate

/-- The pattern of `a * b`. -/
def mul : Value → Value → Nat
  | .nan, _ => f.quietNaN
  | _, .nan => f.quietNaN
  | .infinite s, .infinite t => f.signed (s != t) f.infinity
  | .infinite s, .finite t y => if y = 0 then f.quietNaN else f.signed (s != t) f.infinity
  | .finite s x, .infinite t => if x = 0 then f.quietNaN else f.signed (s != t) f.infinity
  | .finite s x, .finite t y => f.signed (s != t) (f.round (x * y) (2 ^ f.scale))

/-- The pattern of `a / b`. -/
def div : Value → Value → Nat
  | .nan, _ => f.quietNaN
  | _, .nan => f.quietNaN
  | .infinite _, .infinite _ => f.quietNaN
  | .infinite s, .finite t _ => f.signed (s != t) f.infinity
  | .finite s _, .infinite t => f.signed (s != t) 0
  | .finite s x, .finite t y =>
      if y = 0 then
        if x = 0 then f.quietNaN else f.signed (s != t) f.infinity
      else f.signed (s != t) (f.round (x * 2 ^ f.scale) y)

/-- The pattern of the square root. -/
def sqrt : Value → Nat
  | .nan => f.quietNaN
  | .infinite s => if s then f.quietNaN else f.infinity
  | .finite s x =>
      if x = 0 then f.signed s 0
      else if s then f.quietNaN
      else
        let n := x * 2 ^ f.scale
        let r := floorSqrt n
        f.round (2 * r + if r * r = n then 0 else 1) 2

end Value

end Coprocessor.Binary
