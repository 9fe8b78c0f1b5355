/-!
# Binary formats — finite magnitudes as consecutive patterns

A binary interchange format has a sign bit, a biased exponent field and a
fraction field. Dropping the sign bit leaves the *magnitude pattern*, and the
magnitude patterns of the finite values count upwards with the values they
stand for. Three facts carry everything in this folder.

  • Every finite value is a whole number of `units`, the unit being the smallest
    subnormal `2 ^ -scale`. So exact arithmetic on finite values is arithmetic
    on natural numbers.
  • Rounding a quotient `num / den` of units to the format is one division: the
    kept digits plus a multiple of the fraction range are already the pattern,
    and a carry out of the fraction moves into the exponent by itself.
  • What lies above the largest finite value lands on the pattern of infinity.
-/

namespace Coprocessor.Binary

-- powers are those of the core library, whatever else is imported
attribute [local instance (high)] instPowNat

/-- The widths of the two fields below the sign bit. -/
structure Format where
  /-- Width of the fraction field. -/
  fractionBits : Nat
  /-- Width of the exponent field. -/
  exponentBits : Nat
deriving DecidableEq

namespace Format

/-- The 32-bit format. -/
def single : Format := ⟨23, 8⟩

/-- The 64-bit format. -/
def double : Format := ⟨52, 11⟩

variable (f : Format)

/-- The pattern of infinity: every exponent bit set, no fraction. -/
def infinity : Nat := (2 ^ f.exponentBits - 1) * 2 ^ f.fractionBits

/-- The magnitude of the quiet NaN with no payload. -/
def quietNaN : Nat := f.infinity + 2 ^ (f.fractionBits - 1)

/-- The sign bit of a whole pattern. -/
def signBit : Nat := 2 ^ (f.exponentBits + f.fractionBits)

/-- The smallest subnormal value is `2 ^ -scale`. -/
def scale : Nat := 2 ^ (f.exponentBits - 1) + f.fractionBits - 2

/-- How many smallest subnormals a finite magnitude pattern stands for. -/
def units (magnitude : Nat) : Nat :=
  let fraction := magnitude % 2 ^ f.fractionBits
  match magnitude / 2 ^ f.fractionBits with
  | 0 => fraction
  | e + 1 => (2 ^ f.fractionBits + fraction) * 2 ^ e

/-- A magnitude with its sign. -/
def signed (negative : Bool) (magnitude : Nat) : Nat :=
  if negative then f.signBit + magnitude else magnitude

/-! ## Rounding -/

end Format

/-- The integer nearest to `num / den`, a half going to the even neighbour. -/
def roundHalfEven (num den : Nat) : Nat :=
  let q := num / den
  let r := num % den
  if 2 * r < den then q
  else if den < 2 * r then q + 1
  else q + q % 2

/-- The magnitude pattern nearest to `num / den` units, ties to the even
    pattern, and infinity above the range. -/
def Format.round (f : Format) (num den : Nat) : Nat :=
  let shift := (num / den).log2 - f.fractionBits
  min f.infinity (shift * 2 ^ f.fractionBits + roundHalfEven num (den * 2 ^ shift))

/-! ## Values -/

/-- What a pattern stands for, finite values in units of their format. -/
inductive Value where
  | nan
  | infinite (negative : Bool)
  | finite (negative : Bool) (units : Nat)
deriving DecidableEq

/-- The value with the other sign. -/
def Value.negate : Value → Value
  | .nan => .nan
  | .infinite s => .infinite (!s)
  | .finite s x => .finite (!s) x

namespace Format

variable (f : Format)

/-- Reads a whole pattern, sign bit included. -/
def decode (bits : Nat) : Value :=
  let negative := decide (f.signBit ≤ bits)
  let magnitude := bits % f.signBit
  if magnitude < f.infinity then .finite negative (f.units magnitude)
  else if magnitude = f.infinity then .infinite negative
  else .nan

/-- The pattern in format `g` nearest to the value of a pattern in format `f`. -/
def convert (g : Format) (bits : Nat) : Nat :=
  match f.decode bits with
  | .nan => g.quietNaN
  | .infinite s => g.signed s g.infinity
  | .finite s x => g.signed s (g.round (x * 2 ^ g.scale) (2 ^ f.scale))

end Format

end Coprocessor.Binary
