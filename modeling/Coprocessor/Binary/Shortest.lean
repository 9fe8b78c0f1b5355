import Coprocessor.Binary.Format

/-!
# Shortest text — the fewest digits that read back, written positionally

The text of a finite value has the fewest significant digits of any decimal
that rounds to the value, and among those the nearest one; of two equally near
ones the larger. It is always positional: no exponent, and no point unless
digits follow it.

  • A magnitude reads back from every decimal between the midpoints to its two
    neighbours, the midpoints included exactly when its pattern is even.
  • For one, two, three digits and so on the value lies between two points of
    the decimal grid; the first grid that has one of the two inside the
    midpoints gives the answer.
  • Infinities are `inf` and `-inf`, and no sign is written for a value that is
    not a number.
-/

namespace Coprocessor.Binary

-- powers are those of the core library, whatever else is imported
attribute [local instance (high)] instPowNat

/-- The number of decimal digits of a number. -/
def digitCount (n : Nat) : Nat := (Nat.toDigits 10 n).length

/-- A bound on the digits that any double needs. -/
def maxDigits : Nat := 17

namespace Format

variable (f : Format)

/-- The power of ten just above a positive number of units: the `k` with
    `10 ^ (k - 1) ≤ units / 2 ^ scale < 10 ^ k`. -/
def decimalPoint (units : Nat) : Int :=
  if 2 ^ f.scale ≤ units then digitCount (units / 2 ^ f.scale)
  else 1 - (digitCount ((2 ^ f.scale - 1) / units) : Int)

/-- Whether `c * 10 ^ t` lies between the midpoints around a magnitude. -/
def readsBack (magnitude c : Nat) (t : Int) : Bool :=
  let value := f.units magnitude
  let low := (f.units (magnitude - 1) + value) * 10 ^ (-t).toNat
  let high := (value + f.units (magnitude + 1)) * 10 ^ (-t).toNat
  let point := c * 10 ^ t.toNat * 2 ^ (f.scale + 1)
  if magnitude % 2 = 0 then decide (low ≤ point ∧ point ≤ high)
  else decide (low < point ∧ point < high)

/-- The point of the grid `10 ^ t` that stands for a magnitude, if one of the
    two around its value reads back. -/
def gridPoint? (magnitude : Nat) (t : Int) : Option Nat :=
  let value := f.units magnitude * 10 ^ (-t).toNat
  let step := 10 ^ t.toNat * 2 ^ f.scale
  let below := value / step
  match f.readsBack magnitude below t, f.readsBack magnitude (below + 1) t with
  | true, true => some (if 2 * value < (2 * below + 1) * step then below else below + 1)
  | true, false => some below
  | false, true => some (below + 1)
  | false, false => none

/-- Tries grids of more and more digits, from `digits` on. -/
def searchGrids (magnitude : Nat) (point : Int) : Nat → Nat → Nat × Int
  | 0, digits => (0, point - digits)
  | more + 1, digits =>
      match f.gridPoint? magnitude (point - digits) with
      | some c => (c, point - digits)
      | none => searchGrids magnitude point more (digits + 1)

/-- The shortest decimal `c * 10 ^ t` for a positive finite magnitude. -/
def shortest (magnitude : Nat) : Nat × Int :=
  f.searchGrids magnitude (f.decimalPoint (f.units magnitude)) maxDigits 1

end Format

/-! ## Writing -/

/-- The digits without the zeros at their end. -/
def dropTrailingZeros (digits : List Char) : List Char :=
  (digits.reverse.dropWhile (· = '0')).reverse

/-- Writes `c * 10 ^ t` positionally. -/
def positional (c : Nat) (t : Int) : List Char :=
  let places := (-t).toNat
  let whole := Nat.toDigits 10 (c * 10 ^ t.toNat / 10 ^ places)
  let fraction := dropTrailingZeros
    ((Nat.toDigits 10 (c % 10 ^ places)).leftpad places '0')
  if t < 0 ∧ fraction ≠ [] then whole ++ '.' :: fraction else whole

/-- Writes a value of a format, given by its pattern. -/
def Format.text (f : Format) (bits : Nat) : String :=
  let sign : List Char := if f.signBit ≤ bits then ['-'] else []
  let magnitude := bits % f.signBit
  if f.infinity < magnitude then "NaN"
  else if magnitude = f.infinity then String.ofList (sign ++ ['i', 'n', 'f'])
  else if magnitude = 0 then String.ofList (sign ++ ['0'])
  else
    let (c, t) := f.shortest magnitude
    String.ofList (sign ++ positional c t)

end Coprocessor.Binary
