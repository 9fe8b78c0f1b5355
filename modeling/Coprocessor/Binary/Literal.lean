import Coprocessor.Binary.Format
import Coprocessor.Text.Digits

/-!
# Number literals — a decimal, rounded once at the width it is read with

A literal is an optional sign and then `inf`, `infinity` or `nan` in any letter
case, or decimal digits with an optional point and an optional exponent. Its
digits denote an exact decimal `coefficient * 10 ^ exponent`, and that decimal
is rounded to the wanted format in one step, so reading at 32 bits never goes
through 64.

  • At least one digit stands before or after the point.
  • An exponent has at least one digit, and nothing follows it.
  • Exponents may be of any size: far outside the range of the format the answer
    is infinity or zero, and no power of ten is formed.
-/

namespace Coprocessor.Binary

-- powers are those of the core library, whatever else is imported
attribute [local instance (high)] instPowNat

open Text (ofDigits)

/-- A decimal number with its sign; the sign of a zero is kept. -/
structure Decimal where
  negative : Bool
  coefficient : Nat
  exponent : Int
deriving DecidableEq

namespace Format

variable (f : Format)

/-- The pattern nearest to a decimal. -/
def ofDecimal (d : Decimal) : Nat :=
  let c := d.coefficient
  let limit := 2 ^ f.exponentBits
  let magnitude :=
    if c = 0 then 0
    else if 0 ≤ d.exponent then
      let e := d.exponent.toNat
      if limit < e then f.infinity else f.round (c * 10 ^ e * 2 ^ f.scale) 1
    else
      let e := (-d.exponent).toNat
      if limit + c.log2 + 1 < e then 0 else f.round (c * 2 ^ f.scale) (10 ^ e)
  f.signed d.negative magnitude

end Format

/-! ## Reading -/

/-- Splits off an optional sign; `true` is a minus. -/
def splitSign : List Char → Bool × List Char
  | '-' :: rest => (true, rest)
  | '+' :: rest => (false, rest)
  | rest => (false, rest)

/-- Splits off an optional point and the digits after it. -/
def splitFraction : List Char → List Char × List Char
  | '.' :: rest => rest.span Char.isDigit
  | rest => ([], rest)

/-- Reads what may stand after the digits: nothing, or an exponent. -/
def exponent? : List Char → Option Int
  | [] => some 0
  | c :: rest =>
      if c = 'e' ∨ c = 'E' then
        let (negative, digits) := splitSign rest
        if digits ≠ [] ∧ digits.all Char.isDigit then
          let n : Int := ofDigits 10 digits
          some (if negative then -n else n)
        else none
      else none

/-- Reads an unsigned decimal and gives it a sign. -/
def Decimal.read? (negative : Bool) (text : List Char) : Option Decimal :=
  let (whole, rest) := text.span Char.isDigit
  let (fraction, rest) := splitFraction rest
  if whole = [] ∧ fraction = [] then none
  else
    (exponent? rest).map fun e =>
      ⟨negative, ofDigits 10 (whole ++ fraction), e - fraction.length⟩

/-- Reads a literal at the width of a format. -/
def Format.read? (f : Format) (text : List Char) : Option Nat :=
  let (negative, body) := splitSign text
  match Decimal.read? negative body with
  | some d => some (f.ofDecimal d)
  | none =>
      let name := String.ofList (body.map Char.toLower)
      if name = "inf" ∨ name = "infinity" then some (f.signed negative f.infinity)
      else if name = "nan" then some (f.signed negative f.quietNaN)
      else none

end Coprocessor.Binary
