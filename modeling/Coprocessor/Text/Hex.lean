/-!
# Hexadecimal and padded text — fixed widths first

Bytes, words and addresses are written with a fixed number of lower-case
hexadecimal digits, high digit first, so that texts of one width are equal only
for equal numbers. Lists of bytes are separated by single blanks.
-/

namespace Coprocessor.Text

/-- The last `width` hexadecimal digits of a number, high digit first. -/
def hexDigits : Nat → Nat → List Char
  | 0, _ => []
  | width + 1, n => hexDigits width (n / 16) ++ [Nat.digitChar (n % 16)]

/-- The last `width` hexadecimal digits of a number. -/
def hex (width n : Nat) : String := String.ofList (hexDigits width n)

/-- A number in hexadecimal with its mark and no padding. -/
def hexNumber (n : Nat) : String := "0x" ++ String.ofList (Nat.toDigits 16 n)

/-- Bytes as pairs of digits, separated by blanks. -/
def hexBytes (bytes : List UInt8) : String :=
  " ".intercalate (bytes.map fun b => hex 2 b.toNat)

/-- Right-aligns a number in `width` columns. -/
def column (width n : Nat) : String :=
  String.ofList ((Nat.toDigits 10 n).leftpad width ' ')

/-- The word for a truth value. -/
def ofBool (b : Bool) : String := if b then "true" else "false"

end Coprocessor.Text
