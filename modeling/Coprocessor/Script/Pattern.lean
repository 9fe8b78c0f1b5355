import Coprocessor.Script.Token
import Coprocessor.Text.Digits

/-!
# Patterns — what the pieces of a line look like

A line is cut into pieces, each being the longest piece that any pattern
matches at its place.

  • Blanks and comments are skipped; a comment runs up to the end of the line.
  • An identifier starts with a letter or an underscore.
  • A decimal integer may have a minus; a hexadecimal one starts with `0x`.
  • A fractional number is a decimal integer, a point, and then optional digits
    and an optional exponent.
  • An integer that does not fit 64 bits, signed in decimal and unsigned in
    hexadecimal, is refused although its pattern matches.
-/

namespace Coprocessor.Script

-- powers and sums are those of the core library, whatever else is imported
attribute [local instance (high)] instPowNat Zero.ofOfNat0

/-- The kinds of pieces. -/
inductive Pattern where
  | blank
  | comment
  | identifier
  | decimal
  | hexadecimal
  | fractional
deriving DecidableEq

/-- Whether a character is blank space inside a line. -/
def isBlank (c : Char) : Bool := c = ' ' || c = '\t' || c = '\r'

/-- Whether an identifier may start with a character. -/
def isNameStart (c : Char) : Bool := c.isAlpha || c = '_'

/-- Whether an identifier may go on with a character. -/
def isNamePart (c : Char) : Bool := c.isAlphanum || c = '_'

/-- How many of the first characters all have a property. -/
def countWhile (p : Char → Bool) (cs : List Char) : Nat := (cs.takeWhile p).length

namespace Pattern

/-- Every pattern. -/
def all : List Pattern := [.blank, .comment, .identifier, .decimal, .hexadecimal, .fractional]

/-- The length of a comment at the front, or zero. -/
def commentLength : List Char → Nat
  | '#' :: rest => countWhile (fun c => c != '\n') rest + 1
  | _ => 0

/-- The length of an identifier at the front, or zero. -/
def identifierLength : List Char → Nat
  | c :: rest => if isNameStart c then countWhile isNamePart rest + 1 else 0
  | [] => 0

/-- The length of a decimal integer at the front, or zero. -/
def decimalLength : List Char → Nat
  | '-' :: rest =>
      let n := countWhile Char.isDigit rest
      if n = 0 then 0 else n + 1
  | cs => countWhile Char.isDigit cs

/-- The length of a hexadecimal integer at the front, or zero. -/
def hexadecimalLength : List Char → Nat
  | '0' :: 'x' :: rest =>
      let n := countWhile Text.isHexDigit rest
      if n = 0 then 0 else n + 2
  | _ => 0

/-- The length of the digits of an exponent with an optional sign, or zero. -/
def signedDigitsLength : List Char → Nat
  | '+' :: rest =>
      let n := countWhile Char.isDigit rest
      if n = 0 then 0 else n + 1
  | cs => decimalLength cs

/-- The length of an exponent at the front, or zero. -/
def exponentLength : List Char → Nat
  | c :: rest =>
      if c = 'e' ∨ c = 'E' then
        let n := signedDigitsLength rest
        if n = 0 then 0 else n + 1
      else 0
  | [] => 0

/-- The length of a point and what follows it, or zero. -/
def pointLength : List Char → Nat
  | '.' :: rest =>
      let n := countWhile Char.isDigit rest
      n + 1 + exponentLength (rest.drop n)
  | _ => 0

/-- The length of a fractional number at the front, or zero. -/
def fractionalLength (cs : List Char) : Nat :=
  let n := decimalLength cs
  if n = 0 then 0
  else
    let m := pointLength (cs.drop n)
    if m = 0 then 0 else n + m

/-- The length of the longest front that a pattern matches, or zero. -/
def length : Pattern → List Char → Nat
  | .blank, cs => countWhile isBlank cs
  | .comment, cs => commentLength cs
  | .identifier, cs => identifierLength cs
  | .decimal, cs => decimalLength cs
  | .hexadecimal, cs => hexadecimalLength cs
  | .fractional, cs => fractionalLength cs

/-- The pattern with the longest match at the front, and its length. -/
def longest (cs : List Char) : Pattern × Nat :=
  all.foldl (fun best p => if best.2 < p.length cs then (p, p.length cs) else best) (.blank, 0)

/-! ## Values -/

/-- The signed integer that a decimal piece denotes. -/
def decimalValue : List Char → Int
  | '-' :: digits => -(Text.ofDigits 10 digits : Int)
  | digits => Text.ofDigits 10 digits

/-- What a piece means: nothing, a token, or a number that does not fit. -/
inductive Meaning where
  | skipped
  | token (token : Token)
  | tooLarge
deriving DecidableEq

/-- The meaning of a piece that a pattern matches. -/
def meaning : Pattern → List Char → Meaning
  | .blank, _ => .skipped
  | .comment, _ => .skipped
  | .identifier, piece => .token (.identifier (String.ofList piece))
  | .decimal, piece =>
      let n := decimalValue piece
      if -2 ^ (63 : Nat) ≤ n ∧ n < 2 ^ (63 : Nat) then .token (.number (Int64.ofInt n))
      else .tooLarge
  | .hexadecimal, piece =>
      let n := Text.ofDigits 16 (piece.drop 2)
      if n < 2 ^ (64 : Nat) then .token (.hexadecimal (UInt64.ofNat n)) else .tooLarge
  | .fractional, piece => .token (.fractional (String.ofList piece))

end Pattern

/-! ## Lines of tokens -/

/-- How many bytes characters take in UTF-8. -/
def byteLength (cs : List Char) : Nat := (cs.map Char.utf8Size).sum

/-- Cuts a line into tokens; the first character stands at `column`. The answer
    to a line that cannot be cut is the column of the piece at fault. -/
def scanFrom (column : Nat) (cs : List Char) : Except Nat (List Located) :=
  if _hc : cs = [] then .ok []
  else
    let found := Pattern.longest cs
    if _h : found.2 = 0 then .error column
    else
      let piece := cs.take found.2
      let next := column + byteLength piece
      match found.1.meaning piece with
      | .tooLarge => .error column
      | .skipped => scanFrom next (cs.drop found.2)
      | .token token =>
          match scanFrom next (cs.drop found.2) with
          | .error e => .error e
          | .ok tokens => .ok (⟨token, column⟩ :: tokens)
termination_by cs.length
decreasing_by
  all_goals
    have hpos : 0 < cs.length := List.length_pos_iff.2 _hc
    have hn : 0 < (Pattern.longest cs).2 := Nat.pos_of_ne_zero _h
    simp only [List.length_drop]
    omega

/-- The tokens of a line. -/
def scan (line : List Char) : Except Nat (List Located) := scanFrom 1 line

end Coprocessor.Script
