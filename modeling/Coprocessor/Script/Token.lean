import Coprocessor.Text.Quoted

/-!
# Tokens — the words of a script line

A token is a name, an integer in one of two notations, or a number with a
point. Numbers with a point are kept as text, so that they can be rounded once
at the width at which they are used. A token stands at a column, which counts
bytes from one.
-/

namespace Coprocessor.Script

/-- One word of a script line. -/
inductive Token where
  | identifier (name : String)
  | number (value : Int64)
  | hexadecimal (value : UInt64)
  | fractional (text : String)
deriving DecidableEq

/-- A token as messages show it. -/
def Token.shown : Token → String
  | .identifier name => "Identifier(" ++ Text.quoted name ++ ")"
  | .number value => "Number(" ++ toString value.toInt ++ ")"
  | .hexadecimal value => "Hex(" ++ toString value.toNat ++ ")"
  | .fractional text => "Float(" ++ Text.quoted text ++ ")"

/-- A token and the column at which it starts. -/
structure Located where
  token : Token
  column : Nat
deriving DecidableEq

end Coprocessor.Script
