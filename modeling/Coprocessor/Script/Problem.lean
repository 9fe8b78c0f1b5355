import Coprocessor.Failure
import Coprocessor.Script.Token

/-!
# Problems — why a script is refused

A problem is its cause. Misplaced words carry the column at which they stand;
unknown names and unsuitable values carry the name or value instead. A script
error adds the line.
-/

namespace Coprocessor.Script

/-- What a word of a command stands for. -/
inductive Role where
  | command
  | direction
  | address
  | payloadByte
  | slot
  | kind
  | operand
  | operation
  | destination
  | source
  | value
deriving DecidableEq

/-- What messages call a role. -/
def Role.name : Role → String
  | .command => "command"
  | .direction => "direction"
  | .address => "address"
  | .payloadByte => "payload byte"
  | .slot => "slot"
  | .kind => "opcode kind"
  | .operand => "operand"
  | .operation => "operation"
  | .destination => "destination"
  | .source => "source"
  | .value => "value"

/-- What is wrong with the words of a line. -/
inductive Misplacement where
  | unrecognized
  | missing (role : Role)
  | unexpected (role : Role) (found : Token)
  | notDirection (name : String)
  | trailing (found : Token)
deriving DecidableEq

/-- The wording of a misplacement. -/
def Misplacement.message : Misplacement → String
  | .unrecognized => "Unrecognized character"
  | .missing role => "Expected " ++ role.name
  | .unexpected role found => "Expected " ++ role.name ++ ", found " ++ found.shown
  | .notDirection name => "Expected read or write, found '" ++ name ++ "'"
  | .trailing found => "Unexpected trailing " ++ found.shown

/-- What is wrong with a value. -/
inductive Unsuitable where
  | negative (role : Role) (value : Int64)
  | notByte (role : Role) (value : UInt64)
  | notWord32 (value : UInt64)
deriving DecidableEq

/-- The wording of an unsuitable value. -/
def Unsuitable.message : Unsuitable → String
  | .negative role value => role.name ++ " must not be negative: " ++ toString value.toInt
  | .notByte role value => role.name ++ " " ++ toString value.toNat ++ " does not fit in a byte"
  | .notWord32 value => "value " ++ Text.hexNumber value.toNat ++ " does not fit in 32 bits"

/-- Why a line is refused. -/
inductive Problem where
  | misplaced (column : Nat) (what : Misplacement)
  | unknownCommand (name : String)
  | unknownOperation (name : String)
  | unknownKind (name : String)
  | unsuitable (what : Unsuitable)
deriving DecidableEq

/-- A problem and the line it is on. -/
structure ScriptError where
  line : Nat
  problem : Problem
deriving DecidableEq

/-- The wording of a script error. -/
def ScriptError.message (e : ScriptError) : String :=
  let line := toString e.line
  match e.problem with
  | .misplaced column what =>
      "Syntax error at line " ++ line ++ ", column " ++ toString column ++ ": " ++ what.message
  | .unknownCommand name => "Unknown command at line " ++ line ++ ": " ++ name
  | .unknownOperation name => "Unknown operation at line " ++ line ++ ": " ++ name
  | .unknownKind name => "Unknown opcode kind at line " ++ line ++ ": " ++ name
  | .unsuitable what => "Invalid value at line " ++ line ++ ": " ++ what.message

end Coprocessor.Script
