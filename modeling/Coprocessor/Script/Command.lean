import Coprocessor.Binary.Literal
import Coprocessor.Bus.Transaction
import Coprocessor.Opcode
import Coprocessor.Script.Problem

/-!
# Commands — what one line of a script asks for

A command is read from the tokens of its line, one word after another. The
first word names the command in any letter case, and nothing may be left over:

    write   <address> <byte>...
    write32 <address> <value>
    write64 <address> <value>
    read    <address>
    raw     read|write <address> <byte>...
    opcode  <slot> <kind> <operand> <operand> <operand>
    exec    <operation> <destination> <source> [<source>]
    slot    <slot> <operation>
    reset

  • A value is an integer, a fractional number, `inf` or `nan`; a number is
    rounded once at the width of its command.
  • The second source may be missing only after an operation that reads one.
  • A problem with a word is reported at the column of the word, one with the end
    of the line at the column of its last word. A word that is no direction is
    reported at the column of the word behind it, if there is one.
-/

namespace Coprocessor.Script

-- powers are those of the core library, whatever else is imported
attribute [local instance (high)] instPowNat

/-- What one line of a script asks for. -/
inductive Command where
  | transaction (transaction : Transaction)
  | opcode (slot : UInt64) (record : Record)
  | execute (request : Request)
  | executeSlot (slot : UInt64) (operation : Operation)
  | reset
deriving DecidableEq

/-! ## Single words -/

namespace Located

/-- A word that must be a name. -/
def name (role : Role) (t : Located) : Except Problem String :=
  match t.token with
  | .identifier name => .ok name
  | found => .error (.misplaced t.column (.unexpected role found))

/-- A word that must be an integer from zero up. -/
def integer (role : Role) (t : Located) : Except Problem UInt64 :=
  match t.token with
  | .hexadecimal value => .ok value
  | .number value =>
      if 0 ≤ value.toInt then .ok (UInt64.ofNat value.toInt.toNat)
      else .error (.unsuitable (.negative role value))
  | found => .error (.misplaced t.column (.unexpected role found))

/-- A word that must be an integer below 256. -/
def byte (role : Role) (t : Located) : Except Problem UInt8 := do
  let value ← t.integer role
  if value.toNat < 256 then .ok (UInt8.ofNat value.toNat)
  else .error (.unsuitable (.notByte role value))

/-- The pattern of a word that is a number literal of a format. -/
def literal? (f : Binary.Format) (t : Located) : Option Nat :=
  match t.token with
  | .fractional text => f.read? text.toList
  | .identifier name =>
      if name.toLower = "inf" ∨ name.toLower = "nan" then f.read? name.toList else none
  | _ => none

/-- A word that must be a 32-bit value. -/
def word32 (t : Located) : Except Problem UInt32 :=
  match t.literal? .single with
  | some bits => .ok (UInt32.ofNat bits)
  | none => do
      let value ← t.integer .value
      if value.toNat < 2 ^ (32 : Nat) then .ok (UInt32.ofNat value.toNat)
      else .error (.unsuitable (.notWord32 value))

/-- A word that must be a 64-bit value. -/
def word64 (t : Located) : Except Problem UInt64 :=
  match t.literal? .double with
  | some bits => .ok (UInt64.ofNat bits)
  | none => t.integer .value

/-- A word that must name an operation. -/
def operation (t : Located) : Except Problem Operation := do
  let name ← t.name .operation
  match Operation.ofMnemonic? name with
  | some op => .ok op
  | none => .error (.unknownOperation name)

/-- A word that must name an opcode kind. -/
def kind (t : Located) : Except Problem Kind := do
  let name ← t.name .kind
  match Kind.ofMnemonic? name with
  | some kind => .ok kind
  | none => .error (.unknownKind name)

end Located

/-- The direction with a given name or initial, in any letter case. -/
def direction? (name : String) : Option Direction :=
  let lower := name.toLower
  if lower = "read" ∨ lower = "r" then some .read
  else if lower = "write" ∨ lower = "w" then some .write
  else none

/-! ## Words in order -/

/-- What is left of a line, and the column to report at its end. -/
structure Cursor where
  rest : List Located
  last : Nat

/-- A reader of words. -/
abbrev Reader := StateT Cursor (Except Problem)

namespace Cursor

/-- The cursor before the first word of a line. -/
def ofTokens (tokens : List Located) : Cursor :=
  ⟨tokens, (tokens.getLast?.map Located.column).getD 1⟩

/-- The column of the next word, or of the last one at the end. -/
def column (c : Cursor) : Nat := (c.rest.head?.map Located.column).getD c.last

/-- Takes the next word. -/
def take (role : Role) : Reader Located := fun c =>
  match c.rest with
  | t :: rest => .ok (t, { c with rest })
  | [] => .error (.misplaced c.last (.missing role))

/-- Takes the next word and reads it. -/
def takeAs {α : Type} (role : Role) (read : Located → Except Problem α) : Reader α := do
  let t ← take role
  read t

/-- Takes an integer of 64 bits. -/
def index (role : Role) : Reader UInt64 := takeAs role (Located.integer role)

/-- Takes a byte. -/
def byte (role : Role) : Reader UInt8 := takeAs role (Located.byte role)

/-- Takes every word that is left as a byte. -/
def payload : Reader (List UInt8) := fun c =>
  match c.rest.mapM (Located.byte .payloadByte) with
  | .ok bytes => .ok (bytes, { c with rest := [] })
  | .error p => .error p

/-- Takes a direction. -/
def direction : Reader Direction := do
  let name ← takeAs .direction (Located.name .direction)
  match direction? name with
  | some direction => pure direction
  | none => fun c => .error (.misplaced c.column (.notDirection name.toLower))

/-- Takes the second source of an operation. -/
def secondSource (op : Operation) : Reader UInt64 := fun c =>
  if op.isUnary ∧ c.rest = [] then .ok (0, c) else index .source c

/-- Makes sure that nothing is left. -/
def finish : Reader Unit := fun c =>
  match c.rest with
  | [] => .ok ((), c)
  | t :: _ => .error (.misplaced t.column (.trailing t.token))

end Cursor

/-! ## Commands -/

/-- The names that a line may start with. -/
inductive Verb where
  | write
  | write32
  | write64
  | read
  | raw
  | opcode
  | exec
  | slot
  | reset
deriving DecidableEq

namespace Verb

/-- Every verb. -/
def all : List Verb := [.write, .write32, .write64, .read, .raw, .opcode, .exec, .slot, .reset]

/-- The name of a verb. -/
def name : Verb → String
  | .write => "write"
  | .write32 => "write32"
  | .write64 => "write64"
  | .read => "read"
  | .raw => "raw"
  | .opcode => "opcode"
  | .exec => "exec"
  | .slot => "slot"
  | .reset => "reset"

/-- The verb with a given name, in any letter case. -/
def ofName? (name : String) : Option Verb := all.find? fun v => v.name = name.toLower

open Cursor

/-- Reads the words after a verb. -/
def arguments : Verb → Reader Command
  | .write => do
      let address ← byte .address
      let bytes ← payload
      pure (.transaction ⟨.write, address, bytes⟩)
  | .write32 => do
      let address ← byte .address
      let word ← takeAs .value Located.word32
      pure (.transaction (.write32 address word))
  | .write64 => do
      let address ← byte .address
      let word ← takeAs .value Located.word64
      pure (.transaction (.write64 address word))
  | .read => do
      let address ← byte .address
      pure (.transaction (.read address))
  | .raw => do
      let direction ← direction
      let address ← byte .address
      let bytes ← payload
      pure (.transaction ⟨direction, address, bytes⟩)
  | .opcode => do
      let slot ← index .slot
      let kind ← takeAs .kind Located.kind
      let operand0 ← byte .operand
      let operand1 ← byte .operand
      let operand2 ← byte .operand
      pure (.opcode slot ⟨kind, operand0, operand1, operand2⟩)
  | .exec => do
      let op ← takeAs .operation Located.operation
      let destination ← index .destination
      let source0 ← index .source
      let source1 ← secondSource op
      pure (.execute ⟨op, destination, source0, source1⟩)
  | .slot => do
      let slot ← index .slot
      let op ← takeAs .operation Located.operation
      pure (.executeSlot slot op)
  | .reset => pure .reset

end Verb

namespace Command

/-- Reads a whole line. -/
def reader : Reader Command := do
  let name ← Cursor.takeAs .command (Located.name .command)
  match Verb.ofName? name with
  | none => throw (.unknownCommand name.toLower)
  | some verb => do
      let command ← verb.arguments
      Cursor.finish
      pure command

/-- The command that the tokens of a line spell. -/
def ofTokens (tokens : List Located) : Except Problem Command :=
  match reader (.ofTokens tokens) with
  | .ok (command, _) => .ok command
  | .error p => .error p

end Command

end Coprocessor.Script
