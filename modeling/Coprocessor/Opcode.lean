import Coprocessor.Operation

/-!
# Opcode records — a kind and three operand bytes

A record takes four raw bytes. Raw bytes are never refused: a kind byte that
names no kind is read as `nop`, and its operands are kept. Only a record of
kind `exec` can be run, and it carries registers only, so whoever runs it names
the operation.
-/

namespace Coprocessor

/-- What a record is for. -/
inductive Kind where
  | nop
  | load32
  | load64
  | store32
  | store64
  | exec
deriving DecidableEq

namespace Kind

/-- Every kind, in order of declaration. -/
def all : List Kind := [.nop, .load32, .load64, .store32, .store64, .exec]

/-- The raw byte of a kind. -/
def byte : Kind → UInt8
  | .nop => 0x00
  | .load32 => 0x10
  | .load64 => 0x11
  | .store32 => 0x12
  | .store64 => 0x13
  | .exec => 0x20

/-- The kind with a given raw byte. -/
def ofByte? (b : UInt8) : Option Kind := all.find? fun k => k.byte = b

/-- The kind with a given raw byte, `nop` if there is none. -/
def ofByte (b : UInt8) : Kind := (ofByte? b).getD .nop

/-- The name of a kind. -/
def mnemonic : Kind → String
  | .nop => "nop"
  | .load32 => "load32"
  | .load64 => "load64"
  | .store32 => "store32"
  | .store64 => "store64"
  | .exec => "exec"

/-- The kind with a given name, in any case of ASCII letters; `execute` is a
    second name of `exec`. -/
def ofMnemonic? (name : String) : Option Kind :=
  let lower := name.toLower
  if lower = "execute" then some .exec else all.find? fun k => k.mnemonic = lower

end Kind

/-- The contents of one opcode slot. -/
structure Record where
  kind : Kind
  operand0 : UInt8
  operand1 : UInt8
  operand2 : UInt8
deriving DecidableEq

namespace Record

/-- The cleared slot. -/
def cleared : Record := ⟨.nop, 0, 0, 0⟩

/-- A record that can be run: destination and two sources. -/
def execute (destination source0 source1 : UInt8) : Record :=
  ⟨.exec, destination, source0, source1⟩

/-- Whether the kind is `nop`; the operands may be anything. -/
def isNop (r : Record) : Bool := r.kind = .nop

/-- Reads four raw bytes. -/
def ofBytes (kind operand0 operand1 operand2 : UInt8) : Record :=
  ⟨.ofByte kind, operand0, operand1, operand2⟩

/-- The four raw bytes. -/
def toBytes (r : Record) : List UInt8 := [r.kind.byte, r.operand0, r.operand1, r.operand2]

/-- The request that running the record as `op` makes. -/
def request? (r : Record) (op : Operation) : Option Request :=
  match r.kind with
  | .exec => some ⟨op, r.operand0.toUInt64, r.operand1.toUInt64, r.operand2.toUInt64⟩
  | _ => none

/-- The text of a record. -/
def text (r : Record) : String :=
  r.kind.mnemonic ++ " " ++ toString r.operand0.toNat ++ ", " ++ toString r.operand1.toNat
    ++ ", " ++ toString r.operand2.toNat

end Record

end Coprocessor
