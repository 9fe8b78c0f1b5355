import Coprocessor.Bytes
import Coprocessor.Storage.Registers
import Coprocessor.Text.Hex

/-!
# Transactions — a direction, an address and a payload

What a transaction means follows from its direction and the length of its
payload alone.

  • A write of four bytes sets a 32-bit register, a write of eight bytes a
    64-bit register, and a read without payload asks for a 32-bit register.
  • Every other combination has no meaning and is dropped.
-/

namespace Coprocessor

/-- Direction as the bus master sees it. -/
inductive Direction where
  | read
  | write
deriving DecidableEq

/-- The name of a direction. -/
def Direction.name : Direction → String
  | .read => "read"
  | .write => "write"

/-- One request from the bus master. -/
structure Transaction where
  direction : Direction
  address : UInt8
  payload : List UInt8
deriving DecidableEq

/-- What a transaction asks for. -/
inductive Shape where
  | write32 (word : UInt32)
  | write64 (word : UInt64)
  | read32
  | unsupported (direction : Direction) (length : Nat)
deriving DecidableEq

namespace Transaction

/-- A request for a 32-bit register. -/
def read (address : UInt8) : Transaction := ⟨.read, address, []⟩

/-- A write of a 32-bit word. -/
def write32 (address : UInt8) (word : UInt32) : Transaction :=
  ⟨.write, address, Bytes.ofWord32 word⟩

/-- A write of a 64-bit word. -/
def write64 (address : UInt8) (word : UInt64) : Transaction :=
  ⟨.write, address, Bytes.ofWord64 word⟩

/-- Reads off what a transaction asks for. -/
def shape (t : Transaction) : Shape :=
  match t.direction, t.payload.length with
  | .write, 4 => .write32 (Bytes.toWord32 t.payload)
  | .write, 8 => .write64 (Bytes.toWord64 t.payload)
  | .read, 0 => .read32
  | direction, length => .unsupported direction length

/-- The text of a transaction. -/
def text (t : Transaction) : String :=
  t.direction.name ++ " @0x" ++ Text.hex 2 t.address.toNat ++ " [" ++ Text.hexBytes t.payload
    ++ "]"

end Transaction

/-! ## Outcomes -/

/-- Why a transaction had no effect and no answer. -/
inductive DropReason where
  | registerOutOfRange (error : RangeError)
  | unsupported (direction : Direction) (length : Nat)
deriving DecidableEq

namespace DropReason

/-- Whether the master broke the protocol. -/
def isViolation : DropReason → Bool
  | .registerOutOfRange _ => false
  | .unsupported _ _ => true

/-- The wording of a drop. -/
def message : DropReason → String
  | .registerOutOfRange e => "register " ++ e.message
  | .unsupported direction length =>
      "unsupported transaction shape: " ++ direction.name ++ " with " ++ toString length
        ++ " byte payload"

end DropReason

/-- How a transaction was resolved. -/
inductive Outcome where
  | written (space : Space) (address : UInt8)
  | responded (address : UInt8) (data : List UInt8)
  | dropped (reason : DropReason)
deriving DecidableEq

/-- Whether a transaction had no effect and no answer. -/
def Outcome.isDropped : Outcome → Bool
  | .dropped _ => true
  | _ => false

end Coprocessor
