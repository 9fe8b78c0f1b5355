import Coprocessor.Bus.Transaction

/-!
# Bus — where transactions come from and answers go

A coprocessor touches its bus in three ways: it takes the next pending
transaction, it answers a transaction, and it drives the busy line. Anything
with these three is a bus.

  • `Transaction.resolve` maps one transaction onto the registers. A read is
    answered through the bus before it returns, and nothing else is sent.
  • A bus with nothing attached never has a transaction and ignores the rest.
-/

namespace Coprocessor

/-- What a coprocessor needs of a bus. -/
class Bus (β : Type) where
  /-- Takes the next pending transaction, if there is one. -/
  poll : β → Option Transaction × β
  /-- Sends the answer to a transaction. -/
  respond : β → Transaction → List UInt8 → β
  /-- Drives the busy line. -/
  setBusy : β → Bool → β

/-- The handshake lines of a bus. -/
structure Signals where
  enable : Bool
  write : Bool
  busy : Bool
deriving DecidableEq

/-- Every line at rest. -/
def Signals.idle : Signals := ⟨false, false, false⟩

/-! ## No bus -/

/-- A bus with nothing attached. -/
inductive NoBus where
  | unconnected
deriving DecidableEq

instance : Bus NoBus where
  poll b := (none, b)
  respond b _ _ := b
  setBusy b _ := b

/-! ## Resolution -/

/-- What a register write did, and the registers after it. -/
def Registers.settle (r : Registers) (space : Space) (address : UInt8) :
    Except RangeError Registers → Outcome × Registers
  | .ok written => (.written space address, written)
  | .error e => (.dropped (.registerOutOfRange e), r)

/-- Resolves one transaction against the registers, answering on the bus. -/
def Transaction.resolve {β : Type} [Bus β] (t : Transaction) (r : Registers) (bus : β) :
    Outcome × Registers × β :=
  let i := t.address.toNat
  match t.shape with
  | .write32 word =>
      let (outcome, written) := r.settle .single t.address (r.write32 i word)
      (outcome, written, bus)
  | .write64 word =>
      let (outcome, written) := r.settle .double t.address (r.write64 i word)
      (outcome, written, bus)
  | .read32 =>
      match r.read32 i with
      | some word =>
          let data := Bytes.ofWord32 word
          (.responded t.address data, r, Bus.respond bus t data)
      | none => (.dropped (.registerOutOfRange ⟨i, registerCount⟩), r, bus)
  | .unsupported direction length => (.dropped (.unsupported direction length), r, bus)

end Coprocessor
