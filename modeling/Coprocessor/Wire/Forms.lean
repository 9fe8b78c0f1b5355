import Coprocessor.Bus
import Coprocessor.Config
import Coprocessor.Opcode
import Coprocessor.Wire.Codec

/-!
# Wire forms — the data model as bytes

Each type of the data model is the sequence of its fields, in the order in
which they are listed here.
-/

namespace Coprocessor.Wire

open Codec

/-- Kinds are choices in order of declaration. -/
def kind : Codec Kind := choice Kind.all

/-- Operations are choices in order of their numbers. -/
def operation : Codec Operation := choice Operation.all

/-- Directions are choices, `read` before `write`. -/
def direction : Codec Direction := choice [.read, .write]

/-- A record is its kind and three operand bytes, seven bytes in all. -/
def record : Codec Record :=
  (kind.pair (byte.pair (byte.pair byte))).iso
    (fun r => (r.kind, r.operand0, r.operand1, r.operand2))
    fun (kind, operand0, operand1, operand2) => ⟨kind, operand0, operand1, operand2⟩

/-- A request is its operation, destination and both sources. -/
def request : Codec Request :=
  (operation.pair (word64.pair (word64.pair word64))).iso
    (fun q => (q.operation, q.destination, q.source0, q.source1))
    fun (operation, destination, source0, source1) => ⟨operation, destination, source0, source1⟩

/-- A transaction is its direction, address and payload. -/
def transaction : Codec Transaction :=
  (direction.pair (byte.pair (list byte))).iso
    (fun t => (t.direction, t.address, t.payload))
    fun (direction, address, payload) => ⟨direction, address, payload⟩

/-- Signals are the enable, write and busy lines. -/
def signals : Codec Signals :=
  (flag.pair (flag.pair flag)).iso (fun s => (s.enable, s.write, s.busy))
    fun (enable, write, busy) => ⟨enable, write, busy⟩

/-- An interval is its seconds and nanoseconds; nanoseconds beyond a second
    carry over. -/
def interval : Codec Interval :=
  (word64.pair word32).refine (fun d => (d.seconds, UInt32.ofNat d.nanos.val))
    fun (seconds, nanos) =>
      match Interval.ofParts? seconds nanos with
      | some d => .ok d
      | none => .error .intervalOverflow

/-- A configuration is its poll interval, strictness and budget. -/
def config : Codec Config :=
  (interval.pair (flag.pair (option word64))).iso (fun c => (c.pollInterval, c.strict, c.budget))
    fun (pollInterval, strict, budget) => ⟨pollInterval, strict, budget⟩

end Coprocessor.Wire
