import Coprocessor.Binary.Arithmetic
import Coprocessor.Binary.Trigonometry
import Coprocessor.Operation
import Coprocessor.Storage.Registers

/-!
# Execution — one operation on the registers

An operation reads its sources, takes their words as floating-point patterns,
computes, and writes the pattern of the result to one destination. Division by
zero and results that are not numbers are values, not failures.

  • Sources are looked at before the destination, and the first one that is out
    of range decides; a function has one source.
  • A failed operation changes no register.
-/

namespace Coprocessor

open Binary (Format Value)

/-- The operation on single-precision patterns. -/
def Arith.apply32 (op : Arith) (a b : UInt32) : UInt32 :=
  let x := Format.single.decode a.toNat
  let y := Format.single.decode b.toNat
  UInt32.ofNat <| match op with
    | .add => Value.add .single x y
    | .sub => Value.sub .single x y
    | .mul => Value.mul .single x y
    | .div => Value.div .single x y

/-- The operation on double-precision patterns. -/
def Arith.apply64 (op : Arith) (a b : UInt64) : UInt64 :=
  let x := Format.double.decode a.toNat
  let y := Format.double.decode b.toNat
  UInt64.ofNat <| match op with
    | .add => Value.add .double x y
    | .sub => Value.sub .double x y
    | .mul => Value.mul .double x y
    | .div => Value.div .double x y

/-- The function on a double-precision pattern. -/
def Elementary.apply64 (fn : Elementary) (a : UInt64) : UInt64 :=
  let x := Format.double.decode a.toNat
  UInt64.ofNat <| match fn with
    | .sin => Binary.Trigonometry.sin x
    | .cos => Binary.Trigonometry.cos x
    | .tan => Binary.Trigonometry.tan x
    | .sqrt => Value.sqrt .double x

namespace Registers

/-- A source in the 32-bit space. -/
def source32 (r : Registers) (i : UInt64) : Except OperationError UInt32 :=
  match r.read32 i.toNat with
  | some word => .ok word
  | none => .error .sourceOutOfRange

/-- A source in the 64-bit space. -/
def source64 (r : Registers) (i : UInt64) : Except OperationError UInt64 :=
  match r.read64 i.toNat with
  | some word => .ok word
  | none => .error .sourceOutOfRange

/-- Writes a result to the 32-bit space. -/
def result32 (r : Registers) (i : UInt64) (word : UInt32) : Except OperationError Registers :=
  (r.write32 i.toNat word).mapError fun _ => .destinationOutOfRange

/-- Writes a result to the 64-bit space. -/
def result64 (r : Registers) (i : UInt64) (word : UInt64) : Except OperationError Registers :=
  (r.write64 i.toNat word).mapError fun _ => .destinationOutOfRange

/-- Carries out one request. -/
def execute (r : Registers) (q : Request) : Except OperationError Registers :=
  match q.operation with
  | .single op => do
      let a ← r.source32 q.source0
      let b ← r.source32 q.source1
      r.result32 q.destination (op.apply32 a b)
  | .double op => do
      let a ← r.source64 q.source0
      let b ← r.source64 q.source1
      r.result64 q.destination (op.apply64 a b)
  | .function fn => do
      let a ← r.source64 q.source0
      r.result64 q.destination (fn.apply64 a)

/-- The destination of a request as a double-precision pattern, a 32-bit word
    being widened. -/
def destination? (r : Registers) (q : Request) : Option UInt64 :=
  if q.operation.isSingle then
    (r.read32 q.destination.toNat).map fun word =>
      UInt64.ofNat (Format.single.convert .double word.toNat)
  else r.read64 q.destination.toNat

end Registers

end Coprocessor
