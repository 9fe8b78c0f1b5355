/-!
# Operations — twelve of them, in three families

Four arithmetic operations on single-precision words, the same four on
double-precision words, and four functions of one double-precision word. An
operation is numbered by its place in `Operation.all`.

  • A request names an operation, a destination and two sources; a function
    never looks at its second source.
  • Names are looked up without regard to the case of ASCII letters.
-/

namespace Coprocessor

/-- The four basic operations. -/
inductive Arith where
  | add
  | sub
  | mul
  | div
deriving DecidableEq

/-- The functions of one argument. -/
inductive Elementary where
  | sin
  | cos
  | tan
  | sqrt
deriving DecidableEq

/-- What the arithmetic unit can be asked to compute. -/
inductive Operation where
  | single (op : Arith)
  | double (op : Arith)
  | function (fn : Elementary)
deriving DecidableEq

/-- The name of a basic operation without its width. -/
def Arith.name : Arith → String
  | .add => "add"
  | .sub => "sub"
  | .mul => "mul"
  | .div => "div"

/-- The name of a function without its width. -/
def Elementary.name : Elementary → String
  | .sin => "sin"
  | .cos => "cos"
  | .tan => "tan"
  | .sqrt => "sqrt"

namespace Operation

/-- Every operation, in the order of their numbers. -/
def all : List Operation :=
  [.single .add, .single .sub, .single .mul, .single .div,
    .double .add, .double .sub, .double .mul, .double .div,
    .function .sin, .function .cos, .function .tan, .function .sqrt]

/-- The number of an operation. -/
def number (op : Operation) : Nat := all.idxOf op

/-- The operation with a given number. -/
def ofNumber? (n : Nat) : Option Operation := all[n]?

/-- Whether the operation works on 32-bit words. -/
def isSingle : Operation → Bool
  | .single _ => true
  | _ => false

/-- Whether the operation reads one source only. -/
def isUnary : Operation → Bool
  | .function _ => true
  | _ => false

/-- The name of an operation, width included. -/
def mnemonic : Operation → String
  | .single op => op.name ++ "32"
  | .double op => op.name ++ "64"
  | .function fn => fn.name ++ "64"

/-- The operation with a given name. -/
def ofMnemonic? (name : String) : Option Operation :=
  all.find? fun op => op.mnemonic = name.toLower

end Operation

/-- One operation on registers of its space. -/
structure Request where
  operation : Operation
  destination : UInt64
  source0 : UInt64
  source1 : UInt64
deriving DecidableEq

namespace Request

/-- A request with one source; the other is zero and never read. -/
def unary (operation : Operation) (destination source : UInt64) : Request :=
  ⟨operation, destination, source, 0⟩

/-- The text of a request: its operation and the registers it uses. -/
def text (q : Request) : String :=
  let front := q.operation.mnemonic ++ " " ++ toString q.destination.toNat ++ ", "
    ++ toString q.source0.toNat
  if q.operation.isUnary then front else front ++ ", " ++ toString q.source1.toNat

end Request

/-- Why an operation was not carried out. -/
inductive OperationError where
  | sourceOutOfRange
  | destinationOutOfRange
  | unsupported
deriving DecidableEq

/-- The wording of a failed operation. -/
def OperationError.message : OperationError → String
  | .sourceOutOfRange => "source register out of range"
  | .destinationOutOfRange => "destination register out of range"
  | .unsupported => "unsupported operation"

end Coprocessor
