import Mathlib.Data.List.Forall2
import Coprocessor.Script.Command

/-!
# Grammar — the lines that are commands

A line is a command exactly if its tokens are one of ten sentences, and the
sentence says which command it is:

    write   <byte> <byte>...
    write32 <byte> <value>
    write64 <byte> <value>
    read    <byte>
    raw     <direction> <byte> <byte>...
    opcode  <integer> <kind> <byte> <byte> <byte>
    exec    <operation> <integer> <integer> <integer>
    exec    <function> <integer> <integer>
    slot    <integer> <operation>
    reset

Sentences are told by tokens alone: they know no cursor and no columns, and
nothing of the order in which words are looked at.

  • `Token.IsNamed`, `Token.IsInteger`, `Token.IsPattern` and the classes after
    them — what single words may be.
  • `Sentence` — one constructor for each line above.
-/

namespace Coprocessor.Script

open Binary (Format)

/-! ## Classes of words -/

namespace Token

/-- A name in any letter case. -/
def IsNamed (t : Token) (lower : String) : Prop :=
  ∃ name, t = .identifier name ∧ name.toLower = lower

/-- An integer from zero up, in either notation. -/
inductive IsInteger : Token → Nat → Prop where
  | hexadecimal {value : UInt64} {n : Nat} (h : value.toNat = n) :
      IsInteger (.hexadecimal value) n
  | number {value : Int64} {n : Nat} (h : value.toInt = n) : IsInteger (.number value) n

/-- An integer of 64 bits. -/
def IsIndex (t : Token) (i : UInt64) : Prop := t.IsInteger i.toNat

/-- An integer of eight bits. -/
def IsByte (t : Token) (b : UInt8) : Prop := t.IsInteger b.toNat

/-- What a value is at the width of a format: the pattern of a number, of an
    infinity or of a NaN, or an integer as it is. -/
inductive IsPattern (f : Format) : Token → Nat → Prop where
  | fractional {text : String} {bits : Nat} (h : f.read? text.toList = some bits) :
      IsPattern f (.fractional text) bits
  | infinity {t : Token} (h : t.IsNamed "inf") : IsPattern f t f.infinity
  | nan {t : Token} (h : t.IsNamed "nan") : IsPattern f t f.quietNaN
  | integer {t : Token} {n : Nat} (h : t.IsInteger n) : IsPattern f t n

/-- A value of 32 bits. -/
def IsWord32 (t : Token) (word : UInt32) : Prop := t.IsPattern .single word.toNat

/-- A value of 64 bits. -/
def IsWord64 (t : Token) (word : UInt64) : Prop := t.IsPattern .double word.toNat

/-- The name or the initial of a direction, in any letter case. -/
inductive IsDirection : Token → Direction → Prop where
  | read {t : Token} (h : t.IsNamed "read" ∨ t.IsNamed "r") : IsDirection t .read
  | write {t : Token} (h : t.IsNamed "write" ∨ t.IsNamed "w") : IsDirection t .write

/-- The name of a kind. -/
def IsKind (t : Token) (kind : Kind) : Prop :=
  ∃ name, t = .identifier name ∧ Kind.ofMnemonic? name = some kind

/-- The name of an operation. -/
def IsOperation (t : Token) (op : Operation) : Prop :=
  ∃ name, t = .identifier name ∧ Operation.ofMnemonic? name = some op

end Token

/-! ## Sentences -/

/-- The lines that are commands, and the commands that they are. -/
inductive Sentence : List Token → Command → Prop where
  | write {verb address : Token} {payload : List Token} {a : UInt8} {bytes : List UInt8}
      (hverb : verb.IsNamed "write") (haddress : address.IsByte a)
      (hpayload : List.Forall₂ Token.IsByte payload bytes) :
      Sentence (verb :: address :: payload) (.transaction ⟨.write, a, bytes⟩)
  | write32 {verb address value : Token} {a : UInt8} {word : UInt32}
      (hverb : verb.IsNamed "write32") (haddress : address.IsByte a)
      (hvalue : value.IsWord32 word) :
      Sentence [verb, address, value] (.transaction (.write32 a word))
  | write64 {verb address value : Token} {a : UInt8} {word : UInt64}
      (hverb : verb.IsNamed "write64") (haddress : address.IsByte a)
      (hvalue : value.IsWord64 word) :
      Sentence [verb, address, value] (.transaction (.write64 a word))
  | read {verb address : Token} {a : UInt8}
      (hverb : verb.IsNamed "read") (haddress : address.IsByte a) :
      Sentence [verb, address] (.transaction (.read a))
  | raw {verb name address : Token} {payload : List Token} {direction : Direction} {a : UInt8}
      {bytes : List UInt8}
      (hverb : verb.IsNamed "raw") (hdirection : name.IsDirection direction)
      (haddress : address.IsByte a) (hpayload : List.Forall₂ Token.IsByte payload bytes) :
      Sentence (verb :: name :: address :: payload) (.transaction ⟨direction, a, bytes⟩)
  | opcode {verb slot name first second third : Token} {i : UInt64} {kind : Kind}
      {operand0 operand1 operand2 : UInt8}
      (hverb : verb.IsNamed "opcode") (hslot : slot.IsIndex i) (hkind : name.IsKind kind)
      (hfirst : first.IsByte operand0) (hsecond : second.IsByte operand1)
      (hthird : third.IsByte operand2) :
      Sentence [verb, slot, name, first, second, third]
        (.opcode i ⟨kind, operand0, operand1, operand2⟩)
  | exec {verb name first second third : Token} {op : Operation}
      {destination source0 source1 : UInt64}
      (hverb : verb.IsNamed "exec") (hop : name.IsOperation op)
      (hfirst : first.IsIndex destination) (hsecond : second.IsIndex source0)
      (hthird : third.IsIndex source1) :
      Sentence [verb, name, first, second, third] (.execute ⟨op, destination, source0, source1⟩)
  | execFunction {verb name first second : Token} {fn : Elementary} {destination source : UInt64}
      (hverb : verb.IsNamed "exec") (hop : name.IsOperation (.function fn))
      (hfirst : first.IsIndex destination) (hsecond : second.IsIndex source) :
      Sentence [verb, name, first, second] (.execute (.unary (.function fn) destination source))
  | slot {verb slot name : Token} {i : UInt64} {op : Operation}
      (hverb : verb.IsNamed "slot") (hslot : slot.IsIndex i) (hop : name.IsOperation op) :
      Sentence [verb, slot, name] (.executeSlot i op)
  | reset {verb : Token} (hverb : verb.IsNamed "reset") : Sentence [verb] .reset

end Coprocessor.Script
