import Coprocessor.Device
import Coprocessor.Proofs.Binary.Results
import Coprocessor.Proofs.Success

/-!
# Dispatch — one operation, looked at from its name

An operation is told by its name alone: the letters say which operator it
applies and the digits in which space it works. It is carried out exactly if the
sources that it reads and its destination are registers, and then it puts one
word into the registers, which the operator makes of the words of the sources as
they were before.

  • `StatesOperator`, `StatesFunction` — the operators and functions that names
    state.
  • `Registers.pattern`, `Registers.Puts` — both spaces seen as bit patterns, and
    registers that differ in one of them.
  • `Request.sources`, `Computes` — the sources that a request reads, and what it
    makes of them.
  • `source32_cases`, `result32_cases` and their counterparts — a word is read, or
    written, or its index is no register.
  • `carried_execute` — the cases put together, one for each family of operations.
  • `dispatch_exact` — the dispatcher on a device, requests by number included.
-/

namespace Coprocessor

open Binary (Format Value)

/-! ## What names state -/

/-- The operators on numbers of any format, by the names that state them. -/
inductive StatesOperator : String → (Format → Value → Value → Nat) → Prop where
  | add : StatesOperator "add" Value.add
  | sub : StatesOperator "sub" Value.sub
  | mul : StatesOperator "mul" Value.mul
  | div : StatesOperator "div" Value.div

/-- The functions of a double-precision number, by the names that state them. -/
inductive StatesFunction : String → (Value → Nat) → Prop where
  | sin : StatesFunction "sin" Binary.Trigonometry.sin
  | cos : StatesFunction "cos" Binary.Trigonometry.cos
  | tan : StatesFunction "tan" Binary.Trigonometry.tan
  | sqrt : StatesFunction "sqrt" (Value.sqrt .double)

/-- The format of the words of a space. -/
def Space.format : Space → Format
  | .single => .single
  | .double => .double

/-- How the name of an operation ends that works in a space. -/
def Space.width : Space → String
  | .single => "32"
  | .double => "64"

/-- The space that an operation works in. -/
def Operation.space : Operation → Space
  | .single _ => .single
  | .double _ => .double
  | .function _ => .double

/-- The names of all operations in the order of their numbers. -/
def Operation.names : List String :=
  ["add32", "sub32", "mul32", "div32", "add64", "sub64", "mul64", "div64",
    "sin64", "cos64", "tan64", "sqrt64"]

/-- The sources that a request reads. -/
def Request.sources (q : Request) : List UInt64 :=
  match q.operation with
  | .single _ => [q.source0, q.source1]
  | .double _ => [q.source0, q.source1]
  | .function _ => [q.source0]

/-! ## Registers as bit patterns -/

namespace Registers

/-- The bit pattern at an index of a space. -/
def pattern (r : Registers) : Space → Nat → Option Nat
  | .single, i => (r.read32 i).map UInt32.toNat
  | .double, i => (r.read64 i).map UInt64.toNat

/-- Registers that have one bit pattern put at one place and are the same everywhere
    else. -/
def Puts (r s : Registers) (space : Space) (i bits : Nat) : Prop :=
  ∀ space' j, s.pattern space' j
    = if space' = space ∧ j = i then some bits else r.pattern space' j

/-- What a request makes of the words of its sources, left one first. -/
inductive Computes (r : Registers) (q : Request) : Nat → Prop where
  | operator {name : String} {operator : Format → Value → Value → Nat} {a b : Nat}
      (hname : q.operation.mnemonic = name ++ q.operation.space.width)
      (hoperator : StatesOperator name operator)
      (hleft : r.pattern q.operation.space q.source0.toNat = some a)
      (hright : r.pattern q.operation.space q.source1.toNat = some b) :
      Computes r q (operator q.operation.space.format (q.operation.space.format.decode a)
        (q.operation.space.format.decode b))
  | function {name : String} {function : Value → Nat} {a : Nat}
      (hname : q.operation.mnemonic = name ++ Space.double.width)
      (hfunction : StatesFunction name function)
      (hsource : r.pattern .double q.source0.toNat = some a) :
      Computes r q (function (Format.double.decode a))

/-! ## Reading sources and writing results -/

/-- A 32-bit source is the word of a register, or its index is none. -/
theorem source32_cases (r : Registers) (i : UInt64) :
    (∃ a, r.source32 i = .ok a ∧ r.pattern .single i.toNat = some a.toNat
        ∧ i.toNat < registerCount)
      ∨ r.source32 i = .error .sourceOutOfRange ∧ ¬ i.toNat < registerCount := by
  rw [source32, pattern, ← r.isSome_read32]
  cases r.read32 i.toNat with
  | none => exact Or.inr ⟨rfl, Bool.false_ne_true⟩
  | some a => exact Or.inl ⟨a, rfl, rfl, rfl⟩

theorem source64_cases (r : Registers) (i : UInt64) :
    (∃ a, r.source64 i = .ok a ∧ r.pattern .double i.toNat = some a.toNat
        ∧ i.toNat < registerCount)
      ∨ r.source64 i = .error .sourceOutOfRange ∧ ¬ i.toNat < registerCount := by
  rw [source64, pattern, ← r.isSome_read64]
  cases r.read64 i.toNat with
  | none => exact Or.inr ⟨rfl, Bool.false_ne_true⟩
  | some a => exact Or.inl ⟨a, rfl, rfl, rfl⟩

/-- An accepted 32-bit write puts its word at its index and nowhere else. -/
theorem puts_write32 {r s : Registers} {i : Nat} {word : UInt32} (h : r.write32 i word = .ok s) :
    r.Puts s .single i word.toNat := by
  intro space j
  cases space with
  | single =>
      rw [pattern, pattern, read32_write32 h]
      by_cases hj : j = i
      · rw [if_pos hj.symm, if_pos ⟨rfl, hj⟩]
        rfl
      · rw [if_neg (Ne.symm hj), if_neg fun hboth => hj hboth.2]
  | double =>
      rw [pattern, pattern, read64, read64, double_write32 h]
      exact (if_neg fun hboth => nomatch hboth.1).symm

theorem puts_write64 {r s : Registers} {i : Nat} {word : UInt64} (h : r.write64 i word = .ok s) :
    r.Puts s .double i word.toNat := by
  intro space j
  cases space with
  | single =>
      rw [pattern, pattern, read32, read32, single_write64 h]
      exact (if_neg fun hboth => nomatch hboth.1).symm
  | double =>
      rw [pattern, pattern, read64_write64 h]
      by_cases hj : j = i
      · rw [if_pos hj.symm, if_pos ⟨rfl, hj⟩]
        rfl
      · rw [if_neg (Ne.symm hj), if_neg fun hboth => hj hboth.2]

/-- A 32-bit result is put into its destination, or the destination is no register. -/
theorem result32_cases (r : Registers) (i : UInt64) (word : UInt32) :
    (∃ s, r.result32 i word = .ok s ∧ r.Puts s .single i.toNat word.toNat
        ∧ i.toNat < registerCount)
      ∨ r.result32 i word = .error .destinationOutOfRange ∧ ¬ i.toNat < registerCount := by
  rw [result32]
  obtain ⟨hi, hw⟩ | ⟨hi, hw⟩ := r.write32_eq i.toNat word
  · refine Or.inl ⟨_, ?_, puts_write32 hw, hi⟩
    rw [hw]
    rfl
  · refine Or.inr ⟨?_, Nat.not_lt.2 hi⟩
    rw [hw]
    rfl

theorem result64_cases (r : Registers) (i word : UInt64) :
    (∃ s, r.result64 i word = .ok s ∧ r.Puts s .double i.toNat word.toNat
        ∧ i.toNat < registerCount)
      ∨ r.result64 i word = .error .destinationOutOfRange ∧ ¬ i.toNat < registerCount := by
  rw [result64]
  obtain ⟨hi, hw⟩ | ⟨hi, hw⟩ := r.write64_eq i.toNat word
  · refine Or.inl ⟨_, ?_, puts_write64 hw, hi⟩
    rw [hw]
    rfl
  · refine Or.inr ⟨?_, Nat.not_lt.2 hi⟩
    rw [hw]
    rfl

end Registers

/-! ## Operations apply what their names state -/

/-- What an operation computes in either format is the operator that its name states. -/
theorem Arith.exists_operator (op : Arith) :
    ∃ operator, StatesOperator op.name operator
      ∧ (∀ a b : UInt32, (op.apply32 a b).toNat
          = operator .single (Format.single.decode a.toNat) (Format.single.decode b.toNat))
      ∧ ∀ a b : UInt64, (op.apply64 a b).toNat
          = operator .double (Format.double.decode a.toNat) (Format.double.decode b.toNat) := by
  have hsingle : 0 < Format.single.fractionBits := by decide
  have hdouble : 0 < Format.double.fractionBits := by decide
  cases op with
  | add =>
      exact ⟨_, .add, fun _ _ => UInt32.toNat_ofNat_of_lt (Value.add_lt hsingle _ _),
        fun _ _ => UInt64.toNat_ofNat_of_lt (Value.add_lt hdouble _ _)⟩
  | sub =>
      exact ⟨_, .sub, fun _ _ => UInt32.toNat_ofNat_of_lt (Value.sub_lt hsingle _ _),
        fun _ _ => UInt64.toNat_ofNat_of_lt (Value.sub_lt hdouble _ _)⟩
  | mul =>
      exact ⟨_, .mul, fun _ _ => UInt32.toNat_ofNat_of_lt (Value.mul_lt hsingle _ _),
        fun _ _ => UInt64.toNat_ofNat_of_lt (Value.mul_lt hdouble _ _)⟩
  | div =>
      exact ⟨_, .div, fun _ _ => UInt32.toNat_ofNat_of_lt (Value.div_lt hsingle _ _),
        fun _ _ => UInt64.toNat_ofNat_of_lt (Value.div_lt hdouble _ _)⟩

/-- What a function computes is what its name states. -/
theorem Elementary.exists_function (fn : Elementary) :
    ∃ function, StatesFunction fn.name function
      ∧ ∀ a : UInt64, (fn.apply64 a).toNat = function (Format.double.decode a.toNat) := by
  cases fn with
  | sin => exact ⟨_, .sin, fun _ => UInt64.toNat_ofNat_of_lt (Binary.Trigonometry.sin_lt _)⟩
  | cos => exact ⟨_, .cos, fun _ => UInt64.toNat_ofNat_of_lt (Binary.Trigonometry.cos_lt _)⟩
  | tan => exact ⟨_, .tan, fun _ => UInt64.toNat_ofNat_of_lt (Binary.Trigonometry.tan_lt _)⟩
  | sqrt => exact ⟨_, .sqrt, fun _ => UInt64.toNat_ofNat_of_lt (Value.sqrt_lt (by decide) _)⟩

namespace Registers

variable {r : Registers} {q : Request}

/-- A single-precision operation makes its word of the words of its two sources. -/
theorem computes_single {op : Arith} (hop : q.operation = .single op) {a b : UInt32}
    (ha : r.pattern .single q.source0.toNat = some a.toNat)
    (hb : r.pattern .single q.source1.toNat = some b.toNat) :
    r.Computes q (op.apply32 a b).toNat := by
  obtain ⟨operator, hstates, happly, -⟩ := op.exists_operator
  have hspace : q.operation.space = .single := by rw [hop]; rfl
  have hname : q.operation.mnemonic = op.name ++ q.operation.space.width := by rw [hop]; rfl
  have hcomputes := Computes.operator (r := r) hname hstates (hspace ▸ ha) (hspace ▸ hb)
  rw [hspace] at hcomputes
  rw [happly]
  exact hcomputes

theorem computes_double {op : Arith} (hop : q.operation = .double op) {a b : UInt64}
    (ha : r.pattern .double q.source0.toNat = some a.toNat)
    (hb : r.pattern .double q.source1.toNat = some b.toNat) :
    r.Computes q (op.apply64 a b).toNat := by
  obtain ⟨operator, hstates, -, happly⟩ := op.exists_operator
  have hspace : q.operation.space = .double := by rw [hop]; rfl
  have hname : q.operation.mnemonic = op.name ++ q.operation.space.width := by rw [hop]; rfl
  have hcomputes := Computes.operator (r := r) hname hstates (hspace ▸ ha) (hspace ▸ hb)
  rw [hspace] at hcomputes
  rw [happly]
  exact hcomputes

/-- A function makes its word of the word of its one source. -/
theorem computes_function {fn : Elementary} (hop : q.operation = .function fn) {a : UInt64}
    (ha : r.pattern .double q.source0.toNat = some a.toNat) :
    r.Computes q (fn.apply64 a).toNat := by
  obtain ⟨function, hstates, happly⟩ := fn.exists_function
  rw [happly]
  exact .function (by rw [hop]; rfl) hstates ha

/-! ## The cases of an operation -/

/-- How a request is carried out or refused. -/
inductive Carried (r : Registers) (q : Request) : Except OperationError Registers → Prop where
  | done {s : Registers} {bits : Nat} (hsources : ∀ i ∈ q.sources, i.toNat < registerCount)
      (hdestination : q.destination.toNat < registerCount) (hcomputes : r.Computes q bits)
      (hputs : r.Puts s q.operation.space q.destination.toNat bits) : Carried r q (.ok s)
  | noSource {i : UInt64} (hmem : i ∈ q.sources) (hi : ¬ i.toNat < registerCount) :
      Carried r q (.error .sourceOutOfRange)
  | noDestination (hsources : ∀ i ∈ q.sources, i.toNat < registerCount)
      (hdestination : ¬ q.destination.toNat < registerCount) :
      Carried r q (.error .destinationOutOfRange)

/-- Once its sources are there, the destination alone decides on a 32-bit request. -/
theorem carried_result32 (hspace : q.operation.space = .single)
    (hsources : ∀ i ∈ q.sources, i.toNat < registerCount) {word : UInt32}
    (hcomputes : r.Computes q word.toNat) : Carried r q (r.result32 q.destination word) := by
  obtain ⟨s, hresult, hputs, hi⟩ | ⟨hresult, hi⟩ := r.result32_cases q.destination word
  · rw [hresult]
    exact .done hsources hi hcomputes (hspace ▸ hputs)
  · rw [hresult]
    exact .noDestination hsources hi

theorem carried_result64 (hspace : q.operation.space = .double)
    (hsources : ∀ i ∈ q.sources, i.toNat < registerCount) {word : UInt64}
    (hcomputes : r.Computes q word.toNat) : Carried r q (r.result64 q.destination word) := by
  obtain ⟨s, hresult, hputs, hi⟩ | ⟨hresult, hi⟩ := r.result64_cases q.destination word
  · rw [hresult]
    exact .done hsources hi hcomputes (hspace ▸ hputs)
  · rw [hresult]
    exact .noDestination hsources hi

/-- Sources are looked at in order and before the destination. -/
theorem carried_execute (r : Registers) (q : Request) : Carried r q (r.execute q) := by
  rw [execute]
  cases hop : q.operation with
  | single op =>
      have hsources : q.sources = [q.source0, q.source1] := by rw [Request.sources, hop]
      dsimp only
      -- the first source that is no register decides
      obtain ⟨a, ha, hleft, hi⟩ | ⟨ha, hi⟩ := r.source32_cases q.source0
      · obtain ⟨b, hb, hright, hj⟩ | ⟨hb, hj⟩ := r.source32_cases q.source1
        · rw [ha, hb]
          refine carried_result32 (by rw [hop]; rfl) ?_ (computes_single hop hleft hright)
          simp [hsources, hi, hj]
        · rw [ha, hb]
          exact .noSource (by simp [hsources]) hj
      · rw [ha]
        exact .noSource (by simp [hsources]) hi
  | double op =>
      have hsources : q.sources = [q.source0, q.source1] := by rw [Request.sources, hop]
      dsimp only
      obtain ⟨a, ha, hleft, hi⟩ | ⟨ha, hi⟩ := r.source64_cases q.source0
      · obtain ⟨b, hb, hright, hj⟩ | ⟨hb, hj⟩ := r.source64_cases q.source1
        · rw [ha, hb]
          refine carried_result64 (by rw [hop]; rfl) ?_ (computes_double hop hleft hright)
          simp [hsources, hi, hj]
        · rw [ha, hb]
          exact .noSource (by simp [hsources]) hj
      · rw [ha]
        exact .noSource (by simp [hsources]) hi
  | function fn =>
      have hsources : q.sources = [q.source0] := by rw [Request.sources, hop]
      dsimp only
      obtain ⟨a, ha, hsource, hi⟩ | ⟨ha, hi⟩ := r.source64_cases q.source0
      · rw [ha]
        refine carried_result64 (by rw [hop]; rfl) ?_ (computes_function hop hsource)
        simp [hsources, hi]
      · rw [ha]
        exact .noSource (by simp [hsources]) hi

end Registers

/-! ## The dispatcher -/

namespace Device

variable {β : Type}

/-- The operation with a number is the one with the name at that place. -/
theorem executeRaw_eq (d : Device β) (number : UInt8) (destination source0 source1 : UInt64) :
    (number.toNat < 12 → ∃ op, Operation.names[number.toNat]? = some op.mnemonic
        ∧ d.executeRaw number destination source0 source1
          = d.dispatch ⟨op, destination, source0, source1⟩)
      ∧ (12 ≤ number.toNat →
        d.executeRaw number destination source0 source1 = (.error .unsupported, d)) := by
  have hnames : Operation.names = Operation.all.map Operation.mnemonic := by decide
  rw [executeRaw, Operation.ofNumber?]
  constructor
  · intro h
    have hget : Operation.all[number.toNat]? = some Operation.all[number.toNat] :=
      List.getElem?_eq_getElem h
    refine ⟨Operation.all[number.toNat], ?_, ?_⟩
    · rw [hnames, List.getElem?_map, hget]
      rfl
    · rw [hget]
  · intro h
    have hnone : Operation.all[number.toNat]? = none := List.getElem?_eq_none h
    rw [hnone]

/-- A request that is carried out changes the registers and is logged. -/
theorem dispatch_ok {d : Device β} {q : Request} {r : Registers}
    (h : d.registers.execute q = .ok r) :
    d.dispatch q = (.ok (), (d.withRegisters r).note (.completed q)) := by
  unfold dispatch
  rw [h]

/-- A request that is refused is only logged. -/
theorem dispatch_error {d : Device β} {q : Request} {e : OperationError}
    (h : d.registers.execute q = .error e) : d.dispatch q = (.error e, d.note (.refused q e)) := by
  unfold dispatch
  rw [h]

/-- **Dispatch is exact**: an operation succeeds exactly if every source that it
    reads and its destination are registers; a source that is none is reported
    before the destination is looked at. Success puts one word, computed from the
    sources as they were, at the destination in the space of the operation, and no
    other word changes; a refusal changes none. A number below twelve is the
    operation with that place in the order of names, and any other is refused. -/
theorem dispatch_exact (d : Device β) (q : Request) :
    ((d.dispatch q).1 = .ok ()
        ↔ (∀ i ∈ q.sources, i.toNat < registerCount) ∧ q.destination.toNat < registerCount)
      ∧ ((d.dispatch q).1 = .error .sourceOutOfRange
        ↔ ∃ i ∈ q.sources, ¬ i.toNat < registerCount)
      ∧ ((d.dispatch q).1 = .error .destinationOutOfRange
        ↔ (∀ i ∈ q.sources, i.toNat < registerCount) ∧ ¬ q.destination.toNat < registerCount)
      ∧ ((d.dispatch q).1 = .ok () → ∃ bits, d.registers.Computes q bits
          ∧ d.registers.Puts (d.dispatch q).2.registers q.operation.space
              q.destination.toNat bits)
      ∧ ((d.dispatch q).1 ≠ .ok () → (d.dispatch q).2.registers = d.registers)
      ∧ ∀ (number : UInt8) (destination source0 source1 : UInt64),
          (number.toNat < 12 → ∃ op, Operation.names[number.toNat]? = some op.mnemonic
              ∧ d.executeRaw number destination source0 source1
                = d.dispatch ⟨op, destination, source0, source1⟩)
            ∧ (12 ≤ number.toNat →
              d.executeRaw number destination source0 source1 = (.error .unsupported, d)) := by
  have hraw := d.executeRaw_eq
  have hcases := d.registers.carried_execute q
  -- each outcome rules out the other two by the indices that it comes with
  cases hresult : d.registers.execute q with
  | ok s =>
      rw [hresult] at hcases
      rw [dispatch_ok hresult]
      cases hcases with
      | done hsources hdestination hcomputes hputs =>
          refine ⟨⟨fun _ => ⟨hsources, hdestination⟩, fun _ => rfl⟩, ⟨nofun, ?_⟩, ⟨nofun, ?_⟩,
            fun _ => ⟨_, hcomputes, hputs⟩, fun hne => absurd rfl hne, hraw⟩
          · rintro ⟨i, hmem, hi⟩
            exact absurd (hsources i hmem) hi
          · rintro ⟨-, hno⟩
            exact absurd hdestination hno
  | error e =>
      rw [hresult] at hcases
      rw [dispatch_error hresult]
      cases hcases with
      | noSource hmem hi =>
          refine ⟨⟨nofun, ?_⟩, ⟨fun _ => ⟨_, hmem, hi⟩, fun _ => rfl⟩, ⟨nofun, ?_⟩, nofun,
            fun _ => rfl, hraw⟩
          · rintro ⟨hsources, -⟩
            exact absurd (hsources _ hmem) hi
          · rintro ⟨hsources, -⟩
            exact absurd (hsources _ hmem) hi
      | noDestination hsources hdestination =>
          refine ⟨⟨nofun, ?_⟩, ⟨nofun, ?_⟩, ⟨fun _ => ⟨hsources, hdestination⟩, fun _ => rfl⟩,
            nofun, fun _ => rfl, hraw⟩
          · rintro ⟨-, hyes⟩
            exact absurd hyes hdestination
          · rintro ⟨i, hmem, hi⟩
            exact absurd (hsources i hmem) hi

end Device

end Coprocessor
