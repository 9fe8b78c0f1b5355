import Coprocessor.Proofs.Device.Action
import Coprocessor.Proofs.Snapshot.Loading

/-!
# In place — the calls that may fail as programs on live storage

The functions of a device return new storage or a refusal, so a refusal cannot
hold what was written before it. Here the same calls are programs that write
into storage as they go, and where they fail the storage stays as it is at that
moment. They are atomic because every check stands in front of the first write,
and they are what the functions compute, so nothing is lost in the functions.

  • `InPlace.write32`, `InPlace.write64`, `InPlace.writeSlot` — a word or a record
    behind the check of its index.
  • `InPlace.carryOut` — the families of operations: sources are fetched, then the
    result is stored.
  • `InPlace.dispatch`, `InPlace.execute`, `InPlace.executeRaw`,
    `InPlace.executeSlot`, `InPlace.restore` — the calls on a whole device.
  • `runsInPlace` — what each of them ends with is what the function returns.
-/

namespace Coprocessor

namespace InPlace

/-! ## Words and records -/

section

variable {σ ρ : Type} {view : σ → ρ}

/-- Makes a change at an index, behind the check of the index. -/
def put (i capacity : Nat) (change : σ → σ) : EStateM RangeError σ Unit := do
  consult fun _ => RangeError.check i capacity
  modify change

/-- The check of the index stands in front of the change. -/
theorem atomic_put (i capacity : Nat) (change : σ → σ) :
    Atomic view (put i capacity change) :=
  (keeps_consult _).bind_atomic fun _ => (certain_modify change).atomic

/-- A change is made below the capacity, and refused elsewhere. -/
theorem put_run {i capacity : Nat} {change : σ → σ} {s : σ} {result : Except RangeError σ}
    (hin : i < capacity → result = .ok (change s))
    (hout : ¬ i < capacity → result = .error ⟨i, capacity⟩) :
    (put i capacity change).run s = changed s result := by
  show (consult (fun _ => RangeError.check i capacity) >>= fun _ => modify change).run s = _
  rw [EStateM.run_bind, EStateM.run, consult, RangeError.check]
  by_cases h : i < capacity
  · rw [if_pos h, hin h]
    rfl
  · rw [if_neg h, hout h]
    rfl

end

/-- Puts a 32-bit word at an index. -/
def write32 (i : Nat) (word : UInt32) : EStateM RangeError Registers Unit :=
  put i registerCount fun r => { r with single := r.single.setIfInBounds i word }

/-- Puts a 64-bit word at an index. -/
def write64 (i : Nat) (word : UInt64) : EStateM RangeError Registers Unit :=
  put i registerCount fun r => { r with double := r.double.setIfInBounds i word }

/-- Overwrites a slot. -/
def writeSlot (i : Nat) (record : Record) : EStateM RangeError OpcodeStore Unit :=
  put i slotCount fun s => { s with slots := s.slots.setIfInBounds i record }

/-- Writing in place leaves the registers that the function returns. -/
theorem write32_run (r : Registers) (i : Nat) (word : UInt32) :
    (write32 i word).run r = changed r (r.write32 i word) :=
  put_run (fun h => by rw [Registers.write32, dif_pos h, setIfInBounds_eq r.single h])
    (fun h => by rw [Registers.write32, dif_neg h])

theorem write64_run (r : Registers) (i : Nat) (word : UInt64) :
    (write64 i word).run r = changed r (r.write64 i word) :=
  put_run (fun h => by rw [Registers.write64, dif_pos h, setIfInBounds_eq r.double h])
    (fun h => by rw [Registers.write64, dif_neg h])

/-- A record written in place leaves the slots that the function returns. -/
theorem writeSlot_run (s : OpcodeStore) (i : Nat) (record : Record) :
    (writeSlot i record).run s = changed s (s.write i record) :=
  put_run (fun h => by rw [OpcodeStore.write, dif_pos h, setIfInBounds_eq s.slots h])
    (fun h => by rw [OpcodeStore.write, dif_neg h])

/-! ## Operations on the registers -/

/-- Fetches a source from the 32-bit space. -/
def fetch32 (i : UInt64) : EStateM OperationError Registers UInt32 :=
  consult fun r => r.source32 i

/-- Fetches a source from the 64-bit space. -/
def fetch64 (i : UInt64) : EStateM OperationError Registers UInt64 :=
  consult fun r => r.source64 i

/-- Stores a result in the 32-bit space. -/
def store32 (i : UInt64) (word : UInt32) : EStateM OperationError Registers Unit :=
  (write32 i.toNat word).adaptExcept fun _ => .destinationOutOfRange

/-- Stores a result in the 64-bit space. -/
def store64 (i : UInt64) (word : UInt64) : EStateM OperationError Registers Unit :=
  (write64 i.toNat word).adaptExcept fun _ => .destinationOutOfRange

/-- Carries out one request. -/
def carryOut (q : Request) : EStateM OperationError Registers Unit :=
  match q.operation with
  | .single op => do
      let a ← fetch32 q.source0
      let b ← fetch32 q.source1
      store32 q.destination (op.apply32 a b)
  | .double op => do
      let a ← fetch64 q.source0
      let b ← fetch64 q.source1
      store64 q.destination (op.apply64 a b)
  | .function fn => do
      let a ← fetch64 q.source0
      store64 q.destination (fn.apply64 a)

/-- The renamed refusal of a store is as clean as that of the write. -/
theorem atomic_store32 (i : UInt64) (word : UInt32) : Atomic id (store32 i word) :=
  (atomic_put _ _ _).adapt _

theorem atomic_store64 (i : UInt64) (word : UInt64) : Atomic id (store64 i word) :=
  (atomic_put _ _ _).adapt _

/-- Every family stores its result behind all that it fetches. -/
theorem atomic_carryOut (q : Request) : Atomic id (carryOut q) := by
  unfold carryOut
  cases q.operation with
  | single op =>
      exact (keeps_consult _).bind_atomic fun _ =>
        (keeps_consult _).bind_atomic fun _ => atomic_store32 _ _
  | double op =>
      exact (keeps_consult _).bind_atomic fun _ =>
        (keeps_consult _).bind_atomic fun _ => atomic_store64 _ _
  | function fn => exact (keeps_consult _).bind_atomic fun _ => atomic_store64 _ _

theorem store32_run (r : Registers) (i : UInt64) (word : UInt32) :
    (store32 i word).run r = changed r (r.result32 i word) :=
  run_adapt (write32_run r i.toNat word) _

theorem store64_run (r : Registers) (i : UInt64) (word : UInt64) :
    (store64 i word).run r = changed r (r.result64 i word) :=
  run_adapt (write64_run r i.toNat word) _

/-- A request that is carried out in place leaves the registers that the function
    returns, or those that were there. -/
theorem carryOut_run (r : Registers) (q : Request) :
    (carryOut q).run r = changed r (r.execute q) := by
  unfold carryOut Registers.execute
  cases q.operation with
  | single op =>
      exact run_consult_bind fun a => run_consult_bind fun b => store32_run r q.destination _
  | double op =>
      exact run_consult_bind fun a => run_consult_bind fun b => store64_run r q.destination _
  | function fn => exact run_consult_bind fun a => store64_run r q.destination _

/-! ## Calls on a device -/

section

variable {β ε α : Type}

/-- Runs a program on the registers of a device. -/
def inRegisters (p : EStateM ε Registers α) : EStateM ε (Device β) α :=
  onPart Device.registers Device.withRegisters p

/-- Runs a program on the opcode slots of a device. -/
def inOpcodes (p : EStateM ε OpcodeStore α) : EStateM ε (Device β) α :=
  onPart Device.opcodes Device.withOpcodes p

/-- Runs a program on all storage of a device. -/
def inStorage (p : EStateM ε Storage α) : EStateM ε (Device β) α :=
  onPart Device.storage (fun d storage => { d with storage }) p

/-- What is logged of an operation that was carried out or refused. -/
def noteDispatch (q : Request) : Except OperationError Unit → Device β → Device β
  | .ok (), d => d.note (.completed q)
  | .error e, d => d.note (.refused q e)

/-- Carries out one operation without counting it. -/
def dispatch (q : Request) : EStateM OperationError (Device β) Unit :=
  noting (noteDispatch q) (inRegisters (carryOut q))

/-- Carries out the operation with a given number, without counting it. -/
def executeRaw (number : UInt8) (destination source0 source1 : UInt64) :
    EStateM OperationError (Device β) Unit :=
  match Operation.ofNumber? number.toNat with
  | none => throw .unsupported
  | some op => dispatch ⟨op, destination, source0, source1⟩

/-- Carries out and counts one operation. -/
def execute (q : Request) : EStateM OperationError (Device β) Unit :=
  noting (fun result d => d.countOperation q result) (dispatch q)

/-- Runs what a slot holds as operation `op`, if it is a record that can be run. -/
def runRecord (slot : UInt64) (op : Operation) :
    Option Record → EStateM Failure (Device β) SlotExecution
  | none => throw (.outOfRange ⟨slot.toNat, slotCount⟩)
  | some record =>
      match record.request? op with
      | some q => do
          let result ← settled (execute q)
          return .executed result
      | none => do
          modify fun d => d.note (.skipped slot record.kind)
          return .skipped record.kind

/-- Runs an opcode slot as operation `op`. -/
def executeSlot (slot : UInt64) (op : Operation) :
    EStateM Failure (Device β) SlotExecution := do
  let d ← get
  runRecord slot op (d.opcodes.read slot.toNat)

/-- Writes a snapshot over storage. -/
def restore (s : Snapshot) : EStateM Failure (Device β) Unit :=
  (inStorage s.apply).adaptExcept .coprocessor

/-! ## What they end with -/

/-- A change that is refused ends with the device as it was. -/
theorem ended_attempt (d : Device β) (change : Except ε (Device β)) :
    ended (d.attempt change) = changed d change := by
  cases change with
  | ok _ => rfl
  | error _ => rfl

/-- An operation in place ends with the result and the device that the function returns. -/
theorem dispatch_run (d : Device β) (q : Request) :
    (dispatch q).run d = ended (d.dispatch q) := by
  have hpart : (inRegisters (carryOut q)).run d
      = changed d ((d.registers.execute q).map d.withRegisters) :=
    run_onPart (carryOut_run d.registers q) rfl
  rw [dispatch, run_noting, hpart, Device.dispatch]
  cases d.registers.execute q with
  | ok r => rfl
  | error e => rfl

theorem executeRaw_run (d : Device β) (number : UInt8)
    (destination source0 source1 : UInt64) :
    (executeRaw number destination source0 source1).run d
      = ended (d.executeRaw number destination source0 source1) := by
  unfold executeRaw Device.executeRaw
  cases Operation.ofNumber? number.toNat with
  | none => rfl
  | some op => exact dispatch_run d _

/-- Counting adds the same to both. -/
theorem execute_run (d : Device β) (q : Request) :
    (execute q).run d = ended (d.execute q) := by
  rw [execute, run_noting, dispatch_run, resultOf_ended, stateOf_ended]
  rfl

/-- A slot that is run in place ends as the function returns. -/
theorem executeSlot_run (d : Device β) (slot : UInt64) (op : Operation) :
    (executeSlot slot op).run d = ended (d.executeSlot slot op) := by
  show (runRecord slot op (d.opcodes.read slot.toNat)).run d = _
  unfold runRecord Device.executeSlot
  cases d.opcodes.read slot.toNat with
  | none => rfl
  | some record =>
      dsimp only
      cases record.request? op with
      | none => rfl
      | some q =>
          show EStateM.Result.ok (SlotExecution.executed (resultOf ((execute q).run d)))
            (stateOf ((execute q).run d)) = _
          rw [execute_run, resultOf_ended, stateOf_ended]
          rfl

/-! ## What they leave when they fail -/

/-- What leaves the registers when it fails leaves the device. -/
theorem atomic_inRegisters {p : EStateM ε Registers α} (h : Atomic id p) :
    Atomic id (inRegisters p : EStateM ε (Device β) α) :=
  h.onPart fun _ => rfl

theorem atomic_inOpcodes {p : EStateM ε OpcodeStore α} (h : Atomic id p) :
    Atomic id (inOpcodes p : EStateM ε (Device β) α) :=
  h.onPart fun _ => rfl

/-- A snapshot that is refused leaves the device. -/
theorem atomic_restore (s : Snapshot) :
    Atomic id (restore s : EStateM Failure (Device β) Unit) :=
  (s.atomic_apply.onPart fun _ => rfl).adapt _

/-- The storage and the bus of a device. -/
def lasting (d : Device β) : Storage × β := (d.storage, d.bus)

/-- An operation that fails leaves storage and bus; the log is another matter. -/
theorem atomic_dispatch (q : Request) :
    Atomic lasting (dispatch q : EStateM OperationError (Device β) Unit) :=
  (atomic_inRegisters (atomic_carryOut q)).seen.noting fun result _ => by
    cases result with
    | ok _ => rfl
    | error _ => rfl

/-- A number without an operation is refused before anything is read. -/
theorem atomic_executeRaw (number : UInt8) (destination source0 source1 : UInt64) :
    Atomic lasting (executeRaw number destination source0 source1 :
      EStateM OperationError (Device β) Unit) := by
  unfold executeRaw
  cases Operation.ofNumber? number.toNat with
  | none => exact (keeps_throw _).atomic
  | some op => exact atomic_dispatch _

/-- Counting an operation that fails leaves storage and bus. -/
theorem atomic_execute (q : Request) :
    Atomic lasting (execute q : EStateM OperationError (Device β) Unit) :=
  (atomic_dispatch q).noting fun result _ => by
    cases result with
    | ok _ => rfl
    | error _ => rfl

/-- A slot leaves storage and bus, unless it is run with success. -/
theorem executeSlot_lasting (d : Device β) (slot : UInt64) (op : Operation)
    (hfail : resultOf ((executeSlot slot op).run d) ≠ .ok (.executed (.ok ()))) :
    lasting (stateOf ((executeSlot slot op).run d)) = lasting d := by
  revert hfail
  show resultOf ((runRecord slot op (d.opcodes.read slot.toNat)).run d) ≠ _
    → lasting (stateOf ((runRecord slot op (d.opcodes.read slot.toNat)).run d)) = lasting d
  unfold runRecord
  cases d.opcodes.read slot.toNat with
  | none => exact fun _ => rfl
  | some record =>
      dsimp only
      cases record.request? op with
      | none => exact fun _ => rfl
      | some q =>
          show Except.ok (SlotExecution.executed (resultOf ((execute q).run d))) ≠ _
            → lasting (stateOf ((execute q).run d)) = lasting d
          cases hrun : (execute q).run d with
          | ok _ last => exact fun hfail => absurd rfl hfail
          | error e last => exact fun _ => atomic_execute q d e last hrun

end

end InPlace

/-- Every call to a device that may fail, and its program in place, end alike. -/
structure Device.RunsInPlace {β : Type} (d : Device β) : Prop where
  dispatch : ∀ q, (InPlace.dispatch q).run d = ended (d.dispatch q)
  execute : ∀ q, (InPlace.execute q).run d = ended (d.execute q)
  executeRaw : ∀ number destination source0 source1,
    (InPlace.executeRaw number destination source0 source1).run d
      = ended (d.executeRaw number destination source0 source1)
  executeSlot : ∀ slot op, (InPlace.executeSlot slot op).run d = ended (d.executeSlot slot op)
  write32 : ∀ i word,
    (InPlace.inRegisters (InPlace.write32 i word)).run d
      = ended (d.attempt (d.write32 i word))
  write64 : ∀ i word,
    (InPlace.inRegisters (InPlace.write64 i word)).run d
      = ended (d.attempt (d.write64 i word))
  writeOpcode : ∀ slot record,
    (InPlace.inOpcodes (InPlace.writeSlot slot record)).run d
      = ended (d.attempt (d.writeOpcode slot record))
  restore : ∀ s, (InPlace.restore s).run d = ended (d.attempt (d.restore s))

/-- What a call ends with does not depend on whether it works in place. -/
theorem runsInPlace {β : Type} (d : Device β) : d.RunsInPlace where
  dispatch := InPlace.dispatch_run d
  execute := InPlace.execute_run d
  executeRaw := InPlace.executeRaw_run d
  executeSlot := InPlace.executeSlot_run d
  write32 i word := by
    rw [InPlace.ended_attempt]
    exact run_onPart (InPlace.write32_run d.registers i word) rfl
  write64 i word := by
    rw [InPlace.ended_attempt]
    exact run_onPart (InPlace.write64_run d.registers i word) rfl
  writeOpcode slot record := by
    rw [InPlace.ended_attempt]
    exact run_onPart (InPlace.writeSlot_run d.opcodes slot record) rfl
  restore s := by
    have hstorage : (InPlace.inStorage s.apply).run d
        = changed d (s.toStorage.map fun storage => { d with storage }) :=
      run_onPart (s.apply_eq d.storage) rfl
    rw [InPlace.ended_attempt, InPlace.restore, run_adapt hstorage, Device.restore]
    cases s.toStorage with
    | ok _ => rfl
    | error _ => rfl

end Coprocessor
