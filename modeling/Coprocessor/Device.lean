import Coprocessor.Bus.Queue
import Coprocessor.Execution
import Coprocessor.Log
import Coprocessor.Snapshot

/-!
# Device — one coprocessor and everything it remembers

A device is one value: its storage, its bus, its configuration, its counters and
its log. Every operation is a function from a device to an answer and the device
after it.

  • `step` takes one transaction from the bus and resolves it with the busy line
    raised; without a transaction nothing changes but the bus.
  • `execute` carries out and counts one operation; `dispatch` does not count.
  • `executeSlot` runs an opcode slot as an operation that the caller names.
  • `restore` either replaces all storage or changes nothing.
-/

namespace Coprocessor

/-- What a coprocessor counts. -/
structure Counters where
  /-- Transactions taken from the bus. -/
  polled : Nat := 0
  /-- Reads answered. -/
  responded : Nat := 0
  /-- Register writes applied. -/
  written : Nat := 0
  /-- Transactions without effect and answer. -/
  dropped : Nat := 0
  /-- Dropped transactions that broke the protocol, if it is strict. -/
  violations : Nat := 0
  /-- Operations carried out or tried. -/
  operations : Nat := 0
  /-- Operations that failed. -/
  failedOperations : Nat := 0
deriving DecidableEq

/-- One coprocessor on a bus. -/
structure Device (β : Type) where
  storage : Storage
  bus : β
  config : Config
  counters : Counters
  log : Journal Entry

/-- What running an opcode slot did. -/
inductive SlotExecution where
  | executed (result : Except OperationError Unit)
  | skipped (kind : Kind)

namespace Device

variable {β : Type}

/-- A cleared coprocessor with a configuration that is not looked at. -/
def start (bus : β) (config : Config) : Device β := ⟨.cleared, bus, config, {}, .empty⟩

/-- A cleared coprocessor with the default configuration. -/
def withDefaults (bus : β) : Device β := start bus {}

/-- A cleared coprocessor, if its configuration is accepted. -/
def create (bus : β) (config : Config) : Except Failure (Device β) :=
  (config.check.mapError fun e => .coprocessor (.invalidConfig e)).map fun _ => start bus config

/-- The registers of a device. -/
def registers (d : Device β) : Registers := d.storage.registers

/-- The opcode slots of a device. -/
def opcodes (d : Device β) : OpcodeStore := d.storage.opcodes

/-- Replaces the registers. -/
def withRegisters (d : Device β) (r : Registers) : Device β :=
  { d with storage := { d.storage with registers := r } }

/-- Replaces the opcode slots. -/
def withOpcodes (d : Device β) (s : OpcodeStore) : Device β :=
  { d with storage := { d.storage with opcodes := s } }

/-- Adds an entry to the log. -/
def note (d : Device β) (e : Entry) : Device β := { d with log := d.log.push e }

/-! ## Operations -/

/-- Carries out one operation without counting it. -/
def dispatch (d : Device β) (q : Request) : Except OperationError Unit × Device β :=
  match d.registers.execute q with
  | .ok r => (.ok (), (d.withRegisters r).note (.completed q))
  | .error e => (.error e, d.note (.refused q e))

/-- Carries out the operation with a given number, without counting it. -/
def executeRaw (d : Device β) (number : UInt8) (destination source0 source1 : UInt64) :
    Except OperationError Unit × Device β :=
  match Operation.ofNumber? number.toNat with
  | none => (.error .unsupported, d)
  | some op => d.dispatch ⟨op, destination, source0, source1⟩

/-- Counts an operation and its result. -/
def countOperation (d : Device β) (q : Request) : Except OperationError Unit → Device β
  | .ok () => { d with counters := { d.counters with operations := d.counters.operations + 1 } }
  | .error e =>
      { d with
        counters :=
          { d.counters with
            operations := d.counters.operations + 1
            failedOperations := d.counters.failedOperations + 1 } }.note (.failed q e)

/-- Carries out and counts one operation. -/
def execute (d : Device β) (q : Request) : Except OperationError Unit × Device β :=
  let (result, d) := d.dispatch q
  (result, d.countOperation q result)

/-- Runs an opcode slot as operation `op`, if its record can be run. -/
def executeSlot (d : Device β) (slot : UInt64) (op : Operation) :
    Except Failure SlotExecution × Device β :=
  match d.opcodes.read slot.toNat with
  | none => (.error (.outOfRange ⟨slot.toNat, slotCount⟩), d)
  | some record =>
      match record.request? op with
      | some q =>
          let (result, d) := d.execute q
          (.ok (.executed result), d)
      | none => (.ok (.skipped record.kind), d.note (.skipped slot record.kind))

/-- Clears storage and counters; the bus and the log stay. -/
def reset (d : Device β) : Device β :=
  { d with storage := .cleared, counters := {} }.note .reset

/-- The contents of storage. -/
def snapshot (d : Device β) : Snapshot := .ofStorage d.storage

/-- Replaces storage by a snapshot. -/
def restore (d : Device β) (s : Snapshot) : Except Failure (Device β) :=
  match s.toStorage with
  | .ok storage => .ok { d with storage }
  | .error e => .error (.coprocessor e)

/-! ## Direct access -/

/-- Puts a 32-bit word into a register. -/
def write32 (d : Device β) (i : Nat) (word : UInt32) : Except RangeError (Device β) :=
  (d.registers.write32 i word).map d.withRegisters

/-- Puts a 64-bit word into a register. -/
def write64 (d : Device β) (i : Nat) (word : UInt64) : Except RangeError (Device β) :=
  (d.registers.write64 i word).map d.withRegisters

/-- Overwrites an opcode slot. -/
def writeOpcode (d : Device β) (slot : Nat) (record : Record) : Except RangeError (Device β) :=
  (d.opcodes.write slot record).map d.withOpcodes

/-! ## Polling -/

/-- Counts a transaction and its outcome. -/
def countOutcome (d : Device β) (t : Transaction) : Outcome → Device β
  | .written space address =>
      { d with counters := { d.counters with written := d.counters.written + 1 } }.note
        (.written space address)
  | .responded address _ =>
      { d with counters := { d.counters with responded := d.counters.responded + 1 } }.note
        (.responded address)
  | .dropped reason =>
      let violation := reason.isViolation && d.config.strict
      { d with
        counters :=
          { d.counters with
            dropped := d.counters.dropped + 1
            violations := d.counters.violations + if violation then 1 else 0 } }.note
        (.dropped t reason violation)

/-- Takes one transaction and resolves it with the busy line raised. -/
def step [Bus β] (d : Device β) : Option Outcome × Device β :=
  match Bus.poll d.bus with
  | (none, bus) => (none, { d with bus })
  | (some t, bus) =>
      let d :=
        { d with
          bus
          counters := { d.counters with polled := d.counters.polled + 1 } }.note (.polled t)
      let (outcome, r, bus) := t.resolve d.registers (Bus.setBusy d.bus true)
      let d := { d.withRegisters r with bus := Bus.setBusy bus false }
      (some outcome, d.countOutcome t outcome)

end Device

end Coprocessor
