import Coprocessor.Proofs.Device.Counting
import Coprocessor.Proofs.Device.Dispatch

/-!
# Slots — a record is run like a request of its own

A slot holds a record with three operand bytes. Running it as an operation either
has no effect on storage, because there is no such slot or its record is of a kind that
cannot be run, or does what the request does whose indices are the operand bytes.
A byte is always the index of a register, so such a request is never refused.

  • `Record.asked` — the request that a record makes of an operation.
  • `dispatch_asked` — the dispatcher never refuses it, whatever the registers.
  • `executeSlot_cases` — what running a slot does, by what the slot holds.
  • `executeSlot_exact` — the three answers told by the slot alone, and a record
    that was just written against the request itself.
-/

namespace Coprocessor

/-! ## Requests of records -/

/-- The request that a record makes of an operation. -/
def Record.asked (record : Record) (op : Operation) : Request :=
  ⟨op, record.operand0.toUInt64, record.operand1.toUInt64, record.operand2.toUInt64⟩

/-- A record that can be run makes its request. -/
theorem Record.request?_of_exec {record : Record} (h : record.kind = .exec) (op : Operation) :
    record.request? op = some (record.asked op) := by
  rw [request?, h]
  rfl

theorem Record.request?_of_not_exec {record : Record} (h : record.kind ≠ .exec)
    (op : Operation) : record.request? op = none := by
  unfold request?
  split
  next hexec => exact absurd hexec h
  next => rfl

/-- Every byte is the index of a register. -/
theorem toNat_byte_lt (b : UInt8) : b.toUInt64.toNat < registerCount := by
  rw [UInt8.toNat_toUInt64]
  exact b.toNat_lt

/-- The sources of a record's request are registers. -/
theorem Record.sources_asked (record : Record) (op : Operation) :
    ∀ i ∈ (record.asked op).sources, i.toNat < registerCount := by
  intro i hi
  have hoperand : i = record.operand1.toUInt64 ∨ i = record.operand2.toUInt64 := by
    cases op <;> simp [Request.sources, asked] at hi <;> simp [hi]
  rcases hoperand with rfl | rfl
  · exact toNat_byte_lt _
  · exact toNat_byte_lt _

/-- A record is out of range in none of its operands. -/
theorem Registers.execute_asked (r : Registers) (record : Record) (op : Operation) :
    ∃ s, r.execute (record.asked op) = .ok s := by
  have hcases := r.carried_execute (record.asked op)
  cases hresult : r.execute (record.asked op) with
  | ok s => exact ⟨s, rfl⟩
  | error e =>
      rw [hresult] at hcases
      cases hcases with
      | noSource hmem hi => exact absurd (record.sources_asked op _ hmem) hi
      | noDestination _ hdestination => exact absurd (toNat_byte_lt _) hdestination

namespace Device

variable {β : Type}

/-- The request of a record is never refused. -/
theorem dispatch_asked (d : Device β) (record : Record) (op : Operation) :
    (d.dispatch (record.asked op)).1 = .ok () := by
  obtain ⟨s, hs⟩ := d.registers.execute_asked record op
  rw [dispatch_ok hs]

theorem execute_asked (d : Device β) (record : Record) (op : Operation) :
    (d.execute (record.asked op)).1 = .ok () := d.dispatch_asked record op

/-- What the slots hold plays no part in an operation. -/
theorem execute_withOpcodes (d : Device β) (s : OpcodeStore) (q : Request) :
    (d.withOpcodes s).execute q = ((d.execute q).1, (d.execute q).2.withOpcodes s) := by
  have hregisters : (d.withOpcodes s).registers = d.registers := rfl
  rw [execute, execute]
  cases hresult : d.registers.execute q with
  | ok r => rw [dispatch_ok hresult, dispatch_ok (hregisters.symm ▸ hresult)]; rfl
  | error e => rw [dispatch_error hresult, dispatch_error (hregisters.symm ▸ hresult)]; rfl

/-! ## Running a slot -/

/-- What running a slot does: nothing without a slot, nothing but a log entry for a
    record that cannot be run, and else what the request of the record does. -/
theorem executeSlot_cases (d : Device β) (slot : UInt64) (op : Operation) :
    (slotCount ≤ slot.toNat
        ∧ d.executeSlot slot op = (.error (.outOfRange ⟨slot.toNat, slotCount⟩), d))
      ∨ ∃ record, d.opcodes.read slot.toNat = some record
        ∧ (record.kind ≠ .exec
            ∧ d.executeSlot slot op
              = (.ok (.skipped record.kind), d.note (.skipped slot record.kind))
          ∨ record.kind = .exec
            ∧ d.executeSlot slot op
              = (.ok (.executed (.ok ())), (d.execute (record.asked op)).2)) := by
  cases hread : d.opcodes.read slot.toNat with
  | none =>
      refine Or.inl ⟨Vector.getElem?_eq_none_iff.1 hread, ?_⟩
      rw [executeSlot, hread]
  | some record =>
      refine Or.inr ⟨record, rfl, ?_⟩
      by_cases hkind : record.kind = .exec
      · refine Or.inr ⟨hkind, ?_⟩
        rw [executeSlot, hread]
        dsimp only
        rw [record.request?_of_exec hkind]
        dsimp only
        rw [d.execute_asked record op]
      · refine Or.inl ⟨hkind, ?_⟩
        rw [executeSlot, hread]
        dsimp only
        rw [record.request?_of_not_exec hkind]

/-- A slot beyond the last one holds nothing. -/
theorem read_of_le {s : OpcodeStore} {i : Nat} (h : slotCount ≤ i) (record : Record) :
    s.read i ≠ some record := by
  intro hread
  have hnone : s.read i = none := Vector.getElem?_eq_none h
  rw [hnone] at hread
  exact nomatch hread

/-- Running a slot never counts a failed operation. -/
theorem failed_executeSlot (d : Device β) (slot : UInt64) (op : Operation) :
    (d.executeSlot slot op).2.counters.failedOperations = d.counters.failedOperations := by
  rcases d.executeSlot_cases slot op with ⟨-, hrun⟩ | ⟨record, -, ⟨-, hrun⟩ | ⟨-, hrun⟩⟩
  · rw [hrun]
  · rw [hrun]
    rfl
  · rw [hrun, (d.counters_execute _).1, d.execute_asked record op]
    rfl

/-- A record that was just written is run like its request. -/
theorem executeSlot_written (d : Device β) {slot : UInt64} (h : slot.toNat < slotCount)
    (op : Operation) (destination source0 source1 : UInt8) :
    let record := Record.execute destination source0 source1
    let q : Request := ⟨op, destination.toUInt64, source0.toUInt64, source1.toUInt64⟩
    ∃ e, d.writeOpcode slot.toNat record = .ok e
      ∧ (∀ i, e.opcodes.read i = if slot.toNat = i then some record else d.opcodes.read i)
      ∧ e.executeSlot slot op
          = (.ok (.executed (d.execute q).1), (d.execute q).2.withOpcodes e.opcodes) := by
  intro record q
  obtain ⟨_, hwrite⟩ | ⟨hle, -⟩ := d.opcodes.write_eq slot.toNat record
  · have hread := OpcodeStore.read_write hwrite
    generalize ({ d.opcodes with slots := _ } : OpcodeStore) = s at hwrite hread
    refine ⟨d.withOpcodes s, ?_, hread, ?_⟩
    · show (d.opcodes.write slot.toNat record).map d.withOpcodes = _
      rw [hwrite]
      rfl
    · have hrecord : (d.withOpcodes s).opcodes.read slot.toNat = some record := by
        show s.read slot.toNat = some record
        rw [hread, if_pos rfl]
      rw [executeSlot, hrecord]
      dsimp only
      rw [record.request?_of_exec rfl]
      dsimp only
      rw [execute_withOpcodes]
      rfl
  · exact absurd h (Nat.not_lt.2 hle)

/-! ## The three answers -/

section

variable (d : Device β) (slot : UInt64) (op : Operation)

/-- There is an error exactly if there is no such slot. -/
theorem executeSlot_eq_error_iff (f : Failure) :
    (d.executeSlot slot op).1 = .error f
      ↔ slotCount ≤ slot.toNat ∧ f = .outOfRange ⟨slot.toNat, slotCount⟩ := by
  rcases d.executeSlot_cases slot op with
    ⟨hle, hrun⟩ | ⟨record, hread, ⟨-, hrun⟩ | ⟨-, hrun⟩⟩
  · rw [hrun]
    exact ⟨fun h => ⟨hle, (Except.error.inj h).symm⟩, fun h => congrArg Except.error h.2.symm⟩
  · rw [hrun]
    exact ⟨nofun, fun h => absurd hread (read_of_le h.1 record)⟩
  · rw [hrun]
    exact ⟨nofun, fun h => absurd hread (read_of_le h.1 record)⟩

/-- A slot is skipped exactly if its record is of a kind that cannot be run. -/
theorem executeSlot_eq_skipped_iff (kind : Kind) :
    (d.executeSlot slot op).1 = .ok (.skipped kind)
      ↔ ∃ record, d.opcodes.read slot.toNat = some record ∧ record.kind = kind ∧ kind ≠ .exec := by
  rcases d.executeSlot_cases slot op with
    ⟨hle, hrun⟩ | ⟨record, hread, ⟨hkind, hrun⟩ | ⟨hkind, hrun⟩⟩
  · rw [hrun]
    refine ⟨nofun, ?_⟩
    rintro ⟨record, hread, -⟩
    exact absurd hread (read_of_le hle record)
  · rw [hrun, hread]
    constructor
    · intro h
      obtain rfl := SlotExecution.skipped.inj (Except.ok.inj h)
      exact ⟨record, rfl, rfl, hkind⟩
    · rintro ⟨found, hfound, rfl, -⟩
      obtain rfl := Option.some.inj hfound
      rfl
  · rw [hrun, hread]
    refine ⟨nofun, ?_⟩
    rintro ⟨found, hfound, rfl, hne⟩
    obtain rfl := Option.some.inj hfound
    exact absurd hkind hne

/-- A slot is run exactly if its record can be, and then with success. -/
theorem executeSlot_eq_executed_iff (result : Except OperationError Unit) :
    (d.executeSlot slot op).1 = .ok (.executed result)
      ↔ result = .ok ()
        ∧ ∃ record, d.opcodes.read slot.toNat = some record ∧ record.kind = .exec := by
  rcases d.executeSlot_cases slot op with
    ⟨hle, hrun⟩ | ⟨record, hread, ⟨hkind, hrun⟩ | ⟨hkind, hrun⟩⟩
  · rw [hrun]
    refine ⟨nofun, ?_⟩
    rintro ⟨-, record, hread, -⟩
    exact absurd hread (read_of_le hle record)
  · rw [hrun, hread]
    refine ⟨nofun, ?_⟩
    rintro ⟨-, found, hfound, hexec⟩
    obtain rfl := Option.some.inj hfound
    exact absurd hexec hkind
  · rw [hrun, hread]
    constructor
    · intro h
      exact ⟨(SlotExecution.executed.inj (Except.ok.inj h)).symm, record, rfl, hkind⟩
    · rintro ⟨rfl, -⟩
      rfl

end

/-- **Slots run like requests**: on any device, running a slot fails exactly beyond the
    last slot, is skipped exactly if the slot holds a record of another kind than
    `exec`, and is executed exactly if it holds one of that kind, always with success, so
    that no failed operation is ever counted. A record written into a slot and run
    there does what its request does: the answer is that of the request, and the device
    after it differs from the one after the request in the written slot alone. -/
theorem executeSlot_exact (d : Device β) (slot : UInt64) (op : Operation) :
    (∀ f, (d.executeSlot slot op).1 = .error f
        ↔ 1024 ≤ slot.toNat ∧ f = .outOfRange ⟨slot.toNat, 1024⟩)
      ∧ (∀ kind, (d.executeSlot slot op).1 = .ok (.skipped kind)
        ↔ ∃ record, d.opcodes.read slot.toNat = some record ∧ record.kind = kind
          ∧ kind ≠ .exec)
      ∧ (∀ result, (d.executeSlot slot op).1 = .ok (.executed result)
        ↔ result = .ok ()
          ∧ ∃ record, d.opcodes.read slot.toNat = some record ∧ record.kind = .exec)
      ∧ (d.executeSlot slot op).2.counters.failedOperations = d.counters.failedOperations
      ∧ ∀ destination source0 source1 : UInt8, slot.toNat < 1024 →
          let record := Record.execute destination source0 source1
          let q : Request := ⟨op, destination.toUInt64, source0.toUInt64, source1.toUInt64⟩
          ∃ e, d.writeOpcode slot.toNat record = .ok e
            ∧ (∀ i, e.opcodes.read i = if slot.toNat = i then some record else d.opcodes.read i)
            ∧ e.executeSlot slot op
                = (.ok (.executed (d.execute q).1), (d.execute q).2.withOpcodes e.opcodes) := by
  refine ⟨d.executeSlot_eq_error_iff slot op, d.executeSlot_eq_skipped_iff slot op,
    d.executeSlot_eq_executed_iff slot op, d.failed_executeSlot slot op, ?_⟩
  intro destination source0 source1 hslot
  exact d.executeSlot_written hslot op destination source0 source1

/-- A root through a slot: the cleared slot is skipped, and once it holds a record it gives
    the answer and the registers of the request, and keeps its record. -/
theorem executeSlot_exact_root :
    let d := withDefaults Queue.empty
    let root : Operation := .function .sqrt
    (5 : UInt64).toNat < 1024
      ∧ (d.executeSlot 5 root).1 = .ok (.skipped .nop)
      ∧ ∃ e, d.writeOpcode 5 (.execute 1 0 0) = .ok e
        ∧ (e.executeSlot 5 root).1 = .ok (.executed (.ok ()))
        ∧ (e.executeSlot 5 root).2.registers = (d.execute ⟨root, 1, 0, 0⟩).2.registers
        ∧ (e.executeSlot 5 root).2.opcodes.read 5 = some (.execute 1 0 0) := by
  intro d root
  have hslot : (5 : UInt64).toNat < 1024 := by decide
  have hcleared : d.opcodes.read 5 = some .cleared := by decide
  obtain ⟨-, hskipped, -, -, hwritten⟩ := d.executeSlot_exact 5 root
  obtain ⟨e, hwrite, hread, hrun⟩ := hwritten 1 0 0 hslot
  refine ⟨hslot, (hskipped .nop).2 ⟨.cleared, hcleared, rfl, by decide⟩, e, hwrite, ?_, ?_, ?_⟩
  · rw [hrun]
    exact congrArg (fun result => Except.ok (SlotExecution.executed result))
      (d.execute_asked (.execute 1 0 0) root)
  · rw [hrun]
    rfl
  · rw [hrun]
    exact hread 5

end Device

end Coprocessor
