import Coprocessor.Proofs.Device.Slots
import Coprocessor.Proofs.Script.Twins

/-!
# Accounting — failed commands in the reports and in the counters

What a command does can fail, and two records are kept of it: the report of the
command, and the counters of the device. The counters do not see everything: a
slot beyond the last one and a slot that cannot be run are not counted. With these
added, and without a reset, both records come to the same number.

  • `Command.Fails` — a command that fails on a device, told without its report.
  • `occasions` — the commands of a script, each with the device it is carried out on.
  • `isFailure_iff_fails` — a report is a failure exactly if its command failed.
  • `failures_command` — what one command adds to either record.
  • `exists_failure_iff`, `count_failures` — both along a script, by induction.
-/

namespace Coprocessor

/-- The failures that counters count. -/
def Counters.failures (c : Counters) : Nat := c.dropped + c.failedOperations

/-- A dropped transaction is one more failure. -/
theorem Counters.failures_resolved (c : Counters) (strict : Bool) (o : Outcome) :
    (c.resolved strict o).failures = c.failures + if o.isDropped then 1 else 0 := by
  cases o with
  | written _ _ => rfl
  | responded _ _ => rfl
  | dropped reason =>
      show c.dropped + 1 + c.failedOperations = c.dropped + c.failedOperations + 1
      omega

namespace Script

open Device

/-! ## Commands that fail -/

/-- A command that fails on a device: its transaction is dropped once everything that
    waits is handled, its opcode write or its operation is refused, or its slot is not
    executed with success. -/
inductive Command.Fails (d : Device Queue) : Command → Prop where
  | dropped {t : Transaction} {reason : DropReason} :
      t.outcome d.drain.2.registers = .dropped reason → Fails d (.transaction t)
  | opcode {slot : UInt64} {record : Record} {e : RangeError} :
      d.writeOpcode slot.toNat record = .error e → Fails d (.opcode slot record)
  | execute {q : Request} {e : OperationError} :
      (d.execute q).1 = .error e → Fails d (.execute q)
  | executeSlot {slot : UInt64} {op : Operation} :
      (d.executeSlot slot op).1 ≠ .ok (.executed (.ok ())) → Fails d (.executeSlot slot op)

/-- The commands of a script in order, each with the device it is carried out on. -/
def occasions : List ScriptLine → Device Queue → List (Device Queue × Command)
  | [], _ => []
  | l :: rest, d => (d, l.command) :: occasions rest (l.run d).2

/-- A record for a slot that there is gets written. -/
theorem run_opcode_ok {d next : Device Queue} {slot : UInt64} {record : Record}
    (h : d.writeOpcode slot.toNat record = .ok next) :
    (Command.opcode slot record).run d = (some (.opcode slot record (.ok ())), next) := by
  simp only [Command.run, h]

/-- A record for another slot leaves the device. -/
theorem run_opcode_error {d : Device Queue} {slot : UInt64} {record : Record} {e : RangeError}
    (h : d.writeOpcode slot.toNat record = .error e) :
    (Command.opcode slot record).run d = (some (.opcode slot record (.error e)), d) := by
  simp only [Command.run, h]

theorem isDropped_iff {o : Outcome} : o.isDropped = true ↔ ∃ reason, o = .dropped reason := by
  cases o with
  | written _ _ => exact ⟨nofun, nofun⟩
  | responded _ _ => exact ⟨nofun, nofun⟩
  | dropped reason => exact ⟨fun _ => ⟨reason, rfl⟩, fun _ => rfl⟩

/-- A slot's report tells of a failure unless the slot was run with success. -/
theorem isFailure_slot_iff {slot : UInt64} {op : Operation}
    {result : Except Failure SlotExecution} :
    (Report.slot slot op result).isFailure = true ↔ result ≠ .ok (.executed (.ok ())) := by
  rcases result with e | (_ | _) | kind
  · exact ⟨fun _ => nofun, fun _ => rfl⟩
  · exact ⟨fun _ => nofun, fun _ => rfl⟩
  · exact ⟨nofun, fun hne => absurd rfl hne⟩
  · exact ⟨fun _ => nofun, fun _ => rfl⟩

/-- A report is a failure exactly if its command failed. -/
theorem isFailure_iff_fails {c : Command} {d : Device Queue} {report : Report}
    (h : (c.run d).1 = some report) : report.isFailure = true ↔ c.Fails d := by
  cases c with
  | transaction t =>
      rw [run_transaction] at h
      obtain rfl := Option.some.inj h
      show (t.outcome d.drain.2.registers).isDropped = true ↔ _
      rw [isDropped_iff]
      constructor
      · rintro ⟨reason, hreason⟩
        exact .dropped hreason
      · rintro (⟨hreason⟩ | _ | _ | _)
        exact ⟨_, hreason⟩
  | opcode slot record =>
      cases hwrite : d.writeOpcode slot.toNat record with
      | ok next =>
          rw [run_opcode_ok hwrite] at h
          obtain rfl := Option.some.inj h
          refine ⟨nofun, ?_⟩
          rintro (_ | hfail | _ | _)
          rw [hwrite] at hfail
          exact nomatch hfail
      | error e =>
          rw [run_opcode_error hwrite] at h
          obtain rfl := Option.some.inj h
          exact ⟨fun _ => .opcode hwrite, fun _ => rfl⟩
  | execute q =>
      -- the value that is read back plays no part
      obtain ⟨value, rfl⟩ : ∃ value, report = .operation q (d.execute q).1 value :=
        ⟨_, (Option.some.inj h).symm⟩
      cases hresult : (d.execute q).1 with
      | ok _ =>
          refine ⟨nofun, ?_⟩
          rintro (_ | _ | hfail | _)
          rw [hresult] at hfail
          exact nomatch hfail
      | error e => exact ⟨fun _ => .execute hresult, fun _ => rfl⟩
  | executeSlot slot op =>
      obtain rfl : report = .slot slot op (d.executeSlot slot op).1 := (Option.some.inj h).symm
      rw [isFailure_slot_iff]
      constructor
      · exact .executeSlot
      · rintro (_ | _ | _ | hfail)
        exact hfail
  | reset =>
      obtain rfl := Option.some.inj h
      exact ⟨nofun, nofun⟩

/-- Every command has its report. -/
theorem report_line (l : ScriptLine) (d : Device Queue) : ∃ first, (l.run d).1 = some first := by
  obtain ⟨report, hreport, -⟩ := run_line l d
  exact ⟨_, hreport⟩

/-- The report of a line is the report of its command. -/
theorem command_of_line {l : ScriptLine} {d : Device Queue} {r : ReportLine}
    (h : (l.run d).1 = some r) : (l.command.run d).1 = some r.report := by
  unfold ScriptLine.run at h
  split at h
  next report next hrun =>
    obtain rfl := Option.some.inj h
    rw [hrun]
  next => exact nomatch h

/-- Some report of a script is a failure exactly if some command failed. -/
theorem exists_failure_iff (lines : List ScriptLine) (d : Device Queue) :
    (∃ r ∈ (run lines d).1, r.report.isFailure = true)
      ↔ ∃ o ∈ occasions lines d, o.2.Fails o.1 := by
  induction lines generalizing d with
  | nil =>
      constructor
      · rintro ⟨r, hr, -⟩
        exact nomatch hr
      · rintro ⟨o, ho, -⟩
        exact nomatch ho
  | cons l rest ih =>
      obtain ⟨first, hline⟩ := report_line l d
      rw [run_cons hline, occasions, List.exists_mem_cons_iff, List.exists_mem_cons_iff, ih,
        isFailure_iff_fails (command_of_line hline)]

/-! ## Failures that are not counted -/

/-- Whether a command writes an opcode slot beyond the last one. -/
def Command.overruns : Command → Bool
  | .opcode slot _ => decide (slotCount ≤ slot.toNat)
  | _ => false

/-- Whether a command runs a slot that is beyond the last one, or whose record on a
    device is of another kind than `exec`. -/
def Command.misses (d : Device Queue) : Command → Bool
  | .executeSlot slot _ =>
      decide (slotCount ≤ slot.toNat)
        || (d.opcodes.read slot.toNat).any fun record => decide (record.kind ≠ .exec)
  | _ => false

/-- The report of a line is logged, and leaves the counters alone. -/
theorem counters_line (l : ScriptLine) (d : Device Queue) :
    (l.run d).2.counters = (l.command.run d).2.counters := by
  unfold ScriptLine.run
  split
  next report next hrun => rw [hrun]; rfl
  next next hrun => rw [hrun]

theorem pending_line {d : Device Queue} (h : d.bus.pending = []) (l : ScriptLine) :
    (l.run d).2.bus.pending = [] := by
  rw [bus_line]
  exact pending_command h l.command

/-- What one command adds to the reports and to the counters, unless it is a reset. -/
theorem failures_command {c : Command} {d : Device Queue} {report : Report}
    (hreset : c ≠ .reset) (hpending : d.bus.pending = []) (h : (c.run d).1 = some report) :
    (c.run d).2.counters.failures + (if c.overruns then 1 else 0)
        + (if c.misses d then 1 else 0)
      = d.counters.failures + if report.isFailure then 1 else 0 := by
  cases c with
  | transaction t =>
      rw [run_transaction, drain_of_nil hpending] at h ⊢
      obtain rfl := Option.some.inj h
      show (d.handle t []).counters.failures + 0 + 0 = _
      rw [counters_handle, Counters.failures_resolved]
      rfl
  | opcode slot record =>
      obtain ⟨hlt, hwrite⟩ | ⟨hle, hwrite⟩ := d.opcodes.write_eq slot.toNat record
      · have hrun : d.writeOpcode slot.toNat record = .ok (d.withOpcodes _) :=
          congrArg (Except.map d.withOpcodes) hwrite
        have hoverruns : (Command.opcode slot record).overruns = false :=
          decide_eq_false (Nat.not_le.2 hlt)
        rw [run_opcode_ok hrun] at h ⊢
        obtain rfl := Option.some.inj h
        rw [hoverruns]
        rfl
      · have hrun : d.writeOpcode slot.toNat record = .error _ :=
          congrArg (Except.map d.withOpcodes) hwrite
        have hoverruns : (Command.opcode slot record).overruns = true := decide_eq_true hle
        rw [run_opcode_error hrun] at h ⊢
        obtain rfl := Option.some.inj h
        rw [hoverruns]
        rfl
  | execute q =>
      obtain ⟨value, rfl⟩ : ∃ value, report = .operation q (d.execute q).1 value :=
        ⟨_, (Option.some.inj h).symm⟩
      show (d.execute q).2.counters.failures + 0 + 0 = _
      rw [(d.counters_execute q).1]
      cases (d.execute q).1 with
      | ok _ => rfl
      | error e => rfl
  | executeSlot slot op =>
      obtain rfl : report = .slot slot op (d.executeSlot slot op).1 := (Option.some.inj h).symm
      show (d.executeSlot slot op).2.counters.failures + 0
          + (if (Command.executeSlot slot op).misses d then 1 else 0) = _
      -- a miss reports a failure that no counter knows of
      rcases d.executeSlot_cases slot op with
        ⟨hle, hrun⟩ | ⟨record, hread, ⟨hkind, hrun⟩ | ⟨hkind, hrun⟩⟩
      · have hmisses : (Command.executeSlot slot op).misses d = true := by
          simp [Command.misses, hle]
        rw [hrun, hmisses]
        rfl
      · have hmisses : (Command.executeSlot slot op).misses d = true := by
          simp [Command.misses, hread, hkind]
        rw [hrun, hmisses]
        rfl
      · have hlt : ¬ slotCount ≤ slot.toNat := fun hle => read_of_le hle record hread
        have hmisses : (Command.executeSlot slot op).misses d = false := by
          simp [Command.misses, hread, hkind, hlt]
        rw [hrun, hmisses, (d.counters_execute _).1, d.execute_asked record op]
        rfl
  | reset => exact absurd rfl hreset

/-- Without a reset the failures among the reports are those that the counters gained,
    and those that are not counted. -/
theorem count_failures {lines : List ScriptLine} {d : Device Queue}
    (hreset : ∀ l ∈ lines, l.command ≠ .reset) (hpending : d.bus.pending = []) :
    d.counters.failures + (run lines d).1.countP (fun r => r.report.isFailure)
      = (run lines d).2.counters.failures + lines.countP (fun l => l.command.overruns)
        + (occasions lines d).countP fun o => o.2.misses o.1 := by
  induction lines generalizing d with
  | nil => rfl
  | cons l rest ih =>
      obtain ⟨first, hline⟩ := report_line l d
      have hl : l.command ≠ .reset := hreset l List.mem_cons_self
      have hrest : ∀ m ∈ rest, m.command ≠ .reset :=
        fun m hm => hreset m (List.mem_cons_of_mem l hm)
      have hfirst := failures_command hl hpending (command_of_line hline)
      have hmore := ih hrest (pending_line hpending l)
      rw [← counters_line] at hfirst
      rw [run_cons hline, occasions, List.countP_cons, List.countP_cons, List.countP_cons]
      dsimp only
      omega

end Script

end Coprocessor
