import Coprocessor.Proofs.Binary.Widening
import Coprocessor.Proofs.Device.Drain
import Coprocessor.Proofs.Success

/-!
# Runs — one report for each command, about that command

A run goes on from device to device, one command at a time, and every command
leaves its report. What the report says is told by the devices on both sides of
the command alone.

  • `Command.Faithful` — what a report has to say of its command, given the
    device before it and the device after it.
  • `read_execute` — a successful operation can be read back from its own space.
  • `faithful_command` — a command reports, and faithfully; a bus command is
    handled last of all that waits, by `drain_push`.
  • `run_append` — a run may be cut anywhere.
  • `run_faithful` — so does every command of a script, in its place.

The induction of the run goes along the script, for every device.
-/

namespace Coprocessor

open Binary (Format widened decode_widened)

namespace Registers

/-- A value is the word at the destination of a request, in the space of its
    operation; a 32-bit word is widened without a change of its value. -/
def ReadsBack (r : Registers) (q : Request) (value : UInt64) : Prop :=
  match q.operation with
  | .single _ =>
      ∃ word, r.read32 q.destination.toNat = some word
        ∧ value = widened word
        ∧ Format.double.decode value.toNat = (Format.single.decode word.toNat).finer 925
  | .double _ | .function _ => r.read64 q.destination.toNat = some value

/-- A result is read where it was written. -/
theorem read32_result32 {r s : Registers} {i : UInt64} {word : UInt32}
    (h : r.result32 i word = .ok s) : s.read32 i.toNat = some word := by
  rw [result32] at h
  cases hw : r.write32 i.toNat word with
  | error e =>
      rw [hw] at h
      exact nomatch h
  | ok written =>
      rw [hw] at h
      obtain rfl : written = s := Except.ok.inj h
      rw [read32_write32 hw, if_pos rfl]

theorem read64_result64 {r s : Registers} {i word : UInt64}
    (h : r.result64 i word = .ok s) : s.read64 i.toNat = some word := by
  rw [result64] at h
  cases hw : r.write64 i.toNat word with
  | error e =>
      rw [hw] at h
      exact nomatch h
  | ok written =>
      rw [hw] at h
      obtain rfl : written = s := Except.ok.inj h
      rw [read64_write64 hw, if_pos rfl]

/-- A successful operation leaves a result that can be read back. -/
theorem read_execute {r s : Registers} {q : Request} (h : r.execute q = .ok s) :
    ∃ value, s.destination? q = some value ∧ s.ReadsBack q value := by
  rw [execute] at h
  rw [destination?]
  cases hop : q.operation with
  | single op =>
      rw [hop] at h
      obtain ⟨a, -, h⟩ := bind_eq_ok.1 h
      obtain ⟨b, -, h⟩ := bind_eq_ok.1 h
      have hread := read32_result32 h
      refine ⟨widened (op.apply32 a b), ?_, ?_⟩
      · rw [hread]
        rfl
      · rw [ReadsBack, hop]
        exact ⟨_, hread, rfl, decode_widened _⟩
  | double op =>
      rw [hop] at h
      obtain ⟨a, -, h⟩ := bind_eq_ok.1 h
      obtain ⟨b, -, h⟩ := bind_eq_ok.1 h
      have hread := read64_result64 h
      refine ⟨op.apply64 a b, hread, ?_⟩
      rw [ReadsBack, hop]
      exact hread
  | function fn =>
      rw [hop] at h
      obtain ⟨a, -, h⟩ := bind_eq_ok.1 h
      have hread := read64_result64 h
      refine ⟨fn.apply64 a, hread, ?_⟩
      rw [ReadsBack, hop]
      exact hread

end Registers

namespace Script

open Transaction (effects)

/-- What a report has to say of its command, given the device before the command
    and the device after it. -/
def Command.Faithful (before after : Device Queue) : Command → Report → Prop
  | .transaction t, report =>
      report = .bus t (t.outcome (effects before.registers before.bus.pending))
        ∧ after.registers = t.effect (effects before.registers before.bus.pending)
        ∧ after.bus.pending = []
  | .opcode slot record, report =>
      match before.opcodes.write slot.toNat record with
      | .ok written => report = .opcode slot record (.ok ()) ∧ after.opcodes = written
      | .error e => report = .opcode slot record (.error e) ∧ after.opcodes = before.opcodes
  | .execute q, report =>
      match before.registers.execute q with
      | .ok written =>
          after.registers = written
            ∧ ∃ value, report = .operation q (.ok ()) (some value) ∧ written.ReadsBack q value
      | .error e => after.registers = before.registers ∧ report = .operation q (.error e) none
  | .executeSlot slot op, report =>
      report = .slot slot op (before.executeSlot slot op).1
        ∧ after.storage = (before.executeSlot slot op).2.storage
  | .reset, report => report = .reset ∧ after.storage = .cleared

/-! ## One command -/

/-- A bus command reports how its own transaction is resolved, after all that
    waited before it. -/
theorem run_transaction (t : Transaction) (d : Device Queue) :
    (Command.transaction t).run d
      = (some (.bus t (t.outcome d.drain.2.registers)), d.drain.2.handle t []) := by
  show ((d.push t).drain.1.getLast?.map (Report.bus t), (d.push t).drain.2) = _
  rw [Device.drain_push, List.getLast?_concat]
  rfl

/-- Every command reports, and faithfully. -/
theorem faithful_command (c : Command) (d : Device Queue) :
    ∃ report, (c.run d).1 = some report ∧ c.Faithful d (c.run d).2 report := by
  cases c with
  | transaction t =>
      rw [run_transaction, Device.registers_drain]
      refine ⟨_, rfl, rfl, ?_, Device.pending_handle⟩
      rw [Device.registers_handle, Device.registers_drain]
  | opcode slot record =>
      cases h : d.opcodes.write slot.toNat record with
      | ok written =>
          simp only [Command.run, Device.writeOpcode, Command.Faithful, h]
          exact ⟨_, rfl, rfl, rfl⟩
      | error e =>
          simp only [Command.run, Device.writeOpcode, Command.Faithful, h]
          exact ⟨_, rfl, rfl, rfl⟩
  | execute q =>
      cases h : d.registers.execute q with
      | ok written =>
          obtain ⟨value, hvalue, hback⟩ := Registers.read_execute h
          simp only [Command.run, Device.execute, Device.dispatch, Command.Faithful, h]
          exact ⟨_, rfl, rfl, value, congrArg (Report.operation q (.ok ())) hvalue, hback⟩
      | error e =>
          simp only [Command.run, Device.execute, Device.dispatch, Command.Faithful, h]
          exact ⟨_, rfl, rfl, rfl⟩
  | executeSlot slot op => exact ⟨_, rfl, rfl, rfl⟩
  | reset => exact ⟨_, rfl, rfl, rfl⟩

/-! ## A script -/

/-- The device before the command at a place of a script. -/
def reached (lines : List ScriptLine) (d : Device Queue) (place : Nat) : Device Queue :=
  (run (lines.take place) d).2

/-- An entry of the log takes nothing away from a report. -/
theorem Command.Faithful.note {c : Command} {before after : Device Queue} {report : Report}
    (h : c.Faithful before after report) (e : Entry) :
    c.Faithful before (after.note e) report := by
  cases c with
  | transaction _ | opcode _ _ | execute _ | executeSlot _ _ | reset => exact h

/-- A line leaves one report line, with its own number. -/
theorem run_line (l : ScriptLine) (d : Device Queue) :
    ∃ report, (l.run d).1 = some ⟨l.line, report⟩
      ∧ l.command.Faithful d (l.run d).2 report := by
  obtain ⟨report, hreport, hfaithful⟩ := faithful_command l.command d
  cases hrun : l.command.run d with
  | mk found after =>
      rw [hrun] at hreport hfaithful
      obtain rfl : found = some report := hreport
      have hline : l.run d
          = (some ⟨l.line, report⟩, after.note (.command l.line report.text)) := by
        rw [ScriptLine.run, hrun]
      rw [hline]
      exact ⟨report, rfl, hfaithful.note _⟩

/-- A run reports its first line and then the others. -/
theorem run_cons {l : ScriptLine} {d : Device Queue} {first : ReportLine}
    (h : (l.run d).1 = some first) (rest : List ScriptLine) :
    run (l :: rest) d
      = (first :: (run rest (l.run d).2).1, (run rest (l.run d).2).2) := by
  show ((l.run d).1.toList ++ (run rest (l.run d).2).1, (run rest (l.run d).2).2) = _
  rw [h]
  rfl

/-- Every line has one report. -/
theorem length_run (lines : List ScriptLine) (d : Device Queue) :
    (run lines d).1.length = lines.length := by
  induction lines generalizing d with
  | nil => rfl
  | cons l rest ih =>
      obtain ⟨report, hreport, -⟩ := run_line l d
      rw [run_cons hreport, List.length_cons, List.length_cons, ih]

/-- A run may be cut anywhere. -/
theorem run_append (front back : List ScriptLine) (d : Device Queue) :
    run (front ++ back) d
      = ((run front d).1 ++ (run back (run front d).2).1, (run back (run front d).2).2) := by
  induction front generalizing d with
  | nil => rfl
  | cons l rest ih =>
      obtain ⟨report, hreport, -⟩ := run_line l d
      rw [List.cons_append, run_cons hreport, run_cons hreport, ih]
      rfl

/-- The report at a place is about the command at that place, on the device that
    the commands before it leave. -/
theorem faithful_getElem? {lines : List ScriptLine} {place : Nat} {l : ScriptLine}
    (h : lines[place]? = some l) (d : Device Queue) :
    ∃ report, (run lines d).1[place]? = some ⟨l.line, report⟩
      ∧ l.command.Faithful (reached lines d place) (reached lines d (place + 1)) report := by
  induction lines generalizing d place with
  | nil => exact nomatch h
  | cons first rest ih =>
      obtain ⟨report, hreport, hfaithful⟩ := run_line first d
      rw [run_cons hreport]
      cases place with
      | zero =>
          obtain rfl : first = l := Option.some.inj h
          exact ⟨report, rfl, hfaithful⟩
      | succ place =>
          -- what the first line leaves is where the rest starts
          exact ih h (first.run d).2

/-- **Reports are faithful**: whatever waits and whatever the configuration, a
    run of a script comes to its end with one report for each command, in order
    and with the number of its line, and each says what its command did on the
    device that the commands before it had left. -/
theorem run_faithful (lines : List ScriptLine) (d : Device Queue) :
    (run lines d).1.length = lines.length
      ∧ reached lines d 0 = d
      ∧ reached lines d lines.length = (run lines d).2
      ∧ ∀ (place : Nat) (l : ScriptLine), lines[place]? = some l →
        ∃ report, (run lines d).1[place]? = some ⟨l.line, report⟩
          ∧ l.command.Faithful (reached lines d place) (reached lines d (place + 1)) report := by
  refine ⟨length_run lines d, rfl, ?_, fun place l h => faithful_getElem? h d⟩
  rw [reached, List.take_length]

/-- A write waits, the budget is one, and a script reads what the write leaves: the
    report of the read is not about the write. -/
theorem run_faithful_waiting :
    let d := Device.start (Queue.ofList [.write32 3 0x40200000]) { budget := some 1 }
    let lines : List ScriptLine :=
      [⟨2, .transaction (.read 3)⟩, ⟨5, .execute ⟨.single .add, 4, 3, 3⟩⟩]
    (run lines d).1.length = 2
      ∧ (run lines d).1[0]? = some ⟨2, .bus (.read 3) (.responded 3 [0x00, 0x00, 0x20, 0x40])⟩
      ∧ (reached lines d 1).bus.pending = [] := by
  intro d lines
  obtain ⟨hlength, -, -, hplaces⟩ := run_faithful lines d
  obtain ⟨report, hreport, hbus, -, hpending⟩ := hplaces 0 ⟨2, .transaction (.read 3)⟩ rfl
  have houtcome : (Transaction.read 3).outcome
      (effects (reached lines d 0).registers (reached lines d 0).bus.pending)
        = .responded 3 [0x00, 0x00, 0x20, 0x40] := by decide
  rw [hreport, hbus, houtcome]
  exact ⟨hlength, rfl, hpending⟩

end Script

end Coprocessor
