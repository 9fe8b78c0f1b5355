import Coprocessor.Device.Loop
import Coprocessor.Script.Report
import Coprocessor.Script.Source

/-!
# Runs — scripts on a device with a queue bus

The commands of a script are carried out in order. A bus command puts its
transaction behind those that wait and then handles all of them, so its report
is about the last one; the others go before it.
-/

namespace Coprocessor.Script

/-- Carries out one command. -/
def Command.run (c : Command) (d : Device Queue) : Option Report × Device Queue :=
  match c with
  | .transaction t =>
      let (outcomes, d) := { d with bus := d.bus.push t }.drain
      (outcomes.getLast?.map (.bus t), d)
  | .opcode slot record =>
      match d.writeOpcode slot.toNat record with
      | .ok d => (some (.opcode slot record (.ok ())), d)
      | .error e => (some (.opcode slot record (.error e)), d)
  | .execute q =>
      let (result, d) := d.execute q
      let value := match result with
        | .ok () => d.registers.destination? q
        | .error _ => none
      (some (.operation q result value), d)
  | .executeSlot slot op =>
      let (result, d) := d.executeSlot slot op
      (some (.slot slot op result), d)
  | .reset => (some .reset, d.reset)

/-- Carries out the command of one line and logs its report. -/
def ScriptLine.run (l : ScriptLine) (d : Device Queue) : Option ReportLine × Device Queue :=
  match l.command.run d with
  | (some report, d) => (some ⟨l.line, report⟩, d.note (.command l.line report.text))
  | (none, d) => (none, d)

/-- Carries out the commands of a script. -/
def run : List ScriptLine → Device Queue → List ReportLine × Device Queue
  | [], d => ([], d)
  | l :: rest, d =>
      let (first, d) := l.run d
      let (more, d) := run rest d
      (first.toList ++ more, d)

end Coprocessor.Script
