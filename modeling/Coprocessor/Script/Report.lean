import Coprocessor.Device
import Coprocessor.Script.Command

/-!
# Reports — what the commands of a script did

Every command leaves one report. A report is a failure when its transaction was
dropped, its operation or opcode write was refused, or its slot was not run
with success.
-/

namespace Coprocessor.Script

/-- What one command did. -/
inductive Report where
  | bus (transaction : Transaction) (outcome : Outcome)
  | opcode (slot : UInt64) (record : Record) (result : Except RangeError Unit)
  | operation (request : Request) (result : Except OperationError Unit) (value : Option UInt64)
  | slot (slot : UInt64) (operation : Operation) (result : Except Failure SlotExecution)
  | reset

namespace Report

/-- Whether the command failed. -/
def isFailure : Report → Bool
  | .bus _ outcome => outcome.isDropped
  | .opcode _ _ (.ok _) => false
  | .opcode _ _ (.error _) => true
  | .operation _ (.ok _) _ => false
  | .operation _ (.error _) _ => true
  | .slot _ _ (.ok (.executed (.ok _))) => false
  | .slot _ _ _ => true
  | .reset => false

/-- The text of response data; four bytes are also shown as a number. -/
def dataText (data : List UInt8) : String :=
  if data.length = 4 then
    Text.hexBytes data ++ " (" ++ Binary.Format.single.text (Bytes.toNat data) ++ ")"
  else Text.hexBytes data

/-- The text of an outcome. -/
def outcomeText : Outcome → String
  | .written space address => space.name ++ "[" ++ toString address.toNat ++ "]"
  | .responded _ data => dataText data
  | .dropped reason => "dropped: " ++ reason.message

/-- The text of what running a slot did. -/
def slotText : Except Failure SlotExecution → String
  | .ok (.executed (.ok _)) => "ok"
  | .ok (.executed (.error e)) => "error: " ++ e.message
  | .ok (.skipped kind) => "skipped " ++ kind.mnemonic
  | .error e => "error: " ++ e.message

/-- The text of a report. -/
def text : Report → String
  | .bus t outcome => t.text ++ " -> " ++ outcomeText outcome
  | .opcode i record (.ok _) => "opcode[" ++ toString i.toNat ++ "] <- " ++ record.text
  | .opcode i _ (.error e) => "opcode[" ++ toString i.toNat ++ "] rejected: " ++ e.message
  | .operation q (.ok _) (some value) =>
      q.text ++ " -> " ++ Binary.Format.double.text value.toNat
  | .operation q (.ok _) none => q.text ++ " -> ok"
  | .operation q (.error e) _ => q.text ++ " -> error: " ++ e.message
  | .slot i op result =>
      "slot " ++ toString i.toNat ++ " as " ++ op.mnemonic ++ " -> " ++ slotText result
  | .reset => "reset"

end Report

/-- A report and the line of its command. -/
structure ReportLine where
  line : Nat
  report : Report

end Coprocessor.Script
