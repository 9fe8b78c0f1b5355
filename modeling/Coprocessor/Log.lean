import Coprocessor.Bus.Transaction
import Coprocessor.Config
import Coprocessor.Opcode

/-!
# Log — what a coprocessor reports about its work

Every entry is a fact of the domain; its level, its source and its wording
follow from the fact. A coprocessor keeps its entries in order.

  • Taking a transaction and completing an operation are traced; what a
    transaction or an operation did is a debugging matter.
  • Only violations of the protocol and failed operations are warnings.
-/

namespace Coprocessor

/-- How much an entry matters. -/
inductive Level where
  | trace
  | debug
  | info
  | warn
deriving DecidableEq

/-- The name of a level. -/
def Level.name : Level → String
  | .trace => "TRACE"
  | .debug => "DEBUG"
  | .info => "INFO"
  | .warn => "WARN"

/-- Which part of the coprocessor reports. -/
inductive Source where
  | context
  | dispatch
  | script
deriving DecidableEq

/-- The name under which a part reports. -/
def Source.name : Source → String
  | .context => "fpu_runtime::context"
  | .dispatch => "fpu_runtime::dispatch"
  | .script => "fpu_script::runner"

/-- One fact that a coprocessor reports. -/
inductive Entry where
  | polled (transaction : Transaction)
  | written (space : Space) (address : UInt8)
  | responded (address : UInt8)
  | dropped (transaction : Transaction) (reason : DropReason) (violation : Bool)
  | completed (request : Request)
  | refused (request : Request) (error : OperationError)
  | failed (request : Request) (error : OperationError)
  | skipped (slot : UInt64) (kind : Kind)
  | reset
  | loopStarted (config : Config)
  | loopStopped (handled : Nat)
  | command (line : Nat) (report : String)
deriving DecidableEq

namespace Entry

/-- How much an entry matters. -/
def level : Entry → Level
  | .polled _ => .trace
  | .written _ _ => .debug
  | .responded _ => .debug
  | .dropped _ _ violation => if violation then .warn else .debug
  | .completed _ => .trace
  | .refused _ _ => .debug
  | .failed _ _ => .warn
  | .skipped _ _ => .debug
  | .reset => .info
  | .loopStarted _ => .info
  | .loopStopped _ => .info
  | .command _ _ => .debug

/-- Which part reports an entry. -/
def source : Entry → Source
  | .completed _ => .dispatch
  | .refused _ _ => .dispatch
  | .command _ _ => .script
  | _ => .context

/-- What an entry says. -/
def message : Entry → String
  | .polled t => "transaction polled tx=" ++ t.text
  | .written space address =>
      "register written space=" ++ space.name ++ " address=" ++ toString address.toNat
  | .responded address => "register read address=" ++ toString address.toNat
  | .dropped t reason _ => "transaction dropped tx=" ++ t.text ++ " reason=" ++ reason.message
  | .completed q => "operation complete op=" ++ q.text
  | .refused q e => "operation failed op=" ++ q.text ++ " error=" ++ e.message
  | .failed q e => "operation failed op=" ++ q.text ++ " error=" ++ e.message
  | .skipped slot kind =>
      "slot not executable slot=" ++ toString slot.toNat ++ " kind=" ++ kind.mnemonic
  | .reset => "coprocessor reset"
  | .loopStarted config => "bus loop started config=" ++ config.text
  | .loopStopped handled => "bus loop stopped handled=" ++ toString handled
  | .command line report => "script command line=" ++ toString line ++ " report=" ++ report

/-- The line of an entry. -/
def text (e : Entry) : String :=
  e.level.name ++ " " ++ e.source.name ++ ": " ++ e.message

end Entry

end Coprocessor
