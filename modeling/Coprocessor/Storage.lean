import Coprocessor.Storage.Registers
import Coprocessor.Storage.OpcodeStore

/-!
# Storage — everything a snapshot keeps

Both register spaces and the opcode store, without the bus, the configuration
and the counters.
-/

namespace Coprocessor

/-- The registers and opcode slots of one coprocessor. -/
structure Storage where
  registers : Registers
  opcodes : OpcodeStore
deriving DecidableEq

/-- Everything cleared. -/
def Storage.cleared : Storage := ⟨.cleared, .cleared⟩

end Coprocessor
