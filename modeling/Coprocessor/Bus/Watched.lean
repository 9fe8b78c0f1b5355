import Coprocessor.Bus

/-!
# Watched bus — raising a stop flag when polls stay empty

A watched bus passes everything on to another bus, counts the polls, and raises
a flag at its `patience`-th poll that finds nothing. A poll loop that looks at
the flag ends by itself once its bus has run dry.
-/

namespace Coprocessor

/-- A bus under watch. -/
structure Watched (β : Type) where
  bus : β
  /-- The empty poll that raises the flag. -/
  patience : Nat
  /-- Polls so far. -/
  polls : Nat := 0
  /-- Polls so far that found nothing. -/
  emptyPolls : Nat := 0
  /-- Whether the flag is up; it is never lowered. -/
  raised : Bool := false

namespace Watched

variable {β : Type} [Bus β]

/-- Polls the bus below and keeps count. -/
def poll (w : Watched β) : Option Transaction × Watched β :=
  match Bus.poll w.bus with
  | (some t, bus) => (some t, { w with bus, polls := w.polls + 1 })
  | (none, bus) =>
      let emptyPolls := w.emptyPolls + 1
      (none,
        { w with
          bus, emptyPolls
          polls := w.polls + 1
          raised := w.raised || emptyPolls == w.patience })

instance : Bus (Watched β) where
  poll := poll
  respond w t data := { w with bus := Bus.respond w.bus t data }
  setBusy w level := { w with bus := Bus.setBusy w.bus level }

end Watched

end Coprocessor
