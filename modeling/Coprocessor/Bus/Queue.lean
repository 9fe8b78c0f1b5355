import Coprocessor.Bus
import Coprocessor.Journal

/-!
# Queue bus — pending transactions in order of arrival

Transactions wait in a queue and are taken from its front. Everything that
happens on the bus is recorded in order, and answers are kept with the
transaction that they answer.

  • Taking a transaction raises the enable line, and the write line if it is a
    write.
  • Releasing the busy line lowers all three lines.
-/

namespace Coprocessor

/-- One thing that happened on a bus. -/
inductive Event where
  | polled (transaction : Transaction)
  | busy (level : Bool)
  | responded (address : UInt8) (data : List UInt8)
deriving DecidableEq

/-- A bus fed from a queue. -/
structure Queue where
  pending : List Transaction
  responses : Journal (Transaction × List UInt8)
  signals : Signals
  events : Journal Event
deriving DecidableEq

namespace Queue

/-- A quiet bus with these transactions waiting. -/
def ofList (pending : List Transaction) : Queue := ⟨pending, .empty, .idle, .empty⟩

/-- A quiet bus with nothing waiting. -/
def empty : Queue := ofList []

/-- Puts a transaction behind those that wait. -/
def push (q : Queue) (t : Transaction) : Queue := { q with pending := q.pending ++ [t] }

/-- Takes the first transaction that waits. -/
def poll (q : Queue) : Option Transaction × Queue :=
  match q.pending with
  | [] => (none, q)
  | t :: rest =>
      (some t,
        { q with
          pending := rest
          signals := { q.signals with enable := true, write := t.direction = .write }
          events := q.events.push (.polled t) })

/-- Records an answer. -/
def respond (q : Queue) (t : Transaction) (data : List UInt8) : Queue :=
  { q with
    events := q.events.push (.responded t.address data)
    responses := q.responses.push (t, data) }

/-- Drives the busy line. -/
def setBusy (q : Queue) (level : Bool) : Queue :=
  { q with
    signals := if level then { q.signals with busy := true } else .idle
    events := q.events.push (.busy level) }

/-- Forgets the recorded events. -/
def clearEvents (q : Queue) : Queue := { q with events := .empty }

/-- Forgets the recorded answers. -/
def clearResponses (q : Queue) : Queue := { q with responses := .empty }

end Queue

instance : Bus Queue where
  poll := Queue.poll
  respond := Queue.respond
  setBusy := Queue.setBusy

end Coprocessor
