import Coprocessor.Files
import Coprocessor.Script.Run
import Coprocessor.Session.Arguments
import Coprocessor.Session.Complaint

/-!
# Sessions — what one call of the command line does

A session either runs a script on a fresh coprocessor or describes a snapshot
file. It reads and writes files, and ends with an exit code and two texts.

  • The script is read first, then the snapshot to start from; the snapshot to
    save is written after the reports are complete.
  • With strict exit a failed command makes the exit code one. The counters play
    no part in this, so a reset hides nothing.
-/

namespace Coprocessor

/-- What a session leaves behind besides files. -/
structure Completion where
  exitCode : Nat
  output : String
  errors : String
deriving DecidableEq

/-- A session that ends with a complaint after some output. -/
def Completion.failed (output : String) (c : Complaint) : Completion := ⟨1, output, c.text⟩

/-! ## Steps -/

namespace Session

/-- The text of a list of lines, each ended. -/
def lines (texts : List String) : String := String.join (texts.map (· ++ "\n"))

/-- The script in the bytes of a file. -/
def scriptOf (path : String) (contents : Except FileError (List UInt8)) :
    Except Complaint (List Script.ScriptLine) :=
  let context := "failed to parse " ++ path
  match contents with
  | .error e => .error (.ofFailure context (.file e))
  | .ok bytes =>
      match String.fromUTF8? ⟨bytes.toArray⟩ with
      | none => .error (.ofFailure context (.file .notText))
      | some source =>
          match Script.parse source with
          | .ok script => .ok script
          | .error e => .error ⟨context, [e.message]⟩

/-- The snapshot in the bytes of a file. -/
def snapshotOf (path : String) (contents : Except FileError (List UInt8)) :
    Except Complaint Snapshot :=
  let context := "failed to load " ++ path
  match contents with
  | .error e => .error (.ofFailure context (.file e))
  | .ok bytes => (Snapshot.ofBytes bytes).mapError (.ofFailure context)

/-- The line of a report. -/
def reportLine (r : Script.ReportLine) : String :=
  Text.column 4 r.line ++ ": " ++ r.report.text

/-- The last line of a run. -/
def summary (c : Counters) : String :=
  "polled " ++ toString c.polled ++ " | responded " ++ toString c.responded ++ " | written "
    ++ toString c.written ++ " | dropped " ++ toString c.dropped ++ " | violations "
    ++ toString c.violations ++ " | ops " ++ toString c.operations ++ " ("
    ++ toString c.failedOperations ++ " failed)"

/-- A coprocessor on an idle queue bus, cleared or restored from a snapshot. -/
def deviceOf (lenient : Bool) (state : Option Snapshot) : Except Failure (Device Queue) :=
  match Device.create Queue.empty { strict := !lenient } with
  | .error e => .error e
  | .ok d =>
      match state with
      | none => .ok d
      | some s => d.restore s

variable {m : Type → Type} [Monad m] [Files m]

/-- Reads the snapshot to start from, if one is asked for. -/
def loadSnapshot : Option String → m (Except Complaint (Option Snapshot))
  | none => pure (.ok none)
  | some path => do
      let contents ← Files.read path
      pure ((snapshotOf path contents).map some)

/-- Saves a snapshot, if that is asked for. -/
def saveSnapshot (s : Snapshot) : Option String → m (Except Complaint Unit)
  | none => pure (.ok ())
  | some path => do
      let result ← Files.write path s.toBytes
      pure (result.mapError fun e => .ofFailure ("failed to save " ++ path) (.file e))

/-- Runs a script on a coprocessor and saves its state. -/
def runOn (d : Device Queue) (script : List Script.ScriptLine) (save : Option String)
    (strictExit : Bool) : m Completion := do
  let (reports, d) := Script.run script d
  let output := lines (reports.map reportLine ++ [summary d.counters])
  match ← saveSnapshot d.snapshot save with
  | .error c => pure (.failed output c)
  | .ok () =>
      let failed := strictExit && reports.any fun r => r.report.isFailure
      pure ⟨if failed then 1 else 0, output, ""⟩

/-- Reads what a run needs, then runs. -/
def run (path : String) (load save : Option String) (lenient strictExit : Bool) :
    m Completion := do
  match scriptOf path (← Files.read path) with
  | .error c => pure (.failed "" c)
  | .ok script =>
      match ← loadSnapshot load with
      | .error c => pure (.failed "" c)
      | .ok state =>
          match deviceOf lenient state with
          | .error f => pure (.failed "" ⟨f.message, f.causes.tail⟩)
          | .ok d => runOn d script save strictExit

/-- Describes a snapshot file. -/
def dump (path : String) : m Completion := do
  match snapshotOf path (← Files.read path) with
  | .error c => pure (.failed "" c)
  | .ok s => pure ⟨0, lines s.describe, ""⟩

end Session

/-- Does what an invocation asks for. -/
def Invocation.perform {m : Type → Type} [Monad m] [Files m] : Invocation → m Completion
  | .run script load save lenient strictExit => Session.run script load save lenient strictExit
  | .dump snapshot => Session.dump snapshot

end Coprocessor
