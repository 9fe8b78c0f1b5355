import Coprocessor.Interval
import Coprocessor.Text.Hex

/-!
# Configuration — poll interval, strictness, budget

A configuration is accepted when its poll interval is at most one second and
its transaction budget, if it has one, is at least one. The interval is looked
at first.
-/

namespace Coprocessor

/-- How one coprocessor polls its bus. -/
structure Config where
  /-- Pause between two polls; zero means none. -/
  pollInterval : Interval := .millisecond
  /-- Whether unsupported transaction shapes count as violations. -/
  strict : Bool := true
  /-- How many transactions one run may handle; none means any number. -/
  budget : Option UInt64 := none
deriving DecidableEq

/-- Why a configuration is refused. -/
inductive ConfigError where
  | pollIntervalTooLong (interval : Interval)
  | zeroBudget
deriving DecidableEq

/-- The wording of a refusal. -/
def ConfigError.message : ConfigError → String
  | .pollIntervalTooLong d => "poll interval " ++ d.text ++ " exceeds 1s"
  | .zeroBudget => "transaction budget must be at least 1"

namespace Config

/-- Accepts or refuses a configuration. -/
def check (c : Config) : Except ConfigError Unit :=
  if Interval.second.toNanos < c.pollInterval.toNanos then
    .error (.pollIntervalTooLong c.pollInterval)
  else if c.budget = some 0 then .error .zeroBudget
  else .ok ()

/-- Whether a run that has handled this many transactions must end. -/
def budgetSpent (c : Config) (handled : Nat) : Bool :=
  match c.budget with
  | none => false
  | some limit => decide (limit.toNat ≤ handled)

/-- The wording of a budget. -/
def budgetText : Option UInt64 → String
  | none => "unbounded"
  | some limit => toString limit.toNat

/-- The text of a configuration. -/
def text (c : Config) : String :=
  "CoprocessorConfig \x7b poll: " ++ c.pollInterval.text ++ ", strict: "
    ++ Text.ofBool c.strict ++ ", budget: " ++ budgetText c.budget ++ " \x7d"

end Config

end Coprocessor
