import Coprocessor.Failure

/-!
# Complaints — why a session ended early

A complaint is a context and the chain of its causes, the outermost first. A
single cause stands alone; several causes are numbered from zero.
-/

namespace Coprocessor

/-- Why a session ended early. -/
structure Complaint where
  context : String
  causes : List String
deriving DecidableEq

namespace Complaint

/-- The lines for a chain of causes. -/
def causeLines : List String → String
  | [] => ""
  | [cause] => "\nCaused by:\n    " ++ cause ++ "\n"
  | causes =>
      "\nCaused by:\n"
        ++ String.join (causes.zipIdx.map fun (cause, i) =>
          Text.column 5 i ++ ": " ++ cause ++ "\n")

/-- The text of a complaint. -/
def text (c : Complaint) : String := "Error: " ++ c.context ++ "\n" ++ causeLines c.causes

/-- A complaint about a failure. -/
def ofFailure (context : String) (f : Failure) : Complaint := ⟨context, f.causes⟩

end Complaint

end Coprocessor
