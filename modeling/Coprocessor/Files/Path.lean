import Coprocessor.Failure

/-!
# Paths — the way to a file

A path is a row of steps parted by slashes, where a run of slashes counts as
one. A slash at the start begins the way at the root, and one at the end says
that it ends at a directory.

  • `Path.ofString` reads a path; it refuses the empty text and one longer than
    `Path.maxBytes`. A single name has a limit of its own, `Path.maxNameBytes`,
    which counts where the name is looked up and not before.
-/

namespace Coprocessor

/-- One step of a path. -/
inductive Path.Step where
  | stay
  | up
  | enter (name : String)
deriving DecidableEq

/-- The way from a directory to a file or to another directory. -/
structure Path where
  fromRoot : Bool
  steps : List Path.Step
  endsInSlash : Bool
deriving DecidableEq

namespace Path

/-- How many bytes a path may have. -/
def maxBytes : Nat := 4095

/-- How many bytes a single name may have. -/
def maxNameBytes : Nat := 255

/-- The step between two slashes; nothing between them is no step. -/
def Step.ofPiece? : List Char → Option Step
  | [] => none
  | ['.'] => some .stay
  | ['.', '.'] => some .up
  | piece => some (.enter (String.ofList piece))

/-- Reads a path. -/
def ofString (text : String) : Except FileError Path :=
  if text = "" then .error .notFound
  else if maxBytes < text.utf8ByteSize then .error .nameTooLong
  else .ok {
    fromRoot := text.toList.head? = some '/'
    steps := (text.toList.splitOn '/').filterMap Step.ofPiece?
    endsInSlash := text.toList.getLast? = some '/' }

end Path

end Coprocessor
