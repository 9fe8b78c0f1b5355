import Coprocessor.Config
import Coprocessor.Storage.Range
import Coprocessor.Text.Hex
import Coprocessor.Wire.Codec

/-!
# Failures — what can go wrong, and the chain of causes

An error is its cause; the wording is one function per type. A failure that
wraps another error shows its own wording first and then the wording of what it
wraps, down to the innermost one.
-/

namespace Coprocessor

/-- The three sections of a snapshot. -/
inductive Part where
  | single
  | double
  | opcodes
deriving DecidableEq

/-- The name of a section. -/
def Part.name : Part → String
  | .single => "reg32"
  | .double => "reg64"
  | .opcodes => "opcodes"

/-- Why a coprocessor refuses what it is given. -/
inductive CoprocessorError where
  | invalidConfig (error : ConfigError)
  | invalidOperation (byte : UInt8)
  | outOfRange (error : RangeError)
  | snapshotMismatch (part : Part) (expected found : Nat)
deriving DecidableEq

namespace CoprocessorError

/-- The wording of a refusal. -/
def message : CoprocessorError → String
  | .invalidConfig e => "Invalid configuration: " ++ e.message
  | .invalidOperation byte => "Invalid operation identifier: 0x" ++ Text.hex 2 byte.toNat
  | .outOfRange e => "Storage access out of range: " ++ e.message
  | .snapshotMismatch part expected found =>
      "Snapshot " ++ part.name ++ " has " ++ toString found ++ " entries, expected "
        ++ toString expected

/-- The wordings from this error to its innermost cause. -/
def causes (e : CoprocessorError) : List String :=
  match e with
  | .invalidConfig inner => [e.message, inner.message]
  | .outOfRange inner => [e.message, inner.message]
  | _ => [e.message]

end CoprocessorError

/-- Why a file could not be used. -/
inductive FileError where
  | notFound
  | notText
  | isDirectory
  | notDirectory
  | nameTooLong
  | other (description : String)
deriving DecidableEq

/-- The wording of a file error. -/
def FileError.message : FileError → String
  | .notFound => "No such file or directory (os error 2)"
  | .notText => "stream did not contain valid UTF-8"
  | .isDirectory => "Is a directory (os error 21)"
  | .notDirectory => "Not a directory (os error 20)"
  | .nameTooLong => "File name too long (os error 36)"
  | .other description => description

/-- Why a coprocessor could not be set up, restored or saved. -/
inductive Failure where
  | coprocessor (error : CoprocessorError)
  | outOfRange (error : RangeError)
  | encoding (fault : Wire.Fault)
  | file (error : FileError)
deriving DecidableEq

namespace Failure

/-- The wording of a failure. -/
def message : Failure → String
  | .coprocessor e => "Coprocessor error: " ++ e.message
  | .outOfRange e => "Out of range: " ++ e.message
  | .encoding e => "Snapshot encoding error: " ++ e.message
  | .file e => "I/O error: " ++ e.message

/-- The wordings from this failure to its innermost cause. -/
def causes (f : Failure) : List String :=
  f.message :: match f with
    | .coprocessor e => e.causes
    | .outOfRange e => [e.message]
    | .encoding e => [e.message]
    | .file e => [e.message]

end Failure

end Coprocessor
