import Coprocessor.Session

/-!
# Program — sessions on the files of the machine

The arguments name a session; its texts go to the two output streams and its
exit code to the caller. Arguments that name no session end with code two.
-/

namespace Coprocessor

/-- The file error behind a code of the machine. -/
def FileError.ofCode (code : UInt32) (description : String) : FileError :=
  match code with
  | 2 => .notFound
  | 20 => .notDirectory
  | 21 => .isDirectory
  | 36 => .nameTooLong
  | _ => .other (description ++ " (os error " ++ toString code.toNat ++ ")")

/-- The file error behind an error of the machine. -/
def FileError.ofError : IO.Error → FileError
  | .alreadyExists _ code text | .noFileOrDirectory _ code text | .invalidArgument _ code text
  | .permissionDenied _ code text | .resourceExhausted _ code text
  | .inappropriateType _ code text | .noSuchThing _ code text | .interrupted _ code text
  | .otherError code text | .resourceBusy code text | .resourceVanished code text
  | .unsupportedOperation code text | .hardwareFault code text
  | .unsatisfiedConstraints code text | .illegalOperation code text | .protocolError code text
  | .timeExpired code text => .ofCode code text
  | e => .other (toString e)

instance : Files IO where
  read path := do
    try
      let bytes ← IO.FS.withFile path .read fun file => file.readBinToEnd
      pure (.ok bytes.toList)
    catch e => pure (.error (.ofError e))
  write path bytes := do
    try
      IO.FS.writeBinFile path ⟨bytes.toArray⟩
      pure (.ok ())
    catch e => pure (.error (.ofError e))

/-- How the program is called. -/
def usage : String :=
  "Usage: fpu [-v|--verbose] run <SCRIPT> [--load <SNAPSHOT>] [--snapshot <SNAPSHOT>] "
    ++ "[--lenient] [--strict-exit]\n       fpu [-v|--verbose] dump <SNAPSHOT>\n"

end Coprocessor

/-- Runs one session. -/
def main (arguments : List String) : IO UInt32 := do
  match Coprocessor.Invocation.ofArguments? arguments with
  | none =>
      IO.eprint Coprocessor.usage
      return 2
  | some invocation =>
      let completion : Coprocessor.Completion ← invocation.perform
      IO.print completion.output
      IO.eprint completion.errors
      return UInt32.ofNat completion.exitCode
