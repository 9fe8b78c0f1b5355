import Coprocessor.Script.Command
import Coprocessor.Script.Pattern

/-!
# Source — scripts as text

A script has one command per line. Lines without a token are skipped but
counted, and the first line with a problem decides. A carriage return before
the end of a line is blank space like any other.
-/

namespace Coprocessor.Script

/-- A command and the line it stands on, counted from one. -/
structure ScriptLine where
  line : Nat
  command : Command
deriving DecidableEq

/-- Cuts a text at its newlines. -/
def splitLines : List Char → List (List Char)
  | [] => [[]]
  | c :: rest =>
      if c = '\n' then [] :: splitLines rest
      else
        match splitLines rest with
        | [] => [[c]]
        | first :: more => (c :: first) :: more

/-- The command on one line, if it has any token. -/
def parseLine (line : Nat) (text : List Char) : Except ScriptError (Option ScriptLine) :=
  match scan text with
  | .error column => .error ⟨line, .misplaced column .unrecognized⟩
  | .ok [] => .ok none
  | .ok tokens =>
      match Command.ofTokens tokens with
      | .error p => .error ⟨line, p⟩
      | .ok command => .ok (some ⟨line, command⟩)

/-- The commands on consecutive lines, the first of which is `line`. -/
def parseLines (line : Nat) : List (List Char) → Except ScriptError (List ScriptLine)
  | [] => .ok []
  | text :: rest =>
      match parseLine line text with
      | .error e => .error e
      | .ok first =>
          match parseLines (line + 1) rest with
          | .error e => .error e
          | .ok more => .ok (first.toList ++ more)

/-- The commands of a script. -/
def parse (source : String) : Except ScriptError (List ScriptLine) :=
  parseLines 1 (splitLines source.toList)

end Coprocessor.Script
