import Coprocessor.Proofs.Script.Printer

/-!
# Joining — one script behind another

A script is read line by line, and the number of a line plays no part in how it
is read. So two texts with a newline between them are read as the first and then
the second, whose lines stand further down by the number of lines of the first;
an error of the first comes before one of the second.

  • `ScriptLine.shift`, `ScriptError.shift` — a command and an error some lines
    further down.
  • `splitLines_join`, `length_splitLines` — the lines of two texts, and how many
    a text has.
  • `parseLines_shift` — reading from a later number on.
  • `parse_join` — these together.
-/

namespace Coprocessor.Script

/-! ## Some lines further down -/

/-- A command some lines further down. -/
def ScriptLine.shift (k : Nat) (l : ScriptLine) : ScriptLine := { l with line := l.line + k }

/-- An error some lines further down. -/
def ScriptError.shift (k : Nat) (e : ScriptError) : ScriptError := { e with line := e.line + k }

/-- The number of a line only goes into what is reported of it. -/
theorem parseLine_shift (k line : Nat) (text : List Char) :
    parseLine (line + k) text
      = ((parseLine line text).mapError (ScriptError.shift k)).map
          (Option.map (ScriptLine.shift k)) := by
  rw [parseLine, parseLine]
  cases scan text with
  | error column => rfl
  | ok tokens =>
      cases tokens with
      | nil => rfl
      | cons first more =>
          dsimp only
          cases Command.ofTokens (first :: more) with
          | error p => rfl
          | ok command => rfl

/-- Where the count of lines starts plays no part in how they are read. -/
theorem parseLines_shift (k line : Nat) (texts : List (List Char)) :
    parseLines (line + k) texts
      = ((parseLines line texts).mapError (ScriptError.shift k)).map
          (List.map (ScriptLine.shift k)) := by
  induction texts generalizing line with
  | nil => rfl
  | cons text rest ih =>
      rw [parseLines, parseLines, parseLine_shift, Nat.add_right_comm, ih (line + 1)]
      cases parseLine line text with
      | error e => rfl
      | ok first =>
          cases parseLines (line + 1) rest with
          | error e => rfl
          | ok more =>
              cases first with
              | none => rfl
              | some l => rfl

/-! ## Two texts -/

/-- Lines in front of a newline and lines behind it are cut apart. -/
theorem splitLines_join (front back : List Char) :
    splitLines (front ++ '\n' :: back) = splitLines front ++ splitLines back := by
  rw [splitLines_eq_splitOn, splitLines_eq_splitOn, splitLines_eq_splitOn]
  exact List.splitOn_append_cons_self front back

/-- A text has one line more than it has newlines. -/
theorem length_splitLines (cs : List Char) : (splitLines cs).length = cs.count '\n' + 1 := by
  induction cs with
  | nil => rfl
  | cons c rest ih =>
      rw [splitLines, List.count_cons]
      by_cases hc : c = '\n'
      · rw [if_pos hc, if_pos (beq_iff_eq.2 hc), List.length_cons, ih]
      · rw [if_neg hc, if_neg (fun heq => hc (beq_iff_eq.1 heq))]
        cases hlines : splitLines rest with
        | nil =>
            rw [hlines] at ih
            exact absurd ih (Nat.succ_ne_zero _).symm
        | cons first more =>
            rw [hlines] at ih
            exact ih

/-- How far the lines of a text move down behind another text and a newline. -/
def lineCount (source : String) : Nat := source.toList.count '\n' + 1

/-- Two texts with a newline between them are read one after the other. -/
theorem parse_join (front back : String) :
    parse (front ++ "\n" ++ back) = (parse front).bind fun commands =>
      ((parse back).mapError (ScriptError.shift (lineCount front))).map fun more =>
        commands ++ more.map (ScriptLine.shift (lineCount front)) := by
  have hlines : splitLines (front ++ "\n" ++ back).toList
      = splitLines front.toList ++ splitLines back.toList := by
    rw [String.toList_append, String.toList_append, List.append_assoc]
    exact splitLines_join front.toList back.toList
  rw [parse, hlines, parseLines_append, parseLines_shift, length_splitLines]
  show _ = (parseLines 1 (splitLines front.toList)).bind _
  cases parseLines 1 (splitLines front.toList) with
  | error e => rfl
  | ok commands =>
      show _ = ((parseLines 1 (splitLines back.toList)).mapError _).map _
      cases parseLines 1 (splitLines back.toList) with
      | error e => rfl
      | ok more => rfl

theorem parse_join_ok {front back : String} {commands more : List ScriptLine}
    (hfront : parse front = .ok commands) (hback : parse back = .ok more) :
    parse (front ++ "\n" ++ back)
      = .ok (commands ++ more.map (ScriptLine.shift (lineCount front))) := by
  rw [parse_join, hfront, hback]
  rfl

end Coprocessor.Script
