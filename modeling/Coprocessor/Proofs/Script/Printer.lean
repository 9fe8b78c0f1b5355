import Coprocessor.Proofs.Script.Reading
import Coprocessor.Proofs.Script.Shapes
import Coprocessor.Script.Source

/-!
# Printer — every command has a text, and the text is read back

A command is printed as words with one blank between them, every integer in
hexadecimal:

    raw    read|write <address> <byte>...
    opcode <slot> <kind> <operand> <operand> <operand>
    exec   <operation> <destination> <source> <source>
    slot   <slot> <operation>
    reset

A script is printed as one line for each of its commands.

  • `Command.tokens` — the words of a command, as tokens.
  • `parseLine_text` — one printed line is read back: its words are scanned to
    their tokens, and the tokens are read as the command.
  • `parse_print` — so is a printed script, each command with the number of its
    line.
-/

namespace Coprocessor.Script

/-- The text of a token. -/
def Token.spelling : Token → String
  | .identifier name => name
  | .number value => toString value.toInt
  | .hexadecimal value => Text.hexNumber value.toNat
  | .fractional text => text

/-- An integer of eight bits as a token. -/
def Token.ofByte (b : UInt8) : Token := .hexadecimal b.toUInt64

namespace Command

/-- The words of a command. -/
def tokens : Command → List Token
  | .transaction t =>
      .identifier "raw" :: .identifier t.direction.name :: .ofByte t.address
        :: t.payload.map .ofByte
  | .opcode slot record =>
      [.identifier "opcode", .hexadecimal slot, .identifier record.kind.mnemonic,
        .ofByte record.operand0, .ofByte record.operand1, .ofByte record.operand2]
  | .execute q =>
      [.identifier "exec", .identifier q.operation.mnemonic, .hexadecimal q.destination,
        .hexadecimal q.source0, .hexadecimal q.source1]
  | .executeSlot slot op =>
      [.identifier "slot", .hexadecimal slot, .identifier op.mnemonic]
  | .reset => [.identifier "reset"]

/-- The line that a command is printed as. -/
def text (c : Command) : String := " ".intercalate (c.tokens.map Token.spelling)

end Command

/-- The text of a script: one line for each command. -/
def print (cs : List Command) : String := "\n".intercalate (cs.map Command.text)

/-- Commands on consecutive lines. -/
def numbered (first : Nat) (cs : List Command) : List ScriptLine :=
  (cs.zipIdx first).map fun (command, line) => ⟨line, command⟩

/-! ## The words of a line -/

/-- The tokens that commands are printed with: names and hexadecimal integers. -/
def Token.IsPlain : Token → Prop
  | .identifier name => isName name.toList = true
  | .hexadecimal _ => True
  | _ => False

/-- A plain token is spelled as it is printed. -/
theorem spells_of_isPlain {t : Token} (h : t.IsPlain) : Spells t.spelling.toList t := by
  cases t with
  | identifier name => exact spells_name h
  | number value => exact nomatch h
  | hexadecimal value => exact spells_hexNumber value
  | fractional text => exact nomatch h

/-- Names of operations, kinds, directions and verbs are read back as names. -/
theorem isName_operation (op : Operation) : isName op.mnemonic.toList = true := by
  rcases op with f | f | f <;> cases f <;> decide +kernel

theorem isName_kind (k : Kind) : isName k.mnemonic.toList = true := by
  cases k <;> decide +kernel

theorem isName_direction (direction : Direction) : isName direction.name.toList = true := by
  cases direction <;> decide +kernel

theorem isName_verb (v : Verb) : isName v.name.toList = true := by
  cases v <;> decide +kernel

/-- The words of every command are plain. -/
theorem isPlain_of_mem_tokens {c : Command} {t : Token} (h : t ∈ c.tokens) : t.IsPlain := by
  cases c with
  | transaction transaction =>
      rcases List.mem_cons.1 h with rfl | h
      · exact isName_verb .raw
      · rcases List.mem_cons.1 h with rfl | h
        · exact isName_direction transaction.direction
        · rcases List.mem_cons.1 h with rfl | h
          · exact trivial
          · obtain ⟨b, -, rfl⟩ := List.mem_map.1 h
            exact trivial
  | opcode slot record =>
      simp only [Command.tokens, List.mem_cons, List.not_mem_nil, or_false] at h
      rcases h with rfl | rfl | rfl | rfl | rfl | rfl
      · exact isName_verb .opcode
      · exact trivial
      · exact isName_kind record.kind
      · exact trivial
      · exact trivial
      · exact trivial
  | execute q =>
      simp only [Command.tokens, List.mem_cons, List.not_mem_nil, or_false] at h
      rcases h with rfl | rfl | rfl | rfl | rfl
      · exact isName_verb .exec
      · exact isName_operation q.operation
      · exact trivial
      · exact trivial
      · exact trivial
  | executeSlot slot op =>
      simp only [Command.tokens, List.mem_cons, List.not_mem_nil, or_false] at h
      rcases h with rfl | rfl | rfl
      · exact isName_verb .slot
      · exact trivial
      · exact isName_operation op
  | reset =>
      obtain rfl := List.mem_singleton.1 h
      exact isName_verb .reset

/-- A verb is known by its own name. -/
theorem isNamed_verb (v : Verb) : (Token.identifier v.name).IsNamed v.name :=
  ⟨v.name, rfl, by cases v <;> decide +kernel⟩

/-- A direction is known by its own name. -/
theorem isDirection_name (direction : Direction) :
    (Token.identifier direction.name).IsDirection direction :=
  direction?_eq_some.1 (by cases direction <;> decide +kernel)

theorem isKind_mnemonic (k : Kind) : (Token.identifier k.mnemonic).IsKind k :=
  ⟨k.mnemonic, rfl, k.ofMnemonic?_mnemonic⟩

/-- An operation is known by its own name. -/
theorem isOperation_mnemonic (op : Operation) : (Token.identifier op.mnemonic).IsOperation op :=
  ⟨op.mnemonic, rfl, op.ofMnemonic?_mnemonic⟩

theorem isIndex_hexadecimal (i : UInt64) : (Token.hexadecimal i).IsIndex i := .hexadecimal rfl

theorem isByte_ofByte (b : UInt8) : (Token.ofByte b).IsByte b :=
  .hexadecimal (UInt8.toNat_toUInt64 b)

/-- A printed payload is read back byte by byte. -/
theorem areBytes_ofByte (bytes : List UInt8) :
    List.Forall₂ Token.IsByte (bytes.map Token.ofByte) bytes := by
  induction bytes with
  | nil => exact .nil
  | cons b bytes ih => exact .cons (isByte_ofByte b) ih

/-- The words of a command are its sentence. -/
theorem sentence_tokens (c : Command) : Sentence c.tokens c := by
  cases c with
  | transaction t =>
      exact .raw (isNamed_verb .raw) (isDirection_name t.direction) (isByte_ofByte t.address)
        (areBytes_ofByte t.payload)
  | opcode slot record =>
      exact .opcode (isNamed_verb .opcode) (isIndex_hexadecimal slot) (isKind_mnemonic record.kind)
        (isByte_ofByte record.operand0) (isByte_ofByte record.operand1)
        (isByte_ofByte record.operand2)
  | execute q =>
      exact .exec (isNamed_verb .exec) (isOperation_mnemonic q.operation)
        (isIndex_hexadecimal q.destination) (isIndex_hexadecimal q.source0)
        (isIndex_hexadecimal q.source1)
  | executeSlot slot op =>
      exact .slot (isNamed_verb .slot) (isIndex_hexadecimal slot) (isOperation_mnemonic op)
  | reset => exact .reset (isNamed_verb .reset)

/-- Every command has a word. -/
theorem tokens_ne_nil (c : Command) : c.tokens ≠ [] := by
  cases c <;> exact List.cons_ne_nil _ _

/-- The text of a command is its words with single blanks between them. -/
theorem toList_text (c : Command) :
    c.text.toList = [' '].intercalate (c.tokens.map fun t => t.spelling.toList) := by
  rw [Command.text, String.toList_intercalate, List.map_map]
  rfl

/-- A printed line is read back. -/
theorem parseLine_text (line : Nat) (c : Command) :
    parseLine line c.text.toList = .ok (some ⟨line, c⟩) := by
  -- the scan is told by words with their tokens, the line by the tokens alone
  let words : List (List Char × Token) := c.tokens.map fun t => (t.spelling.toList, t)
  have hwords : ∀ p ∈ words, Spells p.1 p.2 := by
    intro p hp
    obtain ⟨t, ht, rfl⟩ := List.mem_map.1 hp
    exact spells_of_isPlain (isPlain_of_mem_tokens ht)
  have hfst : words.map Prod.fst = c.tokens.map fun t => t.spelling.toList := by
    rw [List.map_map]
    rfl
  have hsnd : words.map Prod.snd = c.tokens := by
    rw [List.map_map]
    exact List.map_id _
  obtain ⟨located, hscan, htokens⟩ := scanFrom_line hwords 1
  rw [hfst, ← toList_text] at hscan
  rw [hsnd] at htokens
  have hne : located ≠ [] := by
    rintro rfl
    exact tokens_ne_nil c htokens.symm
  have hread : Command.ofTokens located = .ok c := by
    rw [ofTokens_eq_ok, htokens]
    exact sentence_tokens c
  obtain ⟨first, more, rfl⟩ := List.exists_cons_of_ne_nil hne
  simp only [parseLine, scan, hscan, hread]

/-! ## Lines -/

/-- Lines are what is between newlines. -/
theorem splitLines_eq_splitOn (cs : List Char) : splitLines cs = cs.splitOn '\n' := by
  induction cs with
  | nil => rfl
  | cons c rest ih =>
      rw [splitLines, List.splitOn_cons_eq_if_modifyHead, ih]
      by_cases h : c = '\n'
      · rw [if_pos h, if_pos (beq_iff_eq.2 h)]
      · rw [if_neg h, if_neg (fun heq => h (beq_iff_eq.1 heq))]
        cases hrest : rest.splitOn '\n' with
        | nil => exact absurd hrest (List.splitOn_ne_nil '\n' rest)
        | cons first more => rfl

/-- What is in no part and not in the separator is not in the whole. -/
theorem not_mem_intercalate {α : Type} {a : α} {separator : List α} (hsep : a ∉ separator)
    {ls : List (List α)} (h : ∀ l ∈ ls, a ∉ l) : a ∉ separator.intercalate ls := by
  induction ls with
  | nil => exact List.not_mem_nil
  | cons l ls ih =>
      have hrest : a ∉ separator.intercalate ls :=
        ih fun l' hl' => h l' (List.mem_cons_of_mem l hl')
      cases ls with
      | nil =>
          rw [List.intercalate_singleton]
          exact h l List.mem_cons_self
      | cons l' ls =>
          rw [List.intercalate_cons_cons, List.mem_append, List.mem_append]
          rintro ((hmem | hmem) | hmem)
          · exact h l List.mem_cons_self hmem
          · exact hsep hmem
          · exact hrest hmem

/-- Every command is on one line. -/
theorem newline_not_mem_text (c : Command) : '\n' ∉ c.text.toList := by
  rw [toList_text]
  refine not_mem_intercalate (by decide) ?_
  intro l hl
  obtain ⟨t, ht, rfl⟩ := List.mem_map.1 hl
  exact (spells_of_isPlain (isPlain_of_mem_tokens ht)).newline_not_mem

/-- A printed script has one line for each command. -/
theorem splitLines_print {cs : List Command} (h : cs ≠ []) :
    splitLines (print cs).toList = cs.map fun c => c.text.toList := by
  rw [splitLines_eq_splitOn, print, String.toList_intercalate, List.map_map]
  refine List.splitOn_intercalate '\n' ?_ ?_
  · intro l hl
    obtain ⟨c, -, rfl⟩ := List.mem_map.1 hl
    exact newline_not_mem_text c
  · exact fun hnil => h (List.map_eq_nil_iff.1 hnil)

/-- Reading lines goes on where it stopped. -/
theorem parseLines_append (first : Nat) (front back : List (List Char)) :
    parseLines first (front ++ back) = (parseLines first front).bind fun commands =>
      (parseLines (first + front.length) back).map (commands ++ ·) := by
  induction front generalizing first with
  | nil =>
      show parseLines first back = (parseLines first back).map ([] ++ ·)
      cases parseLines first back with
      | error e => rfl
      | ok commands => rfl
  | cons text front ih =>
      rw [List.cons_append, parseLines, parseLines, ih, List.length_cons,
        Nat.add_right_comm, Nat.add_assoc]
      cases parseLine first text with
      | error e => rfl
      | ok command =>
          cases parseLines (first + 1) front with
          | error e => rfl
          | ok commands =>
              cases parseLines (first + (front.length + 1)) back with
              | error e => rfl
              | ok more => exact congrArg Except.ok (List.append_assoc _ _ _).symm

theorem parseLines_empty (line : Nat) : parseLines line [[]] = .ok [] := by
  rw [parseLines, parseLine, scan, scanFrom_nil]
  rfl

/-- A newline at the end of a text adds an empty line. -/
theorem parse_append_newline (source : String) : parse (source ++ "\n") = parse source := by
  have hlines : splitLines (source ++ "\n").toList = splitLines source.toList ++ [[]] := by
    rw [splitLines_eq_splitOn, splitLines_eq_splitOn, String.toList_append]
    exact List.splitOn_append_cons_self source.toList []
  rw [parse, hlines, parseLines_append, parseLines_empty, parse]
  cases parseLines 1 (splitLines source.toList) with
  | error e => rfl
  | ok commands => exact congrArg Except.ok (List.append_nil commands)

/-- Printed lines are their commands, numbered from the first. -/
theorem parseLines_texts (first : Nat) (cs : List Command) :
    parseLines first (cs.map fun c => c.text.toList) = .ok (numbered first cs) := by
  induction cs generalizing first with
  | nil => rfl
  | cons c cs ih =>
      rw [List.map_cons, parseLines, parseLine_text, ih]
      rfl

/-- **A printed script is read back**: every command, in order and with the number
    of its line, whether or not the last line ends with a newline. -/
theorem parse_print (cs : List Command) :
    parse (print cs) = .ok (numbered 1 cs)
      ∧ parse (print cs ++ "\n") = .ok (numbered 1 cs) := by
  have hprint : parse (print cs) = .ok (numbered 1 cs) := by
    by_cases h : cs = []
    · subst h
      exact parseLines_empty 1
    · rw [parse, splitLines_print h, parseLines_texts]
  exact ⟨hprint, (parse_append_newline (print cs)).trans hprint⟩

example : print [.executeSlot 31 (.function .sin), .transaction ⟨.write, 3, [0, 255]⟩]
    = "slot 0x1f sin64\nraw write 0x3 0x0 0xff" := by
  decide +kernel

end Coprocessor.Script
