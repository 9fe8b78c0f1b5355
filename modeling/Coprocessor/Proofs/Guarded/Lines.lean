import Coprocessor.Proofs.Guarded.Words
import Coprocessor.Proofs.Script.Places
import Coprocessor.Proofs.Script.Shapes
import Coprocessor.Script.Source

/-!
# Guarded lines — every operation in its domain

The digits of a hexadecimal integer stand behind a mark of two bytes, which is cut off. That
there is a mark, and a digit behind it, is known from the pattern that the piece was found
by, and not looked at again. So a guarded scan needs the languages of the patterns, and from
there on a script is read by guarded words.

  • `cut_hexadecimal`, `meaning_of_mem` — a piece of a pattern has what its meaning needs.
  • `scanFrom_eq`, `parse_eq` — a guarded scan, and a script that is read with guards.
  • `operations_in_domain` — for all inputs every operation is used in its domain.
-/

namespace Coprocessor

-- powers are those of the core library, whatever else is imported
attribute [local instance (high)] instPowNat

namespace Script.Guarded

/-! ## Pieces -/

/-- What is behind the first two bytes of a text of more than two. -/
def cut (piece : List Char) : Except Misuse (List Char) :=
  within (3 ≤ byteLength piece ∧ byteLength (piece.take 2) = 2) .cut (piece.drop 2)

/-- The meaning of a piece that a pattern matches. -/
def meaning : Pattern → List Char → Except Misuse Pattern.Meaning
  | .hexadecimal, piece => do
      let n := Text.ofDigits 16 (← cut piece)
      pure (if n < 2 ^ (64 : Nat) then .token (.hexadecimal (UInt64.ofNat n)) else .tooLarge)
  | p, piece => .ok (p.meaning piece)

/-- A hexadecimal integer is its mark and a digit at least. -/
theorem cut_hexadecimal {piece : List Char} (h : piece ∈ Pattern.hexadecimal.language) :
    cut piece = .ok (piece.drop 2) := by
  obtain ⟨mark, rfl, digits, hdigits, rfl⟩ := Language.mem_mul.1 h
  obtain ⟨hne, -⟩ := tests_hexDigit.mem_several.1 hdigits
  obtain ⟨c, more, rfl⟩ := List.exists_cons_of_ne_nil hne
  have hbytes : byteLength ('0' :: 'x' :: c :: more) = 1 + (1 + (c.utf8Size + byteLength more)) :=
    rfl
  have hdigit : 0 < c.utf8Size := c.utf8Size_pos
  refine within_of ⟨?_, rfl⟩ .cut _
  show 3 ≤ byteLength ('0' :: 'x' :: c :: more)
  rw [hbytes]
  omega

/-- What stands in the language of a pattern is cut behind characters that it has. -/
theorem meaning_of_mem {p : Pattern} {piece : List Char} (h : piece ∈ p.language) :
    meaning p piece = .ok (p.meaning piece) := by
  cases p with
  | blank => rfl
  | comment => rfl
  | identifier => rfl
  | decimal => rfl
  | hexadecimal =>
      rw [meaning, cut_hexadecimal h]
      rfl
  | fractional => rfl

/-! ## Lines -/

/-- Cuts a line into tokens; the first character stands at `column`. -/
def scanFrom (column : Nat) (cs : List Char) : Except Misuse (Except Nat (List Located)) :=
  if _hc : cs = [] then .ok (.ok [])
  else
    let found := Pattern.longest cs
    if _h : found.2 = 0 then .ok (.error column)
    else do
      let piece := cs.take found.2
      let next := column + byteLength piece
      match ← meaning found.1 piece with
      | .tooLarge => pure (.error column)
      | .skipped => scanFrom next (cs.drop found.2)
      | .token token =>
          let tokens ← scanFrom next (cs.drop found.2)
          pure (tokens.map (⟨token, column⟩ :: ·))
termination_by cs.length
decreasing_by
  all_goals
    have hpos : 0 < cs.length := List.length_pos_iff.2 _hc
    have hn : 0 < (Pattern.longest cs).2 := Nat.pos_of_ne_zero _h
    simp only [List.length_drop]
    omega

/-- A line is cut only at the ends of its pieces, which lie between characters. -/
theorem scanFrom_eq (column : Nat) (cs : List Char) :
    scanFrom column cs = .ok (Script.scanFrom column cs) := by
  induction hlength : cs.length using Nat.strongRecOn generalizing column cs with
  | ind k ih =>
      subst hlength
      by_cases hne : cs = []
      · subst hne
        rw [scanFrom, dif_pos rfl, scanFrom_nil]
      · rcases hfound : Pattern.longest cs with ⟨p, n⟩
        by_cases hn : n = 0
        · have hnone : (Pattern.longest cs).2 = 0 := (congrArg Prod.snd hfound).trans hn
          rw [scanFrom, dif_neg hne, scanFrom_of_none hne hnone]
          exact dif_pos hnone
        -- the piece is a word of its pattern, which is all that its meaning asks for
        · have hpiece : cs.take n ∈ p.language := by
            have hne' : (Pattern.longest cs).2 ≠ 0 := by
              rw [hfound]
              exact hn
            have hmem := Pattern.take_longest_mem hne'
            rw [hfound] at hmem
            exact hmem
          have hshort : (cs.drop n).length < cs.length := by
            have hpos : 0 < cs.length := List.length_pos_iff.2 hne
            rw [List.length_drop]
            omega
          have hrest := ih _ hshort (column + byteLength (cs.take n)) _ rfl
          rw [scanFrom, dif_neg hne, scanFrom_of_longest hfound hn]
          simp only [hfound, dif_neg hn]
          rw [meaning_of_mem hpiece, hrest]
          cases p.meaning (cs.take n) with
          | tooLarge => rfl
          | skipped => rfl
          | token token => rfl

/-! ## Scripts -/

/-- The command on one line, if it has any token. -/
def parseLine (line : Nat) (text : List Char) :
    Except Misuse (Except ScriptError (Option ScriptLine)) := do
  match ← scanFrom 1 text with
  | .error column => pure (.error ⟨line, .misplaced column .unrecognized⟩)
  | .ok [] => pure (.ok none)
  | .ok tokens => do
      match ← ofTokens tokens with
      | .error p => pure (.error ⟨line, p⟩)
      | .ok command => pure (.ok (some ⟨line, command⟩))

/-- The commands on consecutive lines, the first of which is `line`. -/
def parseLines (line : Nat) :
    List (List Char) → Except Misuse (Except ScriptError (List ScriptLine))
  | [] => pure (.ok [])
  | text :: rest => do
      match ← parseLine line text with
      | .error e => pure (.error e)
      | .ok first => do
          match ← parseLines (line + 1) rest with
          | .error e => pure (.error e)
          | .ok more => pure (.ok (first.toList ++ more))

/-- The commands of a script. -/
def parse (source : String) : Except Misuse (Except ScriptError (List ScriptLine)) :=
  parseLines 1 (splitLines source.toList)

theorem parseLine_eq (line : Nat) (text : List Char) :
    parseLine line text = .ok (Script.parseLine line text) := by
  rw [parseLine, Script.parseLine, scan, scanFrom_eq]
  cases Script.scanFrom 1 text with
  | error column => rfl
  | ok tokens =>
      cases tokens with
      | nil => rfl
      | cons t rest =>
          show (ofTokens (t :: rest) >>= _) = _
          rw [ofTokens_eq]
          show _ = Except.ok (match Command.ofTokens (t :: rest) with | .error p => _ | .ok c => _)
          cases Command.ofTokens (t :: rest) with
          | error p => rfl
          | ok command => rfl

/-- Lines are looked at one by one, each of them inside its operations' domains. -/
theorem parseLines_eq (line : Nat) (texts : List (List Char)) :
    parseLines line texts = .ok (Script.parseLines line texts) := by
  induction texts generalizing line with
  | nil => rfl
  | cons text rest ih =>
      rw [parseLines, Script.parseLines, parseLine_eq]
      cases Script.parseLine line text with
      | error e => rfl
      | ok first =>
          show (parseLines (line + 1) rest >>= _) = _
          rw [ih]
          show _ = Except.ok (match Script.parseLines (line + 1) rest with
            | .error e => _ | .ok more => _)
          cases Script.parseLines (line + 1) rest with
          | error e => rfl
          | ok more => rfl

theorem parse_eq (source : String) : parse source = .ok (Script.parse source) :=
  parseLines_eq 1 _

end Script.Guarded

/-- **No operation is used outside its domain**: with every one of them guarded, a script of
any text, a command of any words, a transaction of any payload, a write at any index and a
snapshot with sections of any lengths come out as they do without guards, and never as a
misuse. -/
theorem operations_in_domain :
    (∀ source : String, Script.Guarded.parse source = .ok (Script.parse source))
      ∧ (∀ tokens : List Script.Located,
        Script.Guarded.ofTokens tokens = .ok (Script.Command.ofTokens tokens))
      ∧ (∀ t : Transaction, Guarded.shape t = .ok t.shape)
      ∧ (∀ {β : Type} [Bus β] (t : Transaction) (r : Registers) (bus : β),
        Guarded.resolve t r bus = .ok (t.resolve r bus))
      ∧ (∀ (r : Registers) (i : Nat) (word : UInt32),
        Guarded.write32 r i word = .ok (r.write32 i word))
      ∧ (∀ (r : Registers) (i : Nat) (word : UInt64),
        Guarded.write64 r i word = .ok (r.write64 i word))
      ∧ (∀ (s : OpcodeStore) (i : Nat) (record : Record),
        Guarded.writeSlot s i record = .ok (s.write i record))
      ∧ ∀ (s : Snapshot) (storage : Storage), Guarded.apply s storage = .ok s.toStorage :=
  ⟨Script.Guarded.parse_eq, Script.Guarded.ofTokens_eq, Guarded.shape_eq, Guarded.resolve_eq,
    Guarded.write32_eq, Guarded.write64_eq, Guarded.writeSlot_eq, Guarded.apply_eq⟩

end Coprocessor
