import Coprocessor.Proofs.Script.Reading
import Coprocessor.Proofs.Script.Recasing

/-!
# Letter case — a script in small letters and in capitals

Names of commands, directions, kinds and operations, infinity and the value that is no
number, digits and exponents: each is read in any letter case. So a script whose letters
change their case, but for an `x` behind a zero, has the same commands, or the same kind
of problem at the same place.

  • `Problem.fault`, `Agrees` — a problem without its wording, and attempts that end in
    the same way as far as that.
  • `Located.agrees_of_words` — single words, by names and fractional numbers alone.
  • `Matches` — readers of words; `Matches.bind` puts one behind another, and
    `matches_arguments` has one case for each verb.
  • `parse_recased` — the script.
-/

namespace Coprocessor.Script

/-! ## Problems without their wording -/

/-- What is found wrong with a line, without the wording: what kind of problem it is, and
    where a misplaced word stands. -/
inductive Fault where
  | misplaced (column : Nat)
  | unknownCommand
  | unknownOperation
  | unknownKind
  | unsuitable
deriving DecidableEq

/-- What is found wrong, without its wording. -/
def Problem.fault : Problem → Fault
  | .misplaced column _ => .misplaced column
  | .unknownCommand _ => .unknownCommand
  | .unknownOperation _ => .unknownOperation
  | .unknownKind _ => .unknownKind
  | .unsuitable _ => .unsuitable

/-- The line of an error and what is found wrong there. -/
def ScriptError.fault (e : ScriptError) : Nat × Fault := (e.line, e.problem.fault)

/-- Two attempts that end in the same way as far as `view` shows their problems: with
    results that are alike, or with problems that look the same. -/
inductive Agrees {ε φ α β : Type} (view : ε → φ) (like : α → β → Prop) :
    Except ε α → Except ε β → Prop where
  | ok {a : α} {b : β} (h : like a b) : Agrees view like (.ok a) (.ok b)
  | error {e e' : ε} (h : view e' = view e) : Agrees view like (.error e) (.error e')

namespace Agrees

variable {ε φ α β γ δ : Type} {view : ε → φ} {like : α → β → Prop} {x : Except ε α}
  {y : Except ε β}

/-- Every attempt agrees with itself. -/
theorem refl {like : α → α → Prop} (h : ∀ a, like a a) (x : Except ε α) :
    Agrees view like x x := by
  cases x with
  | error e => exact .error rfl
  | ok a => exact .ok (h a)

/-- Sequences of attempts that agree agree. -/
theorem bind {like' : γ → δ → Prop} {f : α → Except ε γ} {g : β → Except ε δ}
    (h : Agrees view like x y) (hfg : ∀ a b, like a b → Agrees view like' (f a) (g b)) :
    Agrees view like' (x >>= f) (y >>= g) := by
  cases h with
  | error h => exact .error h
  | ok hab => exact hfg _ _ hab

end Agrees

/-! ## Single words -/

namespace Located

variable {t u : Located} {f : Binary.Format}

/-- To compare two words it is enough to compare names and fractional numbers. -/
theorem agrees_of_words {α : Type} {like : α → α → Prop} (read : Located → Except Problem α)
    (hrefl : ∀ a, like a a)
    (hname : ∀ {name name' : String}, name'.toLower = name.toLower → ∀ column,
      Agrees Problem.fault like (read ⟨.identifier name, column⟩)
        (read ⟨.identifier name', column⟩))
    (hfractional : ∀ {text text' : String}, text'.toLower = text.toLower → ∀ column,
      Agrees Problem.fault like (read ⟨.fractional text, column⟩)
        (read ⟨.fractional text', column⟩))
    (h : t.Recased u) : Agrees Problem.fault like (read t) (read u) := by
  obtain ⟨token, column⟩ := t
  obtain ⟨token', column'⟩ := u
  obtain ⟨htoken, hcolumn⟩ := h
  obtain rfl : column' = column := hcolumn
  cases htoken with
  | same token => exact .refl hrefl _
  | identifier h => exact hname h _
  | fractional h => exact hfractional h _

/-- A name that is written anew is the same name in small letters. -/
theorem agrees_name (h : t.Recased u) (role : Role) :
    Agrees Problem.fault (fun name name' => name'.toLower = name.toLower) (t.name role)
      (u.name role) := by
  refine agrees_of_words (name role) (fun _ => rfl) ?_ ?_ h
  · intro name name' hname column
    exact .ok hname
  · intro text text' _ column
    exact .error rfl

/-- A word is an integer in either case, and the same one. -/
theorem agrees_integer (h : t.Recased u) (role : Role) :
    Agrees Problem.fault Eq (t.integer role) (u.integer role) := by
  refine agrees_of_words (integer role) (fun _ => rfl) ?_ ?_ h
  · intro name name' _ column
    exact .error rfl
  · intro text text' _ column
    exact .error rfl

/-- A byte is out of range in either case. -/
theorem agrees_byte (h : t.Recased u) (role : Role) :
    Agrees Problem.fault Eq (t.byte role) (u.byte role) := by
  refine (agrees_integer h role).bind ?_
  rintro value _ rfl
  exact .refl (fun _ => rfl) _

/-- A literal is read in any letter case. -/
theorem read?_recased {text text' : String} (h : text'.toLower = text.toLower) :
    f.read? text'.toList = f.read? text.toList := by
  have hlists : text'.toList.map Char.toLower = text.toList.map Char.toLower := by
    rw [← String.toList_map, ← String.toList_map]
    exact congrArg String.toList h
  rw [← f.read?_toLower, hlists, f.read?_toLower]

/-- A literal has the same bits in either case. -/
theorem literal?_recased (h : t.Recased u) (f : Binary.Format) : u.literal? f = t.literal? f := by
  obtain ⟨token, column⟩ := t
  obtain ⟨token', column'⟩ := u
  obtain ⟨htoken, -⟩ := h
  cases htoken with
  | same token => rfl
  | identifier h =>
      rw [literal?, literal?]
      dsimp only
      rw [h, read?_recased h]
  | fractional h => exact read?_recased h

/-- A value is suitable in either case, and the same word. -/
theorem agrees_word32 (h : t.Recased u) : Agrees Problem.fault Eq t.word32 u.word32 := by
  rw [word32, word32, literal?_recased h]
  cases t.literal? .single with
  | some bits => exact .refl (fun _ => rfl) _
  | none =>
      refine (agrees_integer h .value).bind ?_
      rintro value _ rfl
      exact .refl (fun _ => rfl) _

theorem agrees_word64 (h : t.Recased u) : Agrees Problem.fault Eq t.word64 u.word64 := by
  rw [word64, word64, literal?_recased h]
  cases t.literal? .double with
  | some bits => exact .refl (fun _ => rfl) _
  | none => exact agrees_integer h .value

/-- An operation goes by its name in any case. -/
theorem agrees_operation (h : t.Recased u) :
    Agrees Problem.fault Eq t.operation u.operation := by
  refine (agrees_name h .operation).bind fun name name' hname => ?_
  have hfound : Operation.ofMnemonic? name' = Operation.ofMnemonic? name := by
    rw [Operation.ofMnemonic?, Operation.ofMnemonic?, hname]
  rw [hfound]
  cases Operation.ofMnemonic? name with
  | some op => exact .refl (fun _ => rfl) _
  | none => exact .error rfl

theorem agrees_kind (h : t.Recased u) : Agrees Problem.fault Eq t.kind u.kind := by
  refine (agrees_name h .kind).bind fun name name' hname => ?_
  have hfound : Kind.ofMnemonic? name' = Kind.ofMnemonic? name := by
    rw [Kind.ofMnemonic?, Kind.ofMnemonic?, hname]
  rw [hfound]
  cases Kind.ofMnemonic? name with
  | some kind => exact .refl (fun _ => rfl) _
  | none => exact .error rfl

theorem agrees_verb (h : t.Recased u) : Agrees Problem.fault Eq t.verb u.verb := by
  refine (agrees_name h .command).bind fun name name' hname => ?_
  have hfound : Verb.ofName? name' = Verb.ofName? name := by
    rw [Verb.ofName?, Verb.ofName?, hname]
  rw [hfound]
  cases Verb.ofName? name with
  | some verb => exact .refl (fun _ => rfl) _
  | none => exact .error rfl

end Located

/-! ## Words in order -/

/-- What is left of two lines, word by word. -/
structure Cursor.Recased (c d : Cursor) : Prop where
  rest : List.Forall₂ Located.Recased c.rest d.rest
  last : d.last = c.last

/-- Readers that end in the same way on both lines. -/
def Matches {α β : Type} (like : α → β → Prop) (read : Reader α) (read' : Reader β) : Prop :=
  ∀ c d : Cursor, c.Recased d →
    Agrees Problem.fault (fun r s => like r.1 s.1 ∧ r.2.Recased s.2) (read c) (read' d)

section

variable {α β γ δ : Type} {like : α → β → Prop} {like' : γ → δ → Prop} {read : Reader α}
  {read' : Reader β}

/-- Readers that read nothing match by what they return. -/
theorem matches_pure {a : α} {b : β} (h : like a b) :
    Matches like (pure a : Reader α) (pure b : Reader β) :=
  fun _ _ hcursor => .ok ⟨h, hcursor⟩

/-- One reader behind another matches if both do. -/
theorem Matches.bind (h : Matches like read read') {next : α → Reader γ} {next' : β → Reader δ}
    (hnext : ∀ a b, like a b → Matches like' (next a) (next' b)) :
    Matches like' (read >>= next) (read' >>= next') := by
  intro c d hcursor
  refine (h c d hcursor).bind ?_
  rintro ⟨a, c'⟩ ⟨b, d'⟩ ⟨hlike, hcursor'⟩
  exact hnext a b hlike c' d' hcursor'

/-- A word is taken if there is one. -/
theorem matches_takeAs {role : Role} {word : Located → Except Problem α} {like : α → α → Prop}
    (h : ∀ t u, t.Recased u → Agrees Problem.fault like (word t) (word u)) :
    Matches like (Cursor.takeAs role word) (Cursor.takeAs role word) := by
  rintro ⟨ts, last⟩ ⟨us, last'⟩ ⟨hrest, hlast⟩
  obtain rfl : last' = last := hlast
  cases hrest with
  | nil => exact .error rfl
  | @cons t u ts us htoken hrest =>
      rw [Cursor.takeAs_cons, Cursor.takeAs_cons]
      refine (h t u htoken).bind fun a b hlike => ?_
      exact .ok ⟨hlike, hrest, rfl⟩

end

/-! ## Every reader of words -/

/-- Readers that read the same from both lines. -/
abbrev Reader.Steady {α : Type} (read : Reader α) : Prop := Matches Eq read read

theorem matches_index (role : Role) : (Cursor.index role).Steady :=
  matches_takeAs fun _ _ h => Located.agrees_integer h role

theorem matches_byte (role : Role) : (Cursor.byte role).Steady :=
  matches_takeAs fun _ _ h => Located.agrees_byte h role

/-- Bytes of a payload are the same ones, or the same word is no byte. -/
theorem agrees_mapM_byte {ts us : List Located} (h : List.Forall₂ Located.Recased ts us) :
    Agrees Problem.fault Eq (ts.mapM (Located.byte .payloadByte))
      (us.mapM (Located.byte .payloadByte)) := by
  induction h with
  | nil => exact .ok rfl
  | cons htoken _ ih =>
      rw [List.mapM_cons, List.mapM_cons]
      refine (Located.agrees_byte htoken .payloadByte).bind ?_
      rintro a _ rfl
      refine ih.bind ?_
      rintro bytes _ rfl
      exact .ok rfl

/-- A payload goes to the end of the line in either case. -/
theorem matches_payload : Cursor.payload.Steady := by
  intro c d hcursor
  rw [Cursor.payload_eq, Cursor.payload_eq]
  refine (agrees_mapM_byte hcursor.rest).bind ?_
  rintro bytes _ rfl
  exact .ok ⟨rfl, .nil, hcursor.last⟩

/-- The column to report is that of the next word, which is the same. -/
theorem Cursor.Recased.column_eq {c d : Cursor} (h : c.Recased d) : d.column = c.column := by
  obtain ⟨ts, last⟩ := c
  obtain ⟨us, last'⟩ := d
  obtain ⟨hrest, hlast⟩ := h
  have hrest : List.Forall₂ Located.Recased ts us := hrest
  cases hrest with
  | nil => exact hlast
  | cons htoken _ => exact htoken.column

/-- A direction is a name, whose case does not count. -/
theorem matches_direction : Cursor.direction.Steady := by
  refine (matches_takeAs fun _ _ h => Located.agrees_name h .direction).bind ?_
  intro name name' hname
  have hfound : direction? name' = direction? name := by
    rw [direction?, direction?, hname]
  rw [hfound]
  cases direction? name with
  | some direction => exact matches_pure rfl
  | none =>
      intro c d hcursor
      exact .error (congrArg Fault.misplaced hcursor.column_eq)

/-- Whether there is a second source depends on the operation alone. -/
theorem matches_secondSource (op : Operation) : (Cursor.secondSource op).Steady := by
  rintro ⟨ts, last⟩ ⟨us, last'⟩ ⟨hrest, hlast⟩
  have hrest : List.Forall₂ Located.Recased ts us := hrest
  cases hrest with
  | nil =>
      by_cases h : op.isUnary = true
      · rw [Cursor.secondSource, Cursor.secondSource, if_pos ⟨h, rfl⟩, if_pos ⟨h, rfl⟩]
        exact .ok ⟨rfl, .nil, hlast⟩
      · rw [Cursor.secondSource, Cursor.secondSource, if_neg fun hboth => h hboth.1,
          if_neg fun hboth => h hboth.1]
        exact matches_index .source _ _ ⟨.nil, hlast⟩
  | cons htoken hmore =>
      rw [Cursor.secondSource_cons, Cursor.secondSource_cons]
      exact matches_index .source _ _ ⟨.cons htoken hmore, hlast⟩

/-- A word too many is at the same column. -/
theorem matches_finish : Cursor.finish.Steady := by
  rintro ⟨ts, last⟩ ⟨us, last'⟩ ⟨hrest, hlast⟩
  have hrest : List.Forall₂ Located.Recased ts us := hrest
  cases hrest with
  | nil => exact .ok ⟨rfl, .nil, hlast⟩
  | cons htoken _ => exact .error (congrArg Fault.misplaced htoken.column)

/-- One case for each verb, by the readers of its words. -/
theorem matches_arguments (v : Verb) : v.arguments.Steady := by
  cases v with
  | write =>
      refine (matches_byte .address).bind ?_
      rintro address _ rfl
      refine matches_payload.bind ?_
      rintro bytes _ rfl
      exact matches_pure rfl
  | write32 =>
      refine (matches_byte .address).bind ?_
      rintro address _ rfl
      refine (matches_takeAs fun _ _ => Located.agrees_word32).bind ?_
      rintro word _ rfl
      exact matches_pure rfl
  | write64 =>
      refine (matches_byte .address).bind ?_
      rintro address _ rfl
      refine (matches_takeAs fun _ _ => Located.agrees_word64).bind ?_
      rintro word _ rfl
      exact matches_pure rfl
  | read =>
      refine (matches_byte .address).bind ?_
      rintro address _ rfl
      exact matches_pure rfl
  | raw =>
      refine matches_direction.bind ?_
      rintro direction _ rfl
      refine (matches_byte .address).bind ?_
      rintro address _ rfl
      refine matches_payload.bind ?_
      rintro bytes _ rfl
      exact matches_pure rfl
  | opcode =>
      refine (matches_index .slot).bind ?_
      rintro slot _ rfl
      refine (matches_takeAs fun _ _ => Located.agrees_kind).bind ?_
      rintro kind _ rfl
      refine (matches_byte .operand).bind ?_
      rintro operand0 _ rfl
      refine (matches_byte .operand).bind ?_
      rintro operand1 _ rfl
      refine (matches_byte .operand).bind ?_
      rintro operand2 _ rfl
      exact matches_pure rfl
  | exec =>
      -- the operation decides how many words follow, and it is the same in both texts
      refine (matches_takeAs fun _ _ => Located.agrees_operation).bind ?_
      rintro op _ rfl
      refine (matches_index .destination).bind ?_
      rintro destination _ rfl
      refine (matches_index .source).bind ?_
      rintro source0 _ rfl
      refine (matches_secondSource op).bind ?_
      rintro source1 _ rfl
      exact matches_pure rfl
  | slot =>
      refine (matches_index .slot).bind ?_
      rintro slot _ rfl
      refine (matches_takeAs fun _ _ => Located.agrees_operation).bind ?_
      rintro op _ rfl
      exact matches_pure rfl
  | reset => exact matches_pure rfl

/-- The whole reader matches itself. -/
theorem matches_reader : Command.reader.Steady := by
  rw [reader_eq]
  refine (matches_takeAs fun _ _ => Located.agrees_verb).bind ?_
  rintro v _ rfl
  refine (matches_arguments v).bind ?_
  rintro command _ rfl
  refine matches_finish.bind ?_
  rintro _ _ _
  exact matches_pure rfl

/-- Words that are written anew end in the same column. -/
theorem recased_ofTokens {ts us : List Located} (h : List.Forall₂ Located.Recased ts us) :
    (Cursor.ofTokens ts).Recased (.ofTokens us) := by
  refine ⟨h, ?_⟩
  have hcolumns : us.map Located.column = ts.map Located.column := by
    induction h with
    | nil => rfl
    | cons htoken _ ih => rw [List.map_cons, List.map_cons, htoken.column, ih]
  show (us.getLast?.map Located.column).getD 1 = (ts.getLast?.map Located.column).getD 1
  rw [← List.getLast?_map, ← List.getLast?_map, hcolumns]

/-- Lines that differ in letter case are read in the same way. -/
theorem agrees_ofTokens {ts us : List Located} (h : List.Forall₂ Located.Recased ts us) :
    Agrees Problem.fault Eq (Command.ofTokens ts) (Command.ofTokens us) := by
  rw [ofTokens_eq, ofTokens_eq]
  refine Agrees.bind (matches_reader _ _ (recased_ofTokens h)) ?_
  rintro r s ⟨heq, -⟩
  exact .ok heq

/-! ## Scripts -/

/-- A line is parsed alike in any case. -/
theorem agrees_parseLine {zero : Bool} {cs ds : List Char} (h : Recased zero cs ds) (line : Nat) :
    Agrees ScriptError.fault Eq (parseLine line cs) (parseLine line ds) := by
  have hscan : Alike (List.Forall₂ Located.Recased) (scan cs) (scan ds) := alike_scanFrom h 1
  rw [parseLine, parseLine]
  generalize scan cs = x at hscan ⊢
  generalize scan ds = y at hscan ⊢
  cases hscan with
  | error column => exact .refl (fun _ => rfl) _
  | ok htokens =>
      cases htokens with
      | nil => exact .refl (fun _ => rfl) _
      | @cons t u ts us htoken hrest =>
          have hcommand := agrees_ofTokens (.cons htoken hrest)
          dsimp only
          generalize Command.ofTokens (t :: ts) = a at hcommand ⊢
          generalize Command.ofTokens (u :: us) = b at hcommand ⊢
          cases hcommand with
          | ok hcommand =>
              obtain rfl := hcommand
              exact .ok rfl
          | error hfault => exact .error (congrArg (Prod.mk line) hfault)

/-- Lines are parsed alike in any case. -/
theorem agrees_parseLines {lines lines' : List (List Char)}
    (h : List.Forall₂ (fun l l' => ∃ zero, Recased zero l l') lines lines') (line : Nat) :
    Agrees ScriptError.fault Eq (parseLines line lines) (parseLines line lines') := by
  induction h generalizing line with
  | nil => exact .refl (fun _ => rfl) _
  | cons hline _ ih =>
      obtain ⟨zero, hline⟩ := hline
      have hfirst := agrees_parseLine hline line
      have hmore := ih (line + 1)
      rw [parseLines, parseLines]
      generalize parseLine line _ = x at hfirst ⊢
      generalize parseLine line _ = y at hfirst ⊢
      generalize parseLines (line + 1) _ = xs at hmore ⊢
      generalize parseLines (line + 1) _ = ys at hmore ⊢
      cases hfirst with
      | error hfault => exact .error hfault
      | ok hfirst =>
          obtain rfl := hfirst
          cases hmore with
          | error hfault => exact .error hfault
          | ok hmore =>
              obtain rfl := hmore
              exact .ok rfl

/-- **Letter case does not matter**: if letters of a script change their case, but for an
    `x` behind a zero, the script is accepted as before, with the same commands on the same
    lines, or it is refused as before, with the same kind of problem on the same line, and
    at the same column if a word is misplaced. -/
theorem parse_recased {source source' : String} (h : Recased false source.toList source'.toList) :
    (∀ lines, parse source' = .ok lines ↔ parse source = .ok lines)
      ∧ ((∃ e, parse source' = .error e) ↔ ∃ e, parse source = .error e)
      ∧ ∀ e e', parse source = .error e → parse source' = .error e' →
          e'.line = e.line ∧ e'.problem.fault = e.problem.fault := by
  obtain ⟨first, more, first', more', hcs, hds, hfirst, hmore⟩ := recased_splitLines h
  have hagrees : Agrees ScriptError.fault Eq (parse source) (parse source') := by
    rw [parse, parse, hcs, hds]
    exact agrees_parseLines (.cons ⟨_, hfirst⟩ hmore) 1
  generalize parse source = x at hagrees ⊢
  generalize parse source' = y at hagrees ⊢
  cases hagrees with
  | ok hlines =>
      obtain rfl := hlines
      exact ⟨fun _ => Iff.rfl, Iff.rfl, fun _ _ he => nomatch he⟩
  | @error e e' hfault =>
      refine ⟨fun lines => ⟨nofun, nofun⟩, ⟨fun _ => ⟨e, rfl⟩, fun _ => ⟨e', rfl⟩⟩, ?_⟩
      intro f f' hf hf'
      obtain rfl := Except.error.inj hf
      obtain rfl := Except.error.inj hf'
      exact Prod.mk.inj hfault

/-- Names, an exponent, hexadecimal digits and a comment in other letters: both texts
    are the same two commands. -/
theorem parse_recased_words :
    let source := "write32 0x1f -1.5e3 # old\nexec sqrt64 0 0xabc"
    let source' := "Write32 0x1F -1.5E3 # OLD\nEXEC SqRt64 0 0xAbC"
    let lines : List ScriptLine :=
      [⟨1, .transaction (.write32 0x1f 0xc4bb8000)⟩,
        ⟨2, .execute ⟨.function .sqrt, 0, 0xabc, 0⟩⟩]
    Recased false source.toList source'.toList
      ∧ parse source = .ok lines
      ∧ parse source' = .ok lines := by
  intro source source' lines
  have h : Recased false source.toList source'.toList := by decide
  have hlines : parse source = .ok lines := by decide +kernel
  exact ⟨h, hlines, ((parse_recased h).1 lines).2 hlines⟩

/-- The mark of a hexadecimal integer is not one of the letters that may change. -/
example : ¬ Recased false "0x1f".toList "0X1f".toList := by decide

end Coprocessor.Script
