import Coprocessor.Proofs.Script.Words

/-!
# Reading — the reader of lines finds exactly the sentences

A reader is told by a relation between the tokens before it, what it returns and
the tokens it leaves. The relation holds exactly when the reader succeeds, so
it tells what is accepted and what is refused at once.

  • `Taken`, `Takes` — the relations, and readers that take what they tell;
    `Takes.bind` composes two of them.
  • `takes_arguments` — what each verb takes behind it.
  • `sentence_iff` — what the verbs take are the sentences.
  • `ofTokens_iff_sentence` — a line is read as a command exactly if it is its
    sentence, and refused exactly if it is none.
-/

namespace Coprocessor.Script

/-! ## What a reader takes -/

/-- What a reader may do: the tokens before it, what it returns, and the tokens
    that it leaves. -/
abbrev Taken (α : Type) := List Token → α → List Token → Prop

namespace Taken

variable {α β : Type}

/-- Takes nothing. -/
def nothing (a : α) : Taken α := fun before b behind => a = b ∧ before = behind

/-- Takes one word of a class. -/
def word (kind : Token → α → Prop) : Taken α := fun before a behind =>
  ∃ t, before = t :: behind ∧ kind t a

/-- Takes every word that is left, each of one class. -/
def words (kind : Token → α → Prop) : Taken (List α) := fun before as behind =>
  List.Forall₂ kind before as ∧ behind = []

/-- Takes two things, one after the other. -/
def andThen (first : Taken α) (second : α → Taken β) : Taken β := fun before b behind =>
  ∃ a middle, first before a middle ∧ second a middle b behind

/-- Takes the second source of an operation, which may be missing at the end of a
    line after a function. -/
def secondSource (op : Operation) : Taken UInt64 := fun before i behind =>
  op.isUnary = true ∧ before = [] ∧ i = 0 ∧ behind = [] ∨ word Token.IsIndex before i behind

end Taken

/-- A reader that, wherever its words stand, succeeds exactly if the relation
    holds. -/
def Takes {α : Type} (read : Reader α) (taken : Taken α) : Prop :=
  ∀ (c : Cursor) (a : α) (behind : List Token),
    (∃ c', read c = .ok (a, c') ∧ c'.rest.map Located.token = behind)
      ↔ taken (c.rest.map Located.token) a behind

section

variable {α β : Type}

/-- To read nothing takes nothing. -/
theorem takes_pure (a : α) : Takes (pure a) (.nothing a) := by
  intro c b behind
  constructor
  · rintro ⟨c', hok, rfl⟩
    obtain ⟨rfl, rfl⟩ := Prod.mk.inj (Except.ok.inj hok)
    exact ⟨rfl, rfl⟩
  · rintro ⟨rfl, rfl⟩
    exact ⟨c, rfl, rfl⟩

/-- Readers one behind the other take words one behind the other. -/
theorem Takes.bind {read : Reader α} {next : α → Reader β} {first : Taken α}
    {second : α → Taken β} (h : Takes read first) (h' : ∀ a, Takes (next a) (second a)) :
    Takes (read >>= next) (first.andThen second) := by
  intro c b behind
  constructor
  · rintro ⟨c'', hok, rfl⟩
    obtain ⟨⟨a, c'⟩, hread, hnext⟩ := bind_eq_ok.1 hok
    exact ⟨a, _, (h c a _).1 ⟨c', hread, rfl⟩, (h' a c' b _).1 ⟨c'', hnext, rfl⟩⟩
  · rintro ⟨a, middle, hfirst, hsecond⟩
    obtain ⟨c', hread, rfl⟩ := (h c a middle).2 hfirst
    obtain ⟨c'', hnext, hbehind⟩ := (h' a c' b behind).2 hsecond
    exact ⟨c'', bind_eq_ok.2 ⟨(a, c'), hread, hnext⟩, hbehind⟩

theorem Cursor.takeAs_cons (role : Role) (read : Located → Except Problem α) (t : Located)
    (rest : List Located) (last : Nat) :
    Cursor.takeAs role read ⟨t :: rest, last⟩ = read t >>= fun a => .ok (a, ⟨rest, last⟩) := rfl

/-- Every word that is left is read, and then nothing is left. -/
theorem Cursor.payload_eq (c : Cursor) :
    Cursor.payload c = c.rest.mapM (Located.byte .payloadByte) >>= fun bytes =>
      .ok (bytes, { c with rest := [] }) := by
  unfold Cursor.payload
  cases c.rest.mapM (Located.byte .payloadByte) with
  | ok bytes => rfl
  | error p => rfl

/-- A word that is left has to be an index, whatever the operation. -/
theorem Cursor.secondSource_cons (op : Operation) (t : Located) (rest : List Located)
    (last : Nat) :
    Cursor.secondSource op ⟨t :: rest, last⟩ = Cursor.index .source ⟨t :: rest, last⟩ :=
  if_neg fun h => List.cons_ne_nil t rest h.2

/-- A word is taken if it is of the class that it is read as. -/
theorem takes_takeAs {role : Role} {read : Located → Except Problem α}
    {kind : Token → α → Prop} (h : ∀ t a, read t = .ok a ↔ kind t.token a) :
    Takes (Cursor.takeAs role read) (.word kind) := by
  rintro ⟨rest, last⟩ a behind
  cases rest with
  | nil =>
      constructor
      · rintro ⟨c', hok, -⟩
        exact nomatch hok
      · rintro ⟨t, heq, -⟩
        exact nomatch heq
  | cons t rest =>
      rw [Cursor.takeAs_cons]
      constructor
      · rintro ⟨c', hok, rfl⟩
        obtain ⟨a', ha, hok⟩ := bind_eq_ok.1 hok
        obtain ⟨rfl, rfl⟩ := Prod.mk.inj (Except.ok.inj hok)
        exact ⟨t.token, rfl, (h t a').1 ha⟩
      · rintro ⟨token, heq, htoken⟩
        obtain ⟨rfl, rfl⟩ := List.cons.inj heq
        exact ⟨⟨rest, last⟩, bind_eq_ok.2 ⟨a, (h t a).2 htoken, rfl⟩, rfl⟩

end

/-- An index takes one word. -/
theorem takes_index (role : Role) : Takes (Cursor.index role) (.word Token.IsIndex) :=
  takes_takeAs fun _ _ => Located.integer_eq_ok

theorem takes_byte (role : Role) : Takes (Cursor.byte role) (.word Token.IsByte) :=
  takes_takeAs fun _ _ => Located.byte_eq_ok

theorem takes_operation :
    Takes (Cursor.takeAs .operation Located.operation) (.word Token.IsOperation) :=
  takes_takeAs fun _ _ => Located.operation_eq_ok

/-- A payload takes all words that are left, each of them a byte. -/
theorem takes_payload : Takes Cursor.payload (.words Token.IsByte) := by
  intro c bytes behind
  rw [Cursor.payload, Taken.words, ← mapM_byte_eq_ok .payloadByte]
  cases c.rest.mapM (Located.byte .payloadByte) with
  | ok found =>
      constructor
      · rintro ⟨c', hok, rfl⟩
        obtain ⟨rfl, rfl⟩ := Prod.mk.inj (Except.ok.inj hok)
        exact ⟨rfl, rfl⟩
      · rintro ⟨hok, rfl⟩
        obtain rfl := Except.ok.inj hok
        exact ⟨_, rfl, rfl⟩
  | error p =>
      constructor
      · rintro ⟨c', hok, -⟩
        exact nomatch hok
      · rintro ⟨hok, -⟩
        exact nomatch hok

/-- A second source takes one word of an operation with two, and none of a function. -/
theorem takes_secondSource (op : Operation) :
    Takes (Cursor.secondSource op) (.secondSource op) := by
  intro c a behind
  rw [Cursor.secondSource, Taken.secondSource]
  by_cases h : op.isUnary = true ∧ c.rest = []
  · rw [if_pos h, h.2]
    constructor
    · rintro ⟨c', hok, rfl⟩
      obtain ⟨rfl, rfl⟩ := Prod.mk.inj (Except.ok.inj hok)
      exact Or.inl ⟨h.1, rfl, rfl, by rw [h.2]; rfl⟩
    · rintro (⟨-, -, rfl, rfl⟩ | ⟨t, heq, -⟩)
      · exact ⟨c, rfl, by rw [h.2]; rfl⟩
      · exact nomatch heq
  · rw [if_neg h]
    refine (takes_index .source c a behind).trans ⟨Or.inr, ?_⟩
    rintro (⟨hunary, hnil, -⟩ | hword)
    · exact absurd ⟨hunary, List.map_eq_nil_iff.1 hnil⟩ h
    · exact hword

/-- A direction is a name. -/
theorem Token.IsDirection.identifier {t : Token} {direction : Direction}
    (h : t.IsDirection direction) : ∃ name, t = .identifier name := by
  rcases h with (⟨name, h, -⟩ | ⟨name, h, -⟩) | (⟨name, h, -⟩ | ⟨name, h, -⟩) <;>
    exact ⟨name, h⟩

/-- A direction takes one word. -/
theorem takes_direction : Takes Cursor.direction (.word Token.IsDirection) := by
  have hname : Takes (Cursor.takeAs .direction (Located.name .direction))
      (.word fun t name => t = .identifier name) :=
    takes_takeAs fun _ _ => Located.name_eq_ok
  -- first a name, and then the direction of that name
  have hlookup : Takes Cursor.direction
      (.andThen (.word fun t name => t = .identifier name) fun name before direction behind =>
        direction? name = some direction ∧ before = behind) := by
    refine hname.bind fun name => ?_
    intro c direction behind
    cases direction? name with
    | none =>
        constructor
        · rintro ⟨c', hok, -⟩
          exact nomatch hok
        · rintro ⟨heq, -⟩
          exact nomatch heq
    | some found =>
        constructor
        · rintro ⟨c', hok, rfl⟩
          obtain ⟨rfl, rfl⟩ := Prod.mk.inj (Except.ok.inj hok)
          exact ⟨rfl, rfl⟩
        · rintro ⟨heq, rfl⟩
          obtain rfl := Option.some.inj heq
          exact ⟨c, rfl, rfl⟩
  intro c direction behind
  refine (hlookup c direction behind).trans ?_
  constructor
  · rintro ⟨name, middle, ⟨t, heq, rfl⟩, hdirection, rfl⟩
    exact ⟨_, heq, direction?_eq_some.1 hdirection⟩
  · rintro ⟨t, heq, hdirection⟩
    obtain ⟨name, rfl⟩ := hdirection.identifier
    exact ⟨name, behind, ⟨_, heq, rfl⟩, direction?_eq_some.2 hdirection, rfl⟩

/-- The end of a command takes nothing and leaves nothing. -/
theorem takes_finish :
    Takes Cursor.finish fun before _ behind => before = [] ∧ behind = [] := by
  rintro ⟨rest, last⟩ a behind
  cases rest with
  | nil =>
      constructor
      · rintro ⟨c', hok, rfl⟩
        obtain ⟨-, rfl⟩ := Prod.mk.inj (Except.ok.inj hok)
        exact ⟨rfl, rfl⟩
      · rintro ⟨-, rfl⟩
        exact ⟨_, rfl, rfl⟩
  | cons t rest =>
      constructor
      · rintro ⟨c', hok, -⟩
        exact nomatch hok
      · rintro ⟨hnil, -⟩
        exact nomatch hnil

/-! ## Whole lines -/

/-- What a verb takes behind it. -/
def Verb.taken : Verb → Taken Command
  | .write =>
      (Taken.word Token.IsByte).andThen fun address =>
      (Taken.words Token.IsByte).andThen fun bytes =>
      .nothing (.transaction ⟨.write, address, bytes⟩)
  | .write32 =>
      (Taken.word Token.IsByte).andThen fun address =>
      (Taken.word Token.IsWord32).andThen fun word =>
      .nothing (.transaction (.write32 address word))
  | .write64 =>
      (Taken.word Token.IsByte).andThen fun address =>
      (Taken.word Token.IsWord64).andThen fun word =>
      .nothing (.transaction (.write64 address word))
  | .read =>
      (Taken.word Token.IsByte).andThen fun address => .nothing (.transaction (.read address))
  | .raw =>
      (Taken.word Token.IsDirection).andThen fun direction =>
      (Taken.word Token.IsByte).andThen fun address =>
      (Taken.words Token.IsByte).andThen fun bytes =>
      .nothing (.transaction ⟨direction, address, bytes⟩)
  | .opcode =>
      (Taken.word Token.IsIndex).andThen fun slot =>
      (Taken.word Token.IsKind).andThen fun kind =>
      (Taken.word Token.IsByte).andThen fun operand0 =>
      (Taken.word Token.IsByte).andThen fun operand1 =>
      (Taken.word Token.IsByte).andThen fun operand2 =>
      .nothing (.opcode slot ⟨kind, operand0, operand1, operand2⟩)
  | .exec =>
      (Taken.word Token.IsOperation).andThen fun op =>
      (Taken.word Token.IsIndex).andThen fun destination =>
      (Taken.word Token.IsIndex).andThen fun source0 =>
      (Taken.secondSource op).andThen fun source1 =>
      .nothing (.execute ⟨op, destination, source0, source1⟩)
  | .slot =>
      (Taken.word Token.IsIndex).andThen fun slot =>
      (Taken.word Token.IsOperation).andThen fun op =>
      .nothing (.executeSlot slot op)
  | .reset => .nothing .reset

/-- The arguments of each verb take what its sentence says. -/
theorem takes_arguments (v : Verb) : Takes v.arguments v.taken := by
  cases v with
  | write =>
      exact (takes_byte .address).bind fun _ => takes_payload.bind fun _ => takes_pure _
  | write32 =>
      exact (takes_byte .address).bind fun _ =>
        (takes_takeAs fun _ _ => Located.word32_eq_ok).bind fun _ => takes_pure _
  | write64 =>
      exact (takes_byte .address).bind fun _ =>
        (takes_takeAs fun _ _ => Located.word64_eq_ok).bind fun _ => takes_pure _
  | read => exact (takes_byte .address).bind fun _ => takes_pure _
  | raw =>
      exact takes_direction.bind fun _ => (takes_byte .address).bind fun _ =>
        takes_payload.bind fun _ => takes_pure _
  | opcode =>
      exact (takes_index .slot).bind fun _ =>
        (takes_takeAs fun _ _ => Located.kind_eq_ok).bind fun _ =>
        (takes_byte .operand).bind fun _ => (takes_byte .operand).bind fun _ =>
        (takes_byte .operand).bind fun _ => takes_pure _
  | exec =>
      exact takes_operation.bind fun op => (takes_index .destination).bind fun _ =>
        (takes_index .source).bind fun _ => (takes_secondSource op).bind fun _ => takes_pure _
  | slot =>
      exact (takes_index .slot).bind fun _ => takes_operation.bind fun _ => takes_pure _
  | reset => exact takes_pure _

/-- The name of a verb, what the verb takes, and nothing else. -/
def Verb.Line (v : Verb) (tokens : List Token) (command : Command) : Prop :=
  ∃ t arguments, tokens = t :: arguments ∧ t.IsNamed v.name ∧ v.taken arguments command []

/-- A line is read as a verb, what the verb reads behind it, and the end. -/
theorem reader_eq :
    Command.reader = Cursor.takeAs .command Located.verb >>= fun v =>
      v.arguments >>= fun command => Cursor.finish >>= fun _ => pure command := by
  simp only [Command.reader, Cursor.takeAs, Located.verb, bind_assoc, liftM_bind]
  congr 1
  funext t
  congr 1
  funext name
  cases Verb.ofName? name with
  | none => rfl
  | some v => rfl

/-- The command of a line is what its reader returns. -/
theorem ofTokens_eq (words : List Located) :
    Command.ofTokens words = Command.reader (.ofTokens words) >>= fun r => .ok r.1 := by
  unfold Command.ofTokens
  cases Command.reader (.ofTokens words) with
  | ok r => rfl
  | error p => rfl

/-- A reader of lines takes the whole line of some verb. -/
theorem takes_reader :
    Takes Command.reader fun before command behind =>
      behind = [] ∧ ∃ v : Verb, v.Line before command := by
  have hverb : Takes (Cursor.takeAs .command Located.verb) (.word fun t v => t.IsNamed v.name) :=
    takes_takeAs fun _ _ => Located.verb_eq_ok
  have hline := hverb.bind fun v =>
    (takes_arguments v).bind fun command => takes_finish.bind fun _ => takes_pure command
  rw [reader_eq]
  intro c command behind
  refine (hline c command behind).trans ?_
  constructor
  · rintro ⟨v, _, ⟨t, heq, hname⟩, _, _, htaken, _, _, ⟨rfl, rfl⟩, rfl, rfl⟩
    exact ⟨rfl, v, t, _, heq, hname, htaken⟩
  · rintro ⟨rfl, v, t, arguments, heq, hname, htaken⟩
    exact ⟨v, arguments, ⟨t, heq, hname⟩, command, [], htaken, (), [], ⟨rfl, rfl⟩, rfl, rfl⟩

/-- The sentences are the lines of all verbs. -/
theorem sentence_iff {tokens : List Token} {command : Command} :
    Sentence tokens command ↔ ∃ v : Verb, v.Line tokens command := by
  constructor
  · intro h
    cases h with
    | write hverb haddress hpayload =>
        exact ⟨.write, _, _, rfl, hverb, _, _, ⟨_, rfl, haddress⟩, _, _, ⟨hpayload, rfl⟩, rfl, rfl⟩
    | write32 hverb haddress hvalue =>
        exact ⟨.write32, _, _, rfl, hverb, _, _, ⟨_, rfl, haddress⟩, _, _, ⟨_, rfl, hvalue⟩,
          rfl, rfl⟩
    | write64 hverb haddress hvalue =>
        exact ⟨.write64, _, _, rfl, hverb, _, _, ⟨_, rfl, haddress⟩, _, _, ⟨_, rfl, hvalue⟩,
          rfl, rfl⟩
    | read hverb haddress =>
        exact ⟨.read, _, _, rfl, hverb, _, _, ⟨_, rfl, haddress⟩, rfl, rfl⟩
    | raw hverb hdirection haddress hpayload =>
        exact ⟨.raw, _, _, rfl, hverb, _, _, ⟨_, rfl, hdirection⟩, _, _, ⟨_, rfl, haddress⟩,
          _, _, ⟨hpayload, rfl⟩, rfl, rfl⟩
    | opcode hverb hslot hkind hfirst hsecond hthird =>
        exact ⟨.opcode, _, _, rfl, hverb, _, _, ⟨_, rfl, hslot⟩, _, _, ⟨_, rfl, hkind⟩,
          _, _, ⟨_, rfl, hfirst⟩, _, _, ⟨_, rfl, hsecond⟩, _, _, ⟨_, rfl, hthird⟩, rfl, rfl⟩
    | exec hverb hop hfirst hsecond hthird =>
        exact ⟨.exec, _, _, rfl, hverb, _, _, ⟨_, rfl, hop⟩, _, _, ⟨_, rfl, hfirst⟩,
          _, _, ⟨_, rfl, hsecond⟩, _, _, Or.inr ⟨_, rfl, hthird⟩, rfl, rfl⟩
    | execFunction hverb hop hfirst hsecond =>
        exact ⟨.exec, _, _, rfl, hverb, _, _, ⟨_, rfl, hop⟩, _, _, ⟨_, rfl, hfirst⟩,
          _, _, ⟨_, rfl, hsecond⟩, _, _, Or.inl ⟨rfl, rfl, rfl, rfl⟩, rfl, rfl⟩
    | slot hverb hslot hop =>
        exact ⟨.slot, _, _, rfl, hverb, _, _, ⟨_, rfl, hslot⟩, _, _, ⟨_, rfl, hop⟩, rfl, rfl⟩
    | reset hverb => exact ⟨.reset, _, _, rfl, hverb, rfl, rfl⟩
  · rintro ⟨v, t, arguments, rfl, hverb, htaken⟩
    cases v with
    | write =>
        obtain ⟨_, _, ⟨_, rfl, haddress⟩, _, _, ⟨hpayload, rfl⟩, rfl, -⟩ := htaken
        exact .write hverb haddress hpayload
    | write32 =>
        obtain ⟨_, _, ⟨_, rfl, haddress⟩, _, _, ⟨_, rfl, hvalue⟩, rfl, rfl⟩ := htaken
        exact .write32 hverb haddress hvalue
    | write64 =>
        obtain ⟨_, _, ⟨_, rfl, haddress⟩, _, _, ⟨_, rfl, hvalue⟩, rfl, rfl⟩ := htaken
        exact .write64 hverb haddress hvalue
    | read =>
        obtain ⟨_, _, ⟨_, rfl, haddress⟩, rfl, rfl⟩ := htaken
        exact .read hverb haddress
    | raw =>
        obtain ⟨_, _, ⟨_, rfl, hdirection⟩, _, _, ⟨_, rfl, haddress⟩, _, _, ⟨hpayload, rfl⟩,
          rfl, -⟩ := htaken
        exact .raw hverb hdirection haddress hpayload
    | opcode =>
        obtain ⟨_, _, ⟨_, rfl, hslot⟩, _, _, ⟨_, rfl, hkind⟩, _, _, ⟨_, rfl, hfirst⟩,
          _, _, ⟨_, rfl, hsecond⟩, _, _, ⟨_, rfl, hthird⟩, rfl, rfl⟩ := htaken
        exact .opcode hverb hslot hkind hfirst hsecond hthird
    | exec =>
        -- without a second source the operation has to be a function
        obtain ⟨op, _, ⟨_, rfl, hop⟩, _, _, ⟨_, rfl, hfirst⟩, _, _, ⟨_, rfl, hsecond⟩, _, _,
          ⟨hunary, rfl, rfl, -⟩ | ⟨_, rfl, hthird⟩, rfl, hlast⟩ := htaken
        · cases op with
          | single _ => exact nomatch hunary
          | double _ => exact nomatch hunary
          | function fn => exact .execFunction hverb hop hfirst hsecond
        · obtain rfl := hlast
          exact .exec hverb hop hfirst hsecond hthird
    | slot =>
        obtain ⟨_, _, ⟨_, rfl, hslot⟩, _, _, ⟨_, rfl, hop⟩, rfl, rfl⟩ := htaken
        exact .slot hverb hslot hop
    | reset =>
        obtain ⟨rfl, rfl⟩ := htaken
        exact .reset hverb

/-- A line is read as a command exactly if it is its sentence. -/
theorem ofTokens_eq_ok {words : List Located} {command : Command} :
    Command.ofTokens words = .ok command ↔ Sentence (words.map Located.token) command := by
  have hreader := takes_reader (.ofTokens words) command []
  rw [sentence_iff, Command.ofTokens]
  constructor
  · intro h
    cases hread : Command.reader (.ofTokens words) with
    | error p =>
        rw [hread] at h
        exact nomatch h
    | ok result =>
        obtain ⟨found, c'⟩ := result
        rw [hread] at h
        obtain rfl := Except.ok.inj h
        have hrest := (takes_reader (.ofTokens words) found _).1 ⟨c', hread, rfl⟩
        exact hrest.2
  · intro h
    obtain ⟨c', hread, -⟩ := hreader.2 ⟨rfl, h⟩
    rw [hread]

/-- **The grammar is exact**: a line is read as a command if and only if its tokens
    are the sentence of that command, and a line that is no sentence is refused. -/
theorem ofTokens_iff_sentence (words : List Located) (command : Command) :
    (Command.ofTokens words = .ok command ↔ Sentence (words.map Located.token) command)
      ∧ ((∃ p, Command.ofTokens words = .error p)
        ↔ ∀ c, ¬ Sentence (words.map Located.token) c) := by
  refine ⟨ofTokens_eq_ok, ?_⟩
  constructor
  · rintro ⟨p, hp⟩ c hc
    have hok := ofTokens_eq_ok.2 hc
    rw [hp] at hok
    exact nomatch hok
  · intro hnone
    cases h : Command.ofTokens words with
    | error p => exact ⟨p, rfl⟩
    | ok c => exact absurd (ofTokens_eq_ok.1 h) (hnone c)

end Coprocessor.Script
