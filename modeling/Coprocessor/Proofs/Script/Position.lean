import Coprocessor.Proofs.Script.Reading

/-!
# Position — the word that a syntax error names

Words are read from the left, so a line is refused at the first word with which
no command begins any more. A syntax error that names a word names that one, and
it gives the column of that word unless the word should have been a direction:
then it is taken already, and the column is that of the word behind it.

  • `Misplacement.Names`, `Misplacement.columnAt` — the word that a misplacement
    names, and the column that goes with it.
  • `Begins`, `Blamed` — the tokens with which something of a kind begins, and the
    first word with which nothing does.
  • `PointsAt`, `Picks`, `Precise` — a way to read a word, a reader of one word and
    a reader of all that is left, each of which names what it refuses;
    `Picks.bind` puts a word in front of what is left.
  • `precise_line` — what each verb reads behind it, one case for each verb.
  • `misplaced_first` — the word that a refused line is blamed on.
  • `misplaced_elsewhere` — a line whose error has the column of another word.
-/

namespace Coprocessor.Script

/-! ## What a misplacement names -/

/-- The tokens that a misplacement can name. -/
inductive Misplacement.Names : Misplacement → Token → Prop where
  | unexpected (role : Role) (found : Token) : Names (.unexpected role found) found
  | notDirection {lower : String} {found : Token} (h : found.IsNamed lower) :
      Names (.notDirection lower) found
  | trailing (found : Token) : Names (.trailing found) found

/-- The column that is reported with a misplacement of a word, given what stands
    behind the word. -/
def Misplacement.columnAt (t : Located) (behind : List Located) : Misplacement → Nat
  | .notDirection _ => (behind.head?.map Located.column).getD t.column
  | _ => t.column

/-- A cursor that knows the column of the last word. -/
def Cursor.Sound (c : Cursor) : Prop := ∀ t ∈ c.rest.getLast?, t.column = c.last

/-- A cursor in front of a line knows the column of the last word. -/
theorem Cursor.sound_ofTokens (tokens : List Located) : (Cursor.ofTokens tokens).Sound := by
  intro t ht
  have hlast : tokens.getLast? = some t := ht
  show t.column = (tokens.getLast?.map Located.column).getD 1
  rw [hlast]
  rfl

theorem Cursor.Sound.tail {t : Located} {rest : List Located} {last : Nat}
    (h : Cursor.Sound ⟨t :: rest, last⟩) : Cursor.Sound ⟨rest, last⟩ := by
  intro u hu
  have hlast : rest.getLast? = some u := hu
  refine h u ?_
  show (t :: rest).getLast? = some u
  rw [List.getLast?_cons, hlast]
  rfl

/-! ## Single words -/

/-- A way to read a word that names the word, at its column, where it finds the
    word misplaced. -/
def PointsAt {α : Type} (read : Located → Except Problem α) : Prop :=
  ∀ t column what, read t = .error (.misplaced column what) →
    ∃ role, what = .unexpected role t.token ∧ column = t.column

namespace Located

/-- A word that is no name is pointed at. -/
theorem pointsAt_name (role : Role) : PointsAt (name role) := by
  intro t column what h
  unfold name at h
  split at h
  · exact nomatch h
  · obtain ⟨rfl, rfl⟩ := Problem.misplaced.inj (Except.error.inj h)
    exact ⟨role, rfl, rfl⟩

theorem pointsAt_integer (role : Role) : PointsAt (integer role) := by
  intro t column what h
  unfold integer at h
  split at h
  · exact nomatch h
  · split at h
    · exact nomatch h
    · exact nomatch h
  · obtain ⟨rfl, rfl⟩ := Problem.misplaced.inj (Except.error.inj h)
    exact ⟨role, rfl, rfl⟩

end Located

section

variable {α β : Type} {read : Located → Except Problem α} {next : α → Except Problem β}

/-- A check of what was read, which finds nothing misplaced. -/
theorem PointsAt.bind (h : PointsAt read)
    (hnext : ∀ a column what, next a ≠ .error (.misplaced column what)) :
    PointsAt fun t => read t >>= next := by
  intro t column what herror
  rcases bind_eq_error.1 herror with hread | ⟨a, -, hcheck⟩
  · exact h t column what hread
  · exact absurd hcheck (hnext a column what)

end

namespace Located

/-- A number that is no byte is unsuitable, not misplaced. -/
theorem pointsAt_byte (role : Role) : PointsAt (byte role) := by
  refine (pointsAt_integer role).bind fun value column what h => ?_
  split at h
  · exact nomatch h
  · exact nomatch h

theorem pointsAt_word32 : PointsAt word32 := by
  intro t column what h
  unfold word32 at h
  split at h
  · exact nomatch h
  · refine (pointsAt_integer .value).bind (fun value column what h => ?_) t column what h
    split at h
    · exact nomatch h
    · exact nomatch h

theorem pointsAt_word64 : PointsAt word64 := by
  intro t column what h
  unfold word64 at h
  split at h
  · exact nomatch h
  · exact pointsAt_integer .value t column what h

/-- An unknown operation is not misplaced. -/
theorem pointsAt_operation : PointsAt operation := by
  refine (pointsAt_name .operation).bind fun name column what h => ?_
  split at h
  · exact nomatch h
  · exact nomatch h

theorem pointsAt_kind : PointsAt kind := by
  refine (pointsAt_name .kind).bind fun name column what h => ?_
  split at h
  · exact nomatch h
  · exact nomatch h

end Located

/-! ## What is blamed -/

/-- What is read first is handed over with the words behind it. -/
theorem Reader.bind_ok {α β : Type} {read : Reader α} {next : α → Reader β} {c c' : Cursor} {a : α}
    (h : read c = .ok (a, c')) : (read >>= next) c = next a c' := by
  show (read c >>= fun (a, c') => next a c') = next a c'
  rw [h]
  rfl

/-- A problem ends the reading. -/
theorem Reader.bind_error {α β : Type} {read : Reader α} {next : α → Reader β} {c : Cursor}
    {p : Problem} (h : read c = .error p) : (read >>= next) c = .error p := by
  show (read c >>= fun (a, c') => next a c') = .error p
  rw [h]
  rfl

/-- The tokens with which something of a kind begins. -/
def Begins {α : Type} (whole : List Token → α → Prop) (tokens : List Token) : Prop :=
  ∃ more a, whole (tokens ++ more) a

/-- A misplacement that is blamed on the first word with which nothing of a kind
    begins any more. -/
structure Blamed {α : Type} (whole : List Token → α → Prop) (words : List Located)
    (column : Nat) (what : Misplacement) (before : List Located) (t : Located)
    (behind : List Located) : Prop where
  split : words = before ++ t :: behind
  begins : Begins whole (before.map Located.token)
  ends : ¬ Begins whole (before.map Located.token ++ [t.token])
  names : what.Names t.token
  column_eq : column = what.columnAt t behind

section

variable {α β : Type}

/-- Lines that are the same lines begin in the same way. -/
theorem Blamed.congr {whole : List Token → α → Prop} {whole' : List Token → β → Prop}
    {words before behind : List Located} {t : Located} {column : Nat} {what : Misplacement}
    (h : ∀ tokens, (∃ a, whole tokens a) ↔ ∃ b, whole' tokens b)
    (hblamed : Blamed whole words column what before t behind) :
    Blamed whole' words column what before t behind := by
  have hbegins : ∀ tokens, Begins whole tokens ↔ Begins whole' tokens := fun tokens =>
    exists_congr fun more => h (tokens ++ more)
  refine ⟨hblamed.split, (hbegins _).1 hblamed.begins, ?_, hblamed.names, hblamed.column_eq⟩
  exact fun hends => hblamed.ends ((hbegins _).2 hends)

/-- The first word is blamed if nothing begins with it. -/
theorem Blamed.first {whole : List Token → α → Prop} {t : Located} {rest : List Located}
    {column : Nat} {what : Misplacement} (hsome : ∃ tokens a, whole tokens a)
    (hnone : ∀ tokens a, ¬ whole (t.token :: tokens) a) (hnames : what.Names t.token)
    (hcolumn : column = what.columnAt t rest) :
    Blamed whole (t :: rest) column what [] t rest := by
  refine ⟨rfl, hsome, ?_, hnames, hcolumn⟩
  rintro ⟨more, a, h⟩
  exact hnone more a h

/-- A word that is blamed in what stands behind a word is blamed in the whole. -/
theorem Blamed.behind {whole : List Token → α → Prop} {whole' : List Token → β → Prop}
    {t u : Located} {words before behind : List Located} {column : Nat} {what : Misplacement}
    (h : ∀ tokens, (∃ a, whole tokens a) ↔ ∃ b, whole' (t.token :: tokens) b)
    (hblamed : Blamed whole words column what before u behind) :
    Blamed whole' (t :: words) column what (t :: before) u behind := by
  have hbegins : ∀ tokens, Begins whole tokens ↔ Begins whole' (t.token :: tokens) := fun tokens =>
    exists_congr fun more => h (tokens ++ more)
  refine ⟨congrArg (t :: ·) hblamed.split, (hbegins _).1 hblamed.begins, ?_, hblamed.names,
    hblamed.column_eq⟩
  exact fun hends => hblamed.ends ((hbegins _).2 hends)

/-- A reader of one word of a class, which names the word if it finds it misplaced. -/
structure Picks (read : Reader α) (kind : Token → α → Prop) : Prop where
  some_word : ∃ t a, kind t a
  unique : ∀ {t a b}, kind t a → kind t b → a = b
  missing : ∀ last, ∃ role, read ⟨[], last⟩ = .error (.misplaced last (.missing role))
  cases : ∀ {t rest last}, Cursor.Sound ⟨t :: rest, last⟩ →
    (∃ a, kind t.token a ∧ read ⟨t :: rest, last⟩ = .ok (a, ⟨rest, last⟩))
      ∨ (∀ a, ¬ kind t.token a) ∧ ∃ p, read ⟨t :: rest, last⟩ = .error p
        ∧ ∀ column what, p = .misplaced column what →
          what.Names t.token ∧ column = what.columnAt t rest

/-- A reader of all that is left of a line, whose misplacements are blamed on the
    first word with which nothing goes on. -/
structure Precise (read : Reader α) (whole : List Token → α → Prop) : Prop where
  some_line : ∃ tokens a, whole tokens a
  blames : ∀ {c column what found}, Cursor.Sound c → read c = .error (.misplaced column what) →
    what.Names found → ∃ before t behind, Blamed whole c.rest column what before t behind

/-- A word in front of the rest of a line. -/
theorem Picks.bind {read : Reader α} {kind : Token → α → Prop} {next : α → Reader β}
    {second : α → Taken β} (h : Picks read kind)
    (hnext : ∀ a, Precise (next a) fun tokens b => second a tokens b []) :
    Precise (read >>= next) fun tokens b => ((Taken.word kind).andThen second) tokens b [] := by
  have hsome : ∃ tokens b, ((Taken.word kind).andThen second) tokens b [] := by
    obtain ⟨t, a, ht⟩ := h.some_word
    obtain ⟨tokens, b, htokens⟩ := (hnext a).some_line
    exact ⟨t :: tokens, b, a, tokens, ⟨t, rfl, ht⟩, htokens⟩
  refine ⟨hsome, ?_⟩
  rintro ⟨rest, last⟩ column what found hsound herror hnames
  cases rest with
  | nil =>
      obtain ⟨role, hmissing⟩ := h.missing last
      rw [Reader.bind_error hmissing] at herror
      obtain ⟨-, rfl⟩ := Problem.misplaced.inj (Except.error.inj herror)
      exact nomatch hnames
  | cons t rest =>
      rcases h.cases hsound with ⟨a, ha, hok⟩ | ⟨hnone, p, hp, hblame⟩
      · -- the word is read, so the blame lies with what is read behind it
        rw [Reader.bind_ok hok] at herror
        obtain ⟨before, u, behind, hblamed⟩ := (hnext a).blames hsound.tail herror hnames
        refine ⟨t :: before, u, behind, hblamed.behind fun tokens => ?_⟩
        constructor
        · rintro ⟨b, hb⟩
          exact ⟨b, a, tokens, ⟨t.token, rfl, ha⟩, hb⟩
        · rintro ⟨b, a', middle, ⟨token, heq, htoken⟩, hb⟩
          obtain ⟨rfl, rfl⟩ := List.cons.inj heq
          obtain rfl := h.unique ha htoken
          exact ⟨b, hb⟩
      · -- the word is refused, so nothing begins with it
        rw [Reader.bind_error hp] at herror
        obtain ⟨hu, hcolumn⟩ := hblame column what (Except.error.inj herror)
        refine ⟨[], t, rest, .first hsome ?_ hu hcolumn⟩
        rintro tokens b ⟨a, middle, ⟨token, heq, htoken⟩, -⟩
        obtain ⟨rfl, -⟩ := List.cons.inj heq
        exact hnone a htoken

/-- A word is blamed if it is not of the class that it is read as. -/
theorem picks_takeAs {role : Role} {read : Located → Except Problem α}
    {kind : Token → α → Prop} (h : ∀ t a, read t = .ok a ↔ kind t.token a)
    (hpoints : PointsAt read) (hsome : ∃ t a, kind t a) :
    Picks (Cursor.takeAs role read) kind := by
  refine ⟨hsome, ?_, fun last => ⟨role, rfl⟩, ?_⟩
  · intro t a b ha hb
    have hok := (h ⟨t, 0⟩ a).2 ha
    rw [(h ⟨t, 0⟩ b).2 hb] at hok
    exact (Except.ok.inj hok).symm
  · intro t rest last _
    cases hword : read t with
    | ok a =>
        refine Or.inl ⟨a, (h t a).1 hword, ?_⟩
        rw [Cursor.takeAs_cons, hword]
        rfl
    | error p =>
        refine Or.inr ⟨fun a ha => ?_, p, ?_, ?_⟩
        · rw [(h t a).2 ha] at hword
          exact nomatch hword
        · rw [Cursor.takeAs_cons, hword]
          rfl
        · rintro column what rfl
          obtain ⟨role', rfl, rfl⟩ := hpoints t column what hword
          exact ⟨.unexpected role' t.token, rfl⟩

end

theorem Token.some_integer : (Token.hexadecimal 0).IsInteger 0 := .hexadecimal rfl

/-- An index is read from the word in front. -/
theorem picks_index (role : Role) : Picks (Cursor.index role) Token.IsIndex :=
  picks_takeAs (fun _ _ => Located.integer_eq_ok) (Located.pointsAt_integer role)
    ⟨_, 0, Token.some_integer⟩

/-- A byte is read from the word in front. -/
theorem picks_byte (role : Role) : Picks (Cursor.byte role) Token.IsByte :=
  picks_takeAs (fun _ _ => Located.byte_eq_ok) (Located.pointsAt_byte role)
    ⟨_, 0, Token.some_integer⟩

/-- An operation is read from the word in front. -/
theorem picks_operation : Picks (Cursor.takeAs .operation Located.operation) Token.IsOperation :=
  picks_takeAs (fun _ _ => Located.operation_eq_ok) Located.pointsAt_operation
    ⟨_, .function .sin, _, rfl, Operation.ofMnemonic?_mnemonic _⟩

theorem picks_kind : Picks (Cursor.takeAs .kind Located.kind) Token.IsKind :=
  picks_takeAs (fun _ _ => Located.kind_eq_ok) Located.pointsAt_kind
    ⟨_, .exec, _, rfl, Kind.ofMnemonic?_mnemonic _⟩

/-- A value is read from the word in front. -/
theorem picks_word32 : Picks (Cursor.takeAs .value Located.word32) Token.IsWord32 :=
  picks_takeAs (fun _ _ => Located.word32_eq_ok) Located.pointsAt_word32
    ⟨_, 0, .integer Token.some_integer⟩

theorem picks_word64 : Picks (Cursor.takeAs .value Located.word64) Token.IsWord64 :=
  picks_takeAs (fun _ _ => Located.word64_eq_ok) Located.pointsAt_word64
    ⟨_, 0, .integer Token.some_integer⟩

/-- A direction is read from the word in front, and blamed there. -/
theorem picks_direction : Picks Cursor.direction Token.IsDirection := by
  have hname : Picks (Cursor.takeAs .direction (Located.name .direction))
      (fun t name => t = .identifier name) :=
    picks_takeAs (fun _ _ => Located.name_eq_ok) (Located.pointsAt_name .direction)
      ⟨_, "read", rfl⟩
  rw [Cursor.direction]
  refine ⟨⟨_, _, .read (Or.inl ⟨"read", rfl, by decide +kernel⟩)⟩, ?_, ?_, ?_⟩
  · intro t a b ha hb
    obtain ⟨name, rfl⟩ := ha.identifier
    exact Option.some.inj ((direction?_eq_some.2 ha).symm.trans (direction?_eq_some.2 hb))
  · intro last
    obtain ⟨role, hmissing⟩ := hname.missing last
    exact ⟨role, Reader.bind_error hmissing⟩
  · intro t rest last hsound
    rcases hname.cases hsound with ⟨name, htoken, hok⟩ | ⟨hnone, p, hp, hblame⟩
    · rw [Reader.bind_ok hok, htoken]
      cases hdirection : direction? name with
      | some direction => exact Or.inl ⟨direction, direction?_eq_some.1 hdirection, rfl⟩
      | none =>
          refine Or.inr ⟨fun direction h => ?_, _, rfl, fun column what h => ?_⟩
          · rw [← direction?_eq_some, hdirection] at h
            exact nomatch h
          · obtain ⟨rfl, rfl⟩ := Problem.misplaced.inj h
            refine ⟨.notDirection ⟨name, rfl, rfl⟩, ?_⟩
            -- the word is taken already, so the cursor stands at the word behind it
            cases rest with
            | nil => exact (hsound t rfl).symm
            | cons _ _ => rfl
    · refine Or.inr ⟨fun direction h => ?_, p, Reader.bind_error hp, hblame⟩
      obtain ⟨name, hidentifier⟩ := h.identifier
      exact hnone name hidentifier

/-! ## The end of a line -/

/-- At the end of a command the first word left over is to blame. -/
theorem precise_finish (command : Command) :
    Precise (Cursor.finish >>= fun _ => pure command) fun tokens c =>
      Taken.nothing command tokens c [] := by
  refine ⟨⟨[], command, rfl, rfl⟩, ?_⟩
  rintro ⟨rest, last⟩ column what found - herror -
  cases rest with
  | nil => exact nomatch herror
  | cons t rest =>
      obtain ⟨rfl, rfl⟩ := Problem.misplaced.inj (Except.error.inj herror)
      refine ⟨[], t, rest, .first ⟨[], command, rfl, rfl⟩ ?_ (.trailing t.token) rfl⟩
      rintro tokens _ ⟨-, hnil⟩
      exact nomatch hnil

/-- Among words that should all be bytes the first that is misplaced is blamed. -/
theorem blamed_of_mapM_byte {role : Role} {words : List Located} {column : Nat}
    {what : Misplacement} (h : words.mapM (Located.byte role) = .error (.misplaced column what)) :
    ∃ before t behind, Blamed (List.Forall₂ Token.IsByte) words column what before t behind := by
  induction words with
  | nil => exact nomatch h
  | cons t words ih =>
      rw [List.mapM_cons] at h
      rcases bind_eq_error.1 h with hbyte | ⟨b, hbyte, hmore⟩
      · obtain ⟨role, rfl, rfl⟩ := Located.pointsAt_byte role t column what hbyte
        refine ⟨[], t, words, .first ⟨[], [], .nil⟩ ?_ (.unexpected role t.token) rfl⟩
        intro tokens bytes hbytes
        obtain ⟨b, _, hb, -⟩ := List.forall₂_cons_left_iff.1 hbytes
        rw [Located.byte_eq_ok.2 hb] at hbyte
        exact nomatch hbyte
      · rcases bind_eq_error.1 hmore with hmore | ⟨_, -, hpure⟩
        · obtain ⟨before, u, behind, hblamed⟩ := ih hmore
          refine ⟨t :: before, u, behind, hblamed.behind fun tokens => ?_⟩
          constructor
          · rintro ⟨bytes, hbytes⟩
            exact ⟨b :: bytes, .cons (Located.byte_eq_ok.1 hbyte) hbytes⟩
          · rintro ⟨_, hbytes⟩
            obtain ⟨_, bytes, -, hbytes, -⟩ := List.forall₂_cons_left_iff.1 hbytes
            exact ⟨bytes, hbytes⟩
        · exact nomatch hpure

/-- In a payload the first word that is no byte is to blame. -/
theorem precise_payload (command : List UInt8 → Command) :
    Precise (Cursor.payload >>= fun bytes => Cursor.finish >>= fun _ => pure (command bytes))
      fun tokens c =>
        ((Taken.words Token.IsByte).andThen fun bytes => .nothing (command bytes)) tokens c [] := by
  refine ⟨⟨[], command [], [], [], ⟨.nil, rfl⟩, rfl, rfl⟩, ?_⟩
  rintro ⟨rest, last⟩ column what found - herror -
  cases hbytes : rest.mapM (Located.byte .payloadByte) with
  | ok bytes =>
      have hpayload : Cursor.payload ⟨rest, last⟩ = .ok (bytes, ⟨[], last⟩) := by
        unfold Cursor.payload
        rw [hbytes]
      rw [Reader.bind_ok hpayload] at herror
      exact nomatch herror
  | error p =>
      have hpayload : Cursor.payload ⟨rest, last⟩ = .error p := by
        unfold Cursor.payload
        rw [hbytes]
      rw [Reader.bind_error hpayload] at herror
      rw [Except.error.inj herror] at hbytes
      obtain ⟨before, t, behind, hblamed⟩ := blamed_of_mapM_byte hbytes
      refine ⟨before, t, behind, hblamed.congr fun tokens => ?_⟩
      constructor
      · rintro ⟨bytes, h⟩
        exact ⟨command bytes, bytes, [], ⟨h, rfl⟩, rfl, rfl⟩
      · rintro ⟨_, bytes, _, ⟨h, -⟩, -⟩
        exact ⟨bytes, h⟩

/-- A second source is missed only where the operation has one. -/
theorem precise_secondSource (op : Operation) (command : UInt64 → Command) :
    Precise (Cursor.secondSource op >>= fun i => Cursor.finish >>= fun _ => pure (command i))
      fun tokens c =>
        ((Taken.secondSource op).andThen fun i => .nothing (command i)) tokens c [] := by
  have hindex : Precise (Cursor.index .source >>= fun i => Cursor.finish >>= fun _ =>
      pure (command i)) fun tokens c =>
        ((Taken.word Token.IsIndex).andThen fun i => .nothing (command i)) tokens c [] :=
    (picks_index .source).bind fun i => precise_finish (command i)
  obtain ⟨tokens, c, i, middle, hword, hrest⟩ := hindex.some_line
  refine ⟨⟨tokens, c, i, middle, Or.inr hword, hrest⟩, ?_⟩
  rintro ⟨rest, last⟩ column what found hsound herror hnames
  -- the words of a function may end here, and then nothing is misplaced
  by_cases h : op.isUnary = true ∧ rest = []
  · have hnothing : Cursor.secondSource op ⟨rest, last⟩ = .ok (0, ⟨rest, last⟩) := if_pos h
    rw [Reader.bind_ok hnothing, h.2] at herror
    exact nomatch herror
  · -- a word is there, so it has to be an index as after any other operation
    have hsource : Cursor.secondSource op ⟨rest, last⟩ = Cursor.index .source ⟨rest, last⟩ :=
      if_neg h
    have herror : (Cursor.index .source >>= fun i => Cursor.finish >>= fun _ =>
        pure (command i)) ⟨rest, last⟩ = .error (.misplaced column what) := by
      cases hread : Cursor.index .source ⟨rest, last⟩ with
      | ok r =>
          rw [Reader.bind_ok hread, ← herror, Reader.bind_ok (hsource.trans hread)]
      | error p =>
          rw [Reader.bind_error hread, ← herror, Reader.bind_error (hsource.trans hread)]
    obtain ⟨before, t, behind, hsplit, ⟨more, c, i, middle, hword, hrest⟩, hends, hu, hcolumn⟩ :=
      hindex.blames hsound herror hnames
    refine ⟨before, t, behind, hsplit, ⟨more, c, i, middle, Or.inr hword, hrest⟩, ?_, hu, hcolumn⟩
    rintro ⟨more, c, i, middle, ⟨-, hnil, -⟩ | hword, hrest⟩
    · rw [List.append_assoc] at hnil
      exact List.cons_ne_nil _ _ (List.append_eq_nil_iff.1 hnil).2
    · exact hends ⟨more, c, i, middle, hword, hrest⟩

/-! ## Whole lines -/

/-- Behind each verb the blame is where its sentence goes wrong. -/
theorem precise_line (v : Verb) :
    Precise (v.arguments >>= fun command => Cursor.finish >>= fun _ => pure command)
      fun tokens c => v.taken tokens c [] := by
  cases v
  all_goals simp only [Verb.arguments, bind_assoc, pure_bind]
  case write => exact (picks_byte .address).bind fun _ => precise_payload _
  case write32 =>
    exact (picks_byte .address).bind fun _ => picks_word32.bind fun _ => precise_finish _
  case write64 =>
    exact (picks_byte .address).bind fun _ => picks_word64.bind fun _ => precise_finish _
  case read => exact (picks_byte .address).bind fun _ => precise_finish _
  case raw =>
    exact picks_direction.bind fun _ => (picks_byte .address).bind fun _ => precise_payload _
  case opcode =>
    exact (picks_index .slot).bind fun _ => picks_kind.bind fun _ =>
      (picks_byte .operand).bind fun _ => (picks_byte .operand).bind fun _ =>
      (picks_byte .operand).bind fun _ => precise_finish _
  case exec =>
    exact picks_operation.bind fun op => (picks_index .destination).bind fun _ =>
      (picks_index .source).bind fun _ => precise_secondSource op _
  case slot =>
    exact (picks_index .slot).bind fun _ => picks_operation.bind fun _ => precise_finish _
  case reset => exact precise_finish .reset

/-- The verb is read from the first word. -/
theorem picks_verb :
    Picks (Cursor.takeAs .command Located.verb) fun t v => t.IsNamed v.name := by
  refine picks_takeAs (fun _ _ => Located.verb_eq_ok) ?_
    ⟨.identifier "reset", .reset, "reset", rfl, by decide +kernel⟩
  refine (Located.pointsAt_name .command).bind fun name column what h => ?_
  split at h
  · exact nomatch h
  · exact nomatch h

/-- The whole reader blames the first word that no sentence goes on with. -/
theorem precise_reader : Precise Command.reader Sentence := by
  have hline : Precise Command.reader fun tokens c =>
      ((Taken.word fun t v => Token.IsNamed t (Verb.name v)).andThen Verb.taken) tokens c [] := by
    rw [reader_eq]
    exact picks_verb.bind precise_line
  refine ⟨⟨[.identifier "reset"], .reset, .reset ⟨"reset", rfl, by decide +kernel⟩⟩, ?_⟩
  intro c column what found hsound herror hnames
  obtain ⟨before, t, behind, hblamed⟩ := hline.blames hsound herror hnames
  refine ⟨before, t, behind, hblamed.congr fun tokens => exists_congr fun command => ?_⟩
  rw [sentence_iff]
  constructor
  · rintro ⟨v, arguments, ⟨token, heq, hname⟩, htaken⟩
    exact ⟨v, token, arguments, heq, hname, htaken⟩
  · rintro ⟨v, token, arguments, heq, hname, htaken⟩
    exact ⟨v, arguments, ⟨token, heq, hname⟩, htaken⟩

/-- **Errors name the first wrong word**: when a line is refused with an error that
    names a word, some command begins with the words before that word and none with
    these words and the word itself. The column is that of the word, and that of the
    word behind it where a direction was expected and another name found. -/
theorem misplaced_first {words : List Located} {column : Nat} {what : Misplacement}
    {found : Token} (herror : Command.ofTokens words = .error (.misplaced column what))
    (hnames : what.Names found) :
    ∃ before t behind, Blamed Sentence words column what before t behind := by
  refine precise_reader.blames (Cursor.sound_ofTokens words) ?_ hnames
  unfold Command.ofTokens at herror
  split at herror
  · exact nomatch herror
  · rename_i hread
    rw [hread, Except.error.inj herror]

/-- Where a name stands for the address, it is the word to blame, and its column the column.
    -/
theorem misplaced_first_address :
    ∃ before t behind, Blamed Sentence
      [⟨.identifier "read", 1⟩, ⟨.identifier "zero", 6⟩, ⟨.number 5, 11⟩] 6
      (.unexpected .address (.identifier "zero")) before t behind :=
  misplaced_first (by decide +kernel) (.unexpected .address (.identifier "zero"))

/-- The column is not always that of a word that the error names: a word that is no
    direction is reported at the word behind it. -/
theorem misplaced_elsewhere :
    ¬ ∀ (words : List Located) (column : Nat) (what : Misplacement) (found : Token),
      Command.ofTokens words = .error (.misplaced column what) → what.Names found →
        ∃ t ∈ words, what.Names t.token ∧ t.column = column := by
  intro h
  obtain ⟨t, ht, hnames, hcolumn⟩ :=
    h [⟨.identifier "raw", 1⟩, ⟨.identifier "sideways", 5⟩, ⟨.number 0, 14⟩] 14
      (.notDirection "sideways") (.identifier "sideways") (by decide +kernel)
      (.notDirection ⟨"sideways", rfl, by decide +kernel⟩)
  rcases List.mem_cons.1 ht with rfl | ht
  · exact absurd hcolumn (by decide)
  rcases List.mem_cons.1 ht with rfl | ht
  · exact absurd hcolumn (by decide)
  obtain rfl := List.mem_singleton.1 ht
  -- the column is that of the number, which is no name
  cases hnames with
  | notDirection hnamed =>
      obtain ⟨_, hidentifier, -⟩ := hnamed
      exact nomatch hidentifier

end Coprocessor.Script
