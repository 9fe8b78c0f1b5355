import Coprocessor.Proofs.Script.Places
import Coprocessor.Proofs.Script.Printer

/-!
# Notations — integers in decimal and in hexadecimal

Where a command has an integer, both notations give the same: the same command, or
the same complaint about the value. The places of a line that are meant are told by
the line itself: some integer there makes it a command. A line is compared with two
others, one for each notation of another integer at the same place; of the first one
it only counts that it is accepted.

Decimal integers are tokens below the sign bit only, so the upper half of the
values has the one notation.

  • `Coincide` — an accepted attempt, and two others that end in the same way.
  • `Spot`, `Respells` — a word of the three lines, and a way to read it.
  • `Interchanges` — readers of words; `Interchanges.bind` puts one behind another,
    and `interchanges_arguments` has one case for each verb.
  • `Place` — the text around an integer of a line.
  • `spellings_interchange` — both notations at a place.
  • `not_interchange_high` — a word without a decimal notation.
-/

namespace Coprocessor.Script

/-! ## Attempts that end in the same way -/

/-- Two attempts that end in the same way if another one succeeds: with results that
    are alike, or with the same unsuitable value. -/
def Coincide {α : Type} (like : α → α → α → Prop) (x y z : Except Problem α) : Prop :=
  ∀ a, x = .ok a →
    (∃ b c, y = .ok b ∧ z = .ok c ∧ like a b c)
      ∨ ∃ what, y = .error (.unsuitable what) ∧ z = .error (.unsuitable what)

section

variable {α β : Type} {like : α → α → α → Prop} {like' : β → β → β → Prop}
  {x y z : Except Problem α}

/-- Attempts coincide by what they return. -/
theorem coincide_ok {a b c : α} (h : like a b c) : Coincide like (.ok a) (.ok b) (.ok c) := by
  intro a' ha
  obtain rfl := Except.ok.inj ha
  exact Or.inl ⟨b, c, rfl, rfl, h⟩

/-- Nothing is asked of two attempts if the other one fails. -/
theorem coincide_error (p : Problem) (y z : Except Problem α) : Coincide like (.error p) y z :=
  fun _ h => nomatch h

/-- Sequences of attempts that coincide coincide. -/
theorem Coincide.bind (h : Coincide like x y z) {f g k : α → Except Problem β}
    (hnext : ∀ a b c, like a b c → Coincide like' (f a) (g b) (k c)) :
    Coincide like' (x >>= f) (y >>= g) (z >>= k) := by
  intro b hok
  obtain ⟨a, ha, hf⟩ := bind_eq_ok.1 hok
  rcases h a ha with ⟨a', a'', rfl, rfl, hlike⟩ | ⟨what, rfl, rfl⟩
  · exact hnext a a' a'' hlike b hf
  · exact Or.inr ⟨what, rfl, rfl⟩

end

/-! ## Single words -/

/-- One word of three lines: the same in all of them, or an integer in the first and
    one integer in the others, in whatever notation. -/
inductive Spot (s t u : Located) : Prop where
  | same (ht : t.token = s.token) (hu : u.token = s.token)
  | integer {m n : Nat} (hs : s.token.IsInteger m) (ht : t.token.IsInteger n)
      (hu : u.token.IsInteger n)

/-- A way to read a word in which the notation plays no part; `same` tells what the
    word of the first line has in common with the others. -/
def Respells {α : Type} (same : α → α → Prop) (read : Located → Except Problem α) : Prop :=
  ∀ s t u, Spot s t u →
    Coincide (fun a b c => same a b ∧ b = c) (read s) (read t) (read u)

section

variable {α : Type} {read : Located → Except Problem α} {kind : Token → α → Prop}

/-- A word of a class without integers is the same in all lines. -/
theorem respells_of_kind (kind : Token → α → Prop) (h : ∀ t a, read t = .ok a ↔ kind t.token a)
    (hkind : ∀ t a n, kind t a → ¬ t.IsInteger n) : Respells Eq read := by
  intro s t u hspot a ha
  cases hspot with
  | same ht hu =>
      have hs : kind s.token a := (h s a).1 ha
      exact Or.inl ⟨a, a, (h t a).2 (ht ▸ hs), (h u a).2 (hu ▸ hs), rfl, rfl⟩
  | integer hs _ _ => exact absurd hs (hkind _ _ _ ((h s a).1 ha))

/-- A word that may be an integer, which then is read by its value. -/
theorem respells_of_value (h : ∀ t a, read t = .ok a ↔ kind t.token a)
    (hvalue : ∀ t u n, t.token.IsInteger n → u.token.IsInteger n → read t = read u
      ∧ ∀ p, read u = .error p → ∃ what, p = .unsuitable what) :
    Respells (fun _ _ => True) read := by
  intro s t u hspot a ha
  cases hspot with
  | same ht hu =>
      have hs : kind s.token a := (h s a).1 ha
      exact Or.inl ⟨a, a, (h t a).2 (ht ▸ hs), (h u a).2 (hu ▸ hs), trivial, rfl⟩
  | integer _ ht hu =>
      obtain ⟨heq, hunsuitable⟩ := hvalue t u _ ht hu
      rw [heq]
      cases hread : read u with
      | ok b => exact Or.inl ⟨b, b, rfl, rfl, trivial, rfl⟩
      | error p =>
          obtain ⟨what, rfl⟩ := hunsuitable p hread
          exact Or.inr ⟨what, rfl, rfl⟩

end

/-- The number of a token has 64 bits. -/
theorem Token.IsInteger.lt {t : Token} {n : Nat} (h : t.IsInteger n) : n < 2 ^ 64 := by
  cases h with
  | hexadecimal h => exact h ▸ UInt64.toNat_lt _
  | @number value _ h =>
      have hbound := value.toInt_lt
      omega

namespace Located

/-- An integer is read as its value, whatever its notation. -/
theorem integer_of_isInteger {t : Located} {n : Nat} (h : t.token.IsInteger n) (role : Role) :
    t.integer role = .ok (UInt64.ofNat n) := by
  rw [integer_eq_ok, Token.IsIndex, UInt64.toNat_ofNat', Nat.mod_eq_of_lt h.lt]
  exact h

/-- An integer is no literal of a format. -/
theorem literal?_of_isInteger {t : Located} {n : Nat} (h : t.token.IsInteger n)
    (f : Binary.Format) : t.literal? f = none := by
  obtain ⟨token, column⟩ := t
  cases token with
  | identifier name => exact nomatch h
  | fractional text => exact nomatch h
  | hexadecimal value => rfl
  | number value => rfl

/-- A value that does not pass its check is unsuitable. -/
theorem unsuitable_of_check {α : Type} {c : Prop} [Decidable c] {a : α} {what : Unsuitable}
    {p : Problem} (h : (if c then Except.ok a else .error (.unsuitable what)) = .error p) :
    ∃ what, p = .unsuitable what := by
  split at h
  · exact nomatch h
  · exact ⟨what, (Except.error.inj h).symm⟩

/-- An integer is accepted in either notation, as the same one. -/
theorem respells_integer (role : Role) : Respells (fun _ _ => True) (integer role) := by
  refine respells_of_value (fun _ _ => integer_eq_ok) fun t u n ht hu => ?_
  rw [integer_of_isInteger ht, integer_of_isInteger hu]
  exact ⟨rfl, nofun⟩

/-- A byte is in range in both notations or in neither. -/
theorem respells_byte (role : Role) : Respells (fun _ _ => True) (byte role) := by
  refine respells_of_value (fun _ _ => byte_eq_ok) fun t u n ht hu => ?_
  unfold byte
  rw [integer_of_isInteger ht, integer_of_isInteger hu]
  exact ⟨rfl, fun _ hp => unsuitable_of_check hp⟩

/-- A value is suitable in both notations or in neither. -/
theorem respells_word32 : Respells (fun _ _ => True) word32 := by
  refine respells_of_value (fun _ _ => word32_eq_ok) fun t u n ht hu => ?_
  unfold word32
  rw [literal?_of_isInteger ht, literal?_of_isInteger hu]
  dsimp only
  rw [integer_of_isInteger ht, integer_of_isInteger hu]
  exact ⟨rfl, fun _ hp => unsuitable_of_check hp⟩

theorem respells_word64 : Respells (fun _ _ => True) word64 := by
  refine respells_of_value (fun _ _ => word64_eq_ok) fun t u n ht hu => ?_
  unfold word64
  rw [literal?_of_isInteger ht, literal?_of_isInteger hu]
  dsimp only
  rw [integer_of_isInteger ht, integer_of_isInteger hu]
  exact ⟨rfl, nofun⟩

/-- A name is no integer, so it is not written in another notation. -/
theorem respells_name (role : Role) : Respells Eq (name role) :=
  respells_of_kind (fun t name => t = .identifier name) (fun _ _ => name_eq_ok) <| by
    rintro _ name n rfl hn
    exact nomatch hn

theorem respells_operation : Respells Eq operation :=
  respells_of_kind Token.IsOperation (fun _ _ => operation_eq_ok) <| by
    rintro _ op n ⟨name, rfl, -⟩ hn
    exact nomatch hn

theorem respells_kind : Respells Eq kind :=
  respells_of_kind Token.IsKind (fun _ _ => kind_eq_ok) <| by
    rintro _ k n ⟨name, rfl, -⟩ hn
    exact nomatch hn

theorem respells_verb : Respells Eq verb :=
  respells_of_kind (fun t v => t.IsNamed v.name) (fun _ _ => verb_eq_ok) <| by
    rintro _ v n ⟨name, rfl, -⟩ hn
    exact nomatch hn

end Located

/-! ## Words in order -/

/-- Three lines, word by word. -/
inductive Spots : List Located → List Located → List Located → Prop where
  | nil : Spots [] [] []
  | cons {s t u : Located} {ss ts us : List Located} (h : Spot s t u) (hs : Spots ss ts us) :
      Spots (s :: ss) (t :: ts) (u :: us)

/-- Readers in which the notation plays no part: what `measure` reads from the first
    line has `same` in common with what `read` reads from both others. -/
def Interchanges {α : Type} (same : α → α → Prop) (measure read : Reader α) : Prop :=
  ∀ c d e : Cursor, Spots c.rest d.rest e.rest →
    Coincide (fun r s t => (same r.1 s.1 ∧ s.1 = t.1) ∧ Spots r.2.rest s.2.rest t.2.rest)
      (measure c) (read d) (read e)

section

variable {α β : Type} {same : α → α → Prop} {same' : β → β → Prop} {measure read : Reader α}

/-- Readers that read nothing interchange by what they return. -/
theorem interchanges_pure {a b : α} (h : same a b) :
    Interchanges same (pure a : Reader α) (pure b) :=
  fun _ _ _ hspots => coincide_ok ⟨⟨h, rfl⟩, hspots⟩

/-- One reader behind another interchanges if both do. -/
theorem Interchanges.bind (h : Interchanges same measure read) {measure' read' : α → Reader β}
    (hnext : ∀ a b, same a b → Interchanges same' (measure' a) (read' b)) :
    Interchanges same' (measure >>= measure') (read >>= read') := by
  intro c d e hspots
  refine Coincide.bind (h c d e hspots) ?_
  rintro ⟨a, c'⟩ ⟨b, d'⟩ ⟨_, e'⟩ ⟨⟨hsame, rfl⟩, hspots'⟩
  exact hnext a b hsame c' d' e' hspots'

/-- A word is taken if there is one. -/
theorem interchanges_takeAs {role : Role} {word : Located → Except Problem α}
    (h : Respells same word) :
    Interchanges same (Cursor.takeAs role word) (Cursor.takeAs role word) := by
  rintro ⟨ss, last⟩ ⟨ts, last'⟩ ⟨us, last''⟩ hspots
  have hrest : Spots ss ts us := hspots
  cases hrest with
  | nil => exact coincide_error _ _ _
  | @cons s t u ss ts us hspot hs =>
      rw [Cursor.takeAs_cons, Cursor.takeAs_cons, Cursor.takeAs_cons]
      refine (h s t u hspot).bind ?_
      rintro a b _ ⟨hsame, rfl⟩
      exact coincide_ok ⟨⟨hsame, rfl⟩, hs⟩

end

/-- Words keep their spots when columns are moved. -/
theorem spots_shift (ts : List Located) (i j k : Nat) :
    Spots (ts.map (Located.shift i)) (ts.map (Located.shift j)) (ts.map (Located.shift k)) := by
  induction ts with
  | nil => exact .nil
  | cons t ts ih => exact .cons (.same rfl rfl) ih

/-- The same words may stand in front of a spot. -/
theorem Spots.behind {ss ts us : List Located} (hs : Spots ss ts us) (front : List Located) :
    Spots (front ++ ss) (front ++ ts) (front ++ us) := by
  induction front with
  | nil => exact hs
  | cons t front ih => exact .cons (.same rfl rfl) ih

/-! ## Every reader of words -/

/-- Values of which nothing else is needed than that both notations give the same. -/
abbrev Reader.Free {α : Type} (read : Reader α) : Prop := Interchanges (fun _ _ => True) read read

theorem interchanges_index (role : Role) : (Cursor.index role).Free :=
  interchanges_takeAs (Located.respells_integer role)

theorem interchanges_byte (role : Role) : (Cursor.byte role).Free :=
  interchanges_takeAs (Located.respells_byte role)

/-- A payload has one byte for each word, in either notation. -/
theorem coincide_mapM_byte {ss ts us : List Located} (h : Spots ss ts us) :
    Coincide (fun _ b c => b = c) (ss.mapM (Located.byte .payloadByte))
      (ts.mapM (Located.byte .payloadByte)) (us.mapM (Located.byte .payloadByte)) := by
  induction h with
  | nil => exact coincide_ok rfl
  | cons hspot _ ih =>
      rw [List.mapM_cons, List.mapM_cons, List.mapM_cons]
      refine (Located.respells_byte .payloadByte _ _ _ hspot).bind ?_
      rintro a b _ ⟨-, rfl⟩
      refine ih.bind ?_
      rintro as bs _ rfl
      exact coincide_ok rfl

/-- A payload goes to the end of the line in either notation. -/
theorem interchanges_payload : Cursor.payload.Free := by
  intro c d e hspots
  rw [Cursor.payload_eq, Cursor.payload_eq, Cursor.payload_eq]
  refine (coincide_mapM_byte hspots).bind ?_
  rintro as bs _ rfl
  exact coincide_ok ⟨⟨trivial, rfl⟩, .nil⟩

/-- A direction is a name in either notation of the others. -/
theorem interchanges_direction : Cursor.direction.Free := by
  refine (interchanges_takeAs (Located.respells_name .direction)).bind ?_
  rintro name _ rfl
  cases direction? name with
  | some direction => exact interchanges_pure trivial
  | none => exact fun _ _ _ _ => coincide_error _ _ _

/-- Whether there is a second source depends on the operation alone. -/
theorem interchanges_secondSource (op : Operation) : (Cursor.secondSource op).Free := by
  rintro ⟨ss, last⟩ ⟨ts, last'⟩ ⟨us, last''⟩ hspots
  have hrest : Spots ss ts us := hspots
  cases hrest with
  | nil =>
      by_cases h : op.isUnary = true
      · rw [Cursor.secondSource, Cursor.secondSource, Cursor.secondSource, if_pos ⟨h, rfl⟩,
          if_pos ⟨h, rfl⟩, if_pos ⟨h, rfl⟩]
        exact coincide_ok ⟨⟨trivial, rfl⟩, .nil⟩
      · rw [Cursor.secondSource, if_neg fun hboth => h hboth.1]
        exact coincide_error _ _ _
  | cons _ _ =>
      rw [Cursor.secondSource_cons, Cursor.secondSource_cons, Cursor.secondSource_cons]
      exact interchanges_index .source _ _ _ hspots

/-- As many words are left over in either notation. -/
theorem interchanges_finish : Cursor.finish.Free := by
  rintro ⟨ss, last⟩ ⟨ts, last'⟩ ⟨us, last''⟩ hspots
  have hrest : Spots ss ts us := hspots
  cases hrest with
  | nil => exact coincide_ok ⟨⟨trivial, rfl⟩, .nil⟩
  | cons _ _ => exact coincide_error _ _ _

/-- One case for each verb, by the readers of its words. -/
theorem interchanges_arguments (v : Verb) : v.arguments.Free := by
  cases v with
  | write =>
      exact (interchanges_byte .address).bind fun _ _ _ => interchanges_payload.bind fun _ _ _ =>
        interchanges_pure trivial
  | write32 =>
      exact (interchanges_byte .address).bind fun _ _ _ =>
        (interchanges_takeAs Located.respells_word32).bind fun _ _ _ => interchanges_pure trivial
  | write64 =>
      exact (interchanges_byte .address).bind fun _ _ _ =>
        (interchanges_takeAs Located.respells_word64).bind fun _ _ _ => interchanges_pure trivial
  | read => exact (interchanges_byte .address).bind fun _ _ _ => interchanges_pure trivial
  | raw =>
      exact interchanges_direction.bind fun _ _ _ => (interchanges_byte .address).bind fun _ _ _ =>
        interchanges_payload.bind fun _ _ _ => interchanges_pure trivial
  | opcode =>
      exact (interchanges_index .slot).bind fun _ _ _ =>
        (interchanges_takeAs Located.respells_kind).bind fun _ _ _ =>
        (interchanges_byte .operand).bind fun _ _ _ =>
        (interchanges_byte .operand).bind fun _ _ _ =>
        (interchanges_byte .operand).bind fun _ _ _ => interchanges_pure trivial
  | exec =>
      -- the operation decides whether a second source may be missing
      refine (interchanges_takeAs Located.respells_operation).bind ?_
      rintro op _ rfl
      exact (interchanges_index .destination).bind fun _ _ _ =>
        (interchanges_index .source).bind fun _ _ _ =>
        (interchanges_secondSource op).bind fun _ _ _ => interchanges_pure trivial
  | slot =>
      exact (interchanges_index .slot).bind fun _ _ _ =>
        (interchanges_takeAs Located.respells_operation).bind fun _ _ _ => interchanges_pure trivial
  | reset => exact interchanges_pure trivial

/-- The whole reader interchanges with itself. -/
theorem interchanges_reader : Command.reader.Free := by
  rw [reader_eq]
  refine (interchanges_takeAs Located.respells_verb).bind ?_
  rintro v _ rfl
  exact (interchanges_arguments v).bind fun _ _ _ => interchanges_finish.bind fun _ _ _ =>
    interchanges_pure trivial

/-- Lines that differ in the notation of integers are read in the same way. -/
theorem coincide_ofTokens {ss ts us : List Located} (h : Spots ss ts us) :
    Coincide (fun _ b c => b = c) (Command.ofTokens ss) (Command.ofTokens ts)
      (Command.ofTokens us) := by
  rw [ofTokens_eq, ofTokens_eq, ofTokens_eq]
  refine Coincide.bind (interchanges_reader _ _ _ h) ?_
  rintro r s t ⟨⟨-, heq⟩, -⟩
  exact coincide_ok heq

/-! ## Scripts of one line -/

/-- A text without a newline is one line. -/
theorem splitLines_of_not_mem {cs : List Char} (h : '\n' ∉ cs) : splitLines cs = [cs] := by
  induction cs with
  | nil => rfl
  | cons c rest ih =>
      have hc : ¬ c = '\n' := fun heq => h (heq ▸ List.mem_cons_self)
      rw [splitLines, if_neg hc, ih fun hmem => h (List.mem_cons_of_mem c hmem)]

section

variable {source : String}

/-- A line that cannot be cut is refused at the place where it cannot. -/
theorem parse_of_scan_error (hline : '\n' ∉ source.toList) {column : Nat}
    (hscan : scan source.toList = .error column) :
    parse source = .error ⟨1, .misplaced column .unrecognized⟩ := by
  rw [parse, splitLines_of_not_mem hline, parseLines, parseLine, hscan]

theorem parse_of_scan_nil (hline : '\n' ∉ source.toList) (hscan : scan source.toList = .ok []) :
    parse source = .ok [] := by
  rw [parse, splitLines_of_not_mem hline, parseLines, parseLine, hscan]
  rfl

/-- A line that is cut is the command of its words. -/
theorem parse_of_scan (hline : '\n' ∉ source.toList) {words : List Located} (hne : words ≠ [])
    (hscan : scan source.toList = .ok words) :
    parse source
      = ((Command.ofTokens words).mapError (ScriptError.mk 1)).map fun c => [⟨1, c⟩] := by
  obtain ⟨first, more, rfl⟩ := List.exists_cons_of_ne_nil hne
  rw [parse, splitLines_of_not_mem hline, parseLines, parseLine, hscan]
  dsimp only
  cases Command.ofTokens (first :: more) with
  | error p => rfl
  | ok command => rfl

/-- A line that is accepted has tokens that spell its command. -/
theorem scan_of_parse (hline : '\n' ∉ source.toList) {command : Command}
    (h : parse source = .ok [⟨1, command⟩]) :
    ∃ words, scan source.toList = .ok words ∧ Command.ofTokens words = .ok command := by
  cases hscan : scan source.toList with
  | error column =>
      rw [parse_of_scan_error hline hscan] at h
      exact nomatch h
  | ok words =>
      refine ⟨words, rfl, ?_⟩
      by_cases hne : words = []
      · subst hne
        rw [parse_of_scan_nil hline hscan] at h
        exact nomatch h
      rw [parse_of_scan hline hne hscan] at h
      cases hwords : Command.ofTokens words with
      | error p =>
          rw [hwords] at h
          exact nomatch h
      | ok found =>
          rw [hwords] at h
          obtain ⟨hline, -⟩ := List.cons.inj (Except.ok.inj h)
          exact congrArg Except.ok (ScriptLine.mk.inj hline).2

end

/-- The text around an integer of a script of one line: the integer stands apart and in
    no comment, and some integer there makes the line a command. -/
structure Place (front back : String) : Prop where
  apart : ∃ before c, front.toList = before ++ [c] ∧ isBlank c = true
  ends : Ends back.toList
  line : '\n' ∉ front.toList ++ back.toList
  plain : '#' ∉ front.toList
  accepts : ∃ (m : UInt64) (command : Command),
    parse (front ++ Text.hexNumber m.toNat ++ back) = .ok [⟨1, command⟩]

namespace Place

variable {front back : String}

/-- A line with a place is still one line with a word in it. -/
theorem newline_not_mem (h : Place front back) {w : String} (hw : '\n' ∉ w.toList) :
    '\n' ∉ (front ++ w ++ back).toList := by
  rw [String.toList_append, String.toList_append]
  intro hmem
  rcases List.mem_append.1 hmem with hmem | hmem
  · rcases List.mem_append.1 hmem with hmem | hmem
    · exact h.line (List.mem_append_left _ hmem)
    · exact hw hmem
  · exact h.line (List.mem_append_right _ hmem)

/-- The tokens around a place are those of an accepted line. -/
theorem exists_tokens (h : Place front back) :
    ∃ (before behind : List Located) (m : UInt64) (column : Nat) (command : Command),
      Command.ofTokens (before ++ ⟨.hexadecimal m, byteLength front.toList + 1⟩
          :: behind.map (Located.shift column)) = .ok command
        ∧ (∀ {w : String} {token : Token}, Spells w.toList token → ∃ column,
          scan (front ++ w ++ back).toList = .ok (before
            ++ ⟨token, byteLength front.toList + 1⟩ :: behind.map (Located.shift column)))
        ∧ ∀ {w : String} {n : Nat}, Text.IsDecimal w.toList n → 2 ^ 63 ≤ n →
          scan (front ++ w ++ back).toList = .error (byteLength front.toList + 1) := by
  obtain ⟨before, c, hfront, hc⟩ := h.apart
  have hplain : '#' ∉ before := fun hmem => h.plain (hfront ▸ List.mem_append_left _ hmem)
  have htext (w : String) :
      (front ++ w ++ back).toList = before ++ [c] ++ (w.toList ++ back.toList) := by
    rw [String.toList_append, String.toList_append, hfront, List.append_assoc]
  have hscan {w : String} {token : Token} (hw : Spells w.toList token) :=
    scan_place hplain hc hw h.ends
  obtain ⟨m, command, haccepts⟩ := h.accepts
  obtain ⟨words, hwords, hcommand⟩ :=
    scan_of_parse (h.newline_not_mem (spells_hexNumber m).newline_not_mem) haccepts
  -- the accepted line shows that what stands in front and behind is cut into tokens
  obtain ⟨column, hm⟩ := hscan (spells_hexNumber m)
  rw [← htext, hwords] at hm
  cases hbefore : scanFrom 1 before with
  | error e =>
      rw [hbefore] at hm
      exact nomatch hm
  | ok tokens =>
      cases hbehind : scanFrom 0 back.toList with
      | error e =>
          rw [hbefore, hbehind] at hm
          exact nomatch hm
      | ok behind =>
          rw [hbefore, hbehind, ← hfront] at hm
          obtain rfl := Except.ok.inj hm
          refine ⟨tokens, behind, m, column, command, hcommand, ?_, ?_⟩
          · intro w token hw
            obtain ⟨column, hline⟩ := hscan hw
            rw [hbefore, hbehind, ← htext, ← hfront] at hline
            exact ⟨column, hline⟩
          · intro w n hw hn
            rw [htext, scan_behind_blank hplain hc, hbefore, scanFrom_tooLarge hw hn h.ends,
              ← hfront]
            rfl

/-- Two integers at a place with one value give the same result: one command, or one
    complaint about a value. -/
theorem parse_eq (h : Place front back) {w w' : String} {token token' : Token} {n : Nat}
    (hw : Spells w.toList token) (hw' : Spells w'.toList token') (hn : token.IsInteger n)
    (hn' : token'.IsInteger n) :
    parse (front ++ w ++ back) = parse (front ++ w' ++ back)
      ∧ ((∃ command, parse (front ++ w' ++ back) = .ok [⟨1, command⟩])
        ∨ ∃ what, parse (front ++ w' ++ back) = .error ⟨1, .unsuitable what⟩) := by
  obtain ⟨before, behind, m, column₀, command, haccepted, hscan, -⟩ := h.exists_tokens
  obtain ⟨column, hwords⟩ := hscan hw
  obtain ⟨column', hwords'⟩ := hscan hw'
  have hne (t : Located) (ts : List Located) : before ++ t :: ts ≠ [] :=
    List.append_ne_nil_of_right_ne_nil _ (List.cons_ne_nil t ts)
  have hspots : Spots
      (before ++ ⟨.hexadecimal m, byteLength front.toList + 1⟩
        :: behind.map (Located.shift column₀))
      (before ++ ⟨token, byteLength front.toList + 1⟩ :: behind.map (Located.shift column))
      (before ++ ⟨token', byteLength front.toList + 1⟩ :: behind.map (Located.shift column')) :=
    Spots.behind (.cons (.integer (.hexadecimal rfl) hn hn') (spots_shift behind _ _ _)) before
  rw [parse_of_scan (h.newline_not_mem hw.newline_not_mem) (hne _ _) hwords,
    parse_of_scan (h.newline_not_mem hw'.newline_not_mem) (hne _ _) hwords']
  rcases coincide_ofTokens hspots command haccepted with
    ⟨c, _, hc, hc', rfl⟩ | ⟨what, hp, hp'⟩
  · rw [hc, hc']
    exact ⟨rfl, Or.inl ⟨c, rfl⟩⟩
  · rw [hp, hp']
    exact ⟨rfl, Or.inr ⟨what, rfl⟩⟩

end Place

/-! ## Both notations of a number -/

/-- Below the sign bit a number has a decimal token. -/
theorem isInteger_number {n : Nat} (h : n < 2 ^ 63) :
    (Token.number (Int64.ofInt n)).IsInteger n :=
  .number (Int64.toInt_ofInt_of_le (by omega) (by omega))

theorem isInteger_hexadecimal {n : Nat} (h : n < 2 ^ 64) :
    (Token.hexadecimal (UInt64.ofNat n)).IsInteger n :=
  .hexadecimal (UInt64.toNat_ofNat_of_lt' h)

/-- Digits stay on their line. -/
theorem newline_not_mem_decimal {digits : List Char} {n : Nat} (h : Text.IsDecimal digits n) :
    '\n' ∉ digits :=
  fun hmem => nomatch h.all '\n' hmem

/-- The mark and the digits behind it spell a hexadecimal token. -/
theorem spells_marked {hexits : String} {n : Nat} (h : Text.IsHexadecimal hexits.toList n)
    (hn : n < 2 ^ 64) : Spells ("0x" ++ hexits).toList (.hexadecimal (UInt64.ofNat n)) := by
  rw [String.toList_append]
  exact spells_hexadecimal h hn

/-- Words behind single blanks are the command whose sentence their tokens are. -/
theorem parse_words {source : String} {words : List (List Char × Token)}
    (hsource : source.toList = [' '].intercalate (words.map Prod.fst))
    (hwords : ∀ p ∈ words, Spells p.1 p.2) {command : Command}
    (h : Sentence (words.map Prod.snd) command) : parse source = .ok [⟨1, command⟩] := by
  obtain ⟨tokens, hscan, htokens⟩ := scanFrom_line hwords 1
  rw [← htokens] at h
  have hplain : '\n' ∉ source.toList := by
    rw [hsource]
    refine not_mem_intercalate (by decide) fun l hl => ?_
    obtain ⟨p, hp, rfl⟩ := List.mem_map.1 hl
    exact (hwords p hp).newline_not_mem
  have hne : tokens ≠ [] := by
    rintro rfl
    exact nomatch h
  rw [← hsource] at hscan
  rw [parse_of_scan hplain hne hscan, ofTokens_eq_ok.2 h]
  rfl

/-- The line of a verb, an address and a value. -/
theorem parse_value {verb address value : String} {v t u : Token} (hverb : Spells verb.toList v)
    (haddress : Spells address.toList t) (hvalue : Spells value.toList u) {command : Command}
    (h : Sentence [v, t, u] command) :
    parse (verb ++ " " ++ address ++ " " ++ value) = .ok [⟨1, command⟩] := by
  have htext : (verb ++ " " ++ address ++ " " ++ value).toList
      = [' '].intercalate [verb.toList, address.toList, value.toList] := by
    have hblank : " ".toList = [' '] := rfl
    rw [String.toList_append, String.toList_append, String.toList_append, String.toList_append,
      hblank, List.intercalate_cons_cons, List.intercalate_cons_cons, List.intercalate_singleton,
      List.append_assoc, List.append_assoc, List.append_assoc, List.append_assoc,
      List.append_assoc]
  have hwords : ∀ p ∈ [(verb.toList, v), (address.toList, t), (value.toList, u)],
      Spells p.1 p.2 := by
    intro p hp
    rcases List.mem_cons.1 hp with rfl | hp
    · exact hverb
    rcases List.mem_cons.1 hp with rfl | hp
    · exact haddress
    obtain rfl := List.mem_singleton.1 hp
    exact hvalue
  exact parse_words htext hwords h

/-- A 64-bit write takes every integer as its word. -/
theorem parse_write64 {address w : String} {t token : Token} {a : UInt8} {n : Nat}
    (haddress : Spells address.toList t) (ha : t.IsByte a) (hw : Spells w.toList token)
    (hn : token.IsInteger n) :
    parse ("write64 " ++ address ++ " " ++ w)
      = .ok [⟨1, .transaction (.write64 a (UInt64.ofNat n))⟩] := by
  have hverb : "write64 " = "write64" ++ " " := by decide
  have hword : token.IsWord64 (UInt64.ofNat n) := by
    refine .integer ?_
    rw [UInt64.toNat_ofNat_of_lt' hn.lt]
    exact hn
  rw [hverb]
  exact parse_value (spells_name (by decide)) haddress hw
    (.write64 (isNamed_verb .write64) ha hword)

/-- **Both notations are interchangeable below the sign bit**: at every place of a line
    where an integer makes it a command, a number below `2 ^ 63` gives the same result
    in decimal and in hexadecimal, and a larger one is refused in decimal at its own
    column. In hexadecimal it gives a command or a complaint about its value, and a
    64-bit write takes it as its word. -/
theorem spellings_interchange {front back digits hexits : String} {n : Nat}
    (h : Place front back) (hdigits : Text.IsDecimal digits.toList n)
    (hhexits : Text.IsHexadecimal hexits.toList n) (hn : n < 2 ^ 64) :
    (n < 2 ^ 63 → parse (front ++ digits ++ back) = parse (front ++ ("0x" ++ hexits) ++ back))
      ∧ (2 ^ 63 ≤ n → parse (front ++ digits ++ back)
        = .error ⟨1, .misplaced (byteLength front.toList + 1) .unrecognized⟩)
      ∧ ((∃ command, parse (front ++ ("0x" ++ hexits) ++ back) = .ok [⟨1, command⟩])
        ∨ ∃ what, parse (front ++ ("0x" ++ hexits) ++ back) = .error ⟨1, .unsuitable what⟩)
      ∧ ∀ (address : String) (t : Token) (a : UInt8), Spells address.toList t → t.IsByte a →
        parse ("write64 " ++ address ++ " " ++ ("0x" ++ hexits))
            = .ok [⟨1, .transaction (.write64 a (UInt64.ofNat n))⟩]
          ∧ (n < 2 ^ 63 → parse ("write64 " ++ address ++ " " ++ digits)
            = .ok [⟨1, .transaction (.write64 a (UInt64.ofNat n))⟩]) := by
  have hhex := spells_marked hhexits hn
  have hvalue := isInteger_hexadecimal hn
  refine ⟨fun hlow => ?_, fun hhigh => ?_, ?_, fun address t a haddress ha => ⟨?_, ?_⟩⟩
  · exact (h.parse_eq (spells_decimal hdigits hlow) hhex (isInteger_number hlow) hvalue).1
  · obtain ⟨_, _, _, _, _, -, -, hrefused⟩ := h.exists_tokens
    exact parse_of_scan_error (h.newline_not_mem (newline_not_mem_decimal hdigits))
      (hrefused hdigits hhigh)
  · exact (h.parse_eq hhex hhex hvalue hvalue).2
  · exact parse_write64 haddress ha hhex hvalue
  · intro hlow
    exact parse_write64 haddress ha (spells_decimal hdigits hlow) (isInteger_number hlow)

/-- The address of the first register in decimal. -/
theorem spells_zero : Spells "0".toList (.number (Int64.ofInt (0 : Nat))) :=
  spells_decimal (by decide) (by decide)

theorem isByte_zero : (Token.number (Int64.ofInt (0 : Nat))).IsByte 0 :=
  isInteger_number (by decide)

/-- The place of the word in a 64-bit write to the first register. -/
theorem place_write64 : Place "write64 0 " "" := by
  have hfront : "write64 0 " = "write64 " ++ "0" ++ " " := by decide
  have hparse := parse_write64 spells_zero isByte_zero (spells_hexNumber 0) (.hexadecimal rfl)
  refine ⟨⟨"write64 0".toList, ' ', by decide, rfl⟩, ends_nil, by decide, by decide, 0,
    .transaction (.write64 0 (UInt64.ofNat 0)), ?_⟩
  rw [String.append_empty, hfront]
  exact hparse

/-- Two hundred in both notations. -/
theorem spellings_interchange_hundreds :
    Place "write64 0 " "" ∧ parse "write64 0 200" = parse "write64 0 0xC8" := by
  have hdecimal : Text.IsDecimal "200".toList 200 := by decide
  have hhexadecimal : Text.IsHexadecimal "C8".toList 200 := by decide
  have hinterchange :=
    (spellings_interchange place_write64 hdecimal hhexadecimal (by decide)).1 (by decide)
  have htext : "write64 0 " ++ "200" ++ "" = "write64 0 200" := by decide
  have htext' : "write64 0 " ++ ("0x" ++ "C8") ++ "" = "write64 0 0xC8" := by decide
  rw [htext, htext'] at hinterchange
  exact ⟨place_write64, hinterchange⟩

/-- A word with its highest bit set has no decimal notation. -/
theorem not_interchange_high :
    ¬ ∀ (n : Nat) (digits hexits : String), n < 2 ^ 64 → Text.IsDecimal digits.toList n →
      Text.IsHexadecimal hexits.toList n →
        parse ("write64 0 " ++ digits) = parse ("write64 0 " ++ ("0x" ++ hexits)) := by
  intro h
  have hdecimal : Text.IsDecimal "9223372036854775808".toList (2 ^ 63) := by
    decide
  have hhexadecimal : Text.IsHexadecimal "8000000000000000".toList (2 ^ 63) := by
    decide
  obtain ⟨_, _, _, _, _, -, -, hrefused⟩ := place_write64.exists_tokens
  have hscan := hrefused hdecimal (Nat.le_refl _)
  rw [String.append_empty] at hscan
  have hfront : "write64 0 " = "write64 " ++ "0" ++ " " := by decide
  have haccepted := parse_write64 spells_zero isByte_zero
    (spells_marked hhexadecimal (by decide)) (isInteger_hexadecimal (by decide))
  have heq := h (2 ^ 63) _ _ (by decide) hdecimal hhexadecimal
  rw [parse_of_scan_error (by decide) hscan, hfront, haccepted] at heq
  exact nomatch heq

end Coprocessor.Script
