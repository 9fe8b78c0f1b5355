import Coprocessor.Proofs.Guarded.Operations
import Coprocessor.Proofs.Script.Reading

/-!
# Guarded words — a command read by position

The words of a line can be read by a position among them, which goes one word forward when a
word is taken, and one word back to tell where a word stands that is refused. Such a reader
keeps to the domains of its operations: it goes back only from behind a word, and a number
becomes one without a sign only from zero up. It follows the reader of what is left of a
line, whatever the words are, and also where there are none.

  • `Walker` — a reader by position; `next`, `stepBack`, `unsigned` and what is built of them.
  • `Reads` — what a walker does with one word; `payload` repeats one until the words end.
  • `Follows` — a walker that does what a reader does: `Follows.bind`, and one case for each
    verb.
  • `ofTokens_eq` — a command read by position.
-/

namespace Coprocessor.Script.Guarded

-- powers are those of the core library, whatever else is imported
attribute [local instance (high)] instPowNat

/-- A reader of words by their position. -/
abbrev Walker := StateT Nat (ExceptT Problem (Except Misuse))

section

variable {α β : Type}

/-- Uses an operation with a domain. -/
def operate (x : Except Misuse α) : Walker α := fun pos => ExceptT.mk (x.map fun a => .ok (a, pos))

/-- Goes one word back. -/
def stepBack : Walker Unit := do
  let pos ← get
  let back ← operate (within (1 ≤ pos) .stepBack (pos - 1))
  set back

/-- A number from zero up as one without a sign. -/
def unsigned (value : Int64) : Walker UInt64 :=
  operate (within (0 ≤ value.toInt) .sign (UInt64.ofNat value.toInt.toNat))

/-- A step that succeeds hands over its word and its position. -/
theorem bind_ok {w : Walker α} {pos next : Nat} {a : α} (h : w pos = .ok (.ok (a, next)))
    (f : α → Walker β) : (w >>= f) pos = f a next := by
  show ExceptT.bind (w pos) _ = _
  rw [h]
  rfl

theorem bind_error {w : Walker α} {pos : Nat} {p : Problem} (h : w pos = .ok (.error p))
    (f : α → Walker β) : (w >>= f) pos = .ok (.error p) := by
  show ExceptT.bind (w pos) _ = _
  rw [h]
  rfl

/-- Behind a word a step back reaches it. -/
theorem stepBack_eq (pos : Nat) : stepBack (pos + 1) = .ok (.ok ((), pos)) := by
  have hback : operate (within (1 ≤ pos + 1) .stepBack (pos + 1 - 1)) (pos + 1)
      = .ok (.ok (pos, pos + 1)) := by
    rw [within_of (Nat.le_add_left 1 pos)]
    rfl
  exact bind_ok hback set

/-- A number that is not negative is taken as it is. -/
theorem unsigned_eq {value : Int64} (h : 0 ≤ value.toInt) (pos : Nat) :
    unsigned value pos = .ok (.ok (UInt64.ofNat value.toInt.toNat, pos)) := by
  rw [unsigned, within_of h]
  rfl

end

/-! ## Single words -/

section

variable (tokens : List Located)

/-- The column of the word at a position, or of the last word. -/
def column (pos : Nat) : Nat :=
  match tokens[pos]? with
  | some t => t.column
  | none => (tokens.getLast?.map Located.column).getD 1

/-- Ends at the position that is reached. -/
def misplaced {α : Type} (what : Misplacement) : Walker α := fun pos =>
  throw (.misplaced (column tokens pos) what)

/-- Takes the next word. -/
def next (role : Role) : Walker Token := fun pos =>
  match tokens[pos]? with
  | some t => pure (t.token, pos + 1)
  | none => misplaced tokens (.missing role) pos

/-- Refuses the word that was taken last. -/
def unexpected {α : Type} (role : Role) (found : Token) : Walker α := do
  -- the column is that of the word, which the position has left behind
  stepBack
  misplaced tokens (.unexpected role found)

/-- Takes a name. -/
def identifier (role : Role) : Walker String := do
  match ← next tokens role with
  | .identifier name => pure name
  | found => unexpected tokens role found

/-- Takes an integer from zero up. -/
def integer (role : Role) : Walker UInt64 := do
  match ← next tokens role with
  | .hexadecimal value => pure value
  | .number value =>
      if 0 ≤ value.toInt then unsigned value
      else throw (.unsuitable (.negative role value))
  | found => unexpected tokens role found

/-- Takes a byte. -/
def byte (role : Role) : Walker UInt8 := do
  let value ← integer tokens role
  if value.toNat < 256 then pure (UInt8.ofNat value.toNat)
  else throw (.unsuitable (.notByte role value))

/-- Takes a number literal of a format, if there is one. -/
def literal? (f : Binary.Format) : Walker (Option Nat) := fun pos =>
  match tokens[pos]?.bind (Located.literal? f) with
  | some bits => pure (some bits, pos + 1)
  | none => pure (none, pos)

/-- Takes a 32-bit value. -/
def word32 : Walker UInt32 := do
  match ← literal? tokens .single with
  | some bits => pure (UInt32.ofNat bits)
  | none => do
      let value ← integer tokens .value
      if value.toNat < 2 ^ (32 : Nat) then pure (UInt32.ofNat value.toNat)
      else throw (.unsuitable (.notWord32 value))

/-- Takes a 64-bit value. -/
def word64 : Walker UInt64 := do
  match ← literal? tokens .double with
  | some bits => pure (UInt64.ofNat bits)
  | none => integer tokens .value

/-- Takes an operation. -/
def operation : Walker Operation := do
  let name ← identifier tokens .operation
  match Operation.ofMnemonic? name with
  | some op => pure op
  | none => throw (.unknownOperation name)

/-- Takes an opcode kind. -/
def kind : Walker Kind := do
  let name ← identifier tokens .kind
  match Kind.ofMnemonic? name with
  | some kind => pure kind
  | none => throw (.unknownKind name)

end

/-- A walker that takes one word and reads it. -/
structure Reads {α : Type} (tokens : List Located) (w : Walker α) (role : Role)
    (read : Located → Except Problem α) : Prop where
  word : ∀ {pos t}, tokens[pos]? = some t →
    w pos = .ok ((read t).map fun a => (a, pos + 1))
  missing : ∀ {pos}, tokens[pos]? = none →
    w pos = .ok (.error (.misplaced (column tokens pos) (.missing role)))

section

variable {tokens : List Located} {α β : Type} {role : Role}

/-- In front of a word, the column is that of the word. -/
theorem column_eq {pos : Nat} {t : Located} (h : tokens[pos]? = some t) :
    column tokens pos = t.column := by
  rw [column, h]

/-- The word at a position is read, and behind the last one a word is missing. -/
theorem reads_next (role : Role) : Reads tokens (next tokens role) role fun t => .ok t.token where
  word h := by
    rw [next, h]
    rfl
  missing h := by
    rw [next, h]
    rfl

/-- A word that is refused is told by where it stands. -/
theorem unexpected_eq {pos : Nat} {t : Located} (h : tokens[pos]? = some t) (role : Role)
    (found : Token) :
    (unexpected tokens role found : Walker α) (pos + 1)
      = .ok (.error (.misplaced t.column (.unexpected role found))) := by
  rw [unexpected, bind_ok (stepBack_eq pos), misplaced, column_eq h]
  rfl

/-- A name is read without going back behind the first word. -/
theorem reads_identifier (role : Role) :
    Reads tokens (identifier tokens role) role (Located.name role) where
  word {pos t} ht := by
    rw [identifier, bind_ok ((reads_next role).word ht), Located.name]
    cases t.token with
    | identifier name => rfl
    | number value => exact unexpected_eq ht role (.number value)
    | hexadecimal value => exact unexpected_eq ht role (.hexadecimal value)
    | fractional text => exact unexpected_eq ht role (.fractional text)
  missing ht := bind_error ((reads_next role).missing ht) _

/-- An integer is taken without a sign only once it has none. -/
theorem reads_integer (role : Role) :
    Reads tokens (integer tokens role) role (Located.integer role) where
  word {pos t} ht := by
    rw [integer, bind_ok ((reads_next role).word ht), Located.integer]
    cases t.token with
    | identifier name => exact unexpected_eq ht role (.identifier name)
    | number value =>
        show (if 0 ≤ value.toInt then unsigned value
            else throw (.unsuitable (.negative role value)) : Walker UInt64) (pos + 1)
          = .ok ((if 0 ≤ value.toInt then Except.ok (UInt64.ofNat value.toInt.toNat)
            else Except.error (.unsuitable (.negative role value))).map fun a => (a, pos + 1))
        by_cases hsign : 0 ≤ value.toInt
        · rw [if_pos hsign, if_pos hsign, unsigned_eq hsign]
          rfl
        · rw [if_neg hsign, if_neg hsign]
          rfl
    | hexadecimal value => rfl
    | fractional text => exact unexpected_eq ht role (.fractional text)
  missing ht := bind_error ((reads_next role).missing ht) _

/-- A word that was taken can be judged once more. -/
theorem Reads.andThen {w : Walker α} {read : Located → Except Problem α} {g : α → Walker β}
    {judge : α → Except Problem β} (h : Reads tokens w role read)
    (hg : ∀ a pos, g a pos = .ok ((judge a).map fun b => (b, pos))) :
    Reads tokens (w >>= g) role fun t => read t >>= judge where
  word {pos t} ht := by
    have hword := h.word ht
    cases hread : read t with
    | error p =>
        rw [hread] at hword
        exact bind_error hword g
    | ok a =>
        rw [hread] at hword
        rw [bind_ok hword g]
        exact hg a (pos + 1)
  missing ht := bind_error (h.missing ht) g

/-- A byte is an integer that is checked. -/
theorem reads_byte (role : Role) : Reads tokens (byte tokens role) role (Located.byte role) :=
  (reads_integer role).andThen fun value pos => by
    by_cases hlt : value.toNat < 256
    · rw [if_pos hlt, if_pos hlt]
      rfl
    · rw [if_neg hlt, if_neg hlt]
      rfl

theorem reads_operation :
    Reads tokens (operation tokens) .operation Located.operation :=
  (reads_identifier .operation).andThen fun name pos => by
    cases Operation.ofMnemonic? name with
    | none => rfl
    | some op => rfl

theorem reads_kind : Reads tokens (kind tokens) .kind Located.kind :=
  (reads_identifier .kind).andThen fun name pos => by
    cases Kind.ofMnemonic? name with
    | none => rfl
    | some kind => rfl

/-- A literal in front is read, and any other word left where it is. -/
theorem literal?_eq {pos : Nat} {t : Located} (h : tokens[pos]? = some t) (f : Binary.Format) :
    literal? tokens f pos = .ok (.ok (match t.literal? f with
      | some bits => (some bits, pos + 1)
      | none => (none, pos))) := by
  rw [literal?, h]
  show (match t.literal? f with | some bits => _ | none => _) = _
  cases t.literal? f with
  | none => rfl
  | some bits => rfl

/-- Behind the last word there is no literal. -/
theorem literal?_none {pos : Nat} (h : tokens[pos]? = none) (f : Binary.Format) :
    literal? tokens f pos = .ok (.ok (none, pos)) := by
  rw [literal?, h]
  rfl

/-- A literal or else what it may be instead. -/
theorem reads_literal {f : Binary.Format} {g : Nat → α} {w : Walker α}
    {read : Located → Except Problem α} (h : Reads tokens w role read) :
    Reads tokens
      (do
        match ← literal? tokens f with
        | some bits => pure (g bits)
        | none => w)
      role
      fun t => match t.literal? f with
        | some bits => .ok (g bits)
        | none => read t where
  word {pos t} ht := by
    have hliteral := literal?_eq ht f
    cases hbits : t.literal? f with
    | none =>
        rw [hbits] at hliteral
        rw [bind_ok hliteral]
        exact h.word ht
    | some bits =>
        rw [hbits] at hliteral
        rw [bind_ok hliteral]
        rfl
  missing ht := by
    rw [bind_ok (literal?_none ht f)]
    exact h.missing ht

/-- A 32-bit word is a literal or an integer that is checked. -/
theorem reads_word32 : Reads tokens (word32 tokens) .value Located.word32 :=
  reads_literal ((reads_integer .value).andThen fun value pos => by
    by_cases hlt : value.toNat < 2 ^ 32
    · rw [if_pos hlt, if_pos hlt]
      rfl
    · rw [if_neg hlt, if_neg hlt]
      rfl)

theorem reads_word64 : Reads tokens (word64 tokens) .value Located.word64 :=
  reads_literal (reads_integer .value)

/-- A byte is taken by going on. -/
theorem lt_of_byte {pos next : Nat} {b : UInt8}
    (h : byte tokens role pos = .ok (.ok (b, next))) : pos < next := by
  cases ht : tokens[pos]? with
  | none =>
      rw [(reads_byte role).missing ht] at h
      exact nomatch Except.ok.inj h
  | some t =>
      rw [(reads_byte role).word ht] at h
      cases hread : t.byte role with
      | error p =>
          rw [hread] at h
          exact nomatch Except.ok.inj h
      | ok a =>
          rw [hread] at h
          obtain ⟨-, rfl⟩ := Prod.mk.inj (Except.ok.inj (Except.ok.inj h))
          exact Nat.lt_succ_self pos

end

/-! ## Words in order -/

section

variable (tokens : List Located)

/-- Takes a byte again and again, up to the last word. -/
def payload : Walker (List UInt8) := fun pos =>
  if pos < tokens.length then
    match _hbyte : byte tokens .payloadByte pos with
    | .error misuse => .error misuse
    | .ok (.error p) => .ok (.error p)
    | .ok (.ok (b, next)) => Except.map (Except.map fun x => (b :: x.1, x.2)) (payload next)
  else .ok (.ok ([], pos))
termination_by pos => tokens.length - pos
decreasing_by
  -- that the loop ends is a fact about `byte`, which moves on when it succeeds
  have hnext := lt_of_byte _hbyte
  omega

/-- Takes a direction. -/
def direction : Walker Direction := do
  let name ← identifier tokens .direction
  match direction? name with
  | some direction => pure direction
  | none => misplaced tokens (.notDirection name.toLower)

/-- Takes the second source of an operation. -/
def secondSource (op : Operation) : Walker UInt64 := fun pos =>
  if op.isUnary ∧ tokens.length ≤ pos then pure (0, pos) else integer tokens .source pos

/-- Makes sure that nothing is left. -/
def finish : Walker Unit := fun pos =>
  match tokens[pos]? with
  | none => pure ((), pos)
  | some t => misplaced tokens (.trailing t.token) pos

/-- Takes the words after a verb. -/
def arguments : Verb → Walker Command
  | .write => do
      let address ← byte tokens .address
      let bytes ← payload tokens
      pure (.transaction ⟨.write, address, bytes⟩)
  | .write32 => do
      let address ← byte tokens .address
      let word ← word32 tokens
      pure (.transaction (.write32 address word))
  | .write64 => do
      let address ← byte tokens .address
      let word ← word64 tokens
      pure (.transaction (.write64 address word))
  | .read => do
      let address ← byte tokens .address
      pure (.transaction (.read address))
  | .raw => do
      let direction ← direction tokens
      let address ← byte tokens .address
      let bytes ← payload tokens
      pure (.transaction ⟨direction, address, bytes⟩)
  | .opcode => do
      let slot ← integer tokens .slot
      let kind ← kind tokens
      let operand0 ← byte tokens .operand
      let operand1 ← byte tokens .operand
      let operand2 ← byte tokens .operand
      pure (.opcode slot ⟨kind, operand0, operand1, operand2⟩)
  | .exec => do
      let op ← operation tokens
      let destination ← integer tokens .destination
      let source0 ← integer tokens .source
      let source1 ← secondSource tokens op
      pure (.execute ⟨op, destination, source0, source1⟩)
  | .slot => do
      let slot ← integer tokens .slot
      let op ← operation tokens
      pure (.executeSlot slot op)
  | .reset => pure .reset

/-- Takes a whole line. -/
def command : Walker Command := do
  let name ← identifier tokens .command
  match Verb.ofName? name with
  | none => throw (.unknownCommand name.toLower)
  | some verb => do
      let command ← arguments tokens verb
      finish tokens
      pure command

/-- The command that the tokens of a line spell. -/
def ofTokens : Except Misuse (Except Problem Command) :=
  Except.map (Except.map Prod.fst) (command tokens 0)

/-- What is left of a line from a position on. -/
def cursor (pos : Nat) : Cursor :=
  ⟨tokens.drop pos, (tokens.getLast?.map Located.column).getD 1⟩

/-- A walker that does what a reader does with what is left. -/
def Follows {α : Type} (w : Walker α) (read : Reader α) : Prop :=
  ∀ pos, ∃ x, w pos = .ok x ∧ read (cursor tokens pos) = x.map fun y => (y.1, cursor tokens y.2)

end

section

variable {tokens : List Located} {α β : Type}

/-- In front of a word, the cursor begins with it. -/
theorem cursor_some {pos : Nat} {t : Located} (h : tokens[pos]? = some t) :
    cursor tokens pos = ⟨t :: (cursor tokens (pos + 1)).rest, (cursor tokens (pos + 1)).last⟩ := by
  obtain ⟨hlt, rfl⟩ := List.getElem?_eq_some_iff.1 h
  rw [cursor, List.drop_eq_getElem_cons hlt]
  rfl

/-- Behind the last word, the cursor is empty and remembers its column. -/
theorem cursor_none {pos : Nat} (h : tokens[pos]? = none) :
    cursor tokens pos = ⟨[], (tokens.getLast?.map Located.column).getD 1⟩ := by
  rw [cursor, List.drop_eq_nil_of_le (List.getElem?_eq_none_iff.1 h)]

/-- Position and cursor report the same column. -/
theorem column_cursor (pos : Nat) : (cursor tokens pos).column = column tokens pos := by
  rw [column]
  cases h : tokens[pos]? with
  | none =>
      rw [cursor_none h]
      rfl
  | some t =>
      rw [cursor_some h]
      rfl

/-- A walk that reads nothing follows the reader that reads nothing. -/
theorem follows_pure (a : α) : Follows tokens (pure a) (pure a) :=
  fun pos => ⟨.ok (a, pos), rfl, rfl⟩

theorem follows_throw (p : Problem) :
    Follows tokens (throw p : Walker α) (throw p) :=
  fun _ => ⟨.error p, rfl, rfl⟩

/-- Walks put together follow the readers put together. -/
theorem Follows.bind {w : Walker α} {read : Reader α} {f : α → Walker β} {g : α → Reader β}
    (h : Follows tokens w read) (hfg : ∀ a, Follows tokens (f a) (g a)) :
    Follows tokens (w >>= f) (read >>= g) := by
  intro pos
  obtain ⟨x, hw, hread⟩ := h pos
  cases x with
  | error p =>
      refine ⟨.error p, bind_error hw f, ?_⟩
      show (read (cursor tokens pos) >>= _) = _
      rw [hread]
      rfl
  | ok y =>
      obtain ⟨a, next⟩ := y
      obtain ⟨z, hf, hg⟩ := hfg a next
      refine ⟨z, (bind_ok hw f).trans hf, ?_⟩
      show (read (cursor tokens pos) >>= _) = _
      rw [hread]
      exact hg

/-- A walker of one word follows the reader that takes and reads it. -/
theorem Reads.follows {w : Walker α} {role : Role} {read : Located → Except Problem α}
    (h : Reads tokens w role read) : Follows tokens w (Cursor.takeAs role read) := by
  intro pos
  cases ht : tokens[pos]? with
  | none =>
      refine ⟨_, h.missing ht, ?_⟩
      rw [← column_cursor, cursor_none ht]
      rfl
  | some t =>
      refine ⟨_, h.word ht, ?_⟩
      rw [cursor_some ht, Cursor.takeAs_cons]
      cases read t with
      | error p => rfl
      | ok a => rfl

/-- The bytes that are left are the first of them and those behind it. -/
theorem payload_cons (t : Located) (rest : List Located) (last : Nat) :
    Cursor.payload ⟨t :: rest, last⟩ = t.byte .payloadByte >>= fun b =>
      (Cursor.payload ⟨rest, last⟩).map fun y => (b :: y.1, y.2) := by
  rw [Cursor.payload_eq, Cursor.payload_eq, List.mapM_cons]
  cases t.byte .payloadByte with
  | error p => rfl
  | ok b =>
      show ((rest.mapM (Located.byte .payloadByte) >>= fun bs => Except.ok (b :: bs)) >>= _)
        = (rest.mapM (Located.byte .payloadByte) >>= _).map _
      cases rest.mapM (Located.byte .payloadByte) with
      | error p => rfl
      | ok bytes => rfl

theorem payload_none {pos : Nat} (h : tokens[pos]? = none) :
    payload tokens pos = .ok (.ok ([], pos)) := by
  rw [payload, if_neg (Nat.not_lt.2 (List.getElem?_eq_none_iff.1 h))]

/-- A word that is no byte ends the payload with a problem. -/
theorem payload_error {pos : Nat} {t : Located} {p : Problem} (h : tokens[pos]? = some t)
    (hread : t.byte .payloadByte = .error p) : payload tokens pos = .ok (.error p) := by
  have hbyte := (reads_byte .payloadByte).word h
  rw [hread] at hbyte
  rw [payload, if_pos (List.getElem?_eq_some_iff.1 h).1]
  split
  next misuse heq => exact nomatch hbyte.symm.trans heq
  next p' heq =>
    obtain rfl := Except.error.inj (Except.ok.inj (hbyte.symm.trans heq))
    rfl
  next b next heq => exact nomatch Except.ok.inj (hbyte.symm.trans heq)

/-- A byte is put in front of the payload behind it. -/
theorem payload_ok {pos : Nat} {t : Located} {b : UInt8} (h : tokens[pos]? = some t)
    (hread : t.byte .payloadByte = .ok b) :
    payload tokens pos
      = Except.map (Except.map fun x => (b :: x.1, x.2)) (payload tokens (pos + 1)) := by
  have hbyte := (reads_byte .payloadByte).word h
  rw [hread] at hbyte
  rw [payload, if_pos (List.getElem?_eq_some_iff.1 h).1]
  split
  next misuse heq => exact nomatch hbyte.symm.trans heq
  next p heq => exact nomatch Except.ok.inj (hbyte.symm.trans heq)
  next b' next heq =>
    obtain ⟨rfl, rfl⟩ := Prod.mk.inj (Except.ok.inj (Except.ok.inj (hbyte.symm.trans heq)))
    rfl

/-- The loop takes what is left of the line as bytes. -/
theorem follows_payload : Follows tokens (payload tokens) Cursor.payload := by
  intro pos
  -- the words that are left get fewer; a position behind the end leaves none
  induction hleft : tokens.length - pos generalizing pos with
  | zero =>
      have hend : tokens[pos]? = none := List.getElem?_eq_none_iff.2 (by omega)
      refine ⟨_, payload_none hend, ?_⟩
      rw [cursor_none hend]
      exact congrArg (fun c => Except.ok ([], c)) (cursor_none hend).symm
  | succ left ih =>
      have hlt : pos < tokens.length := by omega
      have ht : tokens[pos]? = some tokens[pos] := List.getElem?_eq_getElem hlt
      obtain ⟨x, hrest, hpayload⟩ := ih (pos + 1) (by omega)
      rw [cursor_some ht, payload_cons]
      cases hread : tokens[pos].byte .payloadByte with
      | error p => exact ⟨_, payload_error ht hread, rfl⟩
      | ok b =>
          refine ⟨x.map fun y => (b :: y.1, y.2), ?_, ?_⟩
          · rw [payload_ok ht hread, hrest]
            rfl
          · show (Cursor.payload (cursor tokens (pos + 1))).map _ = _
            rw [hpayload]
            cases x with
            | error p => rfl
            | ok y => rfl

/-- A direction that is none is told by what stands behind it. -/
theorem follows_direction : Follows tokens (direction tokens) Cursor.direction :=
  (reads_identifier .direction).follows.bind fun name pos => by
    cases direction? name with
    | none =>
        refine ⟨_, rfl, ?_⟩
        rw [← column_cursor]
        rfl
    | some direction => exact ⟨_, rfl, rfl⟩

/-- Only an operation with two sources goes on to a second. -/
theorem follows_secondSource (op : Operation) :
    Follows tokens (secondSource tokens op) (Cursor.secondSource op) := by
  intro pos
  have hiff : (cursor tokens pos).rest = [] ↔ tokens.length ≤ pos := List.drop_eq_nil_iff
  by_cases h : op.isUnary ∧ tokens.length ≤ pos
  · refine ⟨.ok (0, pos), if_pos h, ?_⟩
    exact if_pos ⟨h.1, hiff.2 h.2⟩
  · obtain ⟨x, hindex, hread⟩ := (reads_integer .source).follows pos
    refine ⟨x, (if_neg h).trans hindex, ?_⟩
    exact (if_neg fun hend => h ⟨hend.1, hiff.1 hend.2⟩).trans hread

theorem follows_finish : Follows tokens (finish tokens) Cursor.finish := by
  intro pos
  cases ht : tokens[pos]? with
  | none =>
      refine ⟨.ok ((), pos), by rw [finish, ht]; rfl, ?_⟩
      rw [cursor_none ht]
      exact congrArg (fun c => Except.ok ((), c)) (cursor_none ht).symm
  | some t =>
      refine ⟨.error (.misplaced t.column (.trailing t.token)), ?_, ?_⟩
      · rw [finish, ht, ← column_eq ht]
        rfl
      · rw [cursor_some ht]
        rfl

/-- Behind every verb the words are taken in the same way. -/
theorem follows_arguments (v : Verb) : Follows tokens (arguments tokens v) v.arguments := by
  have hbyte (role : Role) : Follows tokens (byte tokens role) (Cursor.byte role) :=
    (reads_byte role).follows
  have hindex (role : Role) : Follows tokens (integer tokens role) (Cursor.index role) :=
    (reads_integer role).follows
  cases v with
  | write =>
      exact (hbyte .address).bind fun address => follows_payload.bind fun bytes => follows_pure _
  | write32 =>
      exact (hbyte .address).bind fun address => reads_word32.follows.bind fun word =>
        follows_pure _
  | write64 =>
      exact (hbyte .address).bind fun address => reads_word64.follows.bind fun word =>
        follows_pure _
  | read => exact (hbyte .address).bind fun address => follows_pure _
  | raw =>
      exact follows_direction.bind fun direction => (hbyte .address).bind fun address =>
        follows_payload.bind fun bytes => follows_pure _
  | opcode =>
      exact (hindex .slot).bind fun slot => reads_kind.follows.bind fun kind =>
        (hbyte .operand).bind fun operand0 => (hbyte .operand).bind fun operand1 =>
        (hbyte .operand).bind fun operand2 => follows_pure _
  | exec =>
      exact reads_operation.follows.bind fun op => (hindex .destination).bind fun destination =>
        (hindex .source).bind fun source0 => (follows_secondSource op).bind fun source1 =>
        follows_pure _
  | slot =>
      exact (hindex .slot).bind fun slot => reads_operation.follows.bind fun op => follows_pure _
  | reset => exact follows_pure _

/-- The whole walk follows the reader of commands. -/
theorem follows_command : Follows tokens (command tokens) Command.reader :=
  (reads_identifier .command).follows.bind fun name => by
    cases Verb.ofName? name with
    | none => exact follows_throw _
    | some verb =>
        exact (follows_arguments verb).bind fun command => follows_finish.bind fun _ =>
          follows_pure command

end

/-- A command is read by position as it is read from what is left, whatever the words are. -/
theorem ofTokens_eq (tokens : List Located) : ofTokens tokens = .ok (Command.ofTokens tokens) := by
  have hfollows : Follows tokens (command tokens) Command.reader := follows_command
  obtain ⟨x, hcommand, hreader⟩ := hfollows 0
  have hstart : Cursor.ofTokens tokens = cursor tokens 0 := rfl
  rw [ofTokens, Command.ofTokens, hcommand, hstart, hreader]
  cases x with
  | error p => rfl
  | ok y => rfl

end Coprocessor.Script.Guarded
