import Coprocessor.Bus.Queue

/-!
# Shapes — what resolving one transaction does

Three shapes have a meaning, and every address is an index of both register
spaces, so a transaction is dropped exactly when its shape has no meaning.

  • `shape_cases` — the four cases, told by direction and payload length alone.
  • `outcome` and `effect` are what resolving gives without a bus; `resolve_eq`
    says that a queue sees the answer that belongs to the outcome and nothing
    else.
  • `outcome_ne_outOfRange` — whatever is dropped is dropped for its shape.
  • A word is changed by a write to its own address and space only.
-/

namespace Coprocessor

/-! ## Words at addresses -/

namespace Registers

/-- Every address is an index of both register spaces. -/
theorem address_lt (a : UInt8) : a.toNat < registerCount := a.toNat_lt

/-- The 32-bit word at an address. -/
def word32 (r : Registers) (a : UInt8) : UInt32 := r.single.get ⟨a.toNat, address_lt a⟩

/-- The 64-bit word at an address. -/
def word64 (r : Registers) (a : UInt8) : UInt64 := r.double.get ⟨a.toNat, address_lt a⟩

/-- Puts a 32-bit word at an address. -/
def set32 (r : Registers) (a : UInt8) (word : UInt32) : Registers :=
  { r with single := r.single.set a.toNat word (address_lt a) }

/-- Puts a 64-bit word at an address. -/
def set64 (r : Registers) (a : UInt8) (word : UInt64) : Registers :=
  { r with double := r.double.set a.toNat word (address_lt a) }

/-- Every address has a 32-bit word. -/
theorem read32_address (r : Registers) (a : UInt8) : r.read32 a.toNat = some (r.word32 a) :=
  Vector.getElem?_eq_getElem (address_lt a)

/-- Every address has a 64-bit word. -/
theorem read64_address (r : Registers) (a : UInt8) : r.read64 a.toNat = some (r.word64 a) :=
  Vector.getElem?_eq_getElem (address_lt a)

/-- A write of a 32-bit word to an address is never refused. -/
theorem write32_address (r : Registers) (a : UInt8) (word : UInt32) :
    r.write32 a.toNat word = .ok (r.set32 a word) := dif_pos (address_lt a)

/-- A write of a 64-bit word to an address is never refused. -/
theorem write64_address (r : Registers) (a : UInt8) (word : UInt64) :
    r.write64 a.toNat word = .ok (r.set64 a word) := dif_pos (address_lt a)

/-- A 32-bit word that is set is read at its address and at no other. -/
theorem word32_set32 (r : Registers) (a b : UInt8) (word : UInt32) :
    (r.set32 a word).word32 b = if a = b then word else r.word32 b := by
  refine (Vector.getElem_set (address_lt a) (address_lt b)).trans ?_
  by_cases hab : a = b
  · rw [if_pos hab, if_pos (congrArg UInt8.toNat hab)]
  · rw [if_neg hab, if_neg (fun h => hab (UInt8.toNat.inj h))]
    rfl

/-- A 64-bit word that is set is read at its address and at no other. -/
theorem word64_set64 (r : Registers) (a b : UInt8) (word : UInt64) :
    (r.set64 a word).word64 b = if a = b then word else r.word64 b := by
  refine (Vector.getElem_set (address_lt a) (address_lt b)).trans ?_
  by_cases hab : a = b
  · rw [if_pos hab, if_pos (congrArg UInt8.toNat hab)]
  · rw [if_neg hab, if_neg (fun h => hab (UInt8.toNat.inj h))]
    rfl

/-- The two spaces do not overlap. -/
@[simp] theorem word64_set32 (r : Registers) (a b : UInt8) (word : UInt32) :
    (r.set32 a word).word64 b = r.word64 b := rfl

@[simp] theorem word32_set64 (r : Registers) (a b : UInt8) (word : UInt64) :
    (r.set64 a word).word32 b = r.word32 b := rfl

end Registers

namespace Transaction

/-! ## The shapes with a meaning -/

/-- A write of four bytes. -/
def IsWrite32 (t : Transaction) : Prop := t.direction = .write ∧ t.payload.length = 4

/-- A write of eight bytes. -/
def IsWrite64 (t : Transaction) : Prop := t.direction = .write ∧ t.payload.length = 8

/-- A read without payload. -/
def IsRead (t : Transaction) : Prop := t.direction = .read ∧ t.payload = []

/-- Any other combination of direction and payload length. -/
def IsUnsupported (t : Transaction) : Prop := ¬ t.IsWrite32 ∧ ¬ t.IsWrite64 ∧ ¬ t.IsRead

instance (t : Transaction) : Decidable t.IsWrite32 :=
  inferInstanceAs (Decidable (t.direction = .write ∧ t.payload.length = 4))

instance (t : Transaction) : Decidable t.IsWrite64 :=
  inferInstanceAs (Decidable (t.direction = .write ∧ t.payload.length = 8))

instance (t : Transaction) : Decidable t.IsRead :=
  inferInstanceAs (Decidable (t.direction = .read ∧ t.payload = []))

instance (t : Transaction) : Decidable t.IsUnsupported :=
  inferInstanceAs (Decidable (¬ t.IsWrite32 ∧ ¬ t.IsWrite64 ∧ ¬ t.IsRead))

/-- A write of four bytes asks for the word that they are. -/
theorem shape_of_isWrite32 {t : Transaction} (h : t.IsWrite32) :
    t.shape = .write32 (Bytes.toWord32 t.payload) := by
  obtain ⟨hdir, hlen⟩ := h
  simp only [shape, hdir, hlen]

/-- A write of eight bytes asks for the word that they are. -/
theorem shape_of_isWrite64 {t : Transaction} (h : t.IsWrite64) :
    t.shape = .write64 (Bytes.toWord64 t.payload) := by
  obtain ⟨hdir, hlen⟩ := h
  simp only [shape, hdir, hlen]

/-- A read without payload asks for a word. -/
theorem shape_of_isRead {t : Transaction} (h : t.IsRead) : t.shape = .read32 := by
  obtain ⟨hdir, hnil⟩ := h
  simp only [shape, hdir, hnil, List.length_nil]

/-- Everything else is kept with its direction and its length. -/
theorem shape_of_isUnsupported {t : Transaction} (h : t.IsUnsupported) :
    t.shape = .unsupported t.direction t.payload.length := by
  obtain ⟨h32, h64, hread⟩ := h
  unfold shape
  split
  next hdir hlen => exact absurd ⟨hdir, hlen⟩ h32
  next hdir hlen => exact absurd ⟨hdir, hlen⟩ h64
  next hdir hlen => exact absurd ⟨hdir, List.eq_nil_of_length_eq_zero hlen⟩ hread
  next => rfl

/-- A transaction has one of the three shapes with a meaning, or none. -/
theorem shape_cases (t : Transaction) :
    t.IsWrite32 ∨ t.IsWrite64 ∨ t.IsRead ∨ t.IsUnsupported := by
  by_cases h32 : t.IsWrite32
  · exact Or.inl h32
  · by_cases h64 : t.IsWrite64
    · exact Or.inr (Or.inl h64)
    · by_cases hread : t.IsRead
      · exact Or.inr (Or.inr (Or.inl hread))
      · exact Or.inr (Or.inr (Or.inr ⟨h32, h64, hread⟩))

/-- Payloads of two lengths are two kinds of writes. -/
theorem IsWrite64.not_isWrite32 {t : Transaction} (h : t.IsWrite64) : ¬ t.IsWrite32 := by
  intro h32
  have hlen : (8 : Nat) = 4 := h.2.symm.trans h32.2
  exact absurd hlen (by decide)

/-- A read is no write. -/
theorem IsRead.not_isWrite32 {t : Transaction} (h : t.IsRead) : ¬ t.IsWrite32 :=
  fun h32 => nomatch h.1.symm.trans h32.1

theorem IsRead.not_isWrite64 {t : Transaction} (h : t.IsRead) : ¬ t.IsWrite64 :=
  fun h64 => nomatch h.1.symm.trans h64.1

/-! ## Resolution by shape -/

section

variable {β : Type} [Bus β] {t : Transaction}

/-- A write of four bytes changes a register and leaves the bus. -/
theorem resolve_of_isWrite32 (h : t.IsWrite32) (r : Registers) (bus : β) :
    t.resolve r bus
      = (.written .single t.address, r.set32 t.address (Bytes.toWord32 t.payload), bus) := by
  simp only [resolve, shape_of_isWrite32 h, Registers.write32_address, Registers.settle]

/-- A write of eight bytes changes a register and leaves the bus. -/
theorem resolve_of_isWrite64 (h : t.IsWrite64) (r : Registers) (bus : β) :
    t.resolve r bus
      = (.written .double t.address, r.set64 t.address (Bytes.toWord64 t.payload), bus) := by
  simp only [resolve, shape_of_isWrite64 h, Registers.write64_address, Registers.settle]

/-- A read leaves the registers and is answered with the bytes of a word. -/
theorem resolve_of_isRead (h : t.IsRead) (r : Registers) (bus : β) :
    t.resolve r bus
      = (.responded t.address (Bytes.ofWord32 (r.word32 t.address)), r,
          Bus.respond bus t (Bytes.ofWord32 (r.word32 t.address))) := by
  simp only [resolve, shape_of_isRead h, Registers.read32_address]

/-- A transaction without meaning leaves registers and bus. -/
theorem resolve_of_isUnsupported (h : t.IsUnsupported) (r : Registers) (bus : β) :
    t.resolve r bus
      = (.dropped (.unsupported t.direction t.payload.length), r, bus) := by
  simp only [resolve, shape_of_isUnsupported h]

end

/-- How a transaction is resolved, whatever the bus. -/
def outcome (t : Transaction) (r : Registers) : Outcome := (t.resolve r NoBus.unconnected).1

/-- The registers after a transaction, whatever the bus. -/
def effect (t : Transaction) (r : Registers) : Registers := (t.resolve r NoBus.unconnected).2.1

section

variable {t : Transaction}

/-- The outcome of a write names its space and its address. -/
theorem outcome_of_isWrite32 (h : t.IsWrite32) (r : Registers) :
    t.outcome r = .written .single t.address :=
  congrArg Prod.fst (resolve_of_isWrite32 h r NoBus.unconnected)

theorem outcome_of_isWrite64 (h : t.IsWrite64) (r : Registers) :
    t.outcome r = .written .double t.address :=
  congrArg Prod.fst (resolve_of_isWrite64 h r NoBus.unconnected)

/-- The answer to a read is in its outcome. -/
theorem outcome_of_isRead (h : t.IsRead) (r : Registers) :
    t.outcome r = .responded t.address (Bytes.ofWord32 (r.word32 t.address)) :=
  congrArg Prod.fst (resolve_of_isRead h r NoBus.unconnected)

/-- Nothing is dropped but what has no meaning. -/
theorem outcome_of_isUnsupported (h : t.IsUnsupported) (r : Registers) :
    t.outcome r = .dropped (.unsupported t.direction t.payload.length) :=
  congrArg Prod.fst (resolve_of_isUnsupported h r NoBus.unconnected)

/-- A write of four bytes sets the word at its address. -/
theorem effect_of_isWrite32 (h : t.IsWrite32) (r : Registers) :
    t.effect r = r.set32 t.address (Bytes.toWord32 t.payload) :=
  congrArg (fun x => x.2.1) (resolve_of_isWrite32 h r NoBus.unconnected)

/-- A write of eight bytes sets the word at its address. -/
theorem effect_of_isWrite64 (h : t.IsWrite64) (r : Registers) :
    t.effect r = r.set64 t.address (Bytes.toWord64 t.payload) :=
  congrArg (fun x => x.2.1) (resolve_of_isWrite64 h r NoBus.unconnected)

/-- A read changes no register. -/
theorem effect_of_isRead (h : t.IsRead) (r : Registers) : t.effect r = r :=
  congrArg (fun x => x.2.1) (resolve_of_isRead h r NoBus.unconnected)

/-- What has no meaning changes no register. -/
theorem effect_of_isUnsupported (h : t.IsUnsupported) (r : Registers) : t.effect r = r :=
  congrArg (fun x => x.2.1) (resolve_of_isUnsupported h r NoBus.unconnected)

end

end Transaction

/-- The data that an outcome sends, if it sends any. -/
def Outcome.data? : Outcome → Option (List UInt8)
  | .responded _ data => some data
  | _ => none

/-- A queue after the answer that belongs to an outcome. -/
def Queue.answer (q : Queue) (t : Transaction) (o : Outcome) : Queue :=
  match o.data? with
  | some data => q.respond t data
  | none => q

namespace Transaction

/-- Resolving on a queue bus sends the answer of the outcome and nothing else. -/
theorem resolve_eq (t : Transaction) (r : Registers) (q : Queue) :
    t.resolve r q = (t.outcome r, t.effect r, q.answer t (t.outcome r)) := by
  rcases t.shape_cases with h | h | h | h
  · rw [resolve_of_isWrite32 h, outcome_of_isWrite32 h, effect_of_isWrite32 h]
    rfl
  · rw [resolve_of_isWrite64 h, outcome_of_isWrite64 h, effect_of_isWrite64 h]
    rfl
  · rw [resolve_of_isRead h, outcome_of_isRead h, effect_of_isRead h]
    rfl
  · rw [resolve_of_isUnsupported h, outcome_of_isUnsupported h, effect_of_isUnsupported h]
    rfl

/-- On any bus a transaction is resolved in the same way. -/
theorem resolve_fst {β : Type} [Bus β] (t : Transaction) (r : Registers) (bus : β) :
    (t.resolve r bus).1 = t.outcome r := by
  rcases t.shape_cases with h | h | h | h
  · rw [resolve_of_isWrite32 h, outcome_of_isWrite32 h]
  · rw [resolve_of_isWrite64 h, outcome_of_isWrite64 h]
  · rw [resolve_of_isRead h, outcome_of_isRead h]
  · rw [resolve_of_isUnsupported h, outcome_of_isUnsupported h]

/-- An address never lies outside a register space. -/
theorem outcome_ne_outOfRange (t : Transaction) (r : Registers) (e : RangeError) :
    t.outcome r ≠ .dropped (.registerOutOfRange e) := by
  rcases t.shape_cases with h | h | h | h
  · rw [outcome_of_isWrite32 h]
    intro heq
    cases heq
  · rw [outcome_of_isWrite64 h]
    intro heq
    cases heq
  · rw [outcome_of_isRead h]
    intro heq
    cases heq
  · rw [outcome_of_isUnsupported h]
    intro heq
    cases heq

/-- Exactly the reads without payload are answered. -/
theorem isSome_data?_outcome (t : Transaction) (r : Registers) :
    (t.outcome r).data?.isSome ↔ t.IsRead := by
  rcases t.shape_cases with h | h | h | h
  · rw [outcome_of_isWrite32 h]
    constructor
    · intro hs
      exact nomatch hs
    · intro hread
      exact absurd h hread.not_isWrite32
  · rw [outcome_of_isWrite64 h]
    constructor
    · intro hs
      exact nomatch hs
    · intro hread
      exact absurd h hread.not_isWrite64
  · rw [outcome_of_isRead h]
    exact ⟨fun _ => h, fun _ => rfl⟩
  · rw [outcome_of_isUnsupported h]
    constructor
    · intro hs
      exact nomatch hs
    · intro hread
      exact absurd hread h.2.2

/-- Only a read has bytes to answer with. -/
theorem data?_outcome_of_not_isRead {t : Transaction} (h : ¬ t.IsRead) (r : Registers) :
    (t.outcome r).data? = none :=
  Option.not_isSome_iff_eq_none.1 fun hs => h ((t.isSome_data?_outcome r).1 hs)

end Transaction

end Coprocessor
