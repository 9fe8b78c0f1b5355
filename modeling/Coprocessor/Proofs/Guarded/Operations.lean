import Coprocessor.Proofs.Bus.Shape
import Coprocessor.Proofs.Snapshot.Loading

/-!
# Guarded operations — storage, transactions and snapshots

Some operations have a result only in a domain: entries are copied over as many entries, an
entry is replaced where there is one, a position goes back only from behind a word. Where an
operation of this kind is used, the check that keeps it in its domain is often somewhere else.
So every such operation is written down with its domain, an attempt to use it outside ends
with the misuse, and what is built from these operations is shown never to end so.

  • `within` — an operation with its domain; `within_eq_ok` tells when it has a result.
  • `Guarded.overwrite`, `Guarded.store` — entries over a vector, an entry in a vector.
  • `put_eq`, `shape_eq`, `resolve_eq`, `apply_eq` — a checked write, the shape of a
    transaction, its resolution and the restoring of a snapshot keep to the domains of what
    they use, and are what they are without guards.
-/

namespace Coprocessor

/-! ## Domains -/

/-- A use of an operation outside its domain. -/
inductive Misuse where
  /-- A position in front of the first word. -/
  | stepBack
  /-- A text that is cut behind its end or inside a character. -/
  | cut
  /-- A negative number that is taken as one without a sign. -/
  | sign
  /-- Entries that are copied over more or fewer entries. -/
  | length
  /-- An entry behind the last one. -/
  | index
deriving DecidableEq

/-- The result of an operation in its domain. -/
def within {α : Type} (domain : Prop) [Decidable domain] (misuse : Misuse) (a : α) :
    Except Misuse α :=
  if domain then .ok a else .error misuse

/-- There is a result in the domain only. -/
theorem within_eq_ok {α : Type} {domain : Prop} [Decidable domain] {misuse : Misuse} {a b : α} :
    within domain misuse a = .ok b ↔ domain ∧ a = b := by
  rw [within]
  by_cases h : domain
  · rw [if_pos h]
    exact ⟨fun hok => ⟨h, Except.ok.inj hok⟩, fun hab => congrArg Except.ok hab.2⟩
  · rw [if_neg h]
    constructor
    · intro hok
      exact nomatch hok
    · rintro ⟨hdomain, -⟩
      exact absurd hdomain h

/-- In its domain an operation has its result. -/
theorem within_of {α : Type} {domain : Prop} [Decidable domain] (h : domain) (misuse : Misuse)
    (a : α) : within domain misuse a = .ok a :=
  within_eq_ok.2 ⟨h, rfl⟩

namespace Guarded

/-! ## Vectors -/

section

variable {α : Type} {n : Nat}

/-- Writes entries over a vector that holds as many. -/
def overwrite (v : Vector α n) (xs : List α) : Except Misuse (Vector α n) :=
  within (xs.length = n) .length (copyFrom 0 xs v)

/-- Replaces an entry that a vector has. -/
def store (v : Vector α n) (i : Nat) (a : α) : Except Misuse (Vector α n) :=
  within (i < n) .index (v.setIfInBounds i a)

/-- Replaces an entry behind a check of its index. -/
def put (v : Vector α n) (i : Nat) (a : α) : Except Misuse (Except RangeError (Vector α n)) :=
  match RangeError.check i n with
  | .error e => .ok (.error e)
  | .ok () => (store v i a).map .ok

/-- As many entries as there are replace them all. -/
theorem overwrite_eq (v : Vector α n) {xs : List α} (h : xs.length = n) :
    overwrite v xs = .ok ⟨xs.toArray, by simp [h]⟩ := by
  rw [overwrite, within_of h, copyFrom_eq xs v h]

/-- An entry that is there is replaced. -/
theorem store_eq (v : Vector α n) {i : Nat} (h : i < n) (a : α) :
    store v i a = .ok (v.set i a h) := by
  rw [store, within_of h, setIfInBounds_eq v h]

/-- The check in front of an entry is for its domain. -/
theorem put_eq {β : Type} (v : Vector α n) (i : Nat) (a : α) (f : Vector α n → β) :
    (put v i a).map (Except.map f)
      = .ok (if h : i < n then .ok (f (v.set i a h)) else .error ⟨i, n⟩) := by
  rw [put, RangeError.check]
  by_cases h : i < n
  · rw [if_pos h, dif_pos h]
    show ((store v i a).map Except.ok).map (Except.map f) = .ok (.ok (f (v.set i a h)))
    rw [store_eq v h a]
    rfl
  · rw [if_neg h, dif_neg h]
    rfl

end

/-! ## Storage -/

/-- Puts a 32-bit word at an index. -/
def write32 (r : Registers) (i : Nat) (word : UInt32) :
    Except Misuse (Except RangeError Registers) :=
  (put r.single i word).map (Except.map fun single => { r with single })

/-- Puts a 64-bit word at an index. -/
def write64 (r : Registers) (i : Nat) (word : UInt64) :
    Except Misuse (Except RangeError Registers) :=
  (put r.double i word).map (Except.map fun double => { r with double })

/-- Overwrites a slot. -/
def writeSlot (s : OpcodeStore) (i : Nat) (record : Record) :
    Except Misuse (Except RangeError OpcodeStore) :=
  (put s.slots i record).map (Except.map fun slots => { s with slots })

/-- A 32-bit write is never tried behind the last register. -/
theorem write32_eq (r : Registers) (i : Nat) (word : UInt32) :
    write32 r i word = .ok (r.write32 i word) :=
  put_eq r.single i word fun single => ({ r with single } : Registers)

theorem write64_eq (r : Registers) (i : Nat) (word : UInt64) :
    write64 r i word = .ok (r.write64 i word) :=
  put_eq r.double i word fun double => ({ r with double } : Registers)

/-- No record is written behind the last slot. -/
theorem writeSlot_eq (s : OpcodeStore) (i : Nat) (record : Record) :
    writeSlot s i record = .ok (s.write i record) :=
  put_eq s.slots i record fun slots => ({ s with slots } : OpcodeStore)

/-- Writes a snapshot over storage, section after section, once it has been checked. -/
def apply (s : Snapshot) (storage : Storage) :
    Except Misuse (Except CoprocessorError Storage) :=
  match s.check with
  | .error e => .ok (.error e)
  | .ok () => do
      let single ← overwrite storage.registers.single s.single
      let double ← overwrite storage.registers.double s.double
      let slots ← overwrite storage.opcodes.slots s.opcodes
      pure (.ok ⟨⟨single, double⟩, ⟨slots⟩⟩)

/-- A snapshot that was checked has sections of the lengths that they are copied over. -/
theorem apply_eq (s : Snapshot) (storage : Storage) : apply s storage = .ok s.toStorage := by
  rw [apply, Snapshot.check, Snapshot.toStorage]
  by_cases hs : s.single.length = registerCount
  · by_cases hd : s.double.length = registerCount
    · by_cases ho : s.opcodes.length = slotCount
      · rw [dif_pos hs, dif_pos hd, dif_pos ho, overwrite_eq _ hs, overwrite_eq _ hd,
          overwrite_eq _ ho]
        rfl
      · rw [dif_pos hs, dif_pos hd, dif_neg ho]
        rfl
    · rw [dif_pos hs, dif_neg hd]
      rfl
  · rw [dif_neg hs]
    rfl

/-! ## Transactions -/

/-- Reads off what a transaction asks for, with its payload copied to where the word is. -/
def shape (t : Transaction) : Except Misuse Shape :=
  match t.direction, t.payload.length with
  | .write, 4 =>
      (overwrite (Vector.replicate 4 0) t.payload).map fun bytes =>
        .write32 (Bytes.toWord32 bytes.toList)
  | .write, 8 =>
      (overwrite (Vector.replicate 8 0) t.payload).map fun bytes =>
        .write64 (Bytes.toWord64 bytes.toList)
  | .read, 0 => .ok .read32
  | direction, length => .ok (.unsupported direction length)

/-- Resolves one transaction against the registers, answering on the bus. -/
def resolve {β : Type} [Bus β] (t : Transaction) (r : Registers) (bus : β) :
    Except Misuse (Outcome × Registers × β) := do
  let i := t.address.toNat
  match ← shape t with
  | .write32 word => do
      let (outcome, written) := r.settle .single t.address (← write32 r i word)
      pure (outcome, written, bus)
  | .write64 word => do
      let (outcome, written) := r.settle .double t.address (← write64 r i word)
      pure (outcome, written, bus)
  | .read32 =>
      match r.read32 i with
      | some word =>
          let data := Bytes.ofWord32 word
          pure (.responded t.address data, r, Bus.respond bus t data)
      | none => pure (.dropped (.registerOutOfRange ⟨i, registerCount⟩), r, bus)
  | .unsupported direction length => pure (.dropped (.unsupported direction length), r, bus)

/-- The payload is copied only where it is as long as the word. -/
theorem shape_eq (t : Transaction) : shape t = .ok t.shape := by
  obtain h | h | h | h := t.shape_cases
  · rw [Transaction.shape_of_isWrite32 h]
    obtain ⟨hdirection, hlength⟩ := h
    simp only [shape, hdirection, hlength]
    rw [overwrite_eq _ hlength]
    rfl
  · rw [Transaction.shape_of_isWrite64 h]
    obtain ⟨hdirection, hlength⟩ := h
    simp only [shape, hdirection, hlength]
    rw [overwrite_eq _ hlength]
    rfl
  · rw [Transaction.shape_of_isRead h]
    obtain ⟨hdirection, hnil⟩ := h
    simp only [shape, hdirection, hnil, List.length_nil]
  · rw [Transaction.shape_of_isUnsupported h]
    obtain ⟨h32, h64, hread⟩ := h
    unfold shape
    split
    next hdirection hlength => exact absurd ⟨hdirection, hlength⟩ h32
    next hdirection hlength => exact absurd ⟨hdirection, hlength⟩ h64
    next hdirection hlength =>
      exact absurd ⟨hdirection, List.eq_nil_of_length_eq_zero hlength⟩ hread
    next => rfl

/-- Words go to registers that there are. -/
theorem resolve_eq {β : Type} [Bus β] (t : Transaction) (r : Registers) (bus : β) :
    resolve t r bus = .ok (t.resolve r bus) := by
  rw [resolve, Transaction.resolve, shape_eq]
  cases t.shape with
  | write32 word =>
      show (write32 r t.address.toNat word >>= _) = _
      rw [write32_eq]
      rfl
  | write64 word =>
      show (write64 r t.address.toNat word >>= _) = _
      rw [write64_eq]
      rfl
  | read32 =>
      show (match r.read32 t.address.toNat with | some word => _ | none => _)
        = Except.ok (match r.read32 t.address.toNat with | some word => _ | none => _)
      cases r.read32 t.address.toNat with
      | some word => rfl
      | none => rfl
  | unsupported direction length => rfl

end Guarded

end Coprocessor
