import Coprocessor.Proofs.Device.Likeness

/-!
# Spaces — what happens in one register space does not show in the other

Two devices that differ in the words of one space alone go on to differ in that
space alone, whatever is done to both of them, and nothing else tells them
apart. A read sends a 32-bit word over the bus, so what a read sends is left out
where those words differ; nothing that is sent depends on the 64-bit words.

  • `butDouble`, `butSingle` — everything in common but one space.
  • `alike_write32`, `alike_source32` and their counterparts — whether a word is
    written or found depends on its index alone.
  • `alike_execute` — an operation takes whatever its sources have in common to
    what it writes; so it reads and writes one space only, by
    `alike_execute_single` and `alike_execute_double`.
  • `lawful_butDouble`, `lawful_butSingle` — every part of a device respects both
    likenesses.
  • `spaces_independent` — and so does every run.
-/

namespace Coprocessor

/-! ## Operations on one space -/

namespace Registers

variable {r s : Registers} {like : Registers → Registers → Prop}

/-- Whether a write is accepted depends on its index alone. -/
theorem alike_write32 {i : Nat} {word word' : UInt32}
    (h : ∀ hi : i < registerCount,
      like { r with single := r.single.set i word hi }
        { s with single := s.single.set i word' hi }) :
    Alike like (r.write32 i word) (s.write32 i word') := by
  by_cases hi : i < registerCount
  · rw [write32, write32, dif_pos hi, dif_pos hi]
    exact .ok (h hi)
  · rw [write32, write32, dif_neg hi, dif_neg hi]
    exact .error _

/-- A 64-bit write is accepted on both sides or refused on both. -/
theorem alike_write64 {i : Nat} {word word' : UInt64}
    (h : ∀ hi : i < registerCount,
      like { r with double := r.double.set i word hi }
        { s with double := s.double.set i word' hi }) :
    Alike like (r.write64 i word) (s.write64 i word') := by
  by_cases hi : i < registerCount
  · rw [write64, write64, dif_pos hi, dif_pos hi]
    exact .ok (h hi)
  · rw [write64, write64, dif_neg hi, dif_neg hi]
    exact .error _

/-- The same 32-bit write keeps equal 32-bit spaces equal. -/
theorem alike_write32_single (h : r.single = s.single) (i : Nat) (word : UInt32) :
    Alike (fun x y => x.single = y.single) (r.write32 i word) (s.write32 i word) := by
  refine alike_write32 fun hi => ?_
  rw [h]

theorem alike_write64_double (h : r.double = s.double) (i : Nat) (word : UInt64) :
    Alike (fun x y => x.double = y.double) (r.write64 i word) (s.write64 i word) := by
  refine alike_write64 fun hi => ?_
  rw [h]

/-- Whether a source is found depends on its index alone. -/
theorem alike_source32 (r s : Registers) (i : UInt64) :
    Alike (fun _ _ => True) (r.source32 i) (s.source32 i) := by
  by_cases hi : i.toNat < registerCount
  · rw [source32, source32, read32, read32, Vector.getElem?_eq_getElem hi,
      Vector.getElem?_eq_getElem hi]
    exact .ok trivial
  · have hle := Nat.le_of_not_lt hi
    rw [source32, source32, read32, read32, Vector.getElem?_eq_none hle,
      Vector.getElem?_eq_none hle]
    exact .error _

theorem alike_source64 (r s : Registers) (i : UInt64) :
    Alike (fun _ _ => True) (r.source64 i) (s.source64 i) := by
  by_cases hi : i.toNat < registerCount
  · rw [source64, source64, read64, read64, Vector.getElem?_eq_getElem hi,
      Vector.getElem?_eq_getElem hi]
    exact .ok trivial
  · have hle := Nat.le_of_not_lt hi
    rw [source64, source64, read64, read64, Vector.getElem?_eq_none hle,
      Vector.getElem?_eq_none hle]
    exact .error _

/-- A 32-bit source depends on the 32-bit space alone. -/
theorem source32_congr (h : r.single = s.single) (i : UInt64) : r.source32 i = s.source32 i := by
  rw [source32, source32, read32, read32, h]

theorem source64_congr (h : r.double = s.double) (i : UInt64) : r.source64 i = s.source64 i := by
  rw [source64, source64, read64, read64, h]

/-- An operation takes whatever its sources have in common to what it writes. -/
theorem alike_execute {like32 : UInt32 → UInt32 → Prop} {like64 : UInt64 → UInt64 → Prop}
    (hsource32 : ∀ i, Alike like32 (r.source32 i) (s.source32 i))
    (hsource64 : ∀ i, Alike like64 (r.source64 i) (s.source64 i))
    (hsingle : ∀ (op : Arith) {a a' b b'}, like32 a a' → like32 b b' →
      ∀ i, Alike like (r.write32 i (op.apply32 a b)) (s.write32 i (op.apply32 a' b')))
    (hdouble : ∀ (op : Arith) {a a' b b'}, like64 a a' → like64 b b' →
      ∀ i, Alike like (r.write64 i (op.apply64 a b)) (s.write64 i (op.apply64 a' b')))
    (hfunction : ∀ (fn : Elementary) {a a'}, like64 a a' →
      ∀ i, Alike like (r.write64 i (fn.apply64 a)) (s.write64 i (fn.apply64 a')))
    (q : Request) : Alike like (r.execute q) (s.execute q) := by
  rw [execute, execute]
  cases q.operation with
  | single op =>
      refine (hsource32 q.source0).bind ?_
      intro a a' ha
      refine (hsource32 q.source1).bind ?_
      intro b b' hb
      exact (hsingle op ha hb _).mapError _
  | double op =>
      refine (hsource64 q.source0).bind ?_
      intro a a' ha
      refine (hsource64 q.source1).bind ?_
      intro b b' hb
      exact (hdouble op ha hb _).mapError _
  | function fn =>
      refine (hsource64 q.source0).bind ?_
      intro a a' ha
      exact (hfunction fn ha _).mapError _

/-- With the same 32-bit words, an operation leaves the same 32-bit words or fails
    with the same error. -/
theorem alike_execute_single (h : r.single = s.single) (q : Request) :
    Alike (fun x y => x.single = y.single) (r.execute q) (s.execute q) := by
  have hsource : ∀ i, Alike Eq (r.source32 i) (s.source32 i) := by
    intro i
    rw [source32_congr h]
    exact Alike.refl (fun _ => rfl) _
  refine alike_execute hsource (alike_source64 r s) ?_ ?_ ?_ q
  · rintro op a _ b _ rfl rfl i
    exact alike_write32_single h i _
  · intro op a a' b b' _ _ i
    exact alike_write64 fun _ => h
  · intro fn a a' _ i
    exact alike_write64 fun _ => h

/-- With the same 64-bit words, an operation leaves the same 64-bit words or fails
    with the same error. -/
theorem alike_execute_double (h : r.double = s.double) (q : Request) :
    Alike (fun x y => x.double = y.double) (r.execute q) (s.execute q) := by
  have hsource : ∀ i, Alike Eq (r.source64 i) (s.source64 i) := by
    intro i
    rw [source64_congr h]
    exact Alike.refl (fun _ => rfl) _
  refine alike_execute (alike_source32 r s) hsource ?_ ?_ ?_ q
  · intro op a a' b b' _ _ i
    exact alike_write32 fun _ => h
  · rintro op a _ b _ rfl rfl i
    exact alike_write64_double h i _
  · rintro fn a _ rfl i
    exact alike_write64_double h i _

end Registers

/-! ## Transactions on one space -/

namespace Transaction

variable {r s : Registers}

/-- What a transaction does to the 32-bit space depends on that space alone. -/
theorem single_effect (h : r.single = s.single) (t : Transaction) :
    (t.effect r).single = (t.effect s).single := by
  rcases t.shape_cases with ht | ht | ht | ht
  · rw [effect_of_isWrite32 ht, effect_of_isWrite32 ht, Registers.set32, Registers.set32, h]
  · rw [effect_of_isWrite64 ht, effect_of_isWrite64 ht]
    exact h
  · rw [effect_of_isRead ht, effect_of_isRead ht]
    exact h
  · rw [effect_of_isUnsupported ht, effect_of_isUnsupported ht]
    exact h

theorem double_effect (h : r.double = s.double) (t : Transaction) :
    (t.effect r).double = (t.effect s).double := by
  rcases t.shape_cases with ht | ht | ht | ht
  · rw [effect_of_isWrite32 ht, effect_of_isWrite32 ht]
    exact h
  · rw [effect_of_isWrite64 ht, effect_of_isWrite64 ht, Registers.set64, Registers.set64, h]
  · rw [effect_of_isRead ht, effect_of_isRead ht]
    exact h
  · rw [effect_of_isUnsupported ht, effect_of_isUnsupported ht]
    exact h

/-- How a transaction is resolved depends on the 32-bit words alone. -/
theorem outcome_congr (h : r.single = s.single) (t : Transaction) : t.outcome r = t.outcome s := by
  rcases t.shape_cases with ht | ht | ht | ht
  · rw [outcome_of_isWrite32 ht, outcome_of_isWrite32 ht]
  · rw [outcome_of_isWrite64 ht, outcome_of_isWrite64 ht]
  · rw [outcome_of_isRead ht, outcome_of_isRead ht, Registers.word32, Registers.word32, h]
  · rw [outcome_of_isUnsupported ht, outcome_of_isUnsupported ht]

end Transaction

/-! ## Without the data of answers -/

/-- An outcome without the data that it sends. -/
def Outcome.masked : Outcome → Outcome
  | .responded address _ => .responded address []
  | o => o

/-- An event without the data that it sends. -/
def Event.masked : Event → Event
  | .responded address _ => .responded address []
  | e => e

/-- Two queues that differ in the data of their answers alone. -/
structure Queue.SameButData (p q : Queue) : Prop where
  pending : p.pending = q.pending
  responses : p.responses.toList.map Prod.fst = q.responses.toList.map Prod.fst
  signals : p.signals = q.signals
  events : p.events.toList.map Event.masked = q.events.toList.map Event.masked

/-- But for its data, an outcome depends on the transaction alone. -/
theorem Transaction.masked_outcome (t : Transaction) (r s : Registers) :
    (t.outcome r).masked = (t.outcome s).masked := by
  rcases t.shape_cases with ht | ht | ht | ht
  · rw [outcome_of_isWrite32 ht, outcome_of_isWrite32 ht]
  · rw [outcome_of_isWrite64 ht, outcome_of_isWrite64 ht]
  · rw [outcome_of_isRead ht, outcome_of_isRead ht]
    rfl
  · rw [outcome_of_isUnsupported ht, outcome_of_isUnsupported ht]

/-- The events of a transaction are masked with its outcome. -/
theorem Transaction.masked_block (t : Transaction) (o : Outcome) :
    (t.block o).map Event.masked = t.block o.masked := by
  cases o <;> rfl

theorem Transaction.fst_response (t : Transaction) (o : Outcome) :
    (t.response o).map Prod.fst = (t.response o.masked).map Prod.fst := by
  cases o <;> rfl

/-- Counting does not look at data. -/
theorem Counters.resolved_masked (c : Counters) (strict : Bool) (o : Outcome) :
    c.resolved strict o.masked = c.resolved strict o := by
  cases o <;> rfl

/-- Outcomes that differ in their data leave buses that differ in nothing else. -/
theorem Queue.SameButData.handled {p q : Queue} {o o' : Outcome} (h : p.SameButData q)
    (ho : o.masked = o'.masked) (t : Transaction) (rest : List Transaction) :
    (Device.handledBus p t rest o).SameButData (Device.handledBus q t rest o') := by
  constructor
  · rw [Device.pending_handledBus, Device.pending_handledBus]
  · rw [Device.responses_handledBus, Device.responses_handledBus, List.map_append, List.map_append,
      h.responses, t.fst_response o, t.fst_response o', ho]
  · rfl
  · rw [Device.events_handledBus, Device.events_handledBus, List.map_append, List.map_append,
      h.events, t.masked_block o, t.masked_block o', ho]

/-! ## The two likenesses -/

namespace Likeness

/-- Everything but the 64-bit words. -/
def butDouble : Likeness where
  registers r s := r.single = s.single
  config := Eq
  counters := Eq
  bus := Eq
  seen := id

/-- Everything but the 32-bit words and the data that was read from them. -/
def butSingle : Likeness where
  registers r s := r.double = s.double
  config := Eq
  counters := Eq
  bus := Queue.SameButData
  seen := Outcome.masked

/-- Devices that may differ in the 64-bit space and in data are treated alike. -/
theorem lawful_butDouble : butDouble.Lawful where
  refl _ := rfl
  effect h t := t.single_effect h
  outcome h t := t.outcome_congr h
  execute h q := Registers.alike_execute_single h q
  write32 h i word := Registers.alike_write32_single h i word
  write64 h i word := Registers.alike_write64 fun _ => h
  budget h := congrArg Config.budget h
  zero := rfl
  resolved := by
    rintro c _ f _ o _ rfl rfl rfl
    rfl
  operated h result := congrArg (Counters.operated · result) h
  pending h := congrArg Queue.pending h
  push h t := congrArg (Queue.push · t) h
  handled := by
    rintro p _ o _ rfl rfl t rest
    rfl

/-- Devices that may differ in the 32-bit space and in data are treated alike. -/
theorem lawful_butSingle : butSingle.Lawful where
  refl _ := rfl
  effect h t := t.double_effect h
  outcome _ t := t.masked_outcome _ _
  execute h q := Registers.alike_execute_double h q
  write32 h i word := Registers.alike_write32 fun _ => h
  write64 h i word := Registers.alike_write64_double h i word
  budget h := congrArg Config.budget h
  zero := rfl
  resolved := by
    rintro c _ f _ o o' rfl rfl ho
    have ho : o.masked = o'.masked := ho
    show c.resolved f.strict o = c.resolved f.strict o'
    rw [← c.resolved_masked f.strict o, ho, c.resolved_masked]
  operated h result := congrArg (Counters.operated · result) h
  pending h := h.pending
  push h t := ⟨congrArg (· ++ [t]) h.pending, h.responses, h.signals, h.events⟩
  handled h ho t rest := h.handled ho t rest

end Likeness

/-! ## Runs -/

open Device Likeness

/-- Plain calls come to their end. -/
theorem exists_performAll_of_isPlain {actions : List Action} (h : ∀ a ∈ actions, a.IsPlain)
    (d : Device Queue) : ∃ answers last, performAll actions d = some (answers, last) := by
  have hpoll : ∀ stop looks, Action.poll stop looks ∉ actions := fun _ _ hmem => h _ hmem
  obtain ⟨⟨answers, last⟩, hd⟩ := Option.isSome_iff_exists.1 (isSome_performAll hpoll d)
  exact ⟨answers, last, hd⟩

/-- **The register spaces are independent**: the same plain calls on two devices that differ in
    their 64-bit words alone give the same answers and outcomes, and leave devices that
    differ in their 64-bit words alone. On two devices that differ in their 32-bit words
    and in the data of answers, they give answers and outcomes that differ in data alone,
    and leave devices that differ in these alone. -/
theorem spaces_independent {actions : List Action} (h : ∀ a ∈ actions, a.IsPlain) :
    (∀ {d e : Device Queue}, butDouble.Relates d e →
        ∃ answers last last', performAll actions d = some (answers, last)
          ∧ performAll actions e = some (answers, last')
          ∧ allOutcomes actions d = allOutcomes actions e
          ∧ butDouble.Relates last last')
      ∧ ∀ {d e : Device Queue}, butSingle.Relates d e →
          ∃ answers answers' last last', performAll actions d = some (answers, last)
            ∧ performAll actions e = some (answers', last')
            ∧ answers.map (Answer.through Outcome.masked)
                = answers'.map (Answer.through Outcome.masked)
            ∧ (allOutcomes actions d).map (List.map Outcome.masked)
                = (allOutcomes actions e).map (List.map Outcome.masked)
            ∧ butSingle.Relates last last' := by
  constructor
  · intro d e hde
    have hkeeps : ∀ a ∈ actions, butDouble.Keeps a :=
      fun a ha => keeps_of_isPlain lawful_butDouble (h a ha)
    obtain ⟨answers, last, hd⟩ := exists_performAll_of_isPlain h d
    obtain ⟨houtcomes, hsame⟩ := performAll_same rfl hkeeps hde
    obtain ⟨last', he, hlast⟩ := hsame hd
    exact ⟨answers, last, last', hd, he, houtcomes, hlast⟩
  · intro d e hde
    -- here answers may differ in their data, so only their masked forms are compared
    have hkeeps : ∀ a ∈ actions, butSingle.Keeps a :=
      fun a ha => keeps_of_isPlain lawful_butSingle (h a ha)
    obtain ⟨answers, last, hd⟩ := exists_performAll_of_isPlain h d
    obtain ⟨answers', last', he, hanswers, hlast⟩ := exists_performAll hkeeps hde hd
    exact ⟨answers, answers', last, last', hd, he, hanswers, (performAll_alike hkeeps hde).2,
      hlast⟩

/-- A read, a sum in each space and a slot, on devices that differ in register 3 of one
    space: the sums of that space differ, the others do not. -/
theorem spaces_independent_sums :
    let actions : List Action :=
      [.push (.read 3), .step, .execute ⟨.single .add, 5, 3, 3⟩, .execute ⟨.double .add, 5, 3, 3⟩,
        .executeSlot 5000 (.single .add)]
    let d := withDefaults Queue.empty
    let e := d.withRegisters (d.registers.set64 3 0x3FF0000000000000)
    let f := d.withRegisters (d.registers.set32 3 0x3F800000)
    (∃ answers last last', performAll actions d = some (answers, last)
        ∧ performAll actions e = some (answers, last')
        ∧ butDouble.Relates last last')
      ∧ (∃ answers answers' last last', performAll actions d = some (answers, last)
        ∧ performAll actions f = some (answers', last')
        ∧ butSingle.Relates last last')
      ∧ ([d, e, f].filterMap (performAll actions)).map (fun run => run.2.registers.read64 5)
          = [some 0, some 0x4000000000000000, some 0]
      ∧ ([d, e, f].filterMap (performAll actions)).map (fun run => run.2.registers.read32 5)
          = [some 0, some 0, some 0x40000000] := by
  intro actions d e f
  have hplain : ∀ a ∈ actions, a.IsPlain := by
    simp only [actions, List.forall_mem_cons, Action.IsPlain]
    simp
  have hde : butDouble.Relates d e := ⟨rfl, rfl, rfl, rfl, rfl⟩
  have hdf : butSingle.Relates d f := ⟨rfl, rfl, rfl, rfl, ⟨rfl, rfl, rfl, rfl⟩⟩
  obtain ⟨hdouble, hsingle⟩ := spaces_independent hplain
  obtain ⟨answers, last, last', hd, he, -, hlast⟩ := hdouble hde
  obtain ⟨front, back, middle, bottom, hd', hf, -, -, hbottom⟩ := hsingle hdf
  exact ⟨⟨answers, last, last', hd, he, hlast⟩, ⟨front, back, middle, bottom, hd', hf, hbottom⟩,
    by decide +kernel, by decide +kernel⟩

end Coprocessor
