import Coprocessor.Proofs.Bus.Memory
import Coprocessor.Proofs.Device.Dispatch
import Coprocessor.Proofs.Device.Spaces

/-!
# Commuting — steps on different registers may change places

A step on the registers reads some registers and writes some. What it answers and
what it writes depends on the ones it reads, and all others stay. So if neither of
two steps writes what the other one reads or writes, they come to the same in
either order.

  • `Touches`, `Touches.commute` — the registers that a step reads and writes, and
    the exchange of two steps.
  • `touches_perform`, `touches_move` — operations touch their sources and their
    destination, transactions the register that they address.
  • `Request.Apart`, `Transaction.Conflicts` — when steps are kept in order.
  • `apart_commute` — operations and transactions on a device.

A refused operation reads nothing that its answer depends on and writes nothing,
so nothing has to be asked of it.
-/

namespace Coprocessor

namespace Registers

/-! ## Registers that a step reads and writes -/

/-- Registers that hold the same bit patterns at some places. -/
def AgreeAt (places : Space → Nat → Prop) (r s : Registers) : Prop :=
  ∀ space i, places space i → r.pattern space i = s.pattern space i

/-- Registers with the same bit patterns are equal. -/
theorem ext_pattern {r s : Registers} (h : ∀ space i, r.pattern space i = s.pattern space i) :
    r = s := by
  have hsingle : r.single = s.single := by
    refine Vector.ext fun i hi => ?_
    have hword : r.single[i]? = s.single[i]? :=
      Option.map_injective (fun _ _ => UInt32.toNat.inj) (h .single i)
    rw [Vector.getElem?_eq_getElem hi, Vector.getElem?_eq_getElem hi] at hword
    exact Option.some.inj hword
  have hdouble : r.double = s.double := by
    refine Vector.ext fun i hi => ?_
    have hword : r.double[i]? = s.double[i]? :=
      Option.map_injective (fun _ _ => UInt64.toNat.inj) (h .double i)
    rw [Vector.getElem?_eq_getElem hi, Vector.getElem?_eq_getElem hi] at hword
    exact Option.some.inj hword
  cases r with
  | mk single double =>
      cases s with
      | mk single' double' =>
          obtain rfl : single = single' := hsingle
          obtain rfl : double = double' := hdouble
          rfl

/-- The registers that a step reads and the ones that it may write. -/
structure Touches {α : Type} (f : Registers → α × Registers) (reads writes : Space → Nat → Prop) :
    Prop where
  answer : ∀ {r s}, AgreeAt reads r s → (f r).1 = (f s).1
  /-- Either nothing is written, or the same words are. -/
  written : ∀ {r s}, AgreeAt reads r s →
    (f r).2 = r ∧ (f s).2 = s ∨ AgreeAt writes (f r).2 (f s).2
  frame : ∀ r space i, ¬ writes space i → (f r).2.pattern space i = r.pattern space i

variable {α γ : Type} {f : Registers → α × Registers} {g : Registers → γ × Registers}
  {reads writes reads' writes' : Space → Nat → Prop}

/-- A step that puts the same word at one place, whatever the registers are. -/
theorem Touches.of_puts {space : Space} {i bits : Nat} (hanswer : ∀ r s, (f r).1 = (f s).1)
    (hputs : ∀ r : Registers, r.Puts (f r).2 space i bits)
    (hwrites : ∀ space' j, writes space' j ↔ space' = space ∧ j = i) :
    Touches f reads writes where
  answer _ := hanswer _ _
  written _ := Or.inr fun space' j hj => by
    have hplace := (hwrites space' j).1 hj
    rw [hputs, hputs, if_pos hplace, if_pos hplace]
  frame r space' j hj := (hputs r space' j).trans (if_neg fun hplace =>
    hj ((hwrites space' j).2 hplace))

/-- A step that changes no register. -/
theorem Touches.of_still (hanswer : ∀ r s, AgreeAt reads r s → (f r).1 = (f s).1)
    (hstill : ∀ r, (f r).2 = r) : Touches f reads writes where
  answer h := hanswer _ _ h
  written _ := Or.inl ⟨hstill _, hstill _⟩
  frame r space i _ := by rw [hstill]

/-- A step that does not write what another one reads leaves its places alike. -/
theorem Touches.agreeAt (hg : Touches g reads' writes')
    (h : ∀ space i, writes' space i → ¬ reads space i) (r : Registers) :
    AgreeAt reads r (g r).2 :=
  fun space i hi => (hg.frame r space i fun hw => h space i hw hi).symm

/-- Where a step writes it leaves the same, whether another one came before it or
    comes behind it. -/
theorem Touches.pattern_eq (hf : Touches f reads writes) (hg : Touches g reads' writes')
    (hreads : ∀ space i, writes' space i → ¬ reads space i)
    (hwrites : ∀ space i, writes space i → ¬ writes' space i) (r : Registers) {space : Space}
    {i : Nat} (hi : writes space i) :
    (g (f r).2).2.pattern space i = (f (g r).2).2.pattern space i := by
  rw [hg.frame _ space i (hwrites space i hi)]
  rcases hf.written (hg.agreeAt hreads r) with ⟨hr, hs⟩ | hsame
  · rw [hr, hs, hg.frame _ space i (hwrites space i hi)]
  · exact hsame space i hi

/-- Neither of two steps writes what the other one reads or writes: in either order both
    answer the same, and they leave the same registers. -/
theorem Touches.commute (hf : Touches f reads writes) (hg : Touches g reads' writes')
    (hreads : ∀ space i, writes' space i → ¬ reads space i)
    (hreads' : ∀ space i, writes space i → ¬ reads' space i)
    (hwrites : ∀ space i, writes space i → ¬ writes' space i) (r : Registers) :
    (f r).1 = (f (g r).2).1 ∧ (g (f r).2).1 = (g r).1 ∧ (g (f r).2).2 = (f (g r).2).2 := by
  refine ⟨hf.answer (hg.agreeAt hreads r), (hg.answer (hf.agreeAt hreads' r)).symm,
    ext_pattern ?_⟩
  intro space i
  -- the place is written by one of the two, or by neither
  by_cases hi : writes space i
  · exact hf.pattern_eq hg hreads hwrites r hi
  · by_cases hi' : writes' space i
    · exact (hg.pattern_eq hf hreads' (fun space i hw' hw => hwrites space i hw hw') r hi').symm
    · rw [hg.frame _ space i hi', hf.frame _ space i hi, hf.frame _ space i hi,
        hg.frame _ space i hi']

end Registers

/-! ## Operations -/

namespace Request

/-- The registers that a request reads. -/
def reads (q : Request) (space : Space) (i : Nat) : Prop :=
  space = q.operation.space ∧ ∃ source ∈ q.sources, i = source.toNat

/-- The register that a request writes. -/
def writes (q : Request) (space : Space) (i : Nat) : Prop :=
  space = q.operation.space ∧ i = q.destination.toNat

/-- Requests that work in different spaces, or neither of which has its destination
    among the sources and the destination of the other. -/
def Apart (q q' : Request) : Prop :=
  q.operation.space ≠ q'.operation.space
    ∨ q.destination ≠ q'.destination ∧ q.destination ∉ q'.sources ∧ q'.destination ∉ q.sources

instance (q q' : Request) : Decidable (q.Apart q') :=
  inferInstanceAs (Decidable (_ ∨ _ ∧ _ ∧ _))

/-- Requests are apart whichever of them comes first. -/
theorem Apart.symm {q q' : Request} (h : q.Apart q') : q'.Apart q := by
  rcases h with hspace | ⟨hne, hnot, hnot'⟩
  · exact Or.inl hspace.symm
  · exact Or.inr ⟨hne.symm, hnot', hnot⟩

theorem Apart.not_reads {q q' : Request} (h : q.Apart q') (space : Space) (i : Nat)
    (hw : q.writes space i) : ¬ q'.reads space i := by
  obtain ⟨rfl, rfl⟩ := hw
  rintro ⟨hspace, source, hmem, hsource⟩
  rcases h with hne | ⟨-, hnot, -⟩
  · exact hne hspace
  · obtain rfl := UInt64.toNat.inj hsource
    exact hnot hmem

theorem Apart.not_writes {q q' : Request} (h : q.Apart q') (space : Space) (i : Nat)
    (hw : q.writes space i) : ¬ q'.writes space i := by
  obtain ⟨rfl, rfl⟩ := hw
  rintro ⟨hspace, hdestination⟩
  rcases h with hne | ⟨hne, -, -⟩
  · exact hne hspace
  · exact hne (UInt64.toNat.inj hdestination)

end Request

namespace Registers

variable {r s : Registers} {q : Request}

/-- Carries out a request, if it can be; a refused one changes nothing. -/
def perform (q : Request) (r : Registers) : Except OperationError Unit × Registers :=
  match r.execute q with
  | .ok s => (.ok (), s)
  | .error e => (.error e, r)

/-- A request that is carried out leaves its registers. -/
theorem perform_ok (h : r.execute q = .ok s) : perform q r = (.ok (), s) := by
  rw [perform, h]

/-- A request that is refused leaves the registers as they were. -/
theorem perform_error {e : OperationError} (h : r.execute q = .error e) :
    perform q r = (.error e, r) := by
  rw [perform, h]

/-- A source is the same in registers that agree there. -/
theorem source32_agree {i : UInt64} (h : r.pattern .single i.toNat = s.pattern .single i.toNat) :
    r.source32 i = s.source32 i := by
  have hword : r.read32 i.toNat = s.read32 i.toNat :=
    Option.map_injective (fun _ _ => UInt32.toNat.inj) h
  rw [source32, source32, hword]

theorem source64_agree {i : UInt64} (h : r.pattern .double i.toNat = s.pattern .double i.toNat) :
    r.source64 i = s.source64 i := by
  have hword : r.read64 i.toNat = s.read64 i.toNat :=
    Option.map_injective (fun _ _ => UInt64.toNat.inj) h
  rw [source64, source64, hword]

/-- The same word is written, or its index is refused. -/
theorem alike_result32 (hspace : q.operation.space = .single) (word : UInt32) :
    Alike (AgreeAt q.writes) (r.result32 q.destination word) (s.result32 q.destination word) := by
  refine (alike_write32 fun hi => ?_).mapError _
  rintro space i ⟨rfl, rfl⟩
  rw [hspace]
  have hr := puts_write32 (dif_pos hi : r.write32 q.destination.toNat word = _)
  have hs := puts_write32 (dif_pos hi : s.write32 q.destination.toNat word = _)
  rw [hr, hs, if_pos ⟨rfl, rfl⟩, if_pos ⟨rfl, rfl⟩]

/-- A 64-bit result agrees at the destination that it is written to. -/
theorem alike_result64 (hspace : q.operation.space = .double) (word : UInt64) :
    Alike (AgreeAt q.writes) (r.result64 q.destination word) (s.result64 q.destination word) := by
  refine (alike_write64 fun hi => ?_).mapError _
  rintro space i ⟨rfl, rfl⟩
  rw [hspace]
  have hr := puts_write64 (dif_pos hi : r.write64 q.destination.toNat word = _)
  have hs := puts_write64 (dif_pos hi : s.write64 q.destination.toNat word = _)
  rw [hr, hs, if_pos ⟨rfl, rfl⟩, if_pos ⟨rfl, rfl⟩]

/-- A request does the same wherever its sources hold the same words. -/
theorem alike_execute_reads (h : AgreeAt q.reads r s) :
    Alike (AgreeAt q.writes) (r.execute q) (s.execute q) := by
  have hpattern : ∀ i ∈ q.sources, r.pattern q.operation.space i.toNat
      = s.pattern q.operation.space i.toNat := fun i hi => h _ _ ⟨rfl, i, hi, rfl⟩
  rw [execute, execute]
  cases hop : q.operation with
  | single op =>
      -- equal sources make the same word, so only the write is left
      have hspace : q.operation.space = .single := by rw [hop]; rfl
      rw [Request.sources, hop] at hpattern
      have ha := source32_agree (hpattern q.source0 List.mem_cons_self)
      have hb := source32_agree (hpattern q.source1 (List.mem_cons_of_mem _ List.mem_cons_self))
      rw [ha, hb]
      refine (Alike.refl (fun _ => rfl) _).bind ?_
      rintro a _ rfl
      refine (Alike.refl (fun _ => rfl) _).bind ?_
      rintro b _ rfl
      exact alike_result32 hspace _
  | double op =>
      have hspace : q.operation.space = .double := by rw [hop]; rfl
      rw [Request.sources, hop] at hpattern
      have ha := source64_agree (hpattern q.source0 List.mem_cons_self)
      have hb := source64_agree (hpattern q.source1 (List.mem_cons_of_mem _ List.mem_cons_self))
      rw [ha, hb]
      refine (Alike.refl (fun _ => rfl) _).bind ?_
      rintro a _ rfl
      refine (Alike.refl (fun _ => rfl) _).bind ?_
      rintro b _ rfl
      exact alike_result64 hspace _
  | function fn =>
      have hspace : q.operation.space = .double := by rw [hop]; rfl
      rw [Request.sources, hop] at hpattern
      have ha := source64_agree (hpattern q.source0 List.mem_cons_self)
      rw [ha]
      refine (Alike.refl (fun _ => rfl) _).bind ?_
      rintro a _ rfl
      exact alike_result64 hspace _

/-- An operation reads its sources and writes its destination. -/
theorem touches_perform (q : Request) : Touches (perform q) q.reads q.writes := by
  refine ⟨?_, ?_, ?_⟩
  · intro r s h
    have halike := alike_execute_reads h
    rw [perform, perform]
    generalize r.execute q = x at halike ⊢
    generalize s.execute q = y at halike ⊢
    cases halike with
    | ok _ => rfl
    | error e => rfl
  · intro r s h
    have halike := alike_execute_reads h
    rw [perform, perform]
    generalize r.execute q = x at halike ⊢
    generalize s.execute q = y at halike ⊢
    cases halike with
    | ok hsame => exact Or.inr hsame
    | error e => exact Or.inl ⟨rfl, rfl⟩
  · intro r space i hi
    have hcases := r.carried_execute q
    rw [perform]
    generalize r.execute q = x at hcases ⊢
    cases hcases with
    | done _ _ _ hputs => exact (hputs space i).trans (if_neg hi)
    | noSource _ _ => rfl
    | noDestination _ _ => rfl

end Registers

/-! ## Transactions -/

namespace Transaction

open Registers (Touches)

/-- The register that a transaction addresses, if its shape has a meaning. -/
def register? (t : Transaction) : Option (Space × UInt8) :=
  match t.shape with
  | .write32 _ => some (.single, t.address)
  | .write64 _ => some (.double, t.address)
  | .read32 => some (.single, t.address)
  | .unsupported _ _ => none

/-- Transactions that address the same register of the same space, at least one of them
    writing it. -/
def Conflicts (t u : Transaction) : Prop :=
  (∃ register, t.register? = some register ∧ u.register? = some register)
    ∧ (t.direction = .write ∨ u.direction = .write)

/-- The register that a transaction touches if it has a direction. -/
def touches (t : Transaction) (direction : Direction) (space : Space) (i : Nat) : Prop :=
  t.direction = direction ∧ ∃ address, t.register? = some (space, address) ∧ i = address.toNat

/-- How a transaction is resolved, and the registers after it. -/
def move (t : Transaction) (r : Registers) : Outcome × Registers := (t.outcome r, t.effect r)

variable {t u : Transaction}

theorem register?_of_isWrite32 (h : t.IsWrite32) : t.register? = some (.single, t.address) := by
  rw [register?, shape_of_isWrite32 h]

theorem register?_of_isWrite64 (h : t.IsWrite64) : t.register? = some (.double, t.address) := by
  rw [register?, shape_of_isWrite64 h]

theorem register?_of_isRead (h : t.IsRead) : t.register? = some (.single, t.address) := by
  rw [register?, shape_of_isRead h]

/-- A transaction touches its register only, and only in its direction. -/
theorem touches_iff {direction : Direction} {space space' : Space} {a : UInt8} {i : Nat}
    (hdirection : t.direction = direction) (hregister : t.register? = some (space, a)) :
    t.touches direction space' i ↔ space' = space ∧ i = a.toNat := by
  constructor
  · rintro ⟨-, address, hsome, rfl⟩
    obtain ⟨rfl, rfl⟩ := Prod.mk.inj (Option.some.inj (hregister.symm.trans hsome))
    exact ⟨rfl, rfl⟩
  · rintro ⟨rfl, rfl⟩
    exact ⟨hdirection, a, hregister, rfl⟩

/-- Without a conflict, what one transaction writes the other one does not touch. -/
theorem not_touches (h : ¬ t.Conflicts u) (direction : Direction) (space : Space) (i : Nat)
    (ht : t.touches .write space i) : ¬ u.touches direction space i := by
  obtain ⟨hdirection, a, hregister, rfl⟩ := ht
  rintro ⟨-, b, hregister', hb⟩
  obtain rfl := UInt8.toNat.inj hb
  exact h ⟨⟨_, hregister, hregister'⟩, Or.inl hdirection⟩

/-- Transactions conflict whichever of them comes first. -/
theorem Conflicts.symm (h : t.Conflicts u) : u.Conflicts t := by
  obtain ⟨⟨register, ht, hu⟩, hwrite⟩ := h
  exact ⟨⟨register, hu, ht⟩, hwrite.symm⟩

/-- A read reads the register that it addresses, and a write writes it. -/
theorem touches_move (t : Transaction) :
    Touches t.move (t.touches .read) (t.touches .write) := by
  rcases t.shape_cases with h | h | h | h
  · have hputs : ∀ r : Registers,
        r.Puts (t.move r).2 .single t.address.toNat (Bytes.toWord32 t.payload).toNat := by
      intro r
      rw [move, effect_of_isWrite32 h]
      exact Registers.puts_write32 (r.write32_address _ _)
    refine .of_puts (fun r s => ?_) hputs fun _ _ => touches_iff h.1 (register?_of_isWrite32 h)
    rw [move, move, outcome_of_isWrite32 h, outcome_of_isWrite32 h]
  · have hputs : ∀ r : Registers,
        r.Puts (t.move r).2 .double t.address.toNat (Bytes.toWord64 t.payload).toNat := by
      intro r
      rw [move, effect_of_isWrite64 h]
      exact Registers.puts_write64 (r.write64_address _ _)
    refine .of_puts (fun r s => ?_) hputs fun _ _ => touches_iff h.1 (register?_of_isWrite64 h)
    rw [move, move, outcome_of_isWrite64 h, outcome_of_isWrite64 h]
  · refine .of_still (fun r s hrs => ?_) fun r => effect_of_isRead h r
    have hpattern := hrs _ _ ((touches_iff h.1 (register?_of_isRead h)).2 ⟨rfl, rfl⟩)
    have hword : r.read32 t.address.toNat = s.read32 t.address.toNat :=
      Option.map_injective (fun _ _ => UInt32.toNat.inj) hpattern
    rw [Registers.read32_address, Registers.read32_address] at hword
    rw [move, move, outcome_of_isRead h, outcome_of_isRead h, Option.some.inj hword]
  · refine .of_still (fun r s _ => ?_) fun r => effect_of_isUnsupported h r
    rw [move, move, outcome_of_isUnsupported h, outcome_of_isUnsupported h]

/-- Transactions without a conflict may change places. -/
theorem move_commute (h : ¬ t.Conflicts u) (r : Registers) :
    t.outcome r = t.outcome (u.effect r) ∧ u.outcome (t.effect r) = u.outcome r
      ∧ u.effect (t.effect r) = t.effect (u.effect r) := by
  have h' : ¬ u.Conflicts t := fun hconflict => h hconflict.symm
  exact t.touches_move.commute u.touches_move (not_touches h' .read) (not_touches h .read)
    (not_touches h .write) r

end Transaction

/-- Requests that are apart are performed in either order with the same results and
    registers. -/
theorem Registers.perform_commute {q q' : Request} (h : q.Apart q') (r : Registers) :
    (perform q r).1 = (perform q (perform q' r).2).1
      ∧ (perform q' (perform q r).2).1 = (perform q' r).1
      ∧ (perform q' (perform q r).2).2 = (perform q (perform q' r).2).2 :=
  (touches_perform q).commute (touches_perform q') h.symm.not_reads h.not_reads h.not_writes r

/-! ## Calls on a device -/

/-- Operations are counted in any order. -/
theorem Counters.operated_comm (c : Counters) (x y : Except OperationError Unit) :
    (c.operated x).operated y = (c.operated y).operated x := by
  cases x with
  | ok _ =>
      cases y with
      | ok _ => rfl
      | error _ => rfl
  | error _ =>
      cases y with
      | ok _ => rfl
      | error _ => rfl

theorem Counters.resolved_comm (c : Counters) (strict : Bool) (o p : Outcome) :
    (c.resolved strict o).resolved strict p = (c.resolved strict p).resolved strict o := by
  cases o with
  | written _ _ => cases p <;> rfl
  | responded _ _ => cases p <;> rfl
  | dropped reason =>
      cases p with
      | written _ _ => rfl
      | responded _ _ => rfl
      | dropped reason' =>
          simp only [resolved]
          congr 1
          exact Nat.add_right_comm _ _ _

namespace Device

section

variable {β : Type} {d : Device β}

/-- A call that carries out a request and leaves all else to its caller. -/
def Carries (f : Device β → Except OperationError Unit × Device β) (q : Request) : Prop :=
  ∀ d, (f d).1 = (Registers.perform q d.registers).1
    ∧ (f d).2.registers = (Registers.perform q d.registers).2

/-- The dispatcher performs a request on the registers and counts nothing. -/
theorem carries_dispatch (q : Request) : Carries (fun d : Device β => d.dispatch q) q := by
  intro d
  dsimp only
  cases h : d.registers.execute q with
  | ok s =>
      rw [dispatch_ok h, Registers.perform_ok h]
      exact ⟨rfl, rfl⟩
  | error e =>
      rw [dispatch_error h, Registers.perform_error h]
      exact ⟨rfl, rfl⟩

/-- Counting an operation changes no register. -/
theorem carries_execute (q : Request) : Carries (fun d : Device β => d.execute q) q := by
  intro d
  obtain ⟨hresult, hregisters⟩ := carries_dispatch q d
  refine ⟨hresult, ?_⟩
  rw [← hregisters]
  show ((d.dispatch q).2.countOperation q (d.dispatch q).1).registers = _
  cases (d.dispatch q).1 with
  | ok _ => rfl
  | error _ => rfl

/-- In either order two calls give their own answers, and they leave the same registers
    and counters. -/
structure Commutes {α γ : Type} (f : Device β → α × Device β) (g : Device β → γ × Device β)
    (d : Device β) : Prop where
  first : (f d).1 = (f (g d).2).1
  second : (g (f d).2).1 = (g d).1
  registers : (g (f d).2).2.registers = (f (g d).2).2.registers
  counters : (g (f d).2).2.counters = (f (g d).2).2.counters

variable {q q' : Request}

/-- Requests that are apart are carried out in either order, if the counters follow from
    the results. -/
theorem Carries.commutes {f g : Device β → Except OperationError Unit × Device β}
    (hf : Carries f q) (hg : Carries g q') (h : q.Apart q') (d : Device β)
    (hcounters : (f d).1 = (f (g d).2).1 → (g (f d).2).1 = (g d).1 →
      (g (f d).2).2.counters = (f (g d).2).2.counters) : Commutes f g d := by
  obtain ⟨hresult, hresult', hregisters⟩ := Registers.perform_commute h d.registers
  have hfirst : (f d).1 = (f (g d).2).1 := by
    rw [(hf d).1, (hf _).1, (hg d).2, hresult]
  have hsecond : (g (f d).2).1 = (g d).1 := by
    rw [(hg d).1, (hg _).1, (hf d).2, hresult']
  refine ⟨hfirst, hsecond, ?_, hcounters hfirst hsecond⟩
  rw [(hg _).2, (hf d).2, (hf _).2, (hg d).2, hregisters]

/-- Uncounted operations that are apart commute on any device. -/
theorem dispatch_commutes (h : q.Apart q') (d : Device β) :
    Commutes (fun d => d.dispatch q) (fun d => d.dispatch q') d := by
  refine (carries_dispatch q).commutes (carries_dispatch q') h d fun _ _ => ?_
  simp only [(counters_dispatch _ _).1]

/-- Counted operations that are apart commute on any device. -/
theorem execute_commutes (h : q.Apart q') (d : Device β) :
    Commutes (fun d => d.execute q) (fun d => d.execute q') d := by
  refine (carries_execute q).commutes (carries_execute q') h d fun hfirst hsecond => ?_
  rw [((d.execute q).2.counters_execute q').1, ((d.execute q').2.counters_execute q).1,
    (d.counters_execute q).1, (d.counters_execute q').1, hsecond, ← hfirst]
  exact Counters.operated_comm _ _ _

end

/-- Two steps handle the two transactions in front. -/
theorem steps_two (d : Device Queue) (t u : Transaction) (rest : List Transaction) :
    let last := ((d.withPending (t :: u :: rest)).handle t (u :: rest)).handle u rest
    steps 2 (d.withPending (t :: u :: rest))
        = ([t.outcome d.registers, u.outcome (t.effect d.registers)], last)
      ∧ last.registers = u.effect (t.effect d.registers)
      ∧ last.counters
          = (d.counters.resolved d.config.strict (t.outcome d.registers)).resolved
              d.config.strict (u.outcome (t.effect d.registers)) := by
  intro last
  have hnext : ((d.withPending (t :: u :: rest)).handle t (u :: rest)).registers
      = t.effect d.registers := registers_handle
  refine ⟨?_, ?_, ?_⟩
  · rw [steps_of_cons rfl, steps_of_cons pending_handle, hnext]
    rfl
  · rw [registers_handle, hnext]
  · rw [counters_handle, counters_handle, config_handle, hnext]
    rfl

/-- Two transactions without a conflict are resolved alike in either order of waiting. -/
theorem steps_swap {t u : Transaction} (h : ¬ t.Conflicts u) (d : Device Queue)
    (rest : List Transaction) :
    ∃ o p, (steps 2 (d.withPending (t :: u :: rest))).1 = [o, p]
      ∧ (steps 2 (d.withPending (u :: t :: rest))).1 = [p, o]
      ∧ (steps 2 (d.withPending (t :: u :: rest))).2.registers
          = (steps 2 (d.withPending (u :: t :: rest))).2.registers
      ∧ (steps 2 (d.withPending (t :: u :: rest))).2.counters
          = (steps 2 (d.withPending (u :: t :: rest))).2.counters := by
  obtain ⟨hfirst, hsecond, heffect⟩ := Transaction.move_commute h d.registers
  obtain ⟨hsteps, hregisters, hcounters⟩ := d.steps_two t u rest
  obtain ⟨hsteps', hregisters', hcounters'⟩ := d.steps_two u t rest
  refine ⟨t.outcome d.registers, u.outcome d.registers, ?_, ?_, ?_, ?_⟩
  · rw [hsteps, hsecond]
  · rw [hsteps', ← hfirst]
  · rw [hsteps, hsteps', hregisters, hregisters', heffect]
  · rw [hsteps, hsteps', hcounters, hcounters', hsecond, ← hfirst]
    exact Counters.resolved_comm _ _ _ _

/-- **Independent steps commute**: two requests that work in different spaces, or neither
    of which has its destination among the sources and the destination of the other, give
    the same results in either order and leave the same registers, whether they are
    carried out or refused, and counted or not. Two waiting transactions may change places
    unless both address the same register of the same space and one of them writes it:
    each keeps its outcome, and they leave the same registers and counters. -/
theorem apart_commute :
    (∀ {β : Type} (d : Device β) (q q' : Request), q.Apart q' →
        Commutes (fun d => d.dispatch q) (fun d => d.dispatch q') d
          ∧ Commutes (fun d => d.execute q) (fun d => d.execute q') d)
      ∧ ∀ (d : Device Queue) (t u : Transaction) (rest : List Transaction), ¬ t.Conflicts u →
          ∃ o p, (steps 2 (d.withPending (t :: u :: rest))).1 = [o, p]
            ∧ (steps 2 (d.withPending (u :: t :: rest))).1 = [p, o]
            ∧ (steps 2 (d.withPending (t :: u :: rest))).2.registers
                = (steps 2 (d.withPending (u :: t :: rest))).2.registers
            ∧ (steps 2 (d.withPending (t :: u :: rest))).2.counters
                = (steps 2 (d.withPending (u :: t :: rest))).2.counters :=
  ⟨fun d _ _ h => ⟨dispatch_commutes h d, execute_commutes h d⟩,
    fun d _ _ rest h => steps_swap h d rest⟩

/-- A square root whose unused source is the destination of an addition that is refused,
    and a read of the register with the number that a wide write goes to. -/
theorem apart_commute_unused :
    let d : Device Queue := withDefaults Queue.empty
    let q : Request := ⟨.function .sqrt, 5, 2, 7⟩
    let q' : Request := ⟨.double .add, 7, 300, 0⟩
    (((d.execute q).2.execute q').1 = .error .sourceOutOfRange
        ∧ ((d.execute q).2.execute q').2.registers = ((d.execute q').2.execute q).2.registers)
      ∧ ∃ o p, (steps 2 (d.withPending [.write64 3 1, .read 3])).1 = [o, p]
          ∧ (steps 2 (d.withPending [.read 3, .write64 3 1])).1 = [p, o]
          ∧ p = .responded 3 [0, 0, 0, 0] := by
  intro d q q'
  have hapart : q.Apart q' := by decide
  have hconflict : ¬ (Transaction.write64 3 1).Conflicts (.read 3) := by
    rintro ⟨⟨register, ht, hu⟩, -⟩
    exact absurd (ht.trans hu.symm) (by decide)
  obtain ⟨hrequests, htransactions⟩ := apart_commute
  obtain ⟨-, hcommutes⟩ := hrequests d q q' hapart
  obtain ⟨o, p, hsteps, hsteps', -⟩ := htransactions d _ _ [] hconflict
  refine ⟨⟨hcommutes.second.trans (by decide +kernel), hcommutes.registers⟩, o, p, hsteps,
    hsteps', ?_⟩
  have hread : (steps 2 (d.withPending [.read 3, .write64 3 1])).1.head?
      = some (.responded 3 [0, 0, 0, 0]) := by decide +kernel
  rw [hsteps'] at hread
  exact Option.some.inj hread

end Device

end Coprocessor
