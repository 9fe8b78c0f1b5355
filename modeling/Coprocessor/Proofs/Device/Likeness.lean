import Coprocessor.Proofs.Device.Counting
import Coprocessor.Proofs.Success

/-!
# Likeness — the same calls on two devices that are alike

Two devices may differ in something that no call lets out, such as the words of
one register space. What they have in common is named by a likeness, and if
resolving a transaction, an operation, a write and the bus respect it, then so
does every call and every run: the answers are seen to be the same, and the
devices stay alike.

  • `Likeness`, `Likeness.Relates` — what two devices have in common.
  • `Likeness.Lawful` — the parts of a device respect the likeness.
  • `alike_steps`, `alike_execute` and the lemmas around them — so do the calls.
  • `Keeps` — a call on two devices that are alike comes to its end on both or on
    neither, answers the same as far as it is seen, and leaves them alike;
    `keeps_of_isPlain` for the calls that no likeness can tell apart.
  • `performAll_alike` — the run, by induction along the list of calls;
    `performAll_same` where all of an outcome is seen.

The opcode slots are the same on both sides throughout, because a slot says which
registers an operation works on. The logs play no part.
-/

namespace Coprocessor

/-! ## What two devices have in common -/

/-- What two devices may have in common, and what is seen of an outcome. -/
structure Likeness where
  registers : Registers → Registers → Prop
  config : Config → Config → Prop
  counters : Counters → Counters → Prop
  bus : Queue → Queue → Prop
  seen : Outcome → Outcome

namespace Likeness

/-- Two devices have everything in common that a likeness names. -/
structure Relates (l : Likeness) (d e : Device Queue) : Prop where
  registers : l.registers d.registers e.registers
  opcodes : d.opcodes = e.opcodes
  config : l.config d.config e.config
  counters : l.counters d.counters e.counters
  bus : l.bus d.bus e.bus

/-- The parts of a device respect a likeness. -/
structure Lawful (l : Likeness) : Prop where
  /-- Replaced registers are alike, as they are the same. -/
  refl : ∀ r, l.registers r r
  effect : ∀ {r s}, l.registers r s → ∀ t : Transaction, l.registers (t.effect r) (t.effect s)
  outcome : ∀ {r s}, l.registers r s → ∀ t : Transaction,
    l.seen (t.outcome r) = l.seen (t.outcome s)
  execute : ∀ {r s}, l.registers r s → ∀ q, Alike l.registers (r.execute q) (s.execute q)
  write32 : ∀ {r s}, l.registers r s → ∀ i word,
    Alike l.registers (r.write32 i word) (s.write32 i word)
  write64 : ∀ {r s}, l.registers r s → ∀ i word,
    Alike l.registers (r.write64 i word) (s.write64 i word)
  budget : ∀ {f g}, l.config f g → f.budget = g.budget
  zero : l.counters {} {}
  resolved : ∀ {c c' f g o o'}, l.counters c c' → l.config f g → l.seen o = l.seen o' →
    l.counters (c.resolved f.strict o) (c'.resolved g.strict o')
  operated : ∀ {c c'}, l.counters c c' → ∀ result,
    l.counters (c.operated result) (c'.operated result)
  pending : ∀ {p q}, l.bus p q → p.pending = q.pending
  push : ∀ {p q}, l.bus p q → ∀ t, l.bus (p.push t) (q.push t)
  handled : ∀ {p q o o'}, l.bus p q → l.seen o = l.seen o' → ∀ t rest,
    l.bus (Device.handledBus p t rest o) (Device.handledBus q t rest o')

end Likeness

/-- An answer as far as it is seen. -/
def Answer.through (seen : Outcome → Outcome) : Answer → Answer
  | .outcome o => .outcome (o.map seen)
  | answer => answer

/-- Looked at directly, an answer is what it is. -/
theorem Answer.through_id (answer : Answer) : answer.through id = answer := by
  cases answer with
  | outcome o => exact congrArg Answer.outcome Option.map_id_apply
  | nothing | count _ | reports _ | operation _ | slot _ | access _ | contents _ | restored _ =>
      rfl

/-- Whether an answer depends on registers in no other way than through outcomes, and
    the end of the call not on a flag. -/
def Action.IsPlain : Action → Prop
  | .poll _ _ => False
  | .script _ => False
  | .snapshot => False
  | _ => True

namespace Device

open Likeness (Relates)

/-- The counters after a transaction was handled. -/
theorem counters_handle (d : Device Queue) (t : Transaction) (rest : List Transaction) :
    (d.handle t rest).counters
      = d.counters.resolved d.config.strict (t.outcome d.registers) := by
  rw [handle]
  exact counters_countOutcome rfl t _

variable {l : Likeness} {d e : Device Queue}

/-! ## Calls on devices that are alike -/

/-- Devices stay alike when something is logged on either side. -/
theorem alike_note (h : l.Relates d e) (x y : Entry) : l.Relates (d.note x) (e.note y) :=
  ⟨h.registers, h.opcodes, h.config, h.counters, h.bus⟩

theorem alike_withRegisters (h : l.Relates d e) {r s : Registers} (hrs : l.registers r s) :
    l.Relates (d.withRegisters r) (e.withRegisters s) :=
  ⟨hrs, h.opcodes, h.config, h.counters, h.bus⟩

section

variable (lawful : l.Lawful)
include lawful

theorem alike_push (h : l.Relates d e) (t : Transaction) : l.Relates (d.push t) (e.push t) :=
  ⟨h.registers, h.opcodes, h.config, h.counters, lawful.push h.bus t⟩

theorem alike_reset (h : l.Relates d e) : l.Relates d.reset e.reset :=
  ⟨lawful.refl _, rfl, h.config, lawful.zero, h.bus⟩

/-- Handling the same transaction keeps devices alike. -/
theorem alike_handle (h : l.Relates d e) (t : Transaction) (rest : List Transaction) :
    l.Relates (d.handle t rest) (e.handle t rest) := by
  have hseen := lawful.outcome h.registers t
  constructor
  · rw [registers_handle, registers_handle]
    exact lawful.effect h.registers t
  · rw [opcodes_handle, opcodes_handle]
    exact h.opcodes
  · rw [config_handle, config_handle]
    exact h.config
  · rw [counters_handle, counters_handle]
    exact lawful.resolved h.counters h.config hseen
  · rw [bus_handle, bus_handle]
    exact lawful.handled h.bus hseen t rest

/-- The same transaction is next on both sides, or nothing waits on either. -/
theorem pending_cases (h : l.Relates d e) :
    (d.bus.pending = [] ∧ e.bus.pending = [])
      ∨ ∃ t rest, d.bus.pending = t :: rest ∧ e.bus.pending = t :: rest := by
  have hpending := lawful.pending h.bus
  cases hd : d.bus.pending with
  | nil => exact Or.inl ⟨rfl, hpending.symm.trans hd⟩
  | cons t rest => exact Or.inr ⟨t, rest, rfl, hpending.symm.trans hd⟩

/-- A step shows the same on both sides and keeps them alike. -/
theorem alike_step (h : l.Relates d e) :
    d.step.1.map l.seen = e.step.1.map l.seen ∧ l.Relates d.step.2 e.step.2 := by
  rcases pending_cases lawful h with ⟨hd, he⟩ | ⟨t, rest, hd, he⟩
  · rw [step_of_nil hd, step_of_nil he]
    exact ⟨rfl, h⟩
  · rw [step_of_cons hd, step_of_cons he]
    exact ⟨congrArg some (lawful.outcome h.registers t), alike_handle lawful h t rest⟩

/-- Steps find the same transactions, and resolve them alike. -/
theorem alike_steps (h : l.Relates d e) (n : Nat) :
    (d.steps n).1.map l.seen = (e.steps n).1.map l.seen
      ∧ l.Relates (d.steps n).2 (e.steps n).2 := by
  induction n generalizing d e with
  | zero => exact ⟨rfl, h⟩
  | succ n ih =>
      obtain ⟨hfirst, hnext⟩ := alike_step lawful h
      obtain ⟨hmore, hlast⟩ := ih hnext
      refine ⟨?_, hlast⟩
      show (d.step.1.toList ++ (d.step.2.steps n).1).map l.seen
        = (e.step.1.toList ++ (e.step.2.steps n).1).map l.seen
      rw [List.map_append, List.map_append, ← Option.toList_map, ← Option.toList_map, hfirst,
        hmore]

theorem alike_drain (h : l.Relates d e) :
    d.drain.1.map l.seen = e.drain.1.map l.seen ∧ l.Relates d.drain.2 e.drain.2 := by
  rw [drain_eq_steps, drain_eq_steps, lawful.pending h.bus]
  exact alike_steps lawful h _

/-- The same transactions wait and the budgets are the same, so there is the same
    room. -/
theorem room_of_relates (h : l.Relates d e) (handled : Nat) : d.room handled = e.room handled := by
  rw [room, room, lawful.budget h.config, lawful.pending h.bus]

theorem alike_runUntilIdle (h : l.Relates d e) :
    d.runUntilIdle.1 = e.runUntilIdle.1 ∧ l.Relates d.runUntilIdle.2 e.runUntilIdle.2 := by
  rw [runUntilIdle_eq_steps, runUntilIdle_eq_steps, room_of_relates lawful h]
  exact ⟨rfl, (alike_steps lawful h _).2⟩

/-- A loop whose flag sees no difference ends on both sides or on neither. -/
theorem alike_pollFrom {stop : Nat → Queue → Bool}
    (hstop : ∀ seen {p q : Queue}, l.bus p q → stop seen p = stop seen q)
    (h : l.Relates d e) (looks seen handled : Nat) :
    Option.Rel (fun x y => x.1 = y.1 ∧ l.Relates x.2 y.2)
      (pollFrom stop looks seen handled d) (pollFrom stop looks seen handled e) := by
  induction looks generalizing seen handled d e with
  | zero => exact .none
  | succ looks ih =>
      have hspent : e.config.budgetSpent handled = d.config.budgetSpent handled := by
        rw [Config.budgetSpent, Config.budgetSpent, lawful.budget h.config]
      rw [pollFrom, pollFrom, hstop seen h.bus, hspent]
      by_cases hend : (stop seen e.bus || d.config.budgetSpent handled) = true
      · rw [if_pos hend, if_pos hend]
        exact .some ⟨rfl, h⟩
      · rw [if_neg hend, if_neg hend]
        rcases pending_cases lawful h with ⟨hd, he⟩ | ⟨t, rest, hd, he⟩
        · rw [step_of_nil hd, step_of_nil he]
          exact ih h _ _
        · rw [step_of_cons hd, step_of_cons he]
          exact ih (alike_handle lawful h t rest) _ _

theorem alike_run? {stop : Nat → Queue → Bool}
    (hstop : ∀ seen {p q : Queue}, l.bus p q → stop seen p = stop seen q)
    (h : l.Relates d e) (looks : Nat) :
    Option.Rel (fun x y => x.1 = y.1 ∧ l.Relates x.2 y.2) (d.run? stop looks)
      (e.run? stop looks) := by
  have hpoll := alike_pollFrom lawful hstop
    (alike_note h (.loopStarted d.config) (.loopStarted e.config)) looks 0 0
  rw [run?, run?]
  generalize pollFrom stop looks 0 0 (d.note (.loopStarted d.config)) = x at hpoll ⊢
  generalize pollFrom stop looks 0 0 (e.note (.loopStarted e.config)) = y at hpoll ⊢
  cases hpoll with
  | none => exact .none
  | some hxy => exact .some ⟨hxy.1, alike_note hxy.2 _ _⟩

/-- A request that is carried out alike keeps devices alike. -/
theorem alike_dispatch (h : l.Relates d e) (q : Request) :
    (d.dispatch q).1 = (e.dispatch q).1 ∧ l.Relates (d.dispatch q).2 (e.dispatch q).2 := by
  have hexecute := lawful.execute h.registers q
  rw [dispatch, dispatch]
  generalize d.registers.execute q = x at hexecute ⊢
  generalize e.registers.execute q = y at hexecute ⊢
  cases hexecute with
  | error x => exact ⟨rfl, alike_note h _ _⟩
  | ok hrs => exact ⟨rfl, alike_note (alike_withRegisters h hrs) _ _⟩

/-- Counting an operation looks at its result alone. -/
theorem alike_execute (h : l.Relates d e) (q : Request) :
    (d.execute q).1 = (e.execute q).1 ∧ l.Relates (d.execute q).2 (e.execute q).2 := by
  obtain ⟨hresult, hnext⟩ := alike_dispatch lawful h q
  refine ⟨hresult, ?_⟩
  show l.Relates ((d.dispatch q).2.countOperation q (d.dispatch q).1)
    ((e.dispatch q).2.countOperation q (e.dispatch q).1)
  rw [hresult]
  generalize (e.dispatch q).1 = result
  have hcounters := lawful.operated hnext.counters result
  cases result with
  | ok _ => exact { hnext with counters := hcounters }
  | error x => exact { hnext with counters := hcounters }

theorem alike_executeRaw (h : l.Relates d e) (number : UInt8)
    (destination source0 source1 : UInt64) :
    (d.executeRaw number destination source0 source1).1
        = (e.executeRaw number destination source0 source1).1
      ∧ l.Relates (d.executeRaw number destination source0 source1).2
          (e.executeRaw number destination source0 source1).2 := by
  rw [executeRaw, executeRaw]
  cases Operation.ofNumber? number.toNat with
  | none => exact ⟨rfl, h⟩
  | some op => exact alike_dispatch lawful h _

/-- A slot holds the same record on both sides, so the same operation is tried. -/
theorem alike_executeSlot (h : l.Relates d e) (slot : UInt64) (op : Operation) :
    (d.executeSlot slot op).1 = (e.executeSlot slot op).1
      ∧ l.Relates (d.executeSlot slot op).2 (e.executeSlot slot op).2 := by
  rw [executeSlot, executeSlot, h.opcodes]
  cases e.opcodes.read slot.toNat with
  | none => exact ⟨rfl, h⟩
  | some record =>
      dsimp only
      cases record.request? op with
      | none => exact ⟨rfl, alike_note h _ _⟩
      | some q =>
          obtain ⟨hresult, hnext⟩ := alike_execute lawful h q
          exact ⟨congrArg (fun x => Except.ok (SlotExecution.executed x)) hresult, hnext⟩

end

/-- A change that may be refused is refused on both sides or on neither. -/
theorem alike_attempt {α ε : Type} {like : α → α → Prop} {x y : Except ε α}
    {f g : α → Device Queue} (h : l.Relates d e) (hxy : Alike like x y)
    (hfg : ∀ a b, like a b → l.Relates (f a) (g b)) :
    (d.attempt (x.map f)).1 = (e.attempt (y.map g)).1
      ∧ l.Relates (d.attempt (x.map f)).2 (e.attempt (y.map g)).2 := by
  cases hxy with
  | error x => exact ⟨rfl, h⟩
  | ok hab => exact ⟨rfl, hfg _ _ hab⟩

/-- A snapshot is refused on both sides or restored on both. -/
theorem alike_restore (lawful : l.Lawful) (h : l.Relates d e) (s : Snapshot) :
    (d.attempt (d.restore s)).1 = (e.attempt (e.restore s)).1
      ∧ l.Relates (d.attempt (d.restore s)).2 (e.attempt (e.restore s)).2 := by
  rw [restore, restore]
  cases s.toStorage with
  | error x => exact ⟨rfl, h⟩
  | ok storage => exact ⟨rfl, lawful.refl _, rfl, h.config, h.counters, h.bus⟩

end Device

/-! ## Runs -/

namespace Likeness

open Device

/-- Two calls come to their end both or neither, answer the same as far as it is seen
    and leave devices that are alike. -/
def Same (l : Likeness) : Option (Answer × Device Queue) → Option (Answer × Device Queue) → Prop :=
  Option.Rel fun x y => x.1.through l.seen = y.1.through l.seen ∧ l.Relates x.2 y.2

/-- A call that cannot tell devices apart that are alike. -/
def Keeps (l : Likeness) (a : Action) : Prop :=
  ∀ {d e : Device Queue}, l.Relates d e →
    l.Same (a.perform d) (a.perform e) ∧ (a.outcomes d).map l.seen = (a.outcomes e).map l.seen

variable {l : Likeness}

/-- A call that gives equal answers, and leaves devices that are alike, is the same. -/
theorem same_of_eq {α : Type} {wrap : α → Answer} {x y : α × Device Queue}
    (h : x.1 = y.1 ∧ l.Relates x.2 y.2) :
    l.Same (some (x.map wrap id)) (some (y.map wrap id)) :=
  .some ⟨congrArg (fun a => (wrap a).through l.seen) h.1, h.2⟩

/-- Where a likeness is lawful, no plain call can tell devices apart. -/
theorem keeps_of_isPlain (lawful : l.Lawful) {a : Action} (h : a.IsPlain) : l.Keeps a := by
  intro d e hde
  cases a with
  | poll _ _ | script _ | snapshot => exact h.elim
  | push t => exact ⟨.some ⟨rfl, alike_push lawful hde t⟩, rfl⟩
  | step =>
      obtain ⟨hseen, hnext⟩ := alike_step lawful hde
      refine ⟨.some ⟨congrArg Answer.outcome hseen, hnext⟩, ?_⟩
      show d.step.1.toList.map l.seen = e.step.1.toList.map l.seen
      rw [← Option.toList_map, ← Option.toList_map, hseen]
  | runUntilIdle =>
      have hsame := alike_runUntilIdle lawful hde
      refine ⟨same_of_eq hsame, ?_⟩
      show (d.steps d.runUntilIdle.1).1.map l.seen = (e.steps e.runUntilIdle.1).1.map l.seen
      rw [hsame.1]
      exact (alike_steps lawful hde _).1
  | execute q => exact ⟨same_of_eq (alike_execute lawful hde q), rfl⟩
  | executeRaw number destination source0 source1 =>
      exact ⟨same_of_eq (alike_executeRaw lawful hde number destination source0 source1), rfl⟩
  | executeSlot slot op => exact ⟨same_of_eq (alike_executeSlot lawful hde slot op), rfl⟩
  | write32 i word =>
      have hwrite := lawful.write32 hde.registers i word
      exact ⟨same_of_eq (alike_attempt hde hwrite fun _ _ => alike_withRegisters hde), rfl⟩
  | write64 i word =>
      have hwrite := lawful.write64 hde.registers i word
      exact ⟨same_of_eq (alike_attempt hde hwrite fun _ _ => alike_withRegisters hde), rfl⟩
  | writeOpcode slot record =>
      -- slots are the same on both sides whatever the likeness
      have hwrite : Alike Eq (d.opcodes.write slot record) (e.opcodes.write slot record) := by
        rw [hde.opcodes]
        exact Alike.refl (fun _ => rfl) _
      refine ⟨same_of_eq (alike_attempt hde hwrite fun s _ hs => ?_), rfl⟩
      exact ⟨hde.registers, hs, hde.config, hde.counters, hde.bus⟩
  | reset => exact ⟨.some ⟨rfl, alike_reset lawful hde⟩, rfl⟩
  | restore s => exact ⟨same_of_eq (alike_restore lawful hde s), rfl⟩

/-- A run of calls none of which can tell devices apart. -/
theorem performAll_alike {actions : List Action} (h : ∀ a ∈ actions, l.Keeps a)
    {d e : Device Queue} (hde : l.Relates d e) :
    Option.Rel
        (fun x y => x.1.map (Answer.through l.seen) = y.1.map (Answer.through l.seen)
          ∧ l.Relates x.2 y.2)
        (performAll actions d) (performAll actions e)
      ∧ (allOutcomes actions d).map (List.map l.seen)
          = (allOutcomes actions e).map (List.map l.seen) := by
  induction actions generalizing d e with
  | nil => exact ⟨.some ⟨rfl, hde⟩, rfl⟩
  | cons a rest ih =>
      obtain ⟨hsame, houtcomes⟩ := h a List.mem_cons_self hde
      have hrest : ∀ b ∈ rest, l.Keeps b := fun b hb => h b (List.mem_cons_of_mem a hb)
      simp only [performAll, allOutcomes, List.map_cons, houtcomes]
      rw [Same] at hsame
      generalize a.perform d = x at hsame ⊢
      generalize a.perform e = y at hsame ⊢
      cases hsame with
      | none => exact ⟨.none, rfl⟩
      | @some x y hxy =>
          -- the call ended on both sides, and the rest starts on devices that are alike
          obtain ⟨hanswer, hnext⟩ := hxy
          obtain ⟨hruns, hmore⟩ := ih hrest hnext
          refine ⟨?_, by rw [hmore]⟩
          dsimp only
          generalize performAll rest x.2 = p at hruns ⊢
          generalize performAll rest y.2 = q at hruns ⊢
          cases hruns with
          | none => exact .none
          | some hlast =>
              refine .some ⟨?_, hlast.2⟩
              show (x.1 :: _).map _ = (y.1 :: _).map _
              rw [List.map_cons, List.map_cons, hanswer, hlast.1]

/-- If one of two such runs comes to its end, so does the other. -/
theorem exists_performAll {actions : List Action} (h : ∀ a ∈ actions, l.Keeps a)
    {d e last : Device Queue} (hde : l.Relates d e) {answers : List Answer}
    (hd : performAll actions d = some (answers, last)) :
    ∃ answers' last', performAll actions e = some (answers', last')
      ∧ answers.map (Answer.through l.seen) = answers'.map (Answer.through l.seen)
      ∧ l.Relates last last' := by
  have hruns := (performAll_alike h hde).1
  cases he : performAll actions e with
  | none =>
      rw [hd, he] at hruns
      exact nomatch hruns
  | some run =>
      rw [hd, he] at hruns
      cases hruns with
      | some hlast => exact ⟨run.1, run.2, rfl, hlast.1, hlast.2⟩

/-- Where all of an outcome is seen, the answers and the outcomes are the same. -/
theorem performAll_same (hseen : l.seen = id) {actions : List Action}
    (h : ∀ a ∈ actions, l.Keeps a) {d e : Device Queue} (hde : l.Relates d e) :
    allOutcomes actions d = allOutcomes actions e
      ∧ ∀ {answers last}, performAll actions d = some (answers, last) →
        ∃ last', performAll actions e = some (answers, last') ∧ l.Relates last last' := by
  have houtcomes := (performAll_alike h hde).2
  have hmap : List.map l.seen = id := by rw [hseen, List.map_id_fun]
  rw [hmap, List.map_id, List.map_id] at houtcomes
  refine ⟨houtcomes, ?_⟩
  intro answers last hd
  obtain ⟨answers', last', he, hanswers, hlast⟩ := exists_performAll h hde hd
  have hthrough : Answer.through l.seen = id := by
    rw [hseen]
    exact funext Answer.through_id
  rw [hthrough, List.map_id, List.map_id] at hanswers
  subst hanswers
  exact ⟨last', he, hlast⟩

/-- A run ends on both sides or on neither. -/
theorem performAll_eq_none_iff {actions : List Action} (h : ∀ a ∈ actions, l.Keeps a)
    {d e : Device Queue} (hde : l.Relates d e) :
    performAll actions d = none ↔ performAll actions e = none := by
  have hruns := (performAll_alike h hde).1
  generalize performAll actions d = x at hruns ⊢
  generalize performAll actions e = y at hruns ⊢
  cases hruns with
  | none => exact Iff.rfl
  | some _ =>
      constructor
      · intro hnone
        exact nomatch hnone
      · intro hnone
        exact nomatch hnone

end Likeness

end Coprocessor
