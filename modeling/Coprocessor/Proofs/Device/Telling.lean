import Coprocessor.Proofs.Device.Likeness

/-!
# Telling — the log and the counters tell the same story

What a device counts it also logs, and what it logs can be counted by the starts
of the lines: their level, their source and the words before the fields. Until
the device is reset, there are as many lines of each kind as the counter of that
kind says. Operations that are dispatched by their number are logged as well, and
not counted.

  • `Heading` — every way in which a line can start; no two of them start alike:
    `front_apart`, and so the start of a line tells its entry: `isPrefix_text_iff`.
  • `Tells` — the equations between lines and counters. One lemma for each way in
    which a device notes or counts says that they are kept.
  • `tells_performAll` — so does every run of calls without a reset.
  • `counters_eq_lines` — the equations for a device that was started anew.
-/

namespace Coprocessor

/-! ## The starts of lines -/

/-- The ways in which a line of the log can start. -/
inductive Heading where
  | polled
  | written
  | responded
  | violated
  | dropped
  | completed
  | refused
  | failed
  | skipped
  | reset
  | loopStarted
  | loopStopped
  | command
deriving DecidableEq

/-- How a line starts that has a level, a source and a title. -/
def lineFront (level : Level) (source : Source) (title : String) : String :=
  level.name ++ " " ++ source.name ++ ": " ++ title

/-- How many lines of a log start with a level, a source and a title. -/
def linesOf (level : Level) (source : Source) (title : String) (log : List Entry) : Nat :=
  log.countP fun e => (lineFront level source title).toList.isPrefixOf e.text.toList

namespace Heading

/-- Every heading. -/
def all : List Heading :=
  [.polled, .written, .responded, .violated, .dropped, .completed, .refused, .failed,
    .skipped, .reset, .loopStarted, .loopStopped, .command]

/-- No heading is left out. -/
theorem mem_all (h : Heading) : h ∈ all := by
  cases h <;> decide

/-- The level, the source and the title of a heading. -/
def parts : Heading → Level × Source × String
  | .polled => (.trace, .context, "transaction polled")
  | .written => (.debug, .context, "register written")
  | .responded => (.debug, .context, "register read")
  | .violated => (.warn, .context, "transaction dropped")
  | .dropped => (.debug, .context, "transaction dropped")
  | .completed => (.trace, .dispatch, "operation complete")
  | .refused => (.debug, .dispatch, "operation failed")
  | .failed => (.warn, .context, "operation failed")
  | .skipped => (.debug, .context, "slot not executable")
  | .reset => (.info, .context, "coprocessor reset")
  | .loopStarted => (.info, .context, "bus loop started")
  | .loopStopped => (.info, .context, "bus loop stopped")
  | .command => (.debug, .script, "script command")

/-- How a line under a heading starts. -/
def front (h : Heading) : String := lineFront h.parts.1 h.parts.2.1 h.parts.2.2

/-- How many lines of a log stand under a heading. -/
def lines (h : Heading) (log : List Entry) : Nat := linesOf h.parts.1 h.parts.2.1 h.parts.2.2 log

/-- No line of one heading could be one of another. -/
theorem front_apart (h other : Heading) (hfront : h.front.toList <+: other.front.toList) :
    h = other := by
  have hall : ∀ h ∈ all, ∀ other ∈ all, h.front.toList <+: other.front.toList → h = other := by
    decide +kernel
  exact hall h h.mem_all other other.mem_all hfront

end Heading

namespace Entry

/-- The heading of an entry. -/
def heading : Entry → Heading
  | .polled _ => .polled
  | .written _ _ => .written
  | .responded _ => .responded
  | .dropped _ _ violation => if violation then .violated else .dropped
  | .completed _ => .completed
  | .refused _ _ => .refused
  | .failed _ _ => .failed
  | .skipped _ _ => .skipped
  | .reset => .reset
  | .loopStarted _ => .loopStarted
  | .loopStopped _ => .loopStopped
  | .command _ _ => .command

/-- The level of an entry is told by its heading. -/
theorem level_eq_parts (e : Entry) : e.level = e.heading.parts.1 := by
  cases e with
  | dropped t reason violation => cases violation <;> rfl
  | _ => rfl

theorem source_eq_parts (e : Entry) : e.source = e.heading.parts.2.1 := by
  cases e with
  | dropped t reason violation => cases violation <;> rfl
  | _ => rfl

/-- A message that starts with a title goes on with fields. -/
theorem isPrefix_append {title start : String} (h : title.toList <+: start.toList)
    (fields : String) : title.toList <+: (start ++ fields).toList := by
  rw [String.toList_append]
  exact h.trans (List.prefix_append _ _)

/-- A message starts with the title of its heading. -/
theorem title_isPrefix (e : Entry) : e.heading.parts.2.2.toList <+: e.message.toList := by
  cases e with
  | polled t =>
      have h : "transaction polled".toList <+: "transaction polled tx=".toList := by decide +kernel
      exact isPrefix_append h t.text
  | written space address =>
      have h : "register written".toList <+: "register written space=".toList := by decide +kernel
      have h' := isPrefix_append (isPrefix_append h space.name) " address="
      exact isPrefix_append h' (toString address.toNat)
  | responded address =>
      have h : "register read".toList <+: "register read address=".toList := by decide +kernel
      exact isPrefix_append h (toString address.toNat)
  -- a violation is in the level of a drop, not in its message
  | dropped t reason violation =>
      have h : "transaction dropped".toList <+: "transaction dropped tx=".toList := by
        decide +kernel
      have h' := isPrefix_append (isPrefix_append (isPrefix_append h t.text) " reason=")
        reason.message
      cases violation with
      | true => exact h'
      | false => exact h'
  | completed q =>
      have h : "operation complete".toList <+: "operation complete op=".toList := by decide +kernel
      exact isPrefix_append h q.text
  | refused q e | failed q e =>
      have h : "operation failed".toList <+: "operation failed op=".toList := by decide +kernel
      exact isPrefix_append (isPrefix_append (isPrefix_append h q.text) " error=") e.message
  | skipped slot kind =>
      have h : "slot not executable".toList <+: "slot not executable slot=".toList := by
        decide +kernel
      have h' := isPrefix_append (isPrefix_append h (toString slot.toNat)) " kind="
      exact isPrefix_append h' kind.mnemonic
  | reset => exact List.prefix_refl _
  | loopStarted config =>
      have h : "bus loop started".toList <+: "bus loop started config=".toList := by decide +kernel
      exact isPrefix_append h config.text
  | loopStopped handled =>
      have h : "bus loop stopped".toList <+: "bus loop stopped handled=".toList := by
        decide +kernel
      exact isPrefix_append h (toString handled)
  | command line report =>
      have h : "script command".toList <+: "script command line=".toList := by decide +kernel
      have h' := isPrefix_append (isPrefix_append h (toString line)) " report="
      exact isPrefix_append h' report

/-- The line of an entry stands under its heading. -/
theorem front_isPrefix (e : Entry) : e.heading.front.toList <+: e.text.toList := by
  rw [text, level_eq_parts, source_eq_parts, Heading.front, lineFront,
    String.toList_append (t := e.message), String.toList_append (t := e.heading.parts.2.2)]
  exact (List.prefix_append_right_inj _).2 e.title_isPrefix

/-- The start of a line tells the heading of its entry. -/
theorem isPrefix_text_iff (e : Entry) (h : Heading) :
    h.front.toList <+: e.text.toList ↔ e.heading = h := by
  constructor
  · intro hfront
    rcases List.prefix_or_prefix_of_prefix hfront e.front_isPrefix with hle | hle
    · exact (h.front_apart e.heading hle).symm
    · exact e.heading.front_apart h hle
  · rintro rfl
    exact e.front_isPrefix

end Entry

namespace Heading

/-- An added entry is one more line under its own heading. -/
theorem lines_push (h : Heading) (log : Journal Entry) (e : Entry) :
    h.lines (log.push e).toList = h.lines log.toList + if e.heading = h then 1 else 0 := by
  have hstarts :
      (lineFront h.parts.1 h.parts.2.1 h.parts.2.2).toList.isPrefixOf e.text.toList = true
        ↔ e.heading = h := List.isPrefixOf_iff_prefix.trans (e.isPrefix_text_iff h)
  rw [Journal.toList_push, lines, linesOf, List.countP_append, List.countP_singleton]
  simp only [hstarts]
  rfl

/-- The headings under which things are logged that are counted. -/
def counted : List Heading :=
  [.polled, .written, .responded, .violated, .dropped, .completed, .refused, .failed]

end Heading

/-! ## Lines and counters -/

/-- What is logged when a transaction was resolved. -/
def Transaction.entry (t : Transaction) (strict : Bool) : Outcome → Entry
  | .written space address => .written space address
  | .responded address _ => .responded address
  | .dropped reason => .dropped t reason (reason.isViolation && strict)

namespace Counters

/-- A log has as many lines of each kind as the counters say, when `raw` operations
    were dispatched without being counted. -/
structure Told (c : Counters) (log : Journal Entry) (raw : Nat) : Prop where
  polled : Heading.polled.lines log.toList = c.polled
  written : Heading.written.lines log.toList = c.written
  responded : Heading.responded.lines log.toList = c.responded
  violations : Heading.violated.lines log.toList = c.violations
  dropped : Heading.dropped.lines log.toList + c.violations = c.dropped
  failed : Heading.failed.lines log.toList = c.failedOperations
  operations : Heading.completed.lines log.toList + Heading.refused.lines log.toList
    = c.operations + raw

theorem told_zero : Told {} .empty 0 := ⟨rfl, rfl, rfl, rfl, rfl, rfl, rfl⟩

variable {c : Counters} {log : Journal Entry} {raw : Nat}

/-- Entries under other headings do not belong to the story. -/
theorem Told.push (h : c.Told log raw) {e : Entry} (he : e.heading ∉ Heading.counted) :
    c.Told (log.push e) raw := by
  have hlines : ∀ heading ∈ Heading.counted,
      heading.lines (log.push e).toList = heading.lines log.toList := by
    intro heading hmem
    have hne : e.heading ≠ heading := fun heq => he (heq ▸ hmem)
    rw [Heading.lines_push, if_neg hne, Nat.add_zero]
  constructor
  · rw [hlines .polled (by decide), h.polled]
  · rw [hlines .written (by decide), h.written]
  · rw [hlines .responded (by decide), h.responded]
  · rw [hlines .violated (by decide), h.violations]
  · rw [hlines .dropped (by decide), h.dropped]
  · rw [hlines .failed (by decide), h.failed]
  · rw [hlines .completed (by decide), hlines .refused (by decide), h.operations]

/-- A transaction leaves a line for the poll and one for its outcome. -/
theorem Told.resolved (h : c.Told log raw) (t : Transaction) (strict : Bool) (o : Outcome) :
    (c.resolved strict o).Told ((log.push (.polled t)).push (t.entry strict o)) raw := by
  obtain ⟨hpolled, hwritten, hresponded, hviolations, hdropped, hfailed, hoperations⟩ := h
  cases o with
  | written space address =>
      constructor <;>
        simp only [Heading.lines_push, Transaction.entry, Entry.heading, Counters.resolved,
          reduceCtorEq, if_true, if_false] <;> omega
  | responded address data =>
      constructor <;>
        simp only [Heading.lines_push, Transaction.entry, Entry.heading, Counters.resolved,
          reduceCtorEq, if_true, if_false] <;> omega
  | dropped reason =>
      -- a violation is told as a warning, and any other drop for debugging
      cases hviolation : reason.isViolation && strict <;> constructor <;>
        simp only [Heading.lines_push, Transaction.entry, Entry.heading, Counters.resolved,
          hviolation, reduceCtorEq, Bool.false_eq_true, if_true, if_false] <;> omega

/-- A dispatched operation leaves one line that nothing was counted for. -/
theorem Told.dispatched (h : c.Told log raw) {e : Entry}
    (he : e.heading = .completed ∨ e.heading = .refused) : c.Told (log.push e) (raw + 1) := by
  obtain ⟨hpolled, hwritten, hresponded, hviolations, hdropped, hfailed, hoperations⟩ := h
  rcases he with he | he
  · constructor <;>
      simp only [Heading.lines_push, he, reduceCtorEq, if_true, if_false] <;> omega
  · constructor <;>
      simp only [Heading.lines_push, he, reduceCtorEq, if_true, if_false] <;> omega

/-- Counting the operation makes up for that line. -/
theorem Told.succeeded (h : c.Told log (raw + 1)) : (c.operated (.ok ())).Told log raw := by
  obtain ⟨hpolled, hwritten, hresponded, hviolations, hdropped, hfailed, hoperations⟩ := h
  refine ⟨hpolled, hwritten, hresponded, hviolations, hdropped, hfailed, ?_⟩
  show _ = c.operations + 1 + raw
  omega

/-- An operation that failed is counted twice and leaves a warning. -/
theorem Told.failing (h : c.Told log (raw + 1)) (q : Request) (e : OperationError) :
    (c.operated (.error e)).Told (log.push (.failed q e)) raw := by
  obtain ⟨hpolled, hwritten, hresponded, hviolations, hdropped, hfailed, hoperations⟩ := h
  constructor <;>
    simp only [Heading.lines_push, Entry.heading, Counters.operated, reduceCtorEq, if_true,
      if_false] <;> omega

end Counters

namespace Device

open Script (ScriptLine Command)

variable {β : Type}

/-- The log of a device tells what its counters say. -/
def Tells (d : Device β) (raw : Nat) : Prop := d.counters.Told d.log raw

section

variable {d : Device β} {raw : Nat}

/-- An entry under another heading is not counted. -/
theorem Tells.note (h : d.Tells raw) {e : Entry} (he : e.heading ∉ Heading.counted) :
    (d.note e).Tells raw := Counters.Told.push h he

/-- A raw dispatch is one line more than the counters know of. -/
theorem Tells.dispatch (h : d.Tells raw) (q : Request) : (d.dispatch q).2.Tells (raw + 1) := by
  rw [Device.dispatch]
  split
  next r _ => exact Counters.Told.dispatched h (Or.inl rfl)
  next e _ => exact Counters.Told.dispatched h (Or.inr rfl)

/-- A counted operation is one line, whether it is carried out or not. -/
theorem Tells.execute (h : d.Tells raw) (q : Request) : (d.execute q).2.Tells raw := by
  have hdispatch := h.dispatch q
  show ((d.dispatch q).2.countOperation q (d.dispatch q).1).Tells raw
  cases (d.dispatch q).1 with
  | ok _ => exact Counters.Told.succeeded hdispatch
  | error e => exact Counters.Told.failing hdispatch q e

/-- A slot that is run is a counted operation, and one that is skipped none. -/
theorem Tells.executeSlot (h : d.Tells raw) (slot : UInt64) (op : Operation) :
    (d.executeSlot slot op).2.Tells raw := by
  unfold Device.executeSlot
  split
  next => exact h
  next record _ =>
    split
    next q _ => exact h.execute q
    next => exact h.note nofun

/-- A number without an operation is not logged. -/
theorem Tells.executeRaw (h : d.Tells raw) (number : UInt8)
    (destination source0 source1 : UInt64) :
    (d.executeRaw number destination source0 source1).2.Tells
      (raw + if number < 12 then 1 else 0) := by
  rw [Device.executeRaw, Operation.ofNumber?]
  by_cases hlt : number < 12
  · have hget : number.toNat < Operation.all.length := hlt
    rw [if_pos hlt, List.getElem?_eq_getElem hget]
    exact h.dispatch _
  · have hget : Operation.all.length ≤ number.toNat := Nat.not_lt.1 hlt
    rw [if_neg hlt, List.getElem?_eq_none hget]
    exact h

end

/-! ## Calls on a queue -/

section

variable {d last : Device Queue} {raw : Nat}

/-- A transaction leaves two lines: that it was taken, and how it was resolved. -/
theorem log_handle (d : Device Queue) (t : Transaction) (rest : List Transaction) :
    (d.handle t rest).log
      = (d.log.push (.polled t)).push (t.entry d.config.strict (t.outcome d.registers)) := by
  rw [handle]
  cases t.outcome d.registers <;> rfl

theorem Tells.handle (h : d.Tells raw) (t : Transaction) (rest : List Transaction) :
    (d.handle t rest).Tells raw := by
  rw [Tells, log_handle, counters_handle]
  exact Counters.Told.resolved h t d.config.strict (t.outcome d.registers)

theorem Tells.steps (h : d.Tells raw) (n : Nat) : (d.steps n).2.Tells raw := by
  induction n generalizing d with
  | zero => exact h
  | succ n ih =>
      cases hp : d.bus.pending with
      | nil => rw [steps_of_nil hp]; exact h
      | cons t rest => rw [steps_of_cons hp]; exact ih (h.handle t rest)

/-- The first and the last line of a poll loop are not counted. -/
theorem Tells.run? (h : d.Tells raw) {stop : Nat → Queue → Bool} {looks n : Nat}
    (hrun : d.run? stop looks = some (n, last)) : last.Tells raw := by
  obtain ⟨-, rfl⟩ := run?_eq_steps hrun
  have hstart : (d.note (.loopStarted d.config)).Tells raw := h.note nofun
  exact (hstart.steps n).note nofun

/-- A change of storage that may be refused keeps the story. -/
theorem Tells.attempt {ε α : Type} (h : d.Tells raw) (access : Except ε α)
    {change : α → Device Queue} (hchange : ∀ a, (change a).Tells raw) :
    (d.attempt (access.map change)).2.Tells raw := by
  cases access with
  | ok a => exact hchange a
  | error e => exact h

/-- Restoring a snapshot is not logged. -/
theorem Tells.restore (h : d.Tells raw) (s : Snapshot) : (d.attempt (d.restore s)).2.Tells raw := by
  rw [Device.restore]
  split
  next => exact h
  next => exact h

/-- A command other than a reset keeps the story. -/
theorem Tells.command (h : d.Tells raw) {c : Command} (hc : c ≠ .reset) :
    (c.run d).2.Tells raw := by
  cases c with
  | transaction t =>
      have hpush : (d.push t).Tells raw := h
      show (d.push t).drain.2.Tells raw
      rw [drain_eq_steps]
      exact hpush.steps _
  | opcode slot record =>
      cases hw : d.opcodes.write slot.toNat record with
      | ok s => simp only [Command.run, writeOpcode, hw]; exact h
      | error e => simp only [Command.run, writeOpcode, hw]; exact h
  | execute q => exact h.execute q
  | executeSlot slot op => exact h.executeSlot slot op
  | reset => exact absurd rfl hc

/-- A script without a reset keeps the agreement. -/
theorem Tells.script (h : d.Tells raw) {lines : List ScriptLine}
    (hlines : ∀ l ∈ lines, l.command ≠ .reset) : (Script.run lines d).2.Tells raw := by
  induction lines generalizing d with
  | nil => exact h
  | cons l rest ih =>
      have hcommand := h.command (hlines l List.mem_cons_self)
      refine ih ?_ fun l' hl' => hlines l' (List.mem_cons_of_mem l hl')
      show (l.run d).2.Tells raw
      unfold ScriptLine.run
      split
      next report d' hrun =>
        rw [hrun] at hcommand
        exact hcommand.note nofun
      next d' hrun =>
        rw [hrun] at hcommand
        exact hcommand

end

end Device

/-! ## Runs -/

namespace Action

/-- Whether a call clears the counters, by itself or in a script. -/
def Resets : Action → Prop
  | .reset => True
  | .script lines => ∃ l ∈ lines, l.command = .reset
  | _ => False

/-- Whether a call dispatches an operation by its number, without counting it. -/
def isRaw : Action → Bool
  | .executeRaw number _ _ _ => number < 12
  | _ => false

end Action

namespace Device

variable {d last : Device Queue} {raw : Nat}

/-- Every call that does not reset keeps the agreement. -/
theorem Tells.perform (h : d.Tells raw) {a : Action} {answer : Answer} (hreset : ¬ a.Resets)
    (ha : a.perform d = some (answer, last)) : last.Tells (raw + if a.isRaw then 1 else 0) := by
  cases a with
  | poll stop looks =>
      obtain ⟨⟨n, last'⟩, hrun, heq⟩ := Option.map_eq_some_iff.1 ha
      obtain ⟨-, rfl⟩ := Prod.mk.inj heq
      exact h.run? hrun
  | push t =>
      obtain ⟨-, rfl⟩ := Prod.mk.inj (Option.some.inj ha)
      exact h
  | step =>
      obtain ⟨-, rfl⟩ := Prod.mk.inj (Option.some.inj ha)
      exact h.steps 1
  | runUntilIdle =>
      obtain ⟨-, rfl⟩ := Prod.mk.inj (Option.some.inj ha)
      show d.runUntilIdle.2.Tells raw
      rw [runUntilIdle_eq_steps]
      exact h.steps _
  | script lines =>
      obtain ⟨-, rfl⟩ := Prod.mk.inj (Option.some.inj ha)
      exact h.script fun l hl heq => hreset ⟨l, hl, heq⟩
  | execute q =>
      obtain ⟨-, rfl⟩ := Prod.mk.inj (Option.some.inj ha)
      exact h.execute q
  | executeRaw number destination source0 source1 =>
      obtain ⟨-, rfl⟩ := Prod.mk.inj (Option.some.inj ha)
      simp only [Action.isRaw, decide_eq_true_eq]
      exact h.executeRaw number destination source0 source1
  | executeSlot slot op =>
      obtain ⟨-, rfl⟩ := Prod.mk.inj (Option.some.inj ha)
      exact h.executeSlot slot op
  | write32 _ _ | write64 _ _ | writeOpcode _ _ =>
      obtain ⟨-, rfl⟩ := Prod.mk.inj (Option.some.inj ha)
      exact h.attempt _ fun _ => h
  -- a reset clears the counters and keeps the log
  | reset => exact absurd trivial hreset
  | snapshot =>
      obtain ⟨-, rfl⟩ := Prod.mk.inj (Option.some.inj ha)
      exact h
  | restore s =>
      obtain ⟨-, rfl⟩ := Prod.mk.inj (Option.some.inj ha)
      exact h.restore s

theorem tells_performAll {actions : List Action} {answers : List Answer} (h : d.Tells raw)
    (hreset : ∀ a ∈ actions, ¬ a.Resets) (hrun : performAll actions d = some (answers, last)) :
    last.Tells (raw + actions.countP Action.isRaw) := by
  induction actions generalizing d raw answers with
  | nil =>
      obtain ⟨-, rfl⟩ := Prod.mk.inj (Option.some.inj hrun)
      exact h
  | cons a rest ih =>
      obtain ⟨answer, next, more, ha, hrest, -⟩ := performAll_cons hrun
      have hnext := h.perform (hreset a List.mem_cons_self) ha
      have hlast := ih hnext (fun b hb => hreset b (List.mem_cons_of_mem a hb)) hrest
      rw [Nat.add_assoc, Nat.add_comm (if a.isRaw then 1 else 0)] at hlast
      rw [List.countP_cons]
      exact hlast

/-- **The log and the counters tell the same story**: a device that was started anew,
    with any configuration and on any queue bus, has after any calls but resets as
    many lines for polls, writes, answers, violations, other drops and failed
    operations as its counters say; and the lines for operations that were completed
    or refused are the operations that were counted and those that were dispatched
    by their number. -/
theorem counters_eq_lines {bus : Queue} {config : Config} {actions : List Action}
    {answers : List Answer} {last : Device Queue} (hreset : ∀ a ∈ actions, ¬ a.Resets)
    (hrun : performAll actions (start bus config) = some (answers, last)) :
    let log := last.log.toList
    let c := last.counters
    linesOf .trace .context "transaction polled" log = c.polled
      ∧ linesOf .debug .context "register written" log = c.written
      ∧ linesOf .debug .context "register read" log = c.responded
      ∧ linesOf .warn .context "transaction dropped" log = c.violations
      ∧ linesOf .debug .context "transaction dropped" log = c.dropped - c.violations
      ∧ c.violations ≤ c.dropped
      ∧ linesOf .warn .context "operation failed" log = c.failedOperations
      ∧ linesOf .trace .dispatch "operation complete" log
          + linesOf .debug .dispatch "operation failed" log
        = c.operations + actions.countP Action.isRaw := by
  intro log c
  have hstart : (start bus config).Tells 0 := Counters.told_zero
  obtain ⟨hpolled, hwritten, hresponded, hviolations, hdropped, hfailed, hoperations⟩ :=
    tells_performAll hstart hreset hrun
  rw [Nat.zero_add] at hoperations
  refine ⟨hpolled, hwritten, hresponded, hviolations, ?_, ?_, hfailed, hoperations⟩
  · exact Nat.eq_sub_of_add_eq hdropped
  · exact Nat.le.intro ((Nat.add_comm _ _).trans hdropped)

/-- A write of three bytes, a read, an operation without a destination, a division
    by its number, a number without an operation, and a slot that cannot be run. -/
theorem counters_eq_lines_mixed :
    let d := start (Queue.ofList [⟨.write, 3, [1, 2, 3]⟩]) {}
    let actions : List Action :=
      [.step, .push (.read 3), .execute ⟨.single .add, 300, 0, 0⟩, .executeRaw 3 0 0 0,
        .executeRaw 12 0 0 0, .executeSlot 7 (.single .add), .poll (fun seen _ => seen = 1) 2]
    (∀ a ∈ actions, ¬ a.Resets)
      ∧ ∃ answers last, performAll actions d = some (answers, last)
        ∧ last.counters = ⟨2, 1, 0, 1, 1, 1, 1⟩
        ∧ linesOf .warn .context "transaction dropped" last.log.toList = 1
        ∧ linesOf .debug .context "transaction dropped" last.log.toList = 0
        ∧ linesOf .trace .dispatch "operation complete" last.log.toList
            + linesOf .debug .dispatch "operation failed" last.log.toList = 2 := by
  intro d actions
  have hreset : ∀ a ∈ actions, ¬ a.Resets := by
    simp only [actions, List.forall_mem_cons]
    exact ⟨id, id, id, id, id, id, id, List.forall_mem_nil _⟩
  obtain ⟨⟨answers, last⟩, hrun⟩ : ∃ run, performAll actions d = some run :=
    Option.isSome_iff_exists.1 rfl
  have hcounters : (performAll actions d).map (fun run => run.2.counters)
      = some ⟨2, 1, 0, 1, 1, 1, 1⟩ := by decide
  rw [hrun] at hcounters
  have hlast : last.counters = ⟨2, 1, 0, 1, 1, 1, 1⟩ := Option.some.inj hcounters
  obtain ⟨-, -, -, hviolations, hdropped, -, -, hoperations⟩ := counters_eq_lines hreset hrun
  rw [hlast] at hviolations hdropped hoperations
  exact ⟨hreset, answers, last, hrun, hlast, hviolations, hdropped, hoperations⟩

end Device

end Coprocessor
