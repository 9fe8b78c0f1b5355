import Mathlib.Data.List.Forall2
import Coprocessor.Proofs.Device.Telling
import Coprocessor.Proofs.Script.Run
import Coprocessor.Proofs.Text.Widths
import Coprocessor.Proofs.Wire.Forms
import Coprocessor.Session

/-!
# Subjects — the transaction that a text is about

A transaction is read back from its text, whatever stands behind it: the first blank ends
the direction, the address has two digits, and a bracket ends the payload. So a line of the
log that shows a transaction shows no other one, and neither does a report, because the
report of a bus command starts like no other report. What is logged while a queue is
drained then tells the whole queue, and what a script prints tells its bus commands.

  • `Transaction.text_append_inj` — a transaction in front of any text.
  • `Report.transaction?_of_text` — reports with one text are about the same transaction, or
    about none.
  • `Entry.Shows`, `shows_of_text` — the transaction that a line of the log shows.
  • `pending_of_printedLog`, `subjects_of_printed` — both along a run.
-/

namespace Coprocessor

/-! ## Transactions -/

namespace Direction

/-- The blank behind a direction is the first of the text. -/
theorem blank_not_mem_name (d : Direction) : ' ' ∉ d.name.toList := by
  cases d with
  | read => exact show ' ' ∉ "read".toList by decide
  | write => exact show ' ' ∉ "write".toList by decide

theorem name_inj {d d' : Direction} (h : d.name = d'.name) : d = d' := by
  cases d with
  | read =>
      cases d' with
      | read => rfl
      | write => exact absurd (show "read" = "write" from h) (by decide)
  | write =>
      cases d' with
      | read => exact absurd (show "write" = "read" from h) (by decide)
      | write => rfl

end Direction

namespace Transaction

theorem toList_text (t : Transaction) :
    t.text.toList = t.direction.name.toList ++ ' ' :: (['@', '0', 'x']
      ++ (Text.hexDigits 2 t.address.toNat ++ ([' ', '[']
        ++ ((Text.hexBytes t.payload).toList ++ [']'])))) := by
  have haddress : " @0x".toList = ' ' :: ['@', '0', 'x'] := by decide
  have hopen : " [".toList = [' ', '['] := by decide
  have hclose : "]".toList = [']'] := by decide
  simp only [text, Text.hex, String.toList_append, String.toList_ofList, haddress, hopen, hclose,
    List.append_assoc, List.cons_append]

/-- A transaction is read back from its text, and what stands behind it as well. -/
theorem text_append_inj {t u : Transaction} {back back' : String}
    (h : t.text ++ back = u.text ++ back') : t = u ∧ back = back' := by
  replace h := congrArg String.toList h
  rw [String.toList_append, String.toList_append, toList_text, toList_text] at h
  simp only [List.append_assoc, List.cons_append] at h
  obtain ⟨hname, h⟩ := Text.append_mark_inj h t.direction.blank_not_mem_name
    u.direction.blank_not_mem_name
  obtain ⟨haddress, h⟩ := Text.hexDigits_append_inj 2 t.address.toNat_lt u.address.toNat_lt
    ((List.append_right_inj ['@', '0', 'x']).1 h)
  obtain ⟨hpayload, hback⟩ := Text.hexBytes_append_inj (by decide) (by decide)
    ((List.append_right_inj [' ', '[']).1 h)
  obtain ⟨direction, address, payload⟩ := t
  obtain rfl := Direction.name_inj (String.toList_injective hname)
  obtain rfl := UInt8.toNat.inj haddress
  obtain rfl := hpayload
  exact ⟨rfl, String.toList_injective hback⟩

/-- A transaction is identified by its text alone. -/
theorem text_inj {t u : Transaction} (h : t.text = u.text) : t = u :=
  (text_append_inj (congrArg (· ++ "") h)).1

end Transaction

/-! ## Reports -/

namespace Script

namespace Report

/-- The transaction that a report is about. -/
def transaction? : Report → Option Transaction
  | .bus t _ => some t
  | _ => none

/-- A report has a transaction if it is one of the bus. -/
theorem transaction?_eq_some {r : Report} {t : Transaction} :
    r.transaction? = some t ↔ ∃ o, r = .bus t o := by
  constructor
  · intro h
    cases r with
    | bus u o =>
        obtain rfl := Option.some.inj h
        exact ⟨o, rfl⟩
    | opcode _ _ _ | operation _ _ _ | slot _ _ _ | reset => exact nomatch h
  · rintro ⟨o, rfl⟩
    rfl

/-- The words with which the other reports start. -/
def otherOpenings : List String :=
  "opcode[" :: "slot " :: "reset" :: Operation.all.map Operation.mnemonic

/-- No direction could be one of these words, or the start of one. -/
theorem openings_apart (d : Direction) {opening : String} (h : opening ∈ otherOpenings) :
    ¬ d.name.toList <+: opening.toList ∧ ¬ opening.toList <+: d.name.toList := by
  have hall : ∀ d ∈ [Direction.read, .write], ∀ opening ∈ otherOpenings,
      ¬ d.name.toList <+: opening.toList ∧ ¬ opening.toList <+: d.name.toList := by
    decide +kernel
  cases d with
  | read => exact hall .read (by decide) opening h
  | write => exact hall .write (by decide) opening h

/-- Reports of operations open with their names. -/
theorem mnemonic_mem_otherOpenings (op : Operation) : op.mnemonic ∈ otherOpenings := by
  have hmem : op.mnemonic ∈ Operation.all.map Operation.mnemonic :=
    List.mem_map_of_mem op.mem_all
  exact List.mem_cons_of_mem _ (List.mem_cons_of_mem _ (List.mem_cons_of_mem _ hmem))

open Entry (isPrefix_append)

theorem mnemonic_isPrefix (q : Request) : q.operation.mnemonic.toList <+: q.text.toList := by
  have hname := isPrefix_append (List.prefix_refl q.operation.mnemonic.toList) " "
  have hdestination := isPrefix_append hname (toString q.destination.toNat)
  have hsource := isPrefix_append (isPrefix_append hdestination ", ") (toString q.source0.toNat)
  unfold Request.text
  split
  · exact hsource
  · exact isPrefix_append (isPrefix_append hsource ", ") (toString q.source1.toNat)

/-- A report that is about no transaction starts with one of these words. -/
theorem exists_opening {r : Report} (h : r.transaction? = none) :
    ∃ opening ∈ otherOpenings, opening.toList <+: r.text.toList := by
  have hopcode : "opcode[" ∈ otherOpenings := List.mem_cons_self
  have hslot : "slot " ∈ otherOpenings := List.mem_cons_of_mem _ List.mem_cons_self
  have hreset : "reset" ∈ otherOpenings :=
    List.mem_cons_of_mem _ (List.mem_cons_of_mem _ List.mem_cons_self)
  cases r with
  | bus t o => exact nomatch h
  | opcode i record result =>
      have hindex := isPrefix_append (List.prefix_refl "opcode[".toList) (toString i.toNat)
      refine ⟨"opcode[", hopcode, ?_⟩
      cases result with
      | ok _ => exact isPrefix_append (isPrefix_append hindex "] <- ") record.text
      | error e => exact isPrefix_append (isPrefix_append hindex "] rejected: ") e.message
  | operation q result value =>
      -- the words of an operation open with its name
      have hfront := mnemonic_isPrefix q
      refine ⟨q.operation.mnemonic, mnemonic_mem_otherOpenings _, ?_⟩
      cases result with
      | ok _ =>
          cases value with
          | none => exact isPrefix_append hfront " -> ok"
          | some value => exact isPrefix_append (isPrefix_append hfront " -> ") _
      | error e => exact isPrefix_append (isPrefix_append hfront " -> error: ") e.message
  | slot i op result =>
      have hindex := isPrefix_append (List.prefix_refl "slot ".toList) (toString i.toNat)
      have hname := isPrefix_append (isPrefix_append hindex " as ") op.mnemonic
      exact ⟨"slot ", hslot, isPrefix_append (isPrefix_append hname " -> ") (slotText result)⟩
  | reset => exact ⟨"reset", hreset, List.prefix_refl _⟩

/-- A report with the text of a report on a transaction is about that transaction. -/
theorem bus_of_text {r : Report} {t : Transaction} {o : Outcome}
    (h : r.text = (Report.bus t o).text) : r.transaction? = some t := by
  have hbus (u : Transaction) (o : Outcome) :
      (Report.bus u o).text = u.text ++ (" -> " ++ outcomeText o) := String.append_assoc
  cases hr : r.transaction? with
  | none =>
      -- both start with words of their own, so one of these would start with the other
      obtain ⟨opening, hmem, hopening⟩ := exists_opening hr
      have hname : t.direction.name.toList <+: r.text.toList := by
        rw [h, hbus, String.toList_append, Transaction.toList_text, List.append_assoc]
        exact List.prefix_append _ _
      obtain ⟨hforth, hback⟩ := openings_apart t.direction hmem
      rcases List.prefix_or_prefix_of_prefix hname hopening with hle | hle
      · exact absurd hle hforth
      · exact absurd hle hback
  | some u =>
      obtain ⟨o', rfl⟩ := transaction?_eq_some.1 hr
      rw [hbus, hbus] at h
      rw [(Transaction.text_append_inj h).1]

/-- Reports with one text are about the same transaction, or both about none. -/
theorem transaction?_of_text {q r : Report} (h : q.text = r.text) :
    q.transaction? = r.transaction? := by
  refine Option.ext fun t => ?_
  constructor
  · intro hq
    obtain ⟨o, rfl⟩ := transaction?_eq_some.1 hq
    exact bus_of_text h.symm
  · intro hr
    obtain ⟨o, rfl⟩ := transaction?_eq_some.1 hr
    exact bus_of_text h

end Report

end Script

/-! ## Lines of the log -/

namespace Entry

/-- The entries in whose lines a transaction stands: when it is polled, when it is dropped,
    and when a script reports on it. Other lines name a register at most. -/
inductive Shows : Entry → Transaction → Prop where
  | polled {t : Transaction} : Shows (.polled t) t
  | dropped {t : Transaction} {reason : DropReason} {violation : Bool} :
      Shows (.dropped t reason violation) t
  | command {line : Nat} {text : String} {report : Script.Report} {t : Transaction} :
      report.text = text → report.transaction? = some t → Shows (.command line text) t

variable {e f : Entry} {t u : Transaction}

/-- A line shows one transaction only. -/
theorem Shows.unique (h : e.Shows t) (h' : e.Shows u) : u = t := by
  cases h with
  | polled => cases h'; rfl
  | dropped => cases h'; rfl
  | command htext hreport =>
      cases h' with
      | command htext' hreport' =>
          have hsame := Script.Report.transaction?_of_text (htext'.trans htext.symm)
          rw [hreport, hreport'] at hsame
          exact Option.some.inj hsame

/-- Lines with one text have one heading. -/
theorem heading_of_text (h : f.text = e.text) : f.heading = e.heading := by
  refine (f.isPrefix_text_iff e.heading).1 ?_
  rw [h]
  exact e.front_isPrefix

theorem message_of_text (h : f.text = e.text) : f.message = e.message := by
  have hheading := heading_of_text h
  rw [text, text, level_eq_parts, level_eq_parts, source_eq_parts, source_eq_parts, hheading] at h
  exact (String.append_right_inj _).1 h

/-- A line that was taken for a poll is one of the same transaction. -/
theorem eq_polled_of_text (h : f.text = (polled t).text) : f = .polled t := by
  have hheading : f.heading = .polled := heading_of_text h
  have hmessage := message_of_text h
  cases f with
  | polled u => rw [Transaction.text_inj ((String.append_right_inj _).1 hmessage)]
  | dropped _ _ violation => cases violation <;> exact Heading.noConfusion hheading
  | _ => exact Heading.noConfusion hheading

/-- The transaction of a drop stands in front of the reason. -/
theorem message_dropped (t : Transaction) (reason : DropReason) (violation : Bool) :
    (dropped t reason violation).message
      = "transaction dropped tx=" ++ (t.text ++ (" reason=" ++ reason.message)) := by
  show "transaction dropped tx=" ++ t.text ++ " reason=" ++ reason.message = _
  rw [String.append_assoc, String.append_assoc]

/-- A line with the text of a drop shows the dropped transaction. -/
theorem shows_of_dropped_text {reason : DropReason} {violation : Bool}
    (h : f.text = (dropped t reason violation).text) : f.Shows t := by
  have hheading : f.heading = if violation then .violated else .dropped := heading_of_text h
  have hmessage := message_of_text h
  cases f with
  | dropped u reason' violation' =>
      rw [message_dropped, message_dropped] at hmessage
      obtain ⟨rfl, -⟩ := Transaction.text_append_inj ((String.append_right_inj _).1 hmessage)
      exact .dropped
  | _ => cases violation <;> exact Heading.noConfusion hheading

theorem toList_message_command (line : Nat) (report : String) :
    (command line report).message.toList = "script command line=".toList
      ++ (Nat.toDigits 10 line ++ ' ' :: ("report=".toList ++ report.toList)) := by
  have hdigits : (toString line).toList = Nat.toDigits 10 line := Nat.toList_repr
  have hreport : " report=".toList = ' ' :: "report=".toList := by decide
  show ("script command line=" ++ toString line ++ " report=" ++ report).toList = _
  rw [String.toList_append, String.toList_append, String.toList_append, hdigits, hreport,
    List.append_assoc, List.append_assoc]
  rfl

/-- A line of a command is known by its number and its report. -/
theorem eq_command_of_text {line : Nat} {report : String}
    (h : f.text = (command line report).text) : f = .command line report := by
  have hheading : f.heading = .command := heading_of_text h
  have hmessage := message_of_text h
  cases f with
  | command line' report' =>
      have hblank (n : Nat) : ' ' ∉ Nat.toDigits 10 n := Text.not_mem_toDigits rfl n
      have hchars := congrArg String.toList hmessage
      rw [toList_message_command, toList_message_command, List.append_right_inj] at hchars
      -- the number of the line ends at the first blank
      obtain ⟨hline, hrest⟩ := Text.append_mark_inj hchars (hblank line') (hblank line)
      rw [Text.toDigits_inj hline,
        String.toList_injective ((List.append_right_inj _).1 hrest)]
  | dropped _ _ violation => cases violation <;> exact Heading.noConfusion hheading
  | _ => exact Heading.noConfusion hheading

/-- An entry with the line of one that shows a transaction shows it too. -/
theorem shows_of_text (hshows : e.Shows t) (h : f.text = e.text) : f.Shows t := by
  cases hshows with
  | polled =>
      rw [eq_polled_of_text h]
      exact .polled
  | dropped => exact shows_of_dropped_text h
  | command htext hreport =>
      rw [eq_command_of_text h]
      exact .command htext hreport

end Entry

/-! ## A log -/

/-- The transaction of an entry that says that one was polled. -/
def Entry.polled? : Entry → Option Transaction
  | .polled t => some t
  | _ => none

/-- An entry has a polled transaction if it is a poll. -/
theorem Entry.polled?_eq_some {e : Entry} {t : Transaction} :
    e.polled? = some t ↔ e = .polled t := by
  constructor
  · intro h
    cases e with
    | polled u => exact congrArg Entry.polled (Option.some.inj h)
    | _ => exact nomatch h
  · rintro rfl
    rfl

/-- Entries with one line are about the poll of the same transaction, or both about none. -/
theorem Entry.polled?_of_text {e f : Entry} (h : e.text = f.text) : e.polled? = f.polled? := by
  refine Option.ext fun t => ?_
  rw [polled?_eq_some, polled?_eq_some]
  constructor
  · rintro rfl
    exact eq_polled_of_text h.symm
  · rintro rfl
    exact eq_polled_of_text h

/-- Lists that look alike under one function look alike under every coarser one. -/
theorem map_eq_map_of_coarser {α β γ : Type} {f : α → β} {g : α → γ}
    (hcoarser : ∀ x y, f x = f y → g x = g y) {xs ys : List α} (h : xs.map f = ys.map f) :
    xs.map g = ys.map g := by
  rw [← List.forall₂_eq_eq_eq, List.forall₂_map_left_iff, List.forall₂_map_right_iff] at h ⊢
  exact h.imp hcoarser

namespace Device

/-- The lines of the log of a device. -/
def printedLog {β : Type} (d : Device β) : List String := d.log.toList.map Entry.text

/-- The transactions that were polled, as the log has them. -/
def polledLog {β : Type} (d : Device β) : List Transaction := d.log.toList.filterMap Entry.polled?

/-- Printed logs tell which transactions were polled. -/
theorem polledLog_of_printedLog {β : Type} {d e : Device β} (h : d.printedLog = e.printedLog) :
    d.polledLog = e.polledLog := by
  have hpolled := map_eq_map_of_coarser (fun _ _ => Entry.polled?_of_text) h
  have hfilter (d : Device β) :
      d.polledLog = (d.log.toList.map Entry.polled?).filterMap id := by
    rw [List.filterMap_map]
    rfl
  rw [hfilter, hfilter, hpolled]

/-- Handling a transaction polls it. -/
theorem polledLog_handle (d : Device Queue) (t : Transaction) (rest : List Transaction) :
    (d.handle t rest).polledLog = d.polledLog ++ [t] := by
  rw [polledLog, log_handle, Journal.toList_push, Journal.toList_push, List.filterMap_append,
    List.filterMap_append, polledLog, List.append_assoc]
  cases t.outcome d.registers <;> rfl

/-- A drain logs the poll of each transaction that waits, in order. -/
theorem polledLog_drain (d : Device Queue) :
    d.drain.2.polledLog = d.polledLog ++ d.bus.pending := by
  induction h : d.bus.pending generalizing d with
  | nil => rw [drain_of_nil h, List.append_nil]
  | cons t rest ih =>
      rw [drain_of_cons h, ih (d.handle t rest) pending_handle, polledLog_handle,
        List.append_assoc]
      rfl

/-- The lines of a drain tell what was waiting. -/
theorem pending_of_printedLog {d e : Device Queue} (hbefore : d.printedLog = e.printedLog)
    (hafter : d.drain.2.printedLog = e.drain.2.printedLog) :
    d.bus.pending = e.bus.pending := by
  have hpolled := polledLog_of_printedLog hafter
  rw [polledLog_drain, polledLog_drain, polledLog_of_printedLog hbefore] at hpolled
  exact (List.append_right_inj _).1 hpolled

end Device

/-! ## What a script prints -/

namespace Script

/-- The transaction of a bus command. -/
def Command.transaction? : Command → Option Transaction
  | .transaction t => some t
  | _ => none

/-- The number of a line, and the transaction of its command. -/
def ScriptLine.subject (l : ScriptLine) : Nat × Option Transaction :=
  (l.line, l.command.transaction?)

/-- The number of a line, and the transaction that its report is about. -/
def ReportLine.subject (r : ReportLine) : Nat × Option Transaction :=
  (r.line, r.report.transaction?)

/-- What a run of a script prints of its commands. -/
def printed (lines : List ScriptLine) (d : Device Queue) : List String :=
  (run lines d).1.map Session.reportLine

/-- A faithful report is about the transaction of its command. -/
theorem Command.Faithful.transaction? {c : Command} {before after : Device Queue}
    {report : Report} (h : c.Faithful before after report) :
    report.transaction? = c.transaction? := by
  cases c with
  | transaction t => rw [h.1]; rfl
  | opcode slot record =>
      rw [Faithful] at h
      split at h
      · rw [h.1]; rfl
      · rw [h.1]; rfl
  | execute q =>
      rw [Faithful] at h
      split at h
      · obtain ⟨-, value, rfl, -⟩ := h
        rfl
      · rw [h.2]; rfl
  | executeSlot slot op => rw [h.1]; rfl
  | reset => rw [h.1]; rfl

/-- The reports of a script have the subjects of its lines. -/
theorem subjects_run (lines : List ScriptLine) (d : Device Queue) :
    (run lines d).1.map ReportLine.subject = lines.map ScriptLine.subject := by
  induction lines generalizing d with
  | nil => rfl
  | cons l rest ih =>
      obtain ⟨report, hreport, hfaithful⟩ := run_line l d
      rw [run_cons hreport, List.map_cons, List.map_cons, ih, ReportLine.subject,
        hfaithful.transaction?, ScriptLine.subject]

/-- A printed line is read back as far as its number and its transaction go. -/
theorem subject_of_reportLine {q r : ReportLine}
    (h : Session.reportLine q = Session.reportLine r) : q.subject = r.subject := by
  have hcolon (n : Nat) : ':' ∉ (Text.column 4 n).toList :=
    Text.not_mem_column rfl (by decide) 4 n
  have hmark : ": ".toList = ':' :: [' '] := by decide
  have hchars := congrArg String.toList h
  simp only [Session.reportLine, String.toList_append, hmark, List.append_assoc,
    List.cons_append] at hchars
  obtain ⟨hline, htext⟩ := Text.append_mark_inj hchars (hcolon q.line) (hcolon r.line)
  have hreport : q.report.text = r.report.text :=
    String.toList_injective ((List.append_right_inj [' ']).1 htext)
  rw [ReportLine.subject, ReportLine.subject, Text.column_inj hline,
    Report.transaction?_of_text hreport]

/-- What a script prints tells its bus commands and their lines. -/
theorem subjects_of_printed {ls ms : List ScriptLine} {d e : Device Queue}
    (h : printed ls d = printed ms e) :
    ls.map ScriptLine.subject = ms.map ScriptLine.subject := by
  rw [← subjects_run ls d, ← subjects_run ms e]
  exact map_eq_map_of_coarser (fun _ _ => subject_of_reportLine) h

end Script

/-! ## Texts and transactions -/

/-- **Texts identify transactions**: two transactions, whatever the lengths of their
    payloads, have one text only if they are the same in direction, address and payload. So an
    entry with a line that shows a transaction shows that one and no other; reports with
    one text are about the same transaction, or both about none; what is logged while a
    queue is drained tells what was waiting; and what a script prints tells its
    bus commands, whatever it ran on. -/
theorem Transaction.text_identifies :
    (∀ t u : Transaction, t.text = u.text ↔ t = u)
      ∧ (∀ (e f : Entry) (t : Transaction), e.Shows t → f.text = e.text →
        ∀ u, f.Shows u ↔ u = t)
      ∧ (∀ q r : Script.Report, q.text = r.text → q.transaction? = r.transaction?)
      ∧ (∀ d e : Device Queue, d.printedLog = e.printedLog →
        d.drain.2.printedLog = e.drain.2.printedLog → d.bus.pending = e.bus.pending)
      ∧ ∀ (ls ms : List Script.ScriptLine) (d e : Device Queue),
        Script.printed ls d = Script.printed ms e →
        ls.map Script.ScriptLine.subject = ms.map Script.ScriptLine.subject := by
  refine ⟨fun t u => ⟨text_inj, congrArg text⟩, ?_, fun q r => Script.Report.transaction?_of_text,
    fun d e => Device.pending_of_printedLog, fun ls ms d e => Script.subjects_of_printed⟩
  intro e f t hshows htext u
  have hf := Entry.shows_of_text hshows htext
  constructor
  · intro hu
    exact hf.unique hu
  · rintro rfl
    exact hf

/-- Two bytes are not one byte, and a line that is written out is about one transaction. Texts
    that leave something out, such as the budget of a device or a source that is not
    read, still tell their transactions. -/
theorem Transaction.text_identifies_written_out :
    let short : Transaction := ⟨.read, 0x0a, [0x10]⟩
    let words : String :=
      "read @0x0a [10] -> dropped: unsupported transaction shape: read with 1 byte payload"
    let answer (address : UInt8) : Script.Report := .bus (.read 3) (.responded address [])
    let waiting (budget : Option UInt64) : Device Queue :=
      .start (.ofList [.write32 3 0x40200000, .read 3]) { budget := budget }
    let lines (unread : UInt64) : List Script.ScriptLine :=
      [⟨2, .transaction short⟩, ⟨5, .execute ⟨.function .sqrt, 300, 0, unread⟩⟩]
    short.text ≠ (⟨.read, 0x0a, [0x01, 0x00]⟩ : Transaction).text
      ∧ (∀ u, (Entry.command 3 words).Shows u ↔ u = short)
      ∧ (answer 0).transaction? = (answer 1).transaction?
      ∧ (waiting none).bus.pending = (waiting (some 1)).bus.pending
      ∧ (lines 0).map Script.ScriptLine.subject = (lines 7).map Script.ScriptLine.subject := by
  intro short words answer waiting lines
  obtain ⟨htexts, hlines, hreports, hlogs, hscripts⟩ := text_identifies
  have hwords : (Script.Report.bus short (.dropped (.unsupported .read 1))).text = words := by
    decide +kernel
  have hshows : (Entry.command 3 words).Shows short := .command hwords rfl
  have hbefore : (waiting none).printedLog = (waiting (some 1)).printedLog := rfl
  have hafter : (waiting none).drain.2.printedLog = (waiting (some 1)).drain.2.printedLog := by
    decide +kernel
  have hprinted : Script.printed (lines 0) (.start .empty {})
      = Script.printed (lines 7) (waiting none) := by decide +kernel
  refine ⟨fun h => ?_, hlines _ _ short hshows rfl, hreports _ _ rfl,
    hlogs _ _ hbefore hafter, hscripts _ _ _ _ hprinted⟩
  exact absurd ((htexts _ _).1 h) (by decide)

end Coprocessor
