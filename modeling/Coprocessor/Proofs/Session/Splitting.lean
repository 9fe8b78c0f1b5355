import Coprocessor.Proofs.Script.Joining
import Coprocessor.Proofs.Snapshot.Rewind
import Coprocessor.Session

/-!
# Splitting — one session in two parts

A session that saves its state can be taken up by another one. If a script is
cut into two texts, then a session for the first text, and one for the second
that starts from what the first saved, report together what one session for the
whole reports, and leave the same bytes behind. The sessions start with new
counters, so their summaries differ; and each may be lenient or not.

  • `Files.Faithful` — surroundings in which reading changes nothing and a file
    reads back what was written to it; a directory is one: `faithful_directory`.
  • `perform_ended` — what a session comes to that nothing stops; `perform_run` where it
    saves its state.
  • `run_resumed` — a script on a device that was restored where another script
    ended.
  • `perform_split` — these together.
-/

namespace Coprocessor

/-! ## Surroundings that keep files -/

namespace Files

variable {σ : Type} [Files (StateM σ)]

/-- What a path reads as. -/
def contents (s : σ) (path : String) : Except FileError (List UInt8) :=
  ((Files.read path : StateM σ (Except FileError (List UInt8))).run s).1

/-- Whether bytes can be written to a path. -/
def accepted (s : σ) (path : String) (bytes : List UInt8) : Except FileError Unit :=
  ((Files.write path bytes : StateM σ (Except FileError Unit)).run s).1

/-- What writing bytes to a path leaves. -/
def written (s : σ) (path : String) (bytes : List UInt8) : σ :=
  ((Files.write path bytes : StateM σ (Except FileError Unit)).run s).2

/-- Reading changes nothing, and a file reads back what was written to it. -/
structure Faithful (σ : Type) [Files (StateM σ)] : Prop where
  read_keeps : ∀ (s : σ) (path : String),
    ((Files.read path : StateM σ (Except FileError (List UInt8))).run s).2 = s
  read_written : ∀ {s : σ} {path : String} {bytes : List UInt8},
    accepted s path bytes = .ok () → contents (written s path bytes) path = .ok bytes

/-- Reading a file changes no file. -/
theorem Faithful.read_eq (faithful : Faithful σ) (s : σ) (path : String) :
    (Files.read path : StateM σ (Except FileError (List UInt8))) s = (contents s path, s) :=
  Prod.ext rfl (faithful.read_keeps s path)

/-- Writing a file is accepted or not, and leaves what it leaves. -/
theorem write_eq (s : σ) (path : String) (bytes : List UInt8) :
    (Files.write path bytes : StateM σ (Except FileError Unit)) s
      = (accepted s path bytes, written s path bytes) := rfl

end Files

open Files

/-- Files that are kept by their paths read back what was written. -/
theorem faithful_directory : Faithful Directory where
  read_keeps _ _ := rfl
  read_written h := Directory.read_of_write h

/-! ## What a session comes to -/

/-- Whether the state of any device can be saved at a path. -/
def Files.Saves {σ : Type} [Files (StateM σ)] (s : σ) (path : String) : Prop :=
  ∀ storage : Storage, accepted s path (Snapshot.ofStorage storage).toBytes = .ok ()

/-- What an invocation comes to, and the surroundings that it leaves. -/
def Invocation.performIn {σ : Type} [Files (StateM σ)] (i : Invocation) (s : σ) :
    Completion × σ :=
  (i.perform : StateM σ Completion).run s

namespace Session

/-- The bytes that a text is stored as. -/
def bytesOf (source : String) : List UInt8 := source.toUTF8.data.toList

/-- How a run ends that needs no complaint. -/
def ended (reports : List Script.ReportLine) (counters : Counters) (strictExit : Bool) :
    Completion :=
  ⟨if strictExit && reports.any fun r => r.report.isFailure then 1 else 0,
    lines (reports.map reportLine ++ [summary counters]), ""⟩

/-- A text is read back from its bytes. -/
theorem fromUTF8?_bytesOf (source : String) :
    String.fromUTF8? ⟨(bytesOf source).toArray⟩ = some source := by
  have hbytes : (⟨(bytesOf source).toArray⟩ : ByteArray) = source.toUTF8 := by
    rw [bytesOf, Array.toArray_toList]
  rw [hbytes]
  exact dif_pos source.isValidUTF8

/-- A script that is read from a file is the one that was stored in it. -/
theorem scriptOf_bytesOf {path source : String} {script : List Script.ScriptLine}
    (h : Script.parse source = .ok script) :
    scriptOf path (.ok (bytesOf source)) = .ok script := by
  simp only [scriptOf, fromUTF8?_bytesOf, h]

/-- A configuration that differs from the default in its strictness is accepted. -/
theorem create_strict {β : Type} (bus : β) (strict : Bool) :
    Device.create bus { strict } = .ok (Device.start bus { strict }) := by
  have hshort : ¬ Interval.second.toNanos < Interval.millisecond.toNanos := by decide
  have hcheck : ({ strict } : Config).check = .ok () := by
    rw [Config.check, if_neg hshort, if_neg (fun hzero => nomatch hzero)]
  rw [Device.create, hcheck]
  rfl

variable {σ : Type} [Files (StateM σ)]

/-- What a run comes to that reads its script, finds its snapshot if it asks for one, and
    saves its state if it is to. -/
theorem perform_ended {s s₁ s₂ s₃ : σ} {path : String} {load save : Option String}
    {bytes : Except FileError (List UInt8)} {script : List Script.ScriptLine}
    {state : Option Snapshot} {d : Device Queue}
    (hread : (Files.read path : StateM σ _).run s = (bytes, s₁))
    (hscript : scriptOf path bytes = .ok script)
    (hload : (loadSnapshot load : StateM σ _).run s₁ = (.ok state, s₂))
    {lenient : Bool} (hdevice : deviceOf lenient state = .ok d)
    (hsave : (saveSnapshot (Script.run script d).2.snapshot save : StateM σ _).run s₂
      = (.ok (), s₃))
    (strictExit : Bool) :
    (Invocation.run path load save lenient strictExit).performIn s
      = (ended (Script.run script d).1 (Script.run script d).2.counters strictExit, s₃) := by
  have hrun : (runOn d script save strictExit : StateM σ Completion) s₂
      = (ended (Script.run script d).1 (Script.run script d).2.counters strictExit, s₃) := by
    simp only [runOn, bind, StateT.bind, StateT.run] at hsave ⊢
    rw [hsave]
    rfl
  simp only [Invocation.performIn, Invocation.perform, Session.run, bind, StateT.bind, pure,
    StateT.run] at hread hload ⊢
  rw [hread]
  simp only [hscript, StateT.bind, bind]
  rw [hload]
  simp only [hdevice]
  exact hrun

/-- A session whose files are all accepted runs its script once and saves what it leaves. -/
theorem perform_run (faithful : Faithful σ) {s : σ} {path save : String} {load : Option String}
    {script : List Script.ScriptLine} {state : Option Snapshot} {d : Device Queue}
    (hscript : scriptOf path (contents s path) = .ok script)
    (hload : (loadSnapshot load : StateM σ _).run s = (.ok state, s))
    {lenient : Bool} (hdevice : deviceOf lenient state = .ok d)
    (hsave : accepted s save (Script.run script d).2.snapshot.toBytes = .ok ())
    (strictExit : Bool) :
    (Invocation.run path load (some save) lenient strictExit).performIn s
      = (ended (Script.run script d).1 (Script.run script d).2.counters strictExit,
          written s save (Script.run script d).2.snapshot.toBytes) := by
  refine perform_ended (faithful.read_eq s path) hscript hload hdevice ?_ strictExit
  simp only [saveSnapshot, bind, StateT.bind, StateT.run, write_eq, hsave]
  rfl

/-! ## Starting from what was saved -/

theorem loadSnapshot_none (s : σ) :
    (loadSnapshot none : StateM σ (Except Complaint (Option Snapshot))).run s = (.ok none, s) := rfl

/-- A file with the bytes of a snapshot is loaded as that snapshot. -/
theorem loadSnapshot_some (faithful : Faithful σ) {s : σ} {path : String} {d : Device Queue}
    (h : contents s path = .ok d.snapshot.toBytes) :
    (loadSnapshot (some path) : StateM σ (Except Complaint (Option Snapshot))).run s
      = (.ok (some d.snapshot), s) := by
  simp only [loadSnapshot, bind, StateT.bind, StateT.run, faithful.read_eq, h, snapshotOf,
    Device.ofBytes_snapshot]
  rfl

/-- Without a snapshot a session starts on a cleared device. -/
theorem deviceOf_none (lenient : Bool) :
    deviceOf lenient none = .ok (Device.start Queue.empty { strict := !lenient }) := by
  have hcreate := create_strict Queue.empty (!lenient)
  unfold deviceOf
  generalize Device.create Queue.empty { strict := !lenient } = created at hcreate ⊢
  rw [hcreate]

/-- With a snapshot it starts on a device that is rewound to it. -/
theorem deviceOf_snapshot (lenient : Bool) (d : Device Queue) :
    deviceOf lenient (some d.snapshot)
      = .ok ((Device.start Queue.empty { strict := !lenient }).rewound d) := by
  have hcreate := create_strict Queue.empty (!lenient)
  unfold deviceOf
  generalize Device.create Queue.empty { strict := !lenient } = created at hcreate ⊢
  rw [hcreate]
  exact Device.restore_snapshot d _

end Session

namespace Script

open Device Likeness

/-- A script behind another one gives the reports that it gives, some lines further up, on a
    device that is restored from where the other one ended. -/
theorem run_resumed {d e f : Device Queue} (hde : twins.Relates d e)
    (hbudget : f.config.budget = d.config.budget) (hd : d.bus.pending = [])
    (hf : f.bus.pending = []) (commands more : List ScriptLine) (k : Nat) :
    (run (commands ++ more.map (ScriptLine.shift k)) d).1
        = (run commands e).1
          ++ (run more (f.rewound (run commands e).2)).1.map (ReportLine.shift k)
      ∧ (run (commands ++ more.map (ScriptLine.shift k)) d).2.storage
          = (run more (f.rewound (run commands e).2)).2.storage := by
  -- the first script does the same on both devices
  obtain ⟨hreports, hfirst⟩ := alike_run total_twins hde commands
  have hrewound : f.rewound (run commands d).2 = f.rewound (run commands e).2 := by
    rw [rewound, rewound, hfirst.storage]
  have hbudget' : f.config.budget = (run commands d).2.config.budget := by
    rw [config_run, hbudget]
  have hpending : f.bus.pending = (run commands d).2.bus.pending := by
    rw [hf, pending_run hd]
  obtain ⟨hmore, hlast⟩ := alike_script total_twins (twins_rewound hbudget' hpending) k more
  rw [run_append, ← hrewound, ← hreports]
  exact ⟨congrArg ((run commands d).1 ++ ·) hmore, hlast.storage⟩

end Script

namespace Session

variable {σ : Type} [Files (StateM σ)]

/-- **Sessions can be split**: a session for one script that saves its state, and a session
    for another script that starts from it, report what one session for both scripts
    reports, the second script's lines counted from where the first one ends, and
    save the same bytes. Each of the three may be lenient or not, with strict exit or
    not; only what they count differs. -/
theorem perform_split (faithful : Faithful σ) {front back : String}
    {commands more : List Script.ScriptLine} (hfront : Script.parse front = .ok commands)
    (hback : Script.parse back = .ok more) {s e : σ} {first second whole middle last : String}
    (hfirst : contents s first = .ok (bytesOf front))
    (hsecond : contents s second = .ok (bytesOf back))
    (hwhole : contents e whole = .ok (bytesOf (front ++ "\n" ++ back)))
    (hmiddle : Saves s middle)
    (hapart : ∀ bytes, contents (written s middle bytes) second = contents s second)
    (hlast : ∀ bytes, Saves (written s middle bytes) last) (hlast' : Saves e last)
    (lenient lenient' lenientWhole strict strict' strictWhole : Bool) :
    ∃ reports reports' counters counters' countersWhole left left' leftWhole bytes,
      (Invocation.run first none (some middle) lenient strict).performIn s
          = (ended reports counters strict, left)
        ∧ (Invocation.run second (some middle) (some last) lenient' strict').performIn left
          = (ended reports' counters' strict', left')
        ∧ (Invocation.run whole none (some last) lenientWhole strictWhole).performIn e
          = (ended (reports ++ reports'.map (Script.ReportLine.shift (Script.lineCount front)))
              countersWhole strictWhole, leftWhole)
        ∧ reports.length = commands.length ∧ reports'.length = more.length
        ∧ contents left' last = .ok bytes ∧ contents leftWhole last = .ok bytes := by
  -- the device of each session, cleared or restored
  let cleared := Device.start Queue.empty { strict := !lenientWhole }
  let fresh := Device.start Queue.empty { strict := !lenient }
  let resumed :=
    (Device.start Queue.empty { strict := !lenient' }).rewound (Script.run commands fresh).2
  have hscript : scriptOf first (contents s first) = .ok commands := by
    rw [hfirst]
    exact scriptOf_bytesOf hfront
  have hone := perform_run faithful hscript (loadSnapshot_none s) (deviceOf_none lenient)
    (hmiddle _) strict
  have hscript' : ∀ bytes,
      scriptOf second (contents (written s middle bytes) second) = .ok more := by
    intro bytes
    rw [hapart, hsecond]
    exact scriptOf_bytesOf hback
  -- what the first session saved is what the second one reads
  have hread := loadSnapshot_some (d := (Script.run commands fresh).2) faithful
    (faithful.read_written (hmiddle _))
  have htwo := perform_run faithful (hscript' _) hread (deviceOf_snapshot lenient' _) (hlast _ _)
    strict'
  have hscriptWhole : scriptOf whole (contents e whole)
      = .ok (commands ++ more.map (Script.ScriptLine.shift (Script.lineCount front))) := by
    rw [hwhole]
    exact scriptOf_bytesOf (Script.parse_join_ok hfront hback)
  have hall := perform_run faithful hscriptWhole (loadSnapshot_none e)
    (deviceOf_none lenientWhole) (hlast' _) strictWhole
  have hde : Likeness.twins.Relates cleared fresh := ⟨rfl, rfl, rfl, trivial, rfl⟩
  obtain ⟨hreports, hstorage⟩ :=
    Script.run_resumed hde (f := Device.start Queue.empty { strict := !lenient' }) rfl rfl rfl
      commands more (Script.lineCount front)
  have hbytes := congrArg (fun storage => (Snapshot.ofStorage storage).toBytes) hstorage
  rw [hreports] at hall
  exact ⟨_, _, _, _, _, _, _, _, _, hone, htwo, hall, Script.length_run commands fresh,
    Script.length_run more resumed, faithful.read_written (hlast _ _),
    (faithful.read_written (hlast' _)).trans (congrArg Except.ok hbytes)⟩

/-- A write in one strict session, its sum and a read in a lenient one, and all of it in
    one session, in a directory that holds the three scripts. -/
theorem perform_split_sum :
    let front := Script.print [.transaction (.write32 3 0x3FC00000)]
    let back := Script.print [.execute ⟨.single .add, 5, 3, 3⟩, .transaction (.read 5)]
    let d := Directory.ofFiles [("first", bytesOf front), ("second", bytesOf back),
      ("whole", bytesOf (front ++ "\n" ++ back))]
    ∃ reports reports' counters counters' countersWhole left left' leftWhole bytes,
      (Invocation.run "first" none (some "state") false false).performIn d
          = (ended reports counters false, left)
        ∧ (Invocation.run "second" (some "state") (some "last") true false).performIn left
          = (ended reports' counters' false, left')
        ∧ (Invocation.run "whole" none (some "last") false true).performIn d
          = (ended (reports ++ reports'.map (Script.ReportLine.shift 1)) countersWhole true,
              leftWhole)
        ∧ reports.length = 1 ∧ reports'.length = 2
        ∧ left'.read "last" = .ok bytes ∧ leftWhole.read "last" = .ok bytes := by
  intro front back d
  have hfront : Script.parse front
      = .ok (Script.numbered 1 [.transaction (.write32 3 0x3FC00000)]) := by
    rw [Script.parse, Script.splitLines_print (List.cons_ne_nil _ _), Script.parseLines_texts]
  have hback : Script.parse back
      = .ok (Script.numbered 1 [.execute ⟨.single .add, 5, 3, 3⟩, .transaction (.read 5)]) := by
    rw [Script.parse, Script.splitLines_print (List.cons_ne_nil _ _), Script.parseLines_texts]
  have hcount : Script.lineCount front = 1 := by decide +kernel
  have hfirst : contents d "first" = .ok (bytesOf front) := rfl
  have hsecond : contents d "second" = .ok (bytesOf back) := rfl
  have hwhole : contents d "whole" = .ok (bytesOf (front ++ "\n" ++ back)) := rfl
  have hmiddle : Saves d "state" := fun _ => rfl
  have hapart : ∀ bytes, contents (written d "state" bytes) "second" = contents d "second" :=
    fun _ => rfl
  have hlast : ∀ bytes, Saves (written d "state" bytes) "last" := fun _ _ => rfl
  have hlast' : Saves d "last" := fun _ => rfl
  have hsplit := perform_split faithful_directory hfront hback hfirst hsecond hwhole hmiddle hapart
    hlast hlast' false true false false false true
  rw [hcount] at hsplit
  exact hsplit

end Session

end Coprocessor
