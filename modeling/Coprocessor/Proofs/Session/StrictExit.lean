import Coprocessor.Proofs.Script.Accounting
import Coprocessor.Proofs.Session.Splitting

/-!
# Strict exit — a failed command is never lost

The reports of a script and the counters of the device keep two books of what failed. As
long as nothing is reset they agree, up to the slot commands and opcode writes that the
counters do not see. A reset clears the counters, but the exit code of a strict session
goes by the reports, so it tells of every failed command, whatever was reset after it.

  • `Session.Unhindered` — a session that reads its script, finds its snapshot and can
    save its state.
  • `exitCode_ne_zero_iff` — its exit code, when strict exit is asked for.
  • `failures_kept` — both books.
-/

namespace Coprocessor

open Script (ScriptLine Command occasions)

namespace Session

variable {σ : Type} [Files (StateM σ)]

/-- A session that nothing stops: its script is read and parsed, the snapshot to start
    from is loaded, if there is one, and the state that the script leaves is saved, if it
    is to be. The script is run on `d`. -/
inductive Unhindered (s : σ) (path : String) (load save : Option String) (lenient : Bool)
    (script : List ScriptLine) (d : Device Queue) : Prop where
  | intro {bytes : Except FileError (List UInt8)} {state : Option Snapshot} {s₁ s₂ s₃ : σ}
      (hread : (Files.read path : StateM σ _).run s = (bytes, s₁))
      (hscript : scriptOf path bytes = .ok script)
      (hload : (loadSnapshot load : StateM σ _).run s₁ = (.ok state, s₂))
      (hdevice : deviceOf lenient state = .ok d)
      (hsave : (saveSnapshot (Script.run script d).2.snapshot save : StateM σ _).run s₂
        = (.ok (), s₃)) :
      Unhindered s path load save lenient script d

/-- With strict exit the exit code tells whether a command failed. -/
theorem exitCode_ne_zero_iff {s : σ} {path : String} {load save : Option String} {lenient : Bool}
    {script : List ScriptLine} {d : Device Queue}
    (h : Unhindered s path load save lenient script d) :
    ((Invocation.run path load save lenient true).performIn s).1.exitCode ≠ 0
      ↔ ∃ o ∈ occasions script d, o.2.Fails o.1 := by
  obtain ⟨hread, hscript, hload, hdevice, hsave⟩ := h
  rw [perform_ended hread hscript hload hdevice hsave true, ← Script.exists_failure_iff,
    ← List.any_eq_true]
  show (if (true && (Script.run script d).1.any fun r => r.report.isFailure) = true
    then 1 else 0) ≠ 0 ↔ _
  rw [Bool.true_and]
  cases (Script.run script d).1.any fun r => r.report.isFailure with
  | true => exact ⟨fun _ => rfl, fun _ => Nat.one_ne_zero⟩
  | false => exact ⟨fun h => absurd rfl h, nofun⟩

end Session

namespace Script

/-- **Failures are kept**: where nothing waits and nothing was counted before, and without
    a reset, as many reports are failures as transactions were dropped, operations
    failed, opcode writes were beyond the last slot, and slot commands found no record to run at
    that point. And whether or not anything is reset, a session with strict exit that nothing
    stops ends with a code other than zero exactly if some command failed: its
    transaction was dropped, its operation or opcode write refused, or its slot not
    executed with success. -/
theorem failures_kept :
    (∀ {lines : List ScriptLine} {d : Device Queue}, d.bus.pending = [] → d.counters = {} →
        (∀ l ∈ lines, l.command ≠ .reset) →
        (run lines d).1.countP (fun r => r.report.isFailure)
          = (run lines d).2.counters.dropped + (run lines d).2.counters.failedOperations
            + lines.countP (fun l => l.command.overruns)
            + (occasions lines d).countP fun o => o.2.misses o.1)
      ∧ ∀ {σ : Type} [Files (StateM σ)] {s : σ} {path : String} {load save : Option String}
          {lenient : Bool} {script : List ScriptLine} {d : Device Queue},
          Session.Unhindered s path load save lenient script d →
          (((Invocation.run path load save lenient true).performIn s).1.exitCode ≠ 0
            ↔ ∃ o ∈ occasions script d, o.2.Fails o.1) := by
  constructor
  · intro lines d hpending hcounters hreset
    have hcount := count_failures hreset hpending
    rw [hcounters] at hcount
    have hzero : Counters.failures {} = 0 := rfl
    rw [hzero, Nat.zero_add] at hcount
    exact hcount
  · intro σ _ s path load save lenient script d h
    exact Session.exitCode_ne_zero_iff h

/-- An opcode write beyond the last slot, a slot without a record to run and an operation
    without a destination; and a session that runs such a slot and then resets. -/
theorem failures_kept_reset :
    let d := Device.withDefaults Queue.empty
    let root : Operation := .function .sqrt
    let lines : List ScriptLine := [⟨1, .opcode 1024 .cleared⟩, ⟨2, .executeSlot 6 root⟩,
      ⟨3, .execute ⟨root, 300, 0, 0⟩⟩]
    let files := Directory.ofFiles
      [("script", Session.bytesOf (print [.executeSlot 6 root, .reset]))]
    (run lines d).1.countP (fun r => r.report.isFailure) = 3
      ∧ (run lines d).2.counters.failedOperations = 1
      ∧ ((Invocation.run "script" none (some "state") false true).performIn files).1.exitCode
          ≠ 0 := by
  intro d root lines files
  obtain ⟨hbooks, hexit⟩ := failures_kept
  have hparse : parse (print [.executeSlot 6 root, .reset])
      = .ok (numbered 1 [.executeSlot 6 root, .reset]) := by
    rw [parse, splitLines_print (List.cons_ne_nil _ _), parseLines_texts]
  have hread : (Files.read "script" : StateM Directory _).run files
      = (.ok (Session.bytesOf (print [.executeSlot 6 root, .reset])), files) := rfl
  have hsession : Session.Unhindered files "script" none (some "state") false
      (numbered 1 [.executeSlot 6 root, .reset]) (Device.start Queue.empty { strict := !false }) :=
    .intro hread (Session.scriptOf_bytesOf hparse) (Session.loadSnapshot_none files)
      (Session.deviceOf_none false) rfl
  have hcounters : (run lines d).2.counters = ⟨0, 0, 0, 0, 0, 1, 1⟩ := by decide +kernel
  have hmisses : ((occasions lines d).countP fun o => o.2.misses o.1) = 1 := by decide +kernel
  refine ⟨?_, ?_, (hexit hsession).2 ⟨_, List.mem_cons_self, .executeSlot ?_⟩⟩
  · rw [hbooks rfl rfl (by decide), hcounters, hmisses]
    rfl
  · rw [hcounters]
  · have hcleared : ((Device.start Queue.empty { strict := !false }).executeSlot 6 root).1
        = .ok (.skipped .nop) :=
      (Device.executeSlot_eq_skipped_iff _ 6 root .nop).2 ⟨.cleared, by decide, rfl, by decide⟩
    rw [hcleared]
    intro heq
    cases heq

end Script

end Coprocessor
