import Coprocessor.Proofs.Device.InPlace

/-!
# Failures — a call that fails leaves storage as it was

Every call to a device that may fail says so in what it ends with: a step by the
outcome of the transaction that it took, the others by their result. Whatever
the device, its bus and what it was asked for, such a call has changed neither
register space and no opcode slot, and sent no answer. The calls are looked at as
programs that work in place, where a refusal keeps what was written before it.

  • `Fails` — a call that reports a failure, and the device that it leaves.
  • `lasting_of_fails` — every call but a step leaves storage and bus.
  • `step_dropped` — a step that drops its transaction took it and drove the busy
    line, no more.
  • `storage_of_fails` — the cases put together, for any bus and for a queue, and
    that the calls end as their programs do.
-/

namespace Coprocessor.Device

open InPlace (lasting)

section

variable {β : Type}

/-! ## Calls that report a failure -/

/-- A call on a device that reports a failure, and the device that it leaves; the
    flag says whether the call takes a transaction from the bus. -/
inductive Fails {β : Type} [Bus β] (d : Device β) : Bool → Device β → Prop where
  /-- A step whose transaction is dropped. -/
  | dropped {reason : DropReason} {last : Device β} :
      d.step = (some (.dropped reason), last) → Fails d true last
  /-- An operation that is refused, counted or not. -/
  | execute {q : Request} {e : OperationError} {last : Device β} :
      (InPlace.execute q).run d = .error e last → Fails d false last
  | dispatch {q : Request} {e : OperationError} {last : Device β} :
      (InPlace.dispatch q).run d = .error e last → Fails d false last
  | executeRaw {number : UInt8} {destination source0 source1 : UInt64} {e : OperationError}
      {last : Device β} :
      (InPlace.executeRaw number destination source0 source1).run d = .error e last
        → Fails d false last
  /-- A slot that is out of range, cannot be run, or is run as an operation that is
      refused. -/
  | noSlot {slot : UInt64} {op : Operation} {e : Failure} {last : Device β} :
      (InPlace.executeSlot slot op).run d = .error e last → Fails d false last
  | skipped {slot : UInt64} {op : Operation} {kind : Kind} {last : Device β} :
      (InPlace.executeSlot slot op).run d = .ok (.skipped kind) last → Fails d false last
  | slotRefused {slot : UInt64} {op : Operation} {e : OperationError} {last : Device β} :
      (InPlace.executeSlot slot op).run d = .ok (.executed (.error e)) last
        → Fails d false last
  /-- A direct access that is out of range. -/
  | write32 {i : Nat} {word : UInt32} {e : RangeError} {last : Device β} :
      (InPlace.inRegisters (InPlace.write32 i word)).run d = .error e last
        → Fails d false last
  | write64 {i : Nat} {word : UInt64} {e : RangeError} {last : Device β} :
      (InPlace.inRegisters (InPlace.write64 i word)).run d = .error e last
        → Fails d false last
  | writeOpcode {slot : Nat} {record : Record} {e : RangeError} {last : Device β} :
      (InPlace.inOpcodes (InPlace.writeSlot slot record)).run d = .error e last
        → Fails d false last
  /-- A snapshot with a section of a wrong length. -/
  | restore {s : Snapshot} {e : Failure} {last : Device β} :
      (InPlace.restore s).run d = .error e last → Fails d false last
  /-- The same snapshot, written over the storage alone. -/
  | apply {s : Snapshot} {e : CoprocessorError} {storage : Storage} :
      s.apply.run d.storage = .error e storage → Fails d false { d with storage }

variable {d last : Device β}

/-! ## A step -/

/-- A step that drops its transaction took it and drove the busy line, no more. -/
theorem step_dropped [Bus β] {reason : DropReason} (h : d.step = (some (.dropped reason), last)) :
    last.storage = d.storage
      ∧ ∃ t bus, Bus.poll d.bus = (some t, bus)
        ∧ last.bus = Bus.setBusy (Bus.setBusy bus true) false := by
  rw [step] at h
  split at h
  next => cases h
  next t bus hpoll =>
    rcases t.shape_cases with hshape | hshape | hshape | hshape
    · simp only [Transaction.resolve_of_isWrite32 hshape] at h
      cases h
    · simp only [Transaction.resolve_of_isWrite64 hshape] at h
      cases h
    · simp only [Transaction.resolve_of_isRead hshape] at h
      cases h
    · -- the only shape that is dropped keeps the registers and sends nothing
      simp only [Transaction.resolve_of_isUnsupported hshape] at h
      obtain ⟨-, rfl⟩ := Prod.mk.inj h
      exact ⟨rfl, t, bus, hpoll, rfl⟩

/-! ## Every call -/

/-- Every call but a step is atomic. -/
theorem lasting_of_fails [Bus β] (h : d.Fails false last) : lasting last = lasting d := by
  -- a slot that fails is told by its end, the others by the law for their program
  have hslot {slot : UInt64} {op : Operation}
      {content : EStateM.Result Failure (Device β) SlotExecution}
      (hrun : (InPlace.executeSlot slot op).run d = content)
      (hfail : resultOf content ≠ .ok (.executed (.ok ()))) :
      lasting (stateOf content) = lasting d := by
    subst hrun
    exact InPlace.executeSlot_lasting d slot op hfail
  cases h with
  | execute h => exact InPlace.atomic_execute _ _ _ _ h
  | dispatch h => exact InPlace.atomic_dispatch _ _ _ _ h
  | executeRaw h => exact InPlace.atomic_executeRaw _ _ _ _ _ _ _ h
  | noSlot h => exact hslot h fun heq => nomatch heq
  | skipped h => exact hslot h fun heq => nomatch heq
  | slotRefused h => exact hslot h fun heq => nomatch heq
  | write32 h => exact (InPlace.atomic_inRegisters (InPlace.atomic_put _ _ _)).seen _ _ _ h
  | write64 h => exact (InPlace.atomic_inRegisters (InPlace.atomic_put _ _ _)).seen _ _ _ h
  | writeOpcode h => exact (InPlace.atomic_inOpcodes (InPlace.atomic_put _ _ _)).seen _ _ _ h
  | restore h => exact (InPlace.atomic_restore _).seen _ _ _ h
  | apply h => exact congrArg (·, d.bus) ((Snapshot.atomic_apply _) _ _ _ h)

/-- Only a step takes a transaction. -/
theorem step_of_fails [Bus β] (h : d.Fails true last) :
    ∃ reason, d.step = (some (.dropped reason), last) := by
  cases h with
  | dropped h => exact ⟨_, h⟩

end

/-- What a poll of a queue finds was the first that waited. -/
theorem poll_eq_some {q polled : Queue} {t : Transaction} (h : q.poll = (some t, polled)) :
    q.pending = t :: polled.pending ∧ polled.responses = q.responses := by
  rw [Queue.poll] at h
  split at h
  next => cases h
  next first rest hpending =>
    obtain ⟨hfirst, rfl⟩ := Prod.mk.inj h
    obtain rfl := Option.some.inj hfirst
    exact ⟨hpending, rfl⟩

/-- **Failures leave storage intact**: on any bus, a call that reports a failure
    leaves both register spaces and every opcode slot as they were, although it
    works in place. It leaves the bus as it was too, but for a step, which takes a
    transaction, raises the busy line and lowers it. On a queue no answer was
    sent, and what waits is what waited, but for the one transaction that a step
    took. The calls of a device end as these programs do. -/
theorem storage_of_fails :
    (∀ {β : Type} [Bus β] {d last : Device β} {took : Bool}, d.Fails took last →
        last.registers = d.registers
          ∧ last.opcodes = d.opcodes
          ∧ if took then
              ∃ t bus, Bus.poll d.bus = (some t, bus)
                ∧ last.bus = Bus.setBusy (Bus.setBusy bus true) false
            else last.bus = d.bus)
      ∧ (∀ {d last : Device Queue} {took : Bool}, d.Fails took last →
          last.bus.responses = d.bus.responses
            ∧ if took then ∃ t, d.bus.pending = t :: last.bus.pending
              else last.bus.pending = d.bus.pending)
      ∧ ∀ {β : Type} (d : Device β), d.RunsInPlace := by
  refine ⟨?_, ?_, fun d => runsInPlace d⟩
  · intro β _ d last took h
    cases took with
    | true =>
        obtain ⟨reason, hstep⟩ := step_of_fails h
        obtain ⟨hstorage, hbus⟩ := step_dropped hstep
        exact ⟨congrArg Storage.registers hstorage, congrArg Storage.opcodes hstorage, hbus⟩
    | false =>
        obtain ⟨hstorage, hbus⟩ := Prod.mk.inj (lasting_of_fails h)
        exact ⟨congrArg Storage.registers hstorage, congrArg Storage.opcodes hstorage, hbus⟩
  · intro d last took h
    cases took with
    | true =>
        obtain ⟨reason, hstep⟩ := step_of_fails h
        obtain ⟨-, t, polled, hpoll, hbus⟩ := step_dropped hstep
        obtain ⟨hpending, hresponses⟩ := poll_eq_some hpoll
        rw [hbus]
        exact ⟨hresponses, t, hpending⟩
    | false =>
        obtain ⟨-, hbus⟩ := Prod.mk.inj (lasting_of_fails h)
        rw [hbus]
        exact ⟨rfl, rfl⟩

/-- A write of three bytes is dropped while a read waits, a sum is refused for its
    second source alone, and a snapshot for its last section alone. -/
theorem storage_of_fails_short :
    let d := withDefaults (Queue.ofList [⟨.write, 3, [1, 2, 3]⟩, .read 5])
    let sum : Request := ⟨.single .add, 0, 0, 256⟩
    let s : Snapshot := ⟨List.replicate 256 7, List.replicate 256 7, []⟩
    (d.Fails true d.step.2
        ∧ d.step.2.registers = d.registers
        ∧ d.step.2.bus.responses = d.bus.responses
        ∧ d.step.2.bus.pending = [.read 5])
      ∧ (∃ last, (InPlace.execute sum).run d = .error .sourceOutOfRange last
          ∧ last.registers = d.registers ∧ last.opcodes = d.opcodes ∧ last.bus = d.bus)
      ∧ ∃ last,
          (InPlace.restore s).run d
              = .error (.coprocessor (.snapshotMismatch .opcodes slotCount 0)) last
            ∧ last.registers = d.registers ∧ last.opcodes = d.opcodes ∧ last.bus = d.bus := by
  intro d sum s
  have hdropped : d.Fails true d.step.2 :=
    Fails.dropped (show d.step = (some (.dropped (.unsupported .write 3)), d.step.2) from rfl)
  have hsum : (InPlace.execute sum).run d = .error .sourceOutOfRange (d.execute sum).2 := by
    rw [InPlace.execute_run]
    rfl
  have hsingle : s.single.length = registerCount := List.length_replicate
  have hdouble : s.double.length = registerCount := List.length_replicate
  have hopcodes : s.opcodes.length ≠ slotCount := by decide
  have hrestore : d.restore s
      = .error (.coprocessor (.snapshotMismatch .opcodes slotCount 0)) := by
    rw [restore, Snapshot.toStorage, dif_pos hsingle, dif_pos hdouble, dif_neg hopcodes]
    rfl
  have hrefused : (InPlace.restore s).run d
      = .error (.coprocessor (.snapshotMismatch .opcodes slotCount 0)) d := by
    rw [(runsInPlace d).restore, hrestore]
    rfl
  obtain ⟨hany, hqueue, -⟩ := storage_of_fails
  obtain ⟨hregisters, -, -⟩ := hany hdropped
  obtain ⟨hresponses, -⟩ := hqueue hdropped
  exact ⟨⟨hdropped, hregisters, hresponses, rfl⟩, ⟨_, hsum, hany (Fails.execute hsum)⟩,
    ⟨_, hrefused, hany (Fails.restore hrefused)⟩⟩

end Coprocessor.Device
