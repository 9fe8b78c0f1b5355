import Coprocessor.Proofs.Bus.Handshake
import Coprocessor.Proofs.Script.Twins
import Coprocessor.Proofs.Snapshot.Format

/-!
# Rewinding — a snapshot holds all that the future depends on

A snapshot of a device is always accepted, by the device itself and by any
other, directly and through its bytes, and restoring it gives back the storage of
its moment without touching anything else. A device restored in this way is a
twin of the one at that moment, if the same transactions wait and the budget is
the same, and so cannot be told from it by any further calls.

  • `toStorage_ofStorage` — a snapshot of storage describes that storage.
  • `restore_snapshot`, `ofBytes_snapshot` — it is accepted.
  • `twins_rewound` — what was restored is a twin.
  • `performAll_twins` — calls on twins give the same answers and outcomes, send
    the same data and leave the same storage.
  • `restore_rewinds` — these together.
-/

namespace Coprocessor

namespace Snapshot

/-- A snapshot of storage describes that storage. -/
theorem toStorage_ofStorage (s : Storage) : (ofStorage s).toStorage = .ok s := by
  have hsingle : (ofStorage s).single.length = registerCount := Vector.length_toList
  have hdouble : (ofStorage s).double.length = registerCount := Vector.length_toList
  have hopcodes : (ofStorage s).opcodes.length = slotCount := Vector.length_toList
  rw [toStorage, dif_pos hsingle, dif_pos hdouble, dif_pos hopcodes]
  rfl

end Snapshot

namespace Device

open Likeness

/-! ## Restoring -/

variable {β : Type}

/-- A device with the storage of a snapshot that was taken of another one. -/
def rewound (e d : Device β) : Device β := { e with storage := d.storage }

/-- A device is restored to the snapshot of any other. -/
theorem restore_snapshot (d e : Device β) : e.restore d.snapshot = .ok (e.rewound d) := by
  rw [restore, snapshot, Snapshot.toStorage_ofStorage]
  rfl

theorem ofBytes_snapshot (d : Device β) :
    Snapshot.ofBytes d.snapshot.toBytes = .ok d.snapshot := by
  have hread := Snapshot.ofBytes_toBytes_append (Snapshot.isFull_ofStorage d.storage) []
  rwa [List.append_nil] at hread

/-! ## The same future -/

/-- A rewound device has everything in common with the first but its past. -/
theorem twins_rewound {d e : Device Queue} (hbudget : e.config.budget = d.config.budget)
    (hpending : e.bus.pending = d.bus.pending) : twins.Relates d (e.rewound d) :=
  ⟨rfl, rfl, hbudget.symm, trivial, hpending.symm⟩

/-- Calls on twins come to their end on both or on neither; the answers and the outcomes are
    the same, the same data is sent, and the devices stay twins. -/
theorem performAll_twins {d e : Device Queue} (h : twins.Relates d e) {actions : List Action}
    (hblind : ∀ a ∈ actions, a.IsBlind) :
    allOutcomes actions d = allOutcomes actions e
      ∧ (performAll actions d = none ↔ performAll actions e = none)
      ∧ ∀ {answers last}, performAll actions d = some (answers, last) →
        ∃ last' sent, performAll actions e = some (answers, last')
          ∧ twins.Relates last last'
          ∧ last.bus.responses.toList = d.bus.responses.toList ++ sent
          ∧ last'.bus.responses.toList = e.bus.responses.toList ++ sent := by
  have hkeeps : ∀ a ∈ actions, twins.Keeps a := fun a ha => keeps_of_isBlind (hblind a ha)
  obtain ⟨houtcomes, hsome⟩ := performAll_same rfl hkeeps h
  refine ⟨houtcomes, performAll_eq_none_iff hkeeps h, ?_⟩
  intro answers last hd
  obtain ⟨last', he, hlast⟩ := hsome hd
  refine ⟨last', _, he, hlast, (handles_performAll hd).responses, ?_⟩
  -- the same transactions were handled, with the same outcomes
  have hpending : d.bus.pending = e.bus.pending := h.bus
  rw [hpending, houtcomes]
  exact (handles_performAll he).responses

/-- **Snapshots rewind**: whatever a device is and whatever has happened to another one, the
    snapshot of the first is accepted by the second, directly and through its
    bytes, and gives it the storage of that moment and changes nothing else. If
    then the same transactions wait and the budgets are the same, any further
    calls on the restored device come to their end exactly when they do on the
    first, with the same answers and outcomes, and they send the same data and
    leave the same storage. -/
theorem restore_rewinds :
    (∀ {β : Type} (d e : Device β),
        e.restore d.snapshot = .ok { e with storage := d.storage }
          ∧ Snapshot.ofBytes d.snapshot.toBytes = .ok d.snapshot)
      ∧ ∀ (d e restored : Device Queue) (actions : List Action),
          e.restore d.snapshot = .ok restored →
          e.config.budget = d.config.budget → e.bus.pending = d.bus.pending →
          (∀ a ∈ actions, a.IsBlind) →
          allOutcomes actions d = allOutcomes actions restored
            ∧ (performAll actions d = none ↔ performAll actions restored = none)
            ∧ ∀ {answers last}, performAll actions d = some (answers, last) →
              ∃ last' sent, performAll actions restored = some (answers, last')
                ∧ last.storage = last'.storage
                ∧ last.bus.pending = last'.bus.pending
                ∧ last.bus.responses.toList = d.bus.responses.toList ++ sent
                ∧ last'.bus.responses.toList = e.bus.responses.toList ++ sent := by
  constructor
  · intro β d e
    exact ⟨restore_snapshot d e, ofBytes_snapshot d⟩
  · intro d e restored actions hrestore hbudget hpending hblind
    rw [restore_snapshot] at hrestore
    obtain rfl := Except.ok.inj hrestore
    obtain ⟨houtcomes, hnone, hsome⟩ := performAll_twins (twins_rewound hbudget hpending) hblind
    refine ⟨houtcomes, hnone, ?_⟩
    intro answers last hrun
    obtain ⟨last', sent, hrun', hlast, hsent, hsent'⟩ := hsome hrun
    exact ⟨last', sent, hrun', hlast.storage, hlast.bus, hsent, hsent'⟩

/-- A cleared lenient device restored from a strict one: a poll loop, a script, a read of its
    sum and a snapshot go on in the same way. -/
theorem restore_rewinds_sum :
    let d := (withDefaults (Queue.ofList [.read 3])).withRegisters (.set32 .cleared 3 0x3F800000)
    let e := start (Queue.ofList [.read 3]) { strict := false }
    let actions : List Action :=
      [.poll (fun seen _ => seen = 2) 4, .script [⟨1, .execute ⟨.single .add, 4, 3, 3⟩⟩],
        .push (.read 4), .step, .snapshot]
    ∃ restored answers last last' sent, e.restore d.snapshot = .ok restored
      ∧ performAll actions d = some (answers, last)
      ∧ performAll actions restored = some (answers, last')
      ∧ last.storage = last'.storage
      ∧ sent = [(.read 3, [0x00, 0x00, 0x80, 0x3F]), (.read 4, [0x00, 0x00, 0x00, 0x40])]
      ∧ last'.bus.responses.toList = sent := by
  intro d e actions
  obtain ⟨hrestore, hfuture⟩ := restore_rewinds
  have hblind : ∀ a ∈ actions, a.IsBlind := by
    simp only [actions, List.forall_mem_cons, Action.IsBlind]
    simp
  obtain ⟨-, -, hsome⟩ := hfuture d e _ actions (hrestore d e).1 rfl rfl hblind
  obtain ⟨⟨answers, last⟩, hrun⟩ : ∃ run, performAll actions d = some run :=
    Option.isSome_iff_exists.1 rfl
  obtain ⟨last', sent, hrun', hstorage, -, hsent, hsent'⟩ := hsome hrun
  have hresponses : (performAll actions d).map (fun run => run.2.bus.responses.toList)
      = some [(.read 3, [0x00, 0x00, 0x80, 0x3F]), (.read 4, [0x00, 0x00, 0x00, 0x40])] := by
    decide +kernel
  rw [hrun] at hresponses
  exact ⟨_, answers, last, last', sent, (hrestore d e).1, hrun, hrun', hstorage,
    hsent.symm.trans (Option.some.inj hresponses), hsent'⟩

end Device

end Coprocessor
