import Mathlib.Algebra.Order.Floor.Div
import Mathlib.Data.ENat.Lattice
import Coprocessor.Proofs.Device.Peers

/-!
# Budgets — a queue emptied run by run

A run until idle stops when its budget is spent, so a long queue takes several
runs. No device has a budget of zero: creation refuses it, and no call changes a
configuration. So every run handles something, and the runs end.

  • `Config.limit`, `Config.runs` — what one run may handle, and how many runs a
    queue takes.
  • `accepted_of_reachable` — the configuration of a device is one that creation
    accepts, whatever was done with the device.
  • `Emptied` — runs repeated until nothing waits; `Emptied.unique` says that there
    is one way to do it.
  • `exists_emptied` — the number of runs, by induction along the runs.
  • `emptied_in_runs` — the budget decides the number of runs and nothing else.
-/

namespace Coprocessor

/-! ## What a budget allows -/

namespace Config

/-- How many transactions one run may handle; without a budget there is no limit. -/
def limit (c : Config) : ℕ∞ :=
  match c.budget with
  | none => ⊤
  | some limit => (limit.toNat : ℕ∞)

/-- How many runs empty a queue of `n`: the runs cover it, and without a budget a single
    one does. -/
def runs (c : Config) (n : Nat) : Nat :=
  match c.budget with
  | none => min n 1
  | some limit => n ⌈/⌉ limit.toNat

variable {c : Config}

/-- A budget is spent when as many transactions are handled as its limit says. -/
theorem budgetSpent_iff {handled : Nat} : c.budgetSpent handled = true ↔ c.limit ≤ handled := by
  unfold budgetSpent limit
  cases c.budget with
  | none => simp
  | some limit => simp

/-- An accepted budget is not zero. -/
theorem pos_of_check {limit : UInt64} (h : c.check = .ok ()) (hb : c.budget = some limit) :
    0 < limit.toNat := by
  rw [check, hb] at h
  split at h
  next => exact nomatch h
  next =>
    split at h
    next => exact nomatch h
    next hne => exact Nat.pos_of_ne_zero fun hzero => hne (congrArg some (UInt64.toNat_inj.1 hzero))

/-- For nothing no run is needed. -/
theorem runs_zero (c : Config) : c.runs 0 = 0 := by
  unfold runs
  cases c.budget with
  | none => rfl
  | some limit => exact zero_ceilDiv _

end Config

namespace Device

section

variable {β : Type} [Bus β] {d last : Device β}

/-- A run until idle keeps the configuration. -/
theorem config_idles {handled total : Nat} (h : d.Idles handled total last) :
    last.config = d.config := by
  induction h with
  | spent _ => rfl
  | @empty _ d _ _ hstep =>
      have hconfig := d.config_step
      rw [hstep] at hconfig
      exact hconfig
  | @more _ _ d _ _ _ _ hstep _ ih =>
      have hconfig := d.config_step
      rw [hstep] at hconfig
      exact ih.trans hconfig

theorem config_pollFrom {stop : Nat → β → Bool} {looks seen handled total : Nat}
    (h : pollFrom stop looks seen handled d = some (total, last)) : last.config = d.config := by
  induction looks generalizing seen handled d with
  | zero => exact nomatch h
  | succ looks ih =>
      have hconfig := d.config_step
      rw [pollFrom] at h
      split at h
      next =>
        obtain ⟨-, rfl⟩ := Prod.mk.inj (Option.some.inj h)
        rfl
      next =>
        split at h
        next hstep =>
          rw [hstep] at hconfig
          exact (ih h).trans hconfig
        next hstep =>
          rw [hstep] at hconfig
          exact (ih h).trans hconfig

theorem config_run? {stop : Nat → β → Bool} {looks total : Nat}
    (h : d.run? stop looks = some (total, last)) : last.config = d.config := by
  unfold run? at h
  split at h
  next hpoll =>
    obtain ⟨-, rfl⟩ := Prod.mk.inj (Option.some.inj h)
    have hconfig := config_pollFrom hpoll
    exact hconfig
  next => exact nomatch h

/-- Creation accepts the configuration of every device, and calls keep it. -/
theorem accepted_of_reachable (h : d.Reachable) : d.config.check = .ok () := by
  induction h with
  | create hcreate =>
      obtain ⟨hcheck, rfl⟩ := eq_start_of_create hcreate
      exact hcheck
  | withDefaults bus =>
      have hshort : ¬ Interval.second.toNanos < Interval.millisecond.toNanos := by decide
      exact if_neg hshort
  | @step d _ ih =>
      rw [config_step]
      exact ih
  | runUntilIdle _ hidles ih =>
      rw [config_idles hidles]
      exact ih
  | poll _ hrun ih =>
      rw [config_run? hrun]
      exact ih
  | @execute d q _ ih =>
      rw [(d.counters_execute q).2]
      exact ih
  | @executeRaw d number destination source0 source1 _ ih =>
      rw [(d.counters_executeRaw number destination source0 source1).2]
      exact ih
  | @executeSlot d slot op _ ih =>
      rw [(d.counters_executeSlot slot op).2]
      exact ih
  | reset _ ih => exact ih
  | access storage bus log _ ih => exact ih

end

/-! ## One run -/

variable {d : Device Queue}

/-- A run has room for the queue or for its budget, whatever is less. -/
theorem room_eq_min (d : Device Queue) :
    ((d.room 0 : Nat) : ℕ∞) = min (d.bus.pending.length : ℕ∞) d.config.limit := by
  unfold room Config.limit
  cases d.config.budget with
  | none => exact (min_eq_left le_top).symm
  | some limit => exact Nat.mono_cast.map_min

/-- With an accepted budget a run handles something whenever something waits. -/
theorem room_pos (h : d.config.check = .ok ()) (hp : d.bus.pending ≠ []) : 0 < d.room 0 := by
  have hlength : 0 < d.bus.pending.length := List.length_pos_iff.2 hp
  unfold room
  cases hb : d.config.budget with
  | none => exact hlength
  | some limit => exact Nat.lt_min.2 ⟨hlength, Config.pos_of_check h hb⟩

/-- A run leaves one run less. -/
theorem runs_room (h : d.config.check = .ok ()) (hp : d.bus.pending ≠ []) :
    d.config.runs d.bus.pending.length
      = d.config.runs (d.bus.pending.length - d.room 0) + 1 := by
  have hlength : 0 < d.bus.pending.length := List.length_pos_iff.2 hp
  unfold Config.runs room
  cases hb : d.config.budget with
  | none =>
      show min d.bus.pending.length 1
        = min (d.bus.pending.length - d.bus.pending.length) 1 + 1
      omega
  | some limit =>
      have hlimit := Config.pos_of_check h hb
      dsimp only
      generalize d.bus.pending.length = n at hlength ⊢
      generalize limit.toNat = b at hlimit ⊢
      rw [Nat.sub_zero]
      rw [Nat.ceilDiv_eq_add_pred_div, Nat.ceilDiv_eq_add_pred_div, ← Nat.add_div_right _ hlimit]
      -- the last run need not use up its budget
      obtain hlast | hfull := Nat.le_total n b
      · rw [Nat.min_eq_left hlast, Nat.sub_self]
        calc (n + b - 1) / b = 1 := Nat.div_eq_of_lt_le (by omega) (by omega)
          _ = (0 + b - 1 + b) / b := (Nat.div_eq_of_lt_le (by omega) (by omega)).symm
      · have hsum : n - b + b - 1 + b = n + b - 1 := by omega
        rw [Nat.min_eq_right hfull, hsum]

/-! ## Run after run -/

/-- Runs until idle, repeated while transactions wait: what each of them handled, and
    the device that they end with. -/
inductive Emptied : Device Queue → List Nat → Device Queue → Prop where
  | done {d : Device Queue} (h : d.bus.pending = []) : Emptied d [] d
  | run {d last : Device Queue} {counts : List Nat} (h : d.bus.pending ≠ [])
      (hrest : Emptied d.runUntilIdle.2 counts last) :
      Emptied d (d.runUntilIdle.1 :: counts) last

/-- The runs that empty a queue are determined by the device. -/
theorem Emptied.unique {counts counts' : List Nat} {last last' : Device Queue}
    (h : d.Emptied counts last) (h' : d.Emptied counts' last') :
    counts' = counts ∧ last' = last := by
  induction h generalizing counts' last' with
  | done hp =>
      cases h' with
      | done _ => exact ⟨rfl, rfl⟩
      | run hp' _ => exact absurd hp hp'
  | run hp _ ih =>
      cases h' with
      | done hp' => exact absurd hp' hp
      | run _ hrest' =>
          obtain ⟨hcounts, hlast⟩ := ih hrest'
          exact ⟨congrArg _ hcounts, hlast⟩

/-- Runs empty the queue, as many as it takes to cover it. -/
theorem exists_emptied (h : d.config.check = .ok ()) :
    ∃ counts, d.Emptied counts (steps d.bus.pending.length d).2
      ∧ counts.length = d.config.runs d.bus.pending.length
      ∧ counts.sum = d.bus.pending.length := by
  -- by the length of the queue: every run that starts with something waiting shortens it
  induction hn : d.bus.pending.length using Nat.strong_induction_on generalizing d with
  | _ n ih =>
      by_cases hp : d.bus.pending = []
      · obtain rfl : n = 0 := by rw [← hn, hp, List.length_nil]
        exact ⟨[], .done hp, d.config.runs_zero.symm, rfl⟩
      · have hpos := room_pos h hp
        have hle : d.room 0 ≤ n := hn ▸ d.room_le 0
        have hrun := d.runUntilIdle_eq_steps
        have hconfig : d.runUntilIdle.2.config = d.config := by rw [hrun, config_steps]
        have hrest : d.runUntilIdle.2.bus.pending.length = n - d.room 0 := by
          rw [hrun, pending_steps, List.length_drop, hn]
        obtain ⟨counts, hcounts, hlength, hsum⟩ :=
          ih (n - d.room 0) (by omega) (hconfig ▸ h) hrest
        refine ⟨d.runUntilIdle.1 :: counts, .run hp ?_, ?_, ?_⟩
        · have hlast : (steps n d).2 = (steps (n - d.room 0) d.runUntilIdle.2).2 := by
            rw [hrun, ← Nat.add_sub_cancel' hle, steps_add, Nat.add_sub_cancel_left]
          rw [hlast]
          exact hcounts
        · rw [List.length_cons, hlength, hconfig, ← hn, runs_room h hp]
        · rw [List.sum_cons, hsum, hrun]
          exact Nat.add_sub_cancel' hle

/-- **Budgets only cut a queue into runs**: a run of a device with `n` waiting
    transactions handles as many as its budget allows and leaves the others in order.
    Runs repeated until nothing waits end after as many of them as cover the queue,
    in one way only, with `n` handled in all and the device that `n` steps make; with
    any other accepted budget and poll interval they end with the same storage,
    counters and bus. -/
theorem emptied_in_runs (h : d.Reachable) :
    (∃ m : Nat, (m : ℕ∞) = min (d.bus.pending.length : ℕ∞) d.config.limit
        ∧ d.runUntilIdle = (m, (steps m d).2)
        ∧ d.runUntilIdle.2.bus.pending = d.bus.pending.drop m)
      ∧ (∃ counts, d.Emptied counts (steps d.bus.pending.length d).2
        ∧ counts.length = d.config.runs d.bus.pending.length
        ∧ counts.sum = d.bus.pending.length
        ∧ ∀ counts' last, d.Emptied counts' last →
            counts' = counts ∧ last = (steps d.bus.pending.length d).2)
      ∧ ∀ config : Config, config.check = .ok () → config.strict = d.config.strict →
          ∃ counts last, Emptied { d with config } counts last
            ∧ counts.length = config.runs d.bus.pending.length
            ∧ last.storage = (steps d.bus.pending.length d).2.storage
            ∧ last.counters = (steps d.bus.pending.length d).2.counters
            ∧ last.bus = (steps d.bus.pending.length d).2.bus := by
  have haccepted := accepted_of_reachable h
  have hrun := d.runUntilIdle_eq_steps
  refine ⟨⟨d.room 0, d.room_eq_min, hrun, ?_⟩, ?_, ?_⟩
  · rw [hrun, pending_steps]
  · obtain ⟨counts, hcounts, hlength, hsum⟩ := exists_emptied haccepted
    exact ⟨counts, hcounts, hlength, hsum, fun _ _ hother => hcounts.unique hother⟩
  · intro config hcheck hstrict
    have hpeers : Peers id d { d with config } := ⟨rfl, rfl, rfl, hstrict⟩
    obtain ⟨-, hlast⟩ := hpeers.steps Bus.shows_id d.bus.pending.length
    obtain ⟨counts, hcounts, hlength, -⟩ := exists_emptied (d := { d with config }) hcheck
    exact ⟨counts, _, hcounts, hlength, hlast.storage, hlast.counters, hlast.bus⟩

/-- Five reads in runs of two: the third run has one left. -/
theorem emptied_in_runs_five :
    let d : Device Queue := start (.ofList (List.replicate 5 (.read 0))) { budget := some 2 }
    d.Reachable
      ∧ ∃ counts, d.Emptied counts (steps 5 d).2 ∧ counts.length = 3 ∧ counts.sum = 5 := by
  intro d
  have hshort : ¬ Interval.second.toNanos < Interval.millisecond.toNanos := by decide
  have hcheck : ({ budget := some 2 } : Config).check = .ok () := if_neg hshort
  have hcreate : create d.bus d.config = .ok d := by
    show (Except.mapError _ ({ budget := some 2 } : Config).check).map _ = _
    rw [hcheck]
    rfl
  have hruns : d.config.runs d.bus.pending.length = 3 := by decide
  obtain ⟨-, ⟨counts, hcounts, hlength, hsum, -⟩, -⟩ := emptied_in_runs (.create hcreate)
  exact ⟨.create hcreate, counts, hcounts, hlength.trans hruns, hsum⟩

end Device

end Coprocessor
