import Coprocessor.Proofs.Device.Budget

/-!
# Polling — a loop that another party stops

The poll loop looks at a flag before every poll and cannot tell when somebody
raises it: the flag is a schedule, which may depend on how often it was looked at
and on the bus. The bus may be a queue or another one that passes a queue on.

  • `Ends` — the looks at which the loop ends; `pollFrom_cases` finds the first of
    them and says what the loop returns there, or that it is still running.
  • `length_found`, `steps_min` — of the first `i` polls those find a transaction
    that start with one waiting, and the others change nothing.
  • `firstUp` — the first look that finds the flag up; `count_eq_min` is what it and
    the budget make of the number of transactions handled.
  • `firstUp_watched` — the schedule of a bus that raises the flag itself.
  • `exists_run?_iff`, `run?_eq_some` — when the loop returns, and what it has done then.
  • `run_exact` — both, for every poll interval.
-/

namespace Coprocessor.Device

/-! ## Looks at the flag -/

section

variable {β : Type} [Bus β]

/-- The first look at the flag that finds it up, if nothing else ends the polling. -/
noncomputable def firstUp (stop : Nat → β → Bool) (d : Device β) : ℕ∞ :=
  ⨅ i : Nat, ⨅ _ : stop i (steps i d).2.bus = true, (i : ℕ∞)

/-- Whether a loop that starts with `seen` looks and `handled` transactions behind it
    ends at look `i` from here. -/
def Ends (stop : Nat → β → Bool) (seen handled : Nat) (d : Device β) (i : Nat) : Prop :=
  stop (seen + i) (steps i d).2.bus = true
    ∨ d.config.limit ≤ ((handled + (steps i d).1.length : Nat) : ℕ∞)

variable {stop : Nat → β → Bool} {seen handled : Nat} {d e : Device β}

/-- A loop ends at this look when the flag is up or the budget spent. -/
theorem ends_zero_iff :
    Ends stop seen handled d 0 ↔ (stop seen d.bus || d.config.budgetSpent handled) = true := by
  rw [Bool.or_eq_true, Config.budgetSpent_iff]
  exact Iff.rfl

/-- It ends at a later look when it does so behind a step. -/
theorem ends_succ_iff {i : Nat} :
    Ends stop seen handled d (i + 1)
      ↔ Ends stop (seen + 1) (handled + d.step.1.toList.length) d.step.2 i := by
  unfold Ends
  rw [config_step, Nat.add_right_comm seen 1 i, Nat.add_assoc handled, ← List.length_append]
  exact Iff.rfl

/-- Where a loop ends, nothing more is handled. -/
theorem pollFrom_of_ends (h : Ends stop seen handled d 0) (looks : Nat) :
    pollFrom stop (looks + 1) seen handled d = some (handled, d) := by
  rw [pollFrom, if_pos (ends_zero_iff.1 h)]

/-- Where it does not end, it takes a step and looks again. -/
theorem pollFrom_of_not_ends (h : ¬ Ends stop seen handled d 0) (looks : Nat) :
    pollFrom stop (looks + 1) seen handled d
      = pollFrom stop looks (seen + 1) (handled + d.step.1.toList.length) d.step.2 := by
  rw [pollFrom, if_neg (mt ends_zero_iff.2 h)]
  cases d.step with
  | mk found next =>
      cases found with
      | none => rfl
      | some o => rfl

/-- A loop ends at the first look that can end it, if it has as many looks. -/
theorem pollFrom_cases (stop : Nat → β → Bool) (looks seen handled : Nat) (d : Device β) :
    (∃ i < looks, Ends stop seen handled d i ∧ (∀ k < i, ¬ Ends stop seen handled d k)
        ∧ pollFrom stop looks seen handled d
          = some (handled + (steps i d).1.length, (steps i d).2))
      ∨ (∀ i < looks, ¬ Ends stop seen handled d i)
        ∧ pollFrom stop looks seen handled d = none := by
  induction looks generalizing seen handled d with
  | zero => exact Or.inr ⟨fun i hi => absurd hi (Nat.not_lt_zero i), rfl⟩
  | succ looks ih =>
      by_cases hend : Ends stop seen handled d 0
      · exact Or.inl ⟨0, Nat.succ_pos looks, hend, fun k hk => absurd hk (Nat.not_lt_zero k),
          pollFrom_of_ends hend looks⟩
      rw [pollFrom_of_not_ends hend]
      obtain ⟨i, hi, hends, hfirst, hpoll⟩ | ⟨hnone, hpoll⟩ :=
        ih (seen + 1) (handled + d.step.1.toList.length) d.step.2
      · refine Or.inl ⟨i + 1, Nat.succ_lt_succ hi, ends_succ_iff.2 hends, ?_, ?_⟩
        · intro k hk
          cases k with
          | zero => exact hend
          | succ k => exact mt ends_succ_iff.1 (hfirst k (Nat.lt_of_succ_lt_succ hk))
        · rw [hpoll, Nat.add_assoc, ← List.length_append]
          rfl
      · refine Or.inr ⟨?_, hpoll⟩
        intro k hk
        cases k with
        | zero => exact hend
        | succ k => exact mt ends_succ_iff.1 (hnone k (Nat.lt_of_succ_lt_succ hk))

/-- Peers with the same budget see the same flag and return the same. -/
theorem Peers.pollFrom (h : Peers id d e) (hbudget : e.config.budget = d.config.budget)
    (looks : Nat) :
    (Device.pollFrom stop looks seen handled e).map
        (fun run => (run.1, run.2.storage, run.2.counters, run.2.bus))
      = (Device.pollFrom stop looks seen handled d).map
        (fun run => (run.1, run.2.storage, run.2.counters, run.2.bus)) := by
  induction looks generalizing seen handled d e with
  | zero => rfl
  | succ looks ih =>
      have hbus : e.bus = d.bus := h.bus
      have hlimit : e.config.limit = d.config.limit := by
        rw [Config.limit, Config.limit, hbudget]
      have hends : Ends stop seen handled e 0 ↔ Ends stop seen handled d 0 := by
        show stop seen e.bus = true ∨ e.config.limit ≤ _
          ↔ stop seen d.bus = true ∨ d.config.limit ≤ _
        rw [hbus, hlimit]
        exact Iff.rfl
      by_cases hend : Ends stop seen handled d 0
      · rw [pollFrom_of_ends hend, pollFrom_of_ends (hends.2 hend), Option.map_some,
          Option.map_some, h.storage, h.counters, hbus]
      · obtain ⟨hfound, hnext⟩ := h.step Bus.shows_id
        rw [pollFrom_of_not_ends hend, pollFrom_of_not_ends (mt hends.1 hend), hfound]
        exact ih hnext (by rw [config_step, config_step, hbudget])

end

/-! ## Polls that find nothing -/

/-- Steps beyond the queue change nothing. -/
theorem steps_min (i : Nat) (d : Device Queue) :
    (steps (min i d.bus.pending.length) d).2 = (steps i d).2 := by
  obtain hle | hle := Nat.le_total i d.bus.pending.length
  · rw [Nat.min_eq_left hle]
  · have hempty : (steps d.bus.pending.length d).2.bus.pending = [] := by
      rw [pending_steps, List.drop_length]
    obtain ⟨k, rfl⟩ := Nat.exists_eq_add_of_le hle
    rw [Nat.min_eq_right hle, steps_add, steps_of_nil hempty]

section

variable {β : Type} {view : β → Queue}

/-- The device with what its bus shows. -/
def shown (view : β → Queue) (d : Device β) : Device Queue :=
  ⟨d.storage, view d.bus, d.config, d.counters, d.log⟩

theorem peers_shown (d : Device β) : Peers view d (d.shown view) := ⟨rfl, rfl, rfl, rfl⟩

variable [Bus β] (hview : Bus.Shows view)

include hview

/-- Those polls find a transaction that start with one waiting. -/
theorem length_found (i : Nat) (d : Device β) :
    (steps i d).1.length = min i (view d.bus).pending.length := by
  rw [← (d.peers_shown.steps hview i).1, steps_fst, Transaction.length_outcomes,
    List.length_take]
  rfl

/-- Polls that find nothing leave what the bus shows, and everything else. -/
theorem Peers.steps_min {d : Device β} {q : Device Queue} (h : Peers view d q) (i : Nat) :
    Peers view (Device.steps i d).2
      (Device.steps (min i (view d.bus).pending.length) q).2 := by
  rw [← h.bus, Device.steps_min]
  exact (h.steps hview i).2

/-! ## When the loop ends -/

variable {stop : Nat → β → Bool} {d : Device β}

/-- At which looks a loop ends is told by the flag and by how many transactions wait. -/
theorem ends_iff {i : Nat} :
    Ends stop 0 0 d i ↔ stop i (steps i d).2.bus = true
      ∨ d.config.limit ≤ ((min i (view d.bus).pending.length : Nat) : ℕ∞) := by
  rw [Ends, Nat.zero_add, Nat.zero_add, length_found hview]

/-- A loop ends if its flag comes up, or if enough waits to spend its budget. -/
theorem exists_ends_iff :
    (∃ i, Ends stop 0 0 d i)
      ↔ firstUp stop d ≠ ⊤ ∨ d.config.limit ≤ ((view d.bus).pending.length : ℕ∞) := by
  constructor
  · rintro ⟨i, hends⟩
    obtain hstop | hlimit := (ends_iff hview).1 hends
    · exact Or.inl (ne_top_of_le_ne_top (ENat.natCast_ne_top i) (iInf₂_le i hstop))
    · exact Or.inr (hlimit.trans (Nat.cast_le.2 (Nat.min_le_right _ _)))
  · rintro (hup | hlimit)
    · by_contra hnone
      refine hup (iInf₂_eq_top.2 fun i hstop => ?_)
      exact absurd ⟨i, (ends_iff hview).2 (Or.inl hstop)⟩ hnone
    · refine ⟨(view d.bus).pending.length, (ends_iff hview).2 (Or.inr ?_)⟩
      rw [Nat.min_self]
      exact hlimit

/-- What the loop has handled when it ends: the flag, the queue and the budget each set
    a limit to it, and one of them is met. -/
theorem count_eq_min {i : Nat} (hends : Ends stop 0 0 d i) (hfirst : ∀ k < i, ¬ Ends stop 0 0 d k) :
    ((min i (view d.bus).pending.length : Nat) : ℕ∞)
      = min (firstUp stop d) (min ((view d.bus).pending.length : ℕ∞) d.config.limit) := by
  refine le_antisymm (le_min ?_ (le_min ?_ ?_)) ?_
  · refine le_iInf₂ fun k hstop => Nat.cast_le.2 ?_
    have hk : ¬ k < i := fun hk => hfirst k hk ((ends_iff hview).2 (Or.inl hstop))
    exact (Nat.min_le_left _ _).trans (Nat.not_lt.1 hk)
  · exact Nat.cast_le.2 (Nat.min_le_right _ _)
  · by_contra hlimit
    obtain ⟨b, hb⟩ := ENat.ne_top_iff_exists.1 (ne_top_of_lt (not_le.1 hlimit))
    rw [← hb, not_le, Nat.cast_lt, Nat.lt_min] at hlimit
    -- the budget was spent already at the look after the `b`-th poll
    refine hfirst b hlimit.1 ((ends_iff hview).2 (Or.inr ?_))
    rw [← hb, Nat.min_eq_left hlimit.2.le]
  · obtain hstop | hlimit := (ends_iff hview).1 hends
    · have hup : firstUp stop d ≤ (i : ℕ∞) := iInf₂_le i hstop
      rw [Nat.mono_cast.map_min]
      exact min_le_min hup (min_le_left _ _)
    · exact (min_le_right _ _).trans ((min_le_right _ _).trans hlimit)

end

/-! ## A bus that raises the flag -/

section

variable {β : Type} [Bus β]

/-- Resolving does not poll. -/
theorem resolve_watched (t : Transaction) (r : Registers) (w : Watched β) :
    (t.resolve r w).2.2 = { w with bus := (t.resolve r w.bus).2.2 } := by
  rcases t.shape_cases with h | h | h | h
  · rw [Transaction.resolve_of_isWrite32 h, Transaction.resolve_of_isWrite32 h]
  · rw [Transaction.resolve_of_isWrite64 h, Transaction.resolve_of_isWrite64 h]
  · rw [Transaction.resolve_of_isRead h, Transaction.resolve_of_isRead h]
    rfl
  · rw [Transaction.resolve_of_isUnsupported h, Transaction.resolve_of_isUnsupported h]

/-- A step keeps count of the polls that find nothing, and raises the flag by it. -/
theorem step_watched (d : Device (Watched β)) :
    d.step.2.bus.patience = d.bus.patience
      ∧ d.step.2.bus.emptyPolls = d.bus.emptyPolls + d.step.1.isNone.toNat
      ∧ d.step.2.bus.raised
        = (d.bus.raised || d.step.1.isNone && d.bus.emptyPolls + 1 == d.bus.patience) := by
  have hpoll := d.bus.poll_eq
  cases hfound : (Bus.poll d.bus.bus).1 with
  | none =>
      rw [hfound] at hpoll
      rw [step, hpoll]
      exact ⟨rfl, rfl, rfl⟩
  | some t =>
      rw [hfound] at hpoll
      rw [step_of_poll hpoll]
      dsimp only
      rw [bus_settled, resolve_watched]
      exact ⟨rfl, rfl, rfl⟩

end

variable {d : Device (Watched Queue)}

/-- After `i` polls the flag is up if patience was lost on the polls behind the queue. -/
theorem steps_watched (hempty : d.bus.emptyPolls = 0) (hraised : d.bus.raised = false)
    (hpatience : 0 < d.bus.patience) (i : Nat) :
    (steps i d).2.bus.patience = d.bus.patience
      ∧ (steps i d).2.bus.emptyPolls = i - d.bus.bus.pending.length
      ∧ ((steps i d).2.bus.raised = true ↔ d.bus.patience ≤ i - d.bus.bus.pending.length) := by
  induction i with
  | zero =>
      refine ⟨rfl, by rw [Nat.zero_sub]; exact hempty, ?_⟩
      show d.bus.raised = true ↔ _
      rw [hraised, Nat.zero_sub]
      exact ⟨nofun, fun hle => absurd hle (Nat.not_le.2 hpatience)⟩
  | succ i ih =>
      obtain ⟨ihpatience, ihempty, ihraised⟩ := ih
      obtain ⟨hpatience', hempty', hraised'⟩ := (steps i d).2.step_watched
      have hfound := length_found Watched.shows_bus i d
      have hnext := length_found Watched.shows_bus (i + 1) d
      have hone : (steps 1 (steps i d).2).1.length = (steps i d).2.step.1.toList.length :=
        congrArg List.length (List.append_nil _)
      rw [steps_add, List.length_append, hfound, hone] at hnext
      have hlast : (steps (i + 1) d).2 = (steps i d).2.step.2 := by
        rw [steps_add]
        rfl
      rw [hlast, hpatience', hempty', hraised', ihpatience, ihempty, Bool.or_eq_true, ihraised]
      refine ⟨rfl, ?_⟩
      generalize d.bus.bus.pending.length = p at hnext ⊢
      generalize d.bus.patience = m
      -- the number of finds tells whether this poll is one
      cases hstep : (steps i d).2.step.1 with
      | none =>
          rw [hstep] at hnext
          have hdry : min i p = min (i + 1) p := hnext
          show i - p + 1 = i + 1 - p
            ∧ (m ≤ i - p ∨ (i - p + 1 == m) = true ↔ m ≤ i + 1 - p)
          rw [beq_iff_eq]
          omega
      | some o =>
          rw [hstep] at hnext
          have hfind : min i p + 1 = min (i + 1) p := hnext
          show i - p + 0 = i + 1 - p ∧ (m ≤ i - p ∨ false = true ↔ m ≤ i + 1 - p)
          rw [or_iff_left Bool.false_ne_true]
          omega

/-- A bus that loses patience at its `m`-th empty poll raises the flag for the look that
    comes after the queue and `m` more polls. -/
theorem firstUp_watched (hempty : d.bus.emptyPolls = 0) (hraised : d.bus.raised = false)
    (hpatience : 0 < d.bus.patience) :
    firstUp (fun _ w => w.raised) d
      = ((d.bus.bus.pending.length + d.bus.patience : Nat) : ℕ∞) := by
  refine le_antisymm (iInf₂_le _ ?_) (le_iInf₂ fun k hk => Nat.cast_le.2 ?_)
  · rw [(steps_watched hempty hraised hpatience _).2.2]
    omega
  · rw [(steps_watched hempty hraised hpatience k).2.2] at hk
    omega

/-! ## The loop -/

section

variable {β : Type} [Bus β] {stop : Nat → β → Bool} {view : β → Queue}

/-- The loop writes a line before and after polling. -/
theorem run?_eq (stop : Nat → β → Bool) (looks : Nat) (d : Device β) :
    d.run? stop looks
      = (pollFrom stop looks 0 0 (d.note (.loopStarted d.config))).map
          fun run => (run.1, run.2.note (.loopStopped run.1)) := by
  rw [run?]
  cases pollFrom stop looks 0 0 (d.note (.loopStarted d.config)) with
  | none => rfl
  | some run => rfl

theorem firstUp_note (stop : Nat → β → Bool) (d : Device β) (e : Entry) :
    firstUp stop (d.note e) = firstUp stop d := by
  have hpeers : Peers id d (d.note e) := ⟨rfl, rfl, rfl, rfl⟩
  refine iInf_congr fun i => ?_
  have hbus : (steps i (d.note e)).2.bus = (steps i d).2.bus :=
    (hpeers.steps Bus.shows_id i).2.bus
  rw [hbus]

/-- The loop returns if and only if something ends it: with enough looks, the end comes. -/
theorem exists_run?_iff (hview : Bus.Shows view) (stop : Nat → β → Bool) (d : Device β) :
    (∃ looks, (d.run? stop looks).isSome)
      ↔ firstUp stop d ≠ ⊤ ∨ d.config.limit ≤ ((view d.bus).pending.length : ℕ∞) := by
  rw [← firstUp_note stop d (.loopStarted d.config)]
  refine Iff.trans ?_ (exists_ends_iff hview (d := d.note (.loopStarted d.config)))
  constructor
  · rintro ⟨looks, hsome⟩
    obtain ⟨i, -, hends, -⟩ | ⟨-, hnone⟩ :=
      pollFrom_cases stop looks 0 0 (d.note (.loopStarted d.config))
    · exact ⟨i, hends⟩
    · rw [run?_eq, hnone] at hsome
      exact nomatch hsome
  · rintro ⟨i, hends⟩
    obtain ⟨k, -, -, -, hsome⟩ | ⟨hnone, -⟩ :=
      pollFrom_cases stop (i + 1) 0 0 (d.note (.loopStarted d.config))
    · exact ⟨i + 1, by rw [run?_eq, hsome]; rfl⟩
    · exact absurd hends (hnone i (Nat.lt_succ_self i))

/-- What a loop that returns has handled, and the device it leaves. -/
theorem run?_eq_some (hview : Bus.Shows view) {looks n : Nat} {d last : Device β}
    (h : d.run? stop looks = some (n, last)) :
    (n : ℕ∞) = min (firstUp stop d) (min ((view d.bus).pending.length : ℕ∞) d.config.limit)
      ∧ last.storage = (steps n d).2.storage
      ∧ last.counters = (steps n d).2.counters
      ∧ view last.bus = view (steps n d).2.bus := by
  rw [run?_eq] at h
  obtain ⟨i, -, hends, hfirst, hsome⟩ | ⟨-, hnone⟩ :=
    pollFrom_cases stop looks 0 0 (d.note (.loopStarted d.config))
  · rw [hsome, Nat.zero_add, length_found hview] at h
    obtain ⟨rfl, rfl⟩ := Prod.mk.inj (Option.some.inj h)
    have hcount := count_eq_min hview hends hfirst
    rw [firstUp_note] at hcount
    -- both are told by the queue that the bus shows, with `i` polls and with as many as find
    -- something
    have hstart : Peers view (d.note (.loopStarted d.config)) (d.shown view) :=
      ⟨rfl, rfl, rfl, rfl⟩
    have hended := hstart.steps_min hview i
    have hplain := (d.peers_shown.steps hview (min i (view d.bus).pending.length)).2
    exact ⟨hcount, hended.storage.symm.trans hplain.storage,
      hended.counters.symm.trans hplain.counters, hended.bus.symm.trans hplain.bus⟩
  · rw [hnone] at h
    exact nomatch h

/-- How long the loop sleeps shows in the log only. -/
theorem run?_pollInterval (stop : Nat → β → Bool) (looks : Nat) (d : Device β)
    (interval : Interval) :
    (run? stop looks { d with config := { d.config with pollInterval := interval } }).map
        (fun run => (run.1, run.2.storage, run.2.counters, run.2.bus))
      = (d.run? stop looks).map (fun run => (run.1, run.2.storage, run.2.counters, run.2.bus)) := by
  rw [run?_eq, run?_eq, Option.map_map, Option.map_map]
  have hpeers : Peers id (d.note (.loopStarted d.config))
      (note { d with config := { d.config with pollInterval := interval } }
        (.loopStarted { d.config with pollInterval := interval })) :=
    ⟨rfl, rfl, rfl, rfl⟩
  exact hpeers.pollFrom rfl looks

/-- **The poll loop is exact**: over any bus that shows a queue it returns if and only
    if the flag is ever seen up or the queue can spend the budget. What it returns is
    then the least of the first look that finds the flag up, the length of the queue
    and the budget, and the device is as that many steps leave it, but for the log and
    what the bus keeps for itself. The poll interval has no part in it. -/
theorem run_exact (hview : Bus.Shows view) (stop : Nat → β → Bool) (d : Device β) :
    ((∃ looks, (d.run? stop looks).isSome)
        ↔ firstUp stop d ≠ ⊤ ∨ d.config.limit ≤ ((view d.bus).pending.length : ℕ∞))
      ∧ (∀ looks n last, d.run? stop looks = some (n, last) →
        (n : ℕ∞) = min (firstUp stop d) (min ((view d.bus).pending.length : ℕ∞) d.config.limit)
          ∧ last.storage = (steps n d).2.storage
          ∧ last.counters = (steps n d).2.counters
          ∧ view last.bus = view (steps n d).2.bus)
      ∧ ∀ looks interval,
        (run? stop looks { d with config := { d.config with pollInterval := interval } }).map
            (fun run => (run.1, run.2.storage, run.2.counters, run.2.bus))
          = (d.run? stop looks).map
            (fun run => (run.1, run.2.storage, run.2.counters, run.2.bus)) := by
  refine ⟨exists_run?_iff hview stop d, fun _ _ _ hrun => run?_eq_some hview hrun, ?_⟩
  intro looks interval
  exact run?_pollInterval stop looks d interval

/-- Two transactions, and a bus that loses patience at once: the flag is seen up at the
    fourth look. -/
theorem run_exact_impatient :
    let q := Queue.ofList [.write32 0 1, .read 0]
    let d : Device (Watched Queue) := withDefaults { bus := q, patience := 1 }
    Bus.Shows (Watched.bus : Watched Queue → Queue)
      ∧ firstUp (fun _ w => w.raised) d = 3
      ∧ ∃ looks last, d.run? (fun _ w => w.raised) looks = some (2, last)
        ∧ last.counters = (steps 2 d).2.counters := by
  intro q d
  have hup : firstUp (fun _ w => w.raised) d = 3 := firstUp_watched rfl rfl Nat.one_pos
  obtain ⟨hreturns, hexact, -⟩ := run_exact Watched.shows_bus (fun _ w => w.raised) d
  obtain ⟨looks, hsome⟩ := hreturns.2 (Or.inl (hup ▸ ENat.natCast_ne_top 3))
  obtain ⟨⟨n, last⟩, hrun⟩ := Option.isSome_iff_exists.1 hsome
  obtain ⟨hcount, -, hcounters, -⟩ := hexact looks n last hrun
  have hn : n = 2 := by
    rw [hup] at hcount
    exact Nat.cast_inj.1 (hcount.trans (by rfl))
  exact ⟨Watched.shows_bus, hup, looks, last, hn ▸ hrun, hn ▸ hcounters⟩

end

end Coprocessor.Device
