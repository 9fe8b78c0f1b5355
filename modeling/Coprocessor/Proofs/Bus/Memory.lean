import Coprocessor.Proofs.Device.Steps

/-!
# Memory — a queue of transactions is a history of writes

What a queue of transactions leaves in a register, and what it answers to a
read, is told by the history alone: the last earlier write of the right length
to the same address decides, and the word that was there before only when there
is none.

  • `word32After`, `word64After` — the word that a history leaves at an address.
  • `resolutions`, `answers` — how a queue is resolved and what it sends, each
    place of the queue being judged by the transactions before it.
  • `drain_eq_history` — draining a device does exactly that.

The induction goes along the queue. Its invariant is that the first transaction
of a history may be moved into the initial registers: `word32After_cons`.
-/

namespace Coprocessor

namespace Transaction

/-! ## Histories of writes -/

/-- The last value that a history gives, else the initial one. -/
def latest {α : Type} (f : Transaction → Option α) (history : List Transaction) (initial : α) :
    α :=
  (history.filterMap f).getLast?.getD initial

/-- The word that a transaction writes to a 32-bit register. -/
def stored32 (a : UInt8) (t : Transaction) : Option UInt32 :=
  if t.IsWrite32 ∧ t.address = a then some (Bytes.toWord32 t.payload) else none

/-- The word that a transaction writes to a 64-bit register. -/
def stored64 (a : UInt8) (t : Transaction) : Option UInt64 :=
  if t.IsWrite64 ∧ t.address = a then some (Bytes.toWord64 t.payload) else none

/-- The 32-bit word at an address after a history. -/
def word32After (r : Registers) (history : List Transaction) (a : UInt8) : UInt32 :=
  latest (stored32 a) history (r.word32 a)

/-- The 64-bit word at an address after a history. -/
def word64After (r : Registers) (history : List Transaction) (a : UInt8) : UInt64 :=
  latest (stored64 a) history (r.word64 a)

/-- How a transaction is resolved after a history. -/
def resolution (r : Registers) (history : List Transaction) (t : Transaction) : Outcome :=
  if t.IsWrite32 then .written .single t.address
  else if t.IsWrite64 then .written .double t.address
  else if t.IsRead then
    .responded t.address (Bytes.ofWord32 (word32After r history t.address))
  else .dropped (.unsupported t.direction t.payload.length)

/-- What a transaction is answered after a history: a read without payload the
    word that the history leaves, anything else nothing. -/
def answer? (r : Registers) (history : List Transaction) (t : Transaction) :
    Option (Transaction × List UInt8) :=
  if t.IsRead then some (t, Bytes.ofWord32 (word32After r history t.address)) else none

/-- Judges each transaction of a queue by those before it. -/
def inTurn {α : Type} (judge : List Transaction → Transaction → α) (ts : List Transaction) :
    List α :=
  ts.zipIdx.map fun place => judge (ts.take place.2) place.1

/-- How a queue is resolved. -/
def resolutions (r : Registers) (ts : List Transaction) : List Outcome :=
  inTurn (resolution r) ts

/-- What a queue is answered. -/
def answers (r : Registers) (ts : List Transaction) : List (Transaction × List UInt8) :=
  (inTurn (answer? r) ts).filterMap id

/-! ## One transaction moved into the registers -/

/-- What a first transaction stores is what the others start from. -/
theorem latest_cons {α : Type} (f : Transaction → Option α) (t : Transaction)
    (history : List Transaction) (initial : α) :
    latest f (t :: history) initial = latest f history ((f t).getD initial) := by
  cases hf : f t with
  | none =>
      rw [latest, List.filterMap_cons_none hf]
      rfl
  | some word =>
      rw [latest, List.filterMap_cons_some hf, List.getLast?_cons]
      rfl

/-- Only a write of four bytes stores a 32-bit word. -/
theorem stored32_of_not {t : Transaction} (h : ¬ t.IsWrite32) (a : UInt8) :
    t.stored32 a = none := if_neg fun hw => h hw.1

theorem stored64_of_not {t : Transaction} (h : ¬ t.IsWrite64) (a : UInt8) :
    t.stored64 a = none := if_neg fun hw => h hw.1

/-- A transaction leaves the 32-bit words but the one that it stores. -/
theorem word32_effect (t : Transaction) (r : Registers) (a : UInt8) :
    (t.effect r).word32 a = (t.stored32 a).getD (r.word32 a) := by
  rcases t.shape_cases with h | h | h | h
  · rw [effect_of_isWrite32 h, Registers.word32_set32]
    by_cases ha : t.address = a
    · rw [if_pos ha, stored32, if_pos ⟨h, ha⟩]
      rfl
    · rw [if_neg ha, stored32, if_neg (fun hw => ha hw.2)]
      rfl
  · rw [effect_of_isWrite64 h, Registers.word32_set64, stored32_of_not h.not_isWrite32]
    rfl
  · rw [effect_of_isRead h, stored32_of_not h.not_isWrite32]
    rfl
  · rw [effect_of_isUnsupported h, stored32_of_not h.1]
    rfl

theorem word64_effect (t : Transaction) (r : Registers) (a : UInt8) :
    (t.effect r).word64 a = (t.stored64 a).getD (r.word64 a) := by
  rcases t.shape_cases with h | h | h | h
  · have h64 : ¬ t.IsWrite64 := fun h64 => h64.not_isWrite32 h
    rw [effect_of_isWrite32 h, Registers.word64_set32, stored64_of_not h64]
    rfl
  · rw [effect_of_isWrite64 h, Registers.word64_set64]
    by_cases ha : t.address = a
    · rw [if_pos ha, stored64, if_pos ⟨h, ha⟩]
      rfl
    · rw [if_neg ha, stored64, if_neg (fun hw => ha hw.2)]
      rfl
  · rw [effect_of_isRead h, stored64_of_not h.not_isWrite64]
    rfl
  · rw [effect_of_isUnsupported h, stored64_of_not h.2.1]
    rfl

/-- A history is followed from its first transaction on. -/
theorem word32After_cons (r : Registers) (t : Transaction) (history : List Transaction)
    (a : UInt8) : word32After r (t :: history) a = word32After (t.effect r) history a := by
  rw [word32After, latest_cons, ← word32_effect]
  rfl

theorem word64After_cons (r : Registers) (t : Transaction) (history : List Transaction)
    (a : UInt8) : word64After r (t :: history) a = word64After (t.effect r) history a := by
  rw [word64After, latest_cons, ← word64_effect]
  rfl

-- both judgements look at the history through its words only
/-- Behind a history, a transaction is resolved on the registers that the first of the
    history leaves to the others. -/
theorem resolution_cons (r : Registers) (t : Transaction) (history : List Transaction) :
    resolution r (t :: history) = resolution (t.effect r) history := by
  funext u
  simp only [resolution, word32After_cons]

theorem answer?_cons (r : Registers) (t : Transaction) (history : List Transaction) :
    answer? r (t :: history) = answer? (t.effect r) history := by
  funext u
  simp only [answer?, word32After_cons]

/-- Without a history a transaction meets the initial registers. -/
theorem resolution_nil (r : Registers) (t : Transaction) : resolution r [] t = t.outcome r := by
  rcases t.shape_cases with h | h | h | h
  · rw [outcome_of_isWrite32 h, resolution, if_pos h]
  · rw [outcome_of_isWrite64 h, resolution, if_neg h.not_isWrite32, if_pos h]
  · rw [outcome_of_isRead h, resolution, if_neg h.not_isWrite32, if_neg h.not_isWrite64,
      if_pos h]
    rfl
  · rw [outcome_of_isUnsupported h, resolution, if_neg h.1, if_neg h.2.1, if_neg h.2.2]

/-- Without a history, a transaction is answered from the words as they are. -/
theorem response_outcome (t : Transaction) (r : Registers) :
    t.response (t.outcome r) = (answer? r [] t).toList := by
  by_cases h : t.IsRead
  · rw [answer?, if_pos h, outcome_of_isRead h]
    rfl
  · rw [answer?, if_neg h, response, data?_outcome_of_not_isRead h]
    rfl

/-! ## Along the queue -/

/-- The first transaction has no history, and each later one has it in its own. -/
theorem inTurn_cons {α : Type} (judge : List Transaction → Transaction → α) (t : Transaction)
    (ts : List Transaction) :
    inTurn judge (t :: ts) = judge [] t :: inTurn (fun history => judge (t :: history)) ts := by
  rw [inTurn, List.zipIdx_cons', List.map_cons, List.map_map]
  rfl

theorem resolutions_cons (r : Registers) (t : Transaction) (ts : List Transaction) :
    resolutions r (t :: ts) = t.outcome r :: resolutions (t.effect r) ts := by
  rw [resolutions, inTurn_cons, resolution_nil]
  simp only [resolution_cons]
  rfl

/-- Judged by their histories, transactions are answered one after the other. -/
theorem answers_cons (r : Registers) (t : Transaction) (ts : List Transaction) :
    answers r (t :: ts) = t.response (t.outcome r) ++ answers (t.effect r) ts := by
  rw [answers, inTurn_cons, response_outcome]
  simp only [answer?_cons]
  cases answer? r [] t with
  | none => rfl
  | some answer => rfl

/-- One after the other, transactions are resolved as their histories tell. -/
theorem outcomes_eq_resolutions (r : Registers) (ts : List Transaction) :
    outcomes r ts = resolutions r ts := by
  induction ts generalizing r with
  | nil => rfl
  | cons t ts ih => rw [resolutions_cons, outcomes, ih]

/-- One after the other, transactions leave the 32-bit words that the history tells. -/
theorem word32_effects (r : Registers) (ts : List Transaction) (a : UInt8) :
    (effects r ts).word32 a = word32After r ts a := by
  induction ts generalizing r with
  | nil => rfl
  | cons t ts ih => rw [word32After_cons, effects, ih]

theorem word64_effects (r : Registers) (ts : List Transaction) (a : UInt8) :
    (effects r ts).word64 a = word64After r ts a := by
  induction ts generalizing r with
  | nil => rfl
  | cons t ts ih => rw [word64After_cons, effects, ih]

/-! ## Transactions without a meaning -/

/-- The transactions of a queue that have a meaning. -/
def supported (ts : List Transaction) : List Transaction :=
  ts.filter fun t => decide (¬ t.IsUnsupported)

/-- Transactions without a meaning change no register. -/
theorem effects_supported (r : Registers) (ts : List Transaction) :
    effects r (supported ts) = effects r ts := by
  induction ts generalizing r with
  | nil => rfl
  | cons t ts ih =>
      by_cases h : t.IsUnsupported
      · rw [supported, List.filter_cons_of_neg (by simpa using h)]
        exact (ih r).trans (congrArg (fun r => effects r ts) (effect_of_isUnsupported h r).symm)
      · rw [supported, List.filter_cons_of_pos (by simpa using h)]
        exact ih (t.effect r)

/-- Transactions without a meaning change no answer. -/
theorem answers_supported (r : Registers) (ts : List Transaction) :
    answers r (supported ts) = answers r ts := by
  induction ts generalizing r with
  | nil => rfl
  | cons t ts ih =>
      rw [answers_cons]
      by_cases h : t.IsUnsupported
      · have hnone : answer? r [] t = none := if_neg h.2.2
        rw [supported, List.filter_cons_of_neg (by simpa using h), response_outcome, hnone,
          effect_of_isUnsupported h]
        exact ih r
      · rw [supported, List.filter_cons_of_pos (by simpa using h), answers_cons]
        exact congrArg (t.response (t.outcome r) ++ ·) (ih (t.effect r))

end Transaction

namespace Device

open Transaction

/-- A device after its queue was replaced. -/
def withPending (d : Device Queue) (ts : List Transaction) : Device Queue :=
  { d with bus := { d.bus with pending := ts } }

/-- Steps add the answers to the transactions that they take. -/
theorem responses_steps (n : Nat) (d : Device Queue) :
    (steps n d).2.bus.responses.toList
      = d.bus.responses.toList ++ answers d.registers (d.bus.pending.take n) := by
  induction n generalizing d with
  | zero => rw [List.take_zero]; exact (List.append_nil _).symm
  | succ n ih =>
      cases h : d.bus.pending with
      | nil => rw [steps_of_nil h, List.take_nil]; exact (List.append_nil _).symm
      | cons t rest =>
          rw [steps_of_cons h, ih, responses_handle, registers_handle, pending_handle,
            List.take_succ_cons, answers_cons, List.append_assoc]

/-- Draining leaves nothing waiting. -/
theorem pending_drain (d : Device Queue) : d.drain.2.bus.pending = [] := by
  rw [drain_eq_steps, pending_steps, List.drop_length]

/-- A drain leaves the registers that all waiting transactions leave. -/
theorem registers_drain (d : Device Queue) :
    d.drain.2.registers = effects d.registers d.bus.pending := by
  rw [drain_eq_steps, registers_steps, List.take_length]

/-- A drain adds the answers to all waiting transactions. -/
theorem responses_drain (d : Device Queue) :
    d.drain.2.bus.responses.toList
      = d.bus.responses.toList ++ answers d.registers d.bus.pending := by
  rw [drain_eq_steps, responses_steps, List.take_length]

/-- A drain resolves every waiting transaction as its history tells. -/
theorem drain_fst (d : Device Queue) :
    d.drain.1 = resolutions d.registers d.bus.pending := by
  rw [drain_eq_steps, steps_fst, List.take_length, outcomes_eq_resolutions]

/-- Without a budget a run until idle drains. -/
theorem runUntilIdle_of_unbounded {d : Device Queue} (h : d.config.budget = none) :
    d.runUntilIdle = (d.bus.pending.length, d.drain.2) := by
  have hroom : d.room 0 = d.bus.pending.length := by
    rw [room, h]
  rw [runUntilIdle_eq_steps, hroom, drain_eq_steps]

/-- What handling a whole queue gives, told by the history of the queue alone. -/
structure FollowsHistory (d : Device Queue) (outcomes : List Outcome) (last : Device Queue) :
    Prop where
  resolved : outcomes = resolutions d.registers d.bus.pending
  answered : last.bus.responses.toList
    = d.bus.responses.toList ++ answers d.registers d.bus.pending
  single : ∀ a : UInt8,
    last.registers.read32 a.toNat = some (word32After d.registers d.bus.pending a)
  double : ∀ a : UInt8,
    last.registers.read64 a.toNat = some (word64After d.registers d.bus.pending a)
  opcodes : last.opcodes = d.opcodes
  drained : last.bus.pending = []
  /-- A transaction without a meaning is dropped under its own shape. -/
  dropped : ∀ (i : Nat) (t : Transaction), d.bus.pending[i]? = some t → t.IsUnsupported →
    outcomes[i]? = some (.dropped (.unsupported t.direction t.payload.length))

/-- A drain follows the history in everything that it leaves. -/
theorem followsHistory_drain (d : Device Queue) : d.FollowsHistory d.drain.1 d.drain.2 where
  resolved := d.drain_fst
  answered := d.responses_drain
  single a := by rw [Registers.read32_address, registers_drain, word32_effects]
  double a := by rw [Registers.read64_address, registers_drain, word64_effects]
  opcodes := by rw [drain_eq_steps, opcodes_steps]
  drained := d.pending_drain
  dropped i t hi h := by
    have hplace : (d.bus.pending.zipIdx)[i]? = some (t, i) := by
      rw [List.getElem?_zipIdx, hi, Nat.zero_add]
      rfl
    rw [drain_fst, resolutions, inTurn, List.getElem?_map, hplace]
    show some (resolution d.registers (d.bus.pending.take i) t) = _
    rw [resolution, if_neg h.1, if_neg h.2.1, if_neg h.2.2]

/-- **A queue is a history**: one step for each waiting transaction, and a run
    until idle without a budget, leave the words last written and answer each
    read with the word written before it; a transaction without a meaning is
    dropped under its own shape, and without all of these the registers and the
    answers come out the same. -/
theorem drain_eq_history (d : Device Queue) :
    d.FollowsHistory d.drain.1 d.drain.2
      ∧ steps d.bus.pending.length d = d.drain
      ∧ (d.config.budget = none → d.runUntilIdle = (d.bus.pending.length, d.drain.2))
      ∧ (d.withPending (supported d.bus.pending)).drain.2.registers = d.drain.2.registers
      ∧ (d.withPending (supported d.bus.pending)).drain.2.bus.responses
          = d.drain.2.bus.responses := by
  refine ⟨d.followsHistory_drain, d.drain_eq_steps.symm, runUntilIdle_of_unbounded, ?_, ?_⟩
  · rw [registers_drain, registers_drain]
    exact effects_supported d.registers d.bus.pending
  · apply Journal.ext
    rw [responses_drain, responses_drain]
    exact congrArg (d.bus.responses.toList ++ ·) (answers_supported d.registers d.bus.pending)

/-- Four writes and two reads of one address, the third write of no meaning. -/
theorem drain_eq_history_six :
    let d := withDefaults (Queue.ofList
      [.write32 3 0x0A0B0C0D, .write64 3 7, .read 3, ⟨.write, 3, [1, 2, 3]⟩,
        ⟨.write, 3, [5, 0, 0, 0]⟩, .read 3])
    d.runUntilIdle.1 = 6
      ∧ d.runUntilIdle.2.bus.responses.toList
          = [(.read 3, [0x0D, 0x0C, 0x0B, 0x0A]), (.read 3, [5, 0, 0, 0])]
      ∧ d.runUntilIdle.2.registers.read32 3 = some 5
      ∧ d.runUntilIdle.2.registers.read64 3 = some 7
      ∧ d.drain.1[3]? = some (.dropped (.unsupported .write 3)) := by
  intro d
  obtain ⟨hdrain, -, hrun, -, -⟩ := drain_eq_history d
  rw [hrun rfl]
  refine ⟨rfl, ?_, ?_, ?_, ?_⟩
  · exact hdrain.answered.trans (by decide)
  · exact (hdrain.single 3).trans (by decide)
  · exact (hdrain.double 3).trans (by decide)
  · exact hdrain.dropped 3 ⟨.write, 3, [1, 2, 3]⟩ rfl (by decide)

end Device

end Coprocessor
