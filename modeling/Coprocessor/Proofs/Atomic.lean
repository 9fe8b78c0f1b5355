/-!
# Atomic — programs that fail before they write

A program on a state works in place: it ends with a result or with an error, and
in either case the state is what the writes up to that moment have made of it.
Nothing puts an earlier state back. Whether an error leaves traces is then a
matter of order: what may fail has to stand in front of the first write.

  • `Keeps`, `Certain`, `Atomic` — programs that leave what is seen of a state,
    that never fail, and that leave what is seen of a state when they fail.
  • `Keeps.bind_atomic`, `Certain.bind` and the laws after them — the order is
    told from how a program is put together.
  • `consult`, `onPart`, `settled`, `noting` — a look at the state, a program on
    a part of it, and a program whose end is looked at before it is passed on.
  • `ended`, `changed` — the end of a program that does what a function says.
-/

namespace Coprocessor

variable {ε ε' σ ρ α β : Type} {p : EStateM ε σ α} {view : σ → ρ}

/-! ## What an end leaves -/

/-- The state at the end of a program. -/
def stateOf : EStateM.Result ε σ α → σ
  | .ok _ s => s
  | .error _ s => s

/-- The result or the error at the end of a program. -/
def resultOf : EStateM.Result ε σ α → Except ε α
  | .ok a _ => .ok a
  | .error e _ => .error e

/-- The end of a program that returns what a function returns. -/
def ended : Except ε α × σ → EStateM.Result ε σ α
  | (.ok a, s) => .ok a s
  | (.error e, s) => .error e s

/-- The end of a program that changes a state as a function does, or leaves it
    where the function refuses. -/
def changed (s : σ) : Except ε σ → EStateM.Result ε σ Unit
  | .ok next => .ok () next
  | .error e => .error e s

@[simp] theorem resultOf_ended (x : Except ε α × σ) : resultOf (ended x) = x.1 := by
  cases x with
  | mk result last => cases result with
    | ok _ => rfl
    | error _ => rfl

@[simp] theorem stateOf_ended (x : Except ε α × σ) : stateOf (ended x) = x.2 := by
  cases x with
  | mk result last => cases result with
    | ok _ => rfl
    | error _ => rfl

/-- A program that leaves what is seen of the state, however it ends. -/
def Keeps (view : σ → ρ) (p : EStateM ε σ α) : Prop :=
  ∀ s, view (stateOf (p.run s)) = view s

/-- A program that never fails. -/
def Certain (p : EStateM ε σ α) : Prop :=
  ∀ s e last, p.run s ≠ .error e last

/-- A program that leaves what is seen of the state when it fails. -/
def Atomic (view : σ → ρ) (p : EStateM ε σ α) : Prop :=
  ∀ s e last, p.run s = .error e last → view last = view s

/-- What always leaves the state leaves it when it fails. -/
theorem Keeps.atomic (h : Keeps view p) : Atomic view p := by
  intro s e last hrun
  have hkept := h s
  rw [hrun] at hkept
  exact hkept

/-- Where there is no failure there is nothing to leave. -/
theorem Certain.atomic (h : Certain p) : Atomic view p :=
  fun s e last hrun => absurd hrun (h s e last)

/-- What leaves the whole state leaves all that is seen of it. -/
theorem Atomic.seen (h : Atomic id p) : Atomic view p :=
  fun s e last hrun => congrArg view (h s e last hrun)

/-! ## One program behind another -/

/-- In front of an atomic program there may be anything that leaves the state. -/
theorem Keeps.bind_atomic {f : α → EStateM ε σ β} (h : Keeps view p)
    (hf : ∀ a, Atomic view (f a)) : Atomic view (p >>= f) := by
  intro s e last hrun
  have hkept := h s
  rw [EStateM.run_bind] at hrun
  cases hp : p.run s with
  | ok a middle =>
      rw [hp] at hrun hkept
      exact (hf a middle e last hrun).trans hkept
  | error e' middle =>
      rw [hp] at hrun hkept
      obtain ⟨-, rfl⟩ := EStateM.Result.error.inj hrun
      exact hkept

/-- Programs that never fail are put together to one that never fails. -/
theorem Certain.bind {f : α → EStateM ε σ β} (h : Certain p) (hf : ∀ a, Certain (f a)) :
    Certain (p >>= f) := by
  intro s e last hrun
  rw [EStateM.run_bind] at hrun
  cases hp : p.run s with
  | ok a middle =>
      rw [hp] at hrun
      exact hf a middle e last hrun
  | error e' middle => exact h s e' middle hp

/-- A write never fails. -/
theorem certain_modify (change : σ → σ) : Certain (modify change : EStateM ε σ Unit) := by
  intro s e last hrun
  cases hrun

/-- A refusal writes nothing. -/
theorem keeps_throw (e : ε) : Keeps view (throw e : EStateM ε σ α) := fun _ => rfl

/-- An error may be worded anew. -/
theorem Atomic.adapt (h : Atomic view p) (f : ε → ε') : Atomic view (p.adaptExcept f) := by
  intro s e last hrun
  unfold EStateM.run EStateM.adaptExcept at hrun
  split at hrun
  next e' middle hp =>
    obtain ⟨-, rfl⟩ := EStateM.Result.error.inj hrun
    exact h s e' _ hp
  next => cases hrun

/-! ## Looks at the state, and parts of it -/

/-- Looks at the state, for a word or for a reason to refuse. -/
def consult (look : σ → Except ε α) : EStateM ε σ α := fun s =>
  match look s with
  | .ok a => .ok a s
  | .error e => .error e s

/-- A look writes nothing. -/
theorem keeps_consult (look : σ → Except ε α) : Keeps view (consult look) := by
  intro s
  unfold EStateM.run consult
  cases look s with
  | ok _ => rfl
  | error _ => rfl

/-- Runs a program on a part of the state; what it made of the part is put back,
    however it ends. -/
def onPart (part : σ → ρ) (put : σ → ρ → σ) (p : EStateM ε ρ α) : EStateM ε σ α := fun s =>
  match p.run (part s) with
  | .ok a r => .ok a (put s r)
  | .error e r => .error e (put s r)

/-- A program that leaves its part leaves the whole. -/
theorem Atomic.onPart {p : EStateM ε ρ α} {part : σ → ρ} {put : σ → ρ → σ} (h : Atomic id p)
    (hput : ∀ s, put s (part s) = s) : Atomic id (onPart part put p) := by
  intro s e last hrun
  unfold EStateM.run Coprocessor.onPart at hrun
  split at hrun
  next => cases hrun
  next e' r hp =>
    obtain ⟨-, rfl⟩ := EStateM.Result.error.inj hrun
    have hr : r = part s := h (part s) e' r hp
    rw [hr]
    exact hput s

/-! ## Ends that are looked at -/

/-- Runs a program, with its result or its error as a value. -/
def settled (p : EStateM ε σ α) : EStateM ε' σ (Except ε α) := fun s =>
  .ok (resultOf (p.run s)) (stateOf (p.run s))

/-- Runs a program, notes how it ended, and ends in the same way. -/
def noting (note : Except ε α → σ → σ) (p : EStateM ε σ α) : EStateM ε σ α := do
  let result ← settled p
  modify (note result)
  consult fun _ => result

/-- The end of a program with a note is its own end, with the note in the state. -/
theorem run_noting (note : Except ε α → σ → σ) (p : EStateM ε σ α) (s : σ) :
    (noting note p).run s
      = ended (resultOf (p.run s), note (resultOf (p.run s)) (stateOf (p.run s))) := by
  show (consult fun _ => resultOf (p.run s)).run (note (resultOf (p.run s)) (stateOf (p.run s)))
    = _
  cases resultOf (p.run s) with
  | ok _ => rfl
  | error _ => rfl

/-- Notes that are not seen leave a program atomic. -/
theorem Atomic.noting {note : Except ε α → σ → σ} (h : Atomic view p)
    (hnote : ∀ result s, view (note result s) = view s) : Atomic view (noting note p) := by
  intro s e last hrun
  rw [run_noting] at hrun
  cases hp : p.run s with
  | ok a middle =>
      rw [hp] at hrun
      cases hrun
  | error e' middle =>
      rw [hp] at hrun
      obtain ⟨-, rfl⟩ := EStateM.Result.error.inj hrun
      exact (hnote _ _).trans (h s e' middle hp)

/-! ## Programs that do what functions say -/

/-- A look in front of a change is an attempt in front of the changed state. -/
theorem run_consult_bind {look : σ → Except ε α} {f : α → EStateM ε σ Unit}
    {g : α → Except ε σ} {s : σ} (h : ∀ a, (f a).run s = changed s (g a)) :
    (consult look >>= f).run s = changed s (look s >>= g) := by
  rw [EStateM.run_bind]
  unfold EStateM.run consult
  cases look s with
  | ok a => exact h a
  | error e => rfl

/-- Errors are worded anew in the program and in the function. -/
theorem run_adapt {p : EStateM ε σ Unit} {s : σ} {result : Except ε σ}
    (h : p.run s = changed s result) (f : ε → ε') :
    (p.adaptExcept f).run s = changed s (result.mapError f) := by
  have hp : p s = changed s result := h
  unfold EStateM.run EStateM.adaptExcept
  rw [hp]
  cases result with
  | ok _ => rfl
  | error _ => rfl

/-- The part that a function changes is put into the whole. -/
theorem run_onPart {p : EStateM ε ρ Unit} {part : σ → ρ} {put : σ → ρ → σ} {s : σ}
    {result : Except ε ρ} (h : p.run (part s) = changed (part s) result)
    (hput : put s (part s) = s) :
    (onPart part put p).run s = changed s (result.map (put s)) := by
  unfold EStateM.run onPart
  rw [h]
  cases result with
  | ok _ => rfl
  | error e => exact congrArg (EStateM.Result.error e) hput

end Coprocessor
