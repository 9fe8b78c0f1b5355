/-!
# Success — when a sequence of steps that may fail succeeds

Readers of bytes, readers of words and operations on registers are sequences of
steps, each of which may fail. What such a sequence returns is told by what its
parts return.

  • `bind_eq_ok`, `bind_eq_error` — a sequence succeeds when its parts do, and fails
    as the first of them that fails.
  • `Alike` — two attempts that end in the same way, with the same error or with
    results that are alike; sequences of such parts are alike: `Alike.bind`.
-/

namespace Coprocessor

/-- A sequence succeeds when its first part does and then the second. -/
theorem bind_eq_ok {ε α β : Type} {x : Except ε α} {f : α → Except ε β} {b : β} :
    (x >>= f) = .ok b ↔ ∃ a, x = .ok a ∧ f a = .ok b := by
  cases x with
  | error e =>
      constructor
      · intro h
        exact nomatch h
      · rintro ⟨a, ha, -⟩
        exact nomatch ha
  | ok a =>
      constructor
      · intro h
        exact ⟨a, rfl, h⟩
      · rintro ⟨a', ha, hf⟩
        obtain rfl := Except.ok.inj ha
        exact hf

/-- A sequence fails when its first part does, or else the second. -/
theorem bind_eq_error {ε α β : Type} {x : Except ε α} {f : α → Except ε β} {e : ε} :
    (x >>= f) = .error e ↔ x = .error e ∨ ∃ a, x = .ok a ∧ f a = .error e := by
  cases x with
  | error e' =>
      constructor
      · intro h
        exact Or.inl (congrArg Except.error (Except.error.inj h))
      · rintro (h | ⟨a, ha, -⟩)
        · exact congrArg Except.error (Except.error.inj h)
        · exact nomatch ha
  | ok a =>
      constructor
      · intro h
        exact Or.inr ⟨a, rfl, h⟩
      · rintro (h | ⟨a', ha, hf⟩)
        · exact nomatch h
        · obtain rfl := Except.ok.inj ha
          exact hf

/-- Two attempts that end with the same error, or with results that are alike. -/
inductive Alike {ε α β : Type} (like : α → β → Prop) : Except ε α → Except ε β → Prop where
  | ok {a : α} {b : β} : like a b → Alike like (.ok a) (.ok b)
  | error (e : ε) : Alike like (.error e) (.error e)

namespace Alike

variable {ε α β γ δ : Type} {like : α → β → Prop} {x : Except ε α} {y : Except ε β}

/-- Every attempt is like itself. -/
theorem refl {like : α → α → Prop} (h : ∀ a, like a a) (x : Except ε α) : Alike like x x := by
  cases x with
  | error e => exact .error e
  | ok a => exact .ok (h a)

/-- Sequences of parts that are alike are alike. -/
theorem bind {like' : γ → δ → Prop} {f : α → Except ε γ} {g : β → Except ε δ}
    (h : Alike like x y) (hfg : ∀ a b, like a b → Alike like' (f a) (g b)) :
    Alike like' (x >>= f) (y >>= g) := by
  cases h with
  | error e => exact .error e
  | ok hab => exact hfg _ _ hab

/-- A change of the error takes nothing away. -/
theorem mapError {ε' : Type} (h : Alike like x y) (f : ε → ε') :
    Alike like (x.mapError f) (y.mapError f) := by
  cases h with
  | error e => exact .error (f e)
  | ok hab => exact .ok hab

end Alike

end Coprocessor
