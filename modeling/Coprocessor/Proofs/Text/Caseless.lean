import Coprocessor.Text.Digits

/-!
# Letter case — what a property of characters does not see

Only the letters from `A` to `Z` have a small form. So a property of characters takes
no notice of letter case as soon as it is the same for each of these 26 and for its
small form.

  • `Caseless`, `caseless_of_letters` — a function of characters that is the same for
    both forms of a letter.
  • `Caseless.takeWhile_map`, `Caseless.dropWhile_map` — texts cut by such a property.
  • `ofDigits_toLower` — digits denote the same in either case.
-/

namespace Coprocessor.Text

/-- A function of characters that takes no notice of letter case. -/
def Caseless {α : Type} (f : Char → α) : Prop := ∀ c, f c.toLower = f c

/-- A character is its own small form or one of the capitals. -/
theorem toLower_cases (c : Char) :
    c.toLower = c ∨ ∃ n < 26, c = Char.ofNat (65 + n) ∧ c.toLower = Char.ofNat (97 + n) := by
  have hsmall : ∀ n < 26, (Char.ofNat (65 + n)).toLower = Char.ofNat (97 + n) := by decide
  by_cases h : 'A' ≤ c ∧ c ≤ 'Z'
  · have hlow : 65 ≤ c.toNat := h.1
    have hhigh : c.toNat ≤ 90 := h.2
    have hc : c = Char.ofNat (65 + (c.toNat - 65)) := by
      rw [Nat.add_sub_cancel' hlow, Char.ofNat_toNat]
    refine Or.inr ⟨c.toNat - 65, by omega, hc, ?_⟩
    rw [← hsmall _ (by omega), ← hc]
  · exact Or.inl (dif_neg h)

/-- It is enough to compare both forms of each letter. -/
theorem caseless_of_letters {α : Type} {f : Char → α}
    (h : ∀ n < 26, f (Char.ofNat (97 + n)) = f (Char.ofNat (65 + n))) : Caseless f := by
  intro c
  rcases toLower_cases c with hself | ⟨n, hn, hc, hlower⟩
  · rw [hself]
  · rw [hlower, h n hn, ← hc]

/-- Small letters stay small. -/
theorem toLower_toLower : Caseless Char.toLower := caseless_of_letters (by decide)

/-- Characters that differ in case alone are the same to such a function. -/
theorem Caseless.congr {α : Type} {f : Char → α} (hf : Caseless f) {c d : Char}
    (h : c.toLower = d.toLower) : f c = f d := by
  rw [← hf c, h, hf d]

/-! ## Classes of characters -/

/-- What a digit is, and what it is worth, does not depend on case. -/
theorem caseless_isDigit : Caseless Char.isDigit := caseless_of_letters (by decide)

theorem caseless_isHexDigit : Caseless isHexDigit := caseless_of_letters (by decide)

theorem caseless_digitValue : Caseless digitValue := caseless_of_letters (by decide)

theorem caseless_utf8Size : Caseless Char.utf8Size := caseless_of_letters (by decide)

/-- A character that is no letter has one form. -/
theorem caseless_eq {d : Char} (h : ∀ n < 26, Char.ofNat (97 + n) ≠ d ∧ Char.ofNat (65 + n) ≠ d) :
    Caseless fun c => decide (c = d) :=
  caseless_of_letters fun n hn => by
    rw [decide_eq_false (h n hn).1, decide_eq_false (h n hn).2]

/-- A character that is no letter is only met by itself. -/
theorem toLower_eq_iff {d : Char}
    (h : ∀ n < 26, Char.ofNat (97 + n) ≠ d ∧ Char.ofNat (65 + n) ≠ d) (c : Char) :
    c.toLower = d ↔ c = d :=
  decide_eq_decide.1 (caseless_eq h c)

/-! ## Texts -/

section

variable {p : Char → Bool}

/-- The characters in front that pass are the same ones in small letters. -/
theorem Caseless.takeWhile_map (hp : Caseless p) (cs : List Char) :
    (cs.map Char.toLower).takeWhile p = (cs.takeWhile p).map Char.toLower := by
  have hcomp : p ∘ Char.toLower = p := funext hp
  rw [List.takeWhile_map, hcomp]

theorem Caseless.dropWhile_map (hp : Caseless p) (cs : List Char) :
    (cs.map Char.toLower).dropWhile p = (cs.dropWhile p).map Char.toLower := by
  have hcomp : p ∘ Char.toLower = p := funext hp
  rw [List.dropWhile_map, hcomp]

/-- Whether all characters pass does not depend on case. -/
theorem Caseless.all_map (hp : Caseless p) (cs : List Char) :
    (cs.map Char.toLower).all p = cs.all p := by
  have hcomp : p ∘ Char.toLower = p := funext hp
  rw [List.all_map, hcomp]

end

/-- Digits denote the same in either case. -/
theorem ofDigits_toLower (base : Nat) (cs : List Char) :
    ofDigits base (cs.map Char.toLower) = ofDigits base cs := by
  have hstep : (fun (n : Nat) c => base * n + digitValue (Char.toLower c))
      = fun n c => base * n + digitValue c := by
    funext n c
    rw [caseless_digitValue]
  rw [ofDigits, List.foldl_map, hstep]
  rfl

end Coprocessor.Text
