import Coprocessor.Text.Digits
import Coprocessor.Text.Hex

/-!
# Digits — a number is read back from its digits

In every base up to sixteen the digits of a number denote that number, and each
of them is a hexadecimal digit. Digits may be written in other ways as well, with
zeros in front or in capitals.

  • `Denotes` — any digits in a base and the number they denote; `IsDecimal` and
    `IsHexadecimal` are its two instances.
  • `ofDigits_toDigits`, `isHexadecimal_toDigits` — the shortest digits of a number.
-/

namespace Coprocessor.Text

/-- Digits, at least one, that denote a number in a base. -/
structure Denotes (base : Nat) (isDigit : Char → Bool) (digits : List Char) (n : Nat) :
    Prop where
  ne_nil : digits ≠ []
  all : ∀ c ∈ digits, isDigit c = true
  value : ofDigits base digits = n

instance (base : Nat) (isDigit : Char → Bool) (digits : List Char) (n : Nat) :
    Decidable (Denotes base isDigit digits n) :=
  decidable_of_iff (digits ≠ [] ∧ digits.all isDigit = true ∧ ofDigits base digits = n)
    ⟨fun ⟨hne, hall, hvalue⟩ => ⟨hne, List.all_eq_true.1 hall, hvalue⟩,
      fun h => ⟨h.ne_nil, List.all_eq_true.2 h.all, h.value⟩⟩

/-- A number in decimal. -/
abbrev IsDecimal : List Char → Nat → Prop := Denotes 10 Char.isDigit

/-- A number in hexadecimal, without the mark in front. -/
abbrev IsHexadecimal : List Char → Nat → Prop := Denotes 16 isHexDigit

/-! ## One digit -/

/-- A digit is worth the number that it is written for. -/
theorem digitValue_digitChar {n : Nat} (h : n < 16) : digitValue n.digitChar = n := by
  have hall : ∀ n < 16, digitValue (Nat.digitChar n) = n := by decide
  exact hall n h

/-- What is written for a number below sixteen is a digit. -/
theorem isHexDigit_digitChar {n : Nat} (h : n < 16) : isHexDigit n.digitChar = true := by
  have hall : ∀ n < 16, isHexDigit (Nat.digitChar n) = true := by decide
  exact hall n h

/-! ## All digits of a number -/

/-- A last digit moves the others one place up. -/
theorem ofDigits_append_singleton (base : Nat) (digits : List Char) (c : Char) :
    ofDigits base (digits ++ [c]) = base * ofDigits base digits + digitValue c := by
  rw [ofDigits, List.foldl_append]
  rfl

/-- The digits of a number denote it. -/
theorem ofDigits_toDigits {base : Nat} (hlow : 1 < base) (hhigh : base ≤ 16) (n : Nat) :
    ofDigits base (Nat.toDigits base n) = n := by
  induction n using Nat.strongRecOn with
  | ind n ih =>
      by_cases h : n < base
      · rw [Nat.toDigits_of_lt_base h]
        show base * 0 + digitValue n.digitChar = n
        rw [digitValue_digitChar (by omega), Nat.mul_zero, Nat.zero_add]
      · have hlt : n / base < n := Nat.div_lt_self (by omega) hlow
        have hmod : n % base < base := Nat.mod_lt n (by omega)
        rw [Nat.toDigits_of_base_le hlow (Nat.le_of_not_lt h), ofDigits_append_singleton, ih _ hlt,
          digitValue_digitChar (by omega)]
        exact Nat.div_add_mod n base

/-- Every digit of a number is a hexadecimal digit. -/
theorem isHexDigit_of_mem_toDigits {base : Nat} (hlow : 1 < base) (hhigh : base ≤ 16) {n : Nat}
    {c : Char} (h : c ∈ Nat.toDigits base n) : isHexDigit c = true := by
  induction n using Nat.strongRecOn with
  | ind n ih =>
      by_cases hn : n < base
      · rw [Nat.toDigits_of_lt_base hn, List.mem_singleton] at h
        rw [h]
        exact isHexDigit_digitChar (by omega)
      · have hlt : n / base < n := Nat.div_lt_self (by omega) hlow
        have hmod : n % base < base := Nat.mod_lt n (by omega)
        rw [Nat.toDigits_of_base_le hlow (Nat.le_of_not_lt hn)] at h
        rcases List.mem_append.1 h with h | h
        · exact ih _ hlt h
        · rw [List.mem_singleton.1 h]
          exact isHexDigit_digitChar (by omega)

/-- A number is denoted by its own digits. -/
theorem isHexadecimal_toDigits (n : Nat) : IsHexadecimal (Nat.toDigits 16 n) n :=
  ⟨Nat.toDigits_ne_nil, fun _ hc => isHexDigit_of_mem_toDigits (by decide) (by decide) hc,
    ofDigits_toDigits (by decide) (by decide) n⟩

theorem toList_hexNumber (n : Nat) : (hexNumber n).toList = '0' :: 'x' :: Nat.toDigits 16 n := by
  rw [hexNumber, String.toList_append]
  exact congrArg (['0', 'x'] ++ ·) String.toList_ofList

end Coprocessor.Text
