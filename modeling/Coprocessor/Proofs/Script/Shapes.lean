import Mathlib.Computability.Language
import Coprocessor.Proofs.Script.Scan

/-!
# Shapes — the patterns as regular languages

Every pattern is a regular language, and what is cut off a line is the longest front
in any of these languages. No text is in two of them, so the longest match has one
pattern.

  • `Pattern.language` — the languages, built from characters by choice, concatenation
    and repetition.
  • `Tests` — a test on characters decides a language of single characters;
    `Tests.mem_kstar` is the same for their repetition.
  • `Greedy` — a length function finds the longest front in a language. A character
    of one class before some of another, a fixed text in front, a choice, and one
    language behind another have one lemma each.
  • `Pattern.greedy` — each pattern finds the longest front in its language.
  • `Pattern.eq_of_mem_language` — no text is in two languages.
  • `Pattern.longest_eq_zero_iff`, `longest_append_eq_iff` — the longest match, told by
    the languages alone.
  • `Plain`, `Spells.newline_not_mem` — no pattern matches a newline, so words have none.
  • `spells_of_mem` — a text of a pattern is a word, if the pattern makes a token of it.
-/

namespace Coprocessor.Script

open Computability

/-! ## The languages -/

/-- A single character from `first` to `last`. -/
def range (first last : Char) : Language Char := {w | ∃ c, first ≤ c ∧ c ≤ last ∧ w = [c]}

/-- A single character other than `c`. -/
def except (c : Char) : Language Char := {w | ∃ d, d ≠ c ∧ w = [d]}

/-- One fixed text. -/
def fixed (text : String) : Language Char := {text.toList}

/-- One or more. -/
def several (l : Language Char) : Language Char := l * l∗

/-- One or none. -/
def optional (l : Language Char) : Language Char := 1 + l

/-- The decimal digits. -/
def digit : Language Char := range '0' '9'

/-- The letters and the underscore. -/
def nameStart : Language Char := range 'a' 'z' + range 'A' 'Z' + fixed "_"

/-- An exponent with its mark. -/
def exponent : Language Char :=
  (fixed "e" + fixed "E") * (optional (fixed "+" + fixed "-") * several digit)

/-- The texts that a pattern matches as a whole. -/
def Pattern.language : Pattern → Language Char
  | .blank => several (fixed " " + fixed "\t" + fixed "\r")
  | .comment => fixed "#" * (except '\n')∗
  | .identifier => nameStart * (nameStart + digit)∗
  | .decimal => optional (fixed "-") * several digit
  | .hexadecimal => fixed "0x" * several (digit + range 'a' 'f' + range 'A' 'F')
  | .fractional =>
      (optional (fixed "-") * several digit) * (fixed "." * (digit∗ * optional exponent))

/-! ## Single characters -/

/-- A test that decides a language of single characters. -/
def Tests (p : Char → Bool) (l : Language Char) : Prop := ∀ w, w ∈ l ↔ ∃ c, p c = true ∧ w = [c]

section

variable {p q : Char → Bool} {l m : Language Char}

/-- A range of characters is tested by its two ends. -/
theorem tests_range (first last : Char) :
    Tests (fun c => decide (first ≤ c ∧ c ≤ last)) (range first last) := by
  intro w
  constructor
  · rintro ⟨c, hfirst, hlast, hw⟩
    exact ⟨c, decide_eq_true ⟨hfirst, hlast⟩, hw⟩
  · rintro ⟨c, hc, hw⟩
    obtain ⟨hfirst, hlast⟩ := of_decide_eq_true hc
    exact ⟨c, hfirst, hlast, hw⟩

/-- All characters but one are tested by that one. -/
theorem tests_except (c : Char) : Tests (fun d => d != c) (except c) := by
  intro w
  constructor
  · rintro ⟨d, hd, hw⟩
    exact ⟨d, bne_iff_ne.2 hd, hw⟩
  · rintro ⟨d, hd, hw⟩
    exact ⟨d, bne_iff_ne.1 hd, hw⟩

theorem mem_fixed {text : String} {w : List Char} : w ∈ fixed text ↔ w = text.toList := Iff.rfl

/-- A text of one character is tested by it. -/
theorem tests_fixed {text : String} {c : Char} (h : text.toList = [c]) :
    Tests (fun d => d == c) (fixed text) := by
  intro w
  rw [mem_fixed, h]
  constructor
  · intro hw
    exact ⟨c, beq_self_eq_true c, hw⟩
  · rintro ⟨d, hd, hw⟩
    rw [hw, eq_of_beq hd]

/-- A choice is tested by either test. -/
theorem Tests.add (hl : Tests p l) (hm : Tests q m) : Tests (fun c => p c || q c) (l + m) := by
  intro w
  rw [Language.mem_add, hl w, hm w]
  constructor
  · rintro (⟨c, hc, hw⟩ | ⟨c, hc, hw⟩)
    · exact ⟨c, Bool.or_eq_true_iff.2 (Or.inl hc), hw⟩
    · exact ⟨c, Bool.or_eq_true_iff.2 (Or.inr hc), hw⟩
  · rintro ⟨c, hc, hw⟩
    rcases Bool.or_eq_true_iff.1 hc with hc | hc
    · exact Or.inl ⟨c, hc, hw⟩
    · exact Or.inr ⟨c, hc, hw⟩

theorem Tests.congr (h : Tests p l) (hpq : ∀ c, p c = q c) : Tests q l := by
  intro w
  simp only [h w, hpq]

/-- A repetition is a text of such characters. -/
theorem Tests.mem_kstar (h : Tests p l) {w : List Char} : w ∈ l∗ ↔ ∀ c ∈ w, p c = true := by
  rw [Language.mem_kstar]
  constructor
  · rintro ⟨pieces, rfl, hpieces⟩ c hc
    obtain ⟨piece, hpiece, hmem⟩ := List.mem_flatten.1 hc
    obtain ⟨d, hd, rfl⟩ := (h piece).1 (hpieces piece hpiece)
    rw [List.mem_singleton.1 hmem]
    exact hd
  · intro hall
    have hflatten : w = (w.map fun c => [c]).flatten := by
      rw [← List.flatMap_def, List.flatMap_singleton']
    refine ⟨w.map fun c => [c], hflatten, ?_⟩
    intro piece hpiece
    obtain ⟨c, hc, rfl⟩ := List.mem_map.1 hpiece
    exact (h [c]).2 ⟨c, hall c hc, rfl⟩

/-- A character of one class and then any number of another. -/
theorem Tests.mem_mul_kstar (hl : Tests p l) (hm : Tests q m) {w : List Char} :
    w ∈ l * m∗ ↔ ∃ c more, w = c :: more ∧ p c = true ∧ ∀ d ∈ more, q d = true := by
  rw [Language.mem_mul]
  constructor
  · rintro ⟨first, hfirst, more, hmore, rfl⟩
    obtain ⟨c, hc, rfl⟩ := (hl first).1 hfirst
    exact ⟨c, more, rfl, hc, hm.mem_kstar.1 hmore⟩
  · rintro ⟨c, more, rfl, hc, hmore⟩
    exact ⟨[c], (hl [c]).2 ⟨c, hc, rfl⟩, more, hm.mem_kstar.2 hmore, rfl⟩

/-- Several characters are some that all pass. -/
theorem Tests.mem_several (h : Tests p l) {w : List Char} :
    w ∈ several l ↔ w ≠ [] ∧ ∀ c ∈ w, p c = true := by
  rw [several, h.mem_mul_kstar h]
  constructor
  · rintro ⟨c, more, rfl, hc, hmore⟩
    exact ⟨List.cons_ne_nil c more, List.forall_mem_cons.2 ⟨hc, hmore⟩⟩
  · rintro ⟨hne, hall⟩
    obtain ⟨c, more, rfl⟩ := List.exists_cons_of_ne_nil hne
    obtain ⟨hc, hmore⟩ := List.forall_mem_cons.1 hall
    exact ⟨c, more, rfl, hc, hmore⟩

end

/-- Digits are tested as the scanner does. -/
theorem tests_digit : Tests Char.isDigit digit :=
  (tests_range '0' '9').congr fun c => by
    rw [Char.isDigit, Bool.decide_and]
    rfl

/-- What names start with is tested as the scanner does. -/
theorem tests_nameStart : Tests isNameStart nameStart := by
  have hunderscore : Tests (fun c => c == '_') (fixed "_") := tests_fixed rfl
  refine (((tests_range 'a' 'z').add (tests_range 'A' 'Z')).add hunderscore).congr fun c => ?_
  have halpha : c.isAlpha = (c.isUpper || decide ('a' ≤ c) && decide (c ≤ 'z')) := rfl
  rw [isNameStart, halpha, Bool.decide_and ('a' ≤ c), Bool.or_comm c.isUpper]
  rfl

theorem tests_namePart : Tests isNamePart (nameStart + digit) :=
  (tests_nameStart.add tests_digit).congr fun c => by
    rw [isNamePart, isNameStart, Char.isAlphanum, Bool.or_right_comm]

/-- Hexadecimal digits are tested as the scanner does. -/
theorem tests_hexDigit : Tests Text.isHexDigit (digit + range 'a' 'f' + range 'A' 'F') :=
  ((tests_digit.add (tests_range 'a' 'f')).add (tests_range 'A' 'F')).congr fun c => by
    rw [Text.isHexDigit, Bool.decide_and, Bool.decide_and]

/-- Blanks are tested as the scanner does. -/
theorem tests_blank : Tests isBlank (fixed " " + fixed "\t" + fixed "\r") :=
  (((tests_fixed rfl).add (tests_fixed rfl)).add (tests_fixed rfl)).congr fun _ => rfl

/-! ## Lengths of longest fronts -/

/-- A length function that finds the longest front in a language: what it finds is in the
language, and no front in the language is longer. Zero is for nothing found, so the
language is without the empty text. -/
structure Greedy (l : Language Char) (f : List Char → Nat) : Prop where
  nil_not_mem : [] ∉ l
  matched : ∀ cs, f cs ≠ 0 → cs.take (f cs) ∈ l
  longest : ∀ front back, front ∈ l → front.length ≤ f (front ++ back)

section

variable {p q : Char → Bool} {l m : Language Char} {f g h : List Char → Nat}

/-- All that is counted passes. -/
theorem forall_mem_take_countWhile (cs : List Char) :
    ∀ c ∈ cs.take (countWhile p cs), p c = true := by
  rw [take_countWhile]
  exact List.all_eq_true.1 List.all_takeWhile

/-- Where something matches, the greedy length is not zero. -/
theorem Greedy.ne_zero (hl : Greedy l f) {front : List Char} (hfront : front ∈ l)
    (back : List Char) : f (front ++ back) ≠ 0 := by
  have hle : front.length ≤ f (front ++ back) := hl.longest front back hfront
  have hpos : 0 < front.length :=
    List.length_pos_iff.2 fun hnil => hl.nil_not_mem (hnil ▸ hfront)
  omega

/-- A character of one class, and then as many of another as there are. -/
theorem Tests.greedy_mul_kstar (hl : Tests p l) (hm : Tests q m) (hnil : f [] = 0)
    (hcons : ∀ c rest, f (c :: rest) = if p c then countWhile q rest + 1 else 0) :
    Greedy (l * m∗) f where
  nil_not_mem := by
    intro hmem
    obtain ⟨c, more, heq, -, -⟩ := (hl.mem_mul_kstar hm).1 hmem
    exact List.cons_ne_nil c more heq.symm
  matched := by
    intro cs hcs
    cases cs with
    | nil => exact absurd hnil hcs
    | cons c rest =>
        rw [hcons] at hcs ⊢
        by_cases hc : p c = true
        · rw [if_pos hc, List.take_succ_cons]
          exact (hl.mem_mul_kstar hm).2
            ⟨c, _, rfl, hc, forall_mem_take_countWhile rest⟩
        · exact absurd (if_neg hc) hcs
  longest := by
    intro front back hfront
    obtain ⟨c, more, rfl, hc, hmore⟩ := (hl.mem_mul_kstar hm).1 hfront
    rw [List.cons_append, hcons, if_pos hc]
    exact Nat.succ_le_succ (le_countWhile_append hmore back)

/-- Counting is greedy for several characters that pass. -/
theorem Tests.greedy_several (hl : Tests p l) : Greedy (several l) (countWhile p) :=
  hl.greedy_mul_kstar hl rfl fun c rest => countWhile_cons p c rest

/-- A fixed text in front of what another function finds. -/
theorem Greedy.behind (hm : Greedy m f) {text : String}
    (hmark : ∀ rest, g (text.toList ++ rest)
      = if f rest = 0 then 0 else f rest + text.toList.length)
    (hnone : ∀ cs, g cs ≠ 0 → text.toList <+: cs) :
    Greedy (fixed text * m) g where
  nil_not_mem := by
    intro hmem
    obtain ⟨mark, -, more, hmore, heq⟩ := Language.mem_mul.1 hmem
    obtain ⟨-, rfl⟩ := List.append_eq_nil_iff.1 heq
    exact hm.nil_not_mem hmore
  matched := by
    intro cs hcs
    obtain ⟨rest, rfl⟩ := hnone cs hcs
    rw [hmark] at hcs ⊢
    by_cases hrest : f rest = 0
    · exact absurd (if_pos hrest) hcs
    · rw [if_neg hrest, Nat.add_comm, List.take_length_add_append]
      exact Language.append_mem_mul (mem_fixed.2 rfl) (hm.matched rest hrest)
  longest := by
    intro front back hfront
    obtain ⟨mark, rfl, more, hmore, rfl⟩ := Language.mem_mul.1 hfront
    have hle : more.length ≤ f (more ++ back) := hm.longest more back hmore
    rw [List.append_assoc, hmark, if_neg (hm.ne_zero hmore back), List.length_append]
    omega

/-- A choice of two, when at most one of them finds anything. -/
theorem Greedy.add (hl : Greedy l f) (hm : Greedy m g)
    (hh : ∀ cs, h cs = f cs ∧ g cs = 0 ∨ h cs = g cs ∧ f cs = 0) : Greedy (l + m) h where
  nil_not_mem := by
    intro hmem
    rcases (Language.mem_add ..).1 hmem with hmem | hmem
    · exact hl.nil_not_mem hmem
    · exact hm.nil_not_mem hmem
  matched := by
    intro cs hcs
    rcases hh cs with ⟨heq, -⟩ | ⟨heq, -⟩
    · rw [heq] at hcs ⊢
      exact Or.inl (hl.matched cs hcs)
    · rw [heq] at hcs ⊢
      exact Or.inr (hm.matched cs hcs)
  longest := by
    intro front back hfront
    rcases (Language.mem_add ..).1 hfront with hfront | hfront
    · rcases hh (front ++ back) with ⟨heq, -⟩ | ⟨-, hzero⟩
      · exact heq ▸ hl.longest front back hfront
      · exact absurd hzero (hl.ne_zero hfront back)
    · rcases hh (front ++ back) with ⟨-, hzero⟩ | ⟨heq, -⟩
      · exact absurd hzero (hm.ne_zero hfront back)
      · exact heq ▸ hm.longest front back hfront

/-- One language behind another, when the first one ends where the second one starts. -/
theorem Greedy.mul (hl : Greedy l f) (hm : Greedy m g)
    (hstop : ∀ front ∈ l, ∀ more ∈ m, ∀ back, f (front ++ (more ++ back)) = front.length)
    (hh : ∀ cs, h cs = if f cs = 0 then 0 else if g (cs.drop (f cs)) = 0 then 0
      else f cs + g (cs.drop (f cs))) : Greedy (l * m) h where
  nil_not_mem := by
    intro hmem
    obtain ⟨front, hfront, more, -, heq⟩ := Language.mem_mul.1 hmem
    obtain ⟨rfl, -⟩ := List.append_eq_nil_iff.1 heq
    exact hl.nil_not_mem hfront
  matched := by
    intro cs hcs
    rw [hh] at hcs ⊢
    by_cases hf : f cs = 0
    · exact absurd (if_pos hf) hcs
    · rw [if_neg hf] at hcs ⊢
      by_cases hg : g (cs.drop (f cs)) = 0
      · exact absurd (if_pos hg) hcs
      · rw [if_neg hg, List.take_add]
        exact Language.append_mem_mul (hl.matched cs hf) (hm.matched _ hg)
  longest := by
    intro front back hfront
    obtain ⟨first, hfirst, more, hmore, rfl⟩ := Language.mem_mul.1 hfront
    have hle : more.length ≤ g (more ++ back) := hm.longest more back hmore
    rw [List.append_assoc, hh, if_neg (hl.ne_zero hfirst _), hstop first hfirst more hmore back,
      List.drop_left, if_neg (hm.ne_zero hmore back), List.length_append]
    omega

end

/-! ## The length of each pattern -/

namespace Pattern

theorem greedy_blank : Greedy blank.language (countWhile isBlank) := tests_blank.greedy_several

/-- A comment goes to the end of the line. -/
theorem greedy_comment : Greedy comment.language commentLength := by
  have hmark : Tests (fun c => c == '#') (fixed "#") := tests_fixed rfl
  refine hmark.greedy_mul_kstar (tests_except '\n') rfl fun c rest => ?_
  by_cases hc : c = '#'
  · subst hc
    rfl
  · rw [if_neg fun heq => hc (eq_of_beq heq), commentLength]
    exact fun more heq => hc (List.cons.inj heq).1

/-- A name goes on as long as its characters do. -/
theorem greedy_identifier : Greedy identifier.language identifierLength :=
  tests_nameStart.greedy_mul_kstar tests_namePart rfl fun _ _ => rfl

/-- A hexadecimal number is its mark and the digits behind it. -/
theorem greedy_hexadecimal : Greedy hexadecimal.language hexadecimalLength := by
  refine tests_hexDigit.greedy_several.behind (fun rest => rfl) fun cs hcs => ?_
  by_contra hmark
  exact hcs (hexadecimalLength_of_not_mark fun more heq => hmark ⟨more, heq.symm⟩)

/-! ### Numbers -/

theorem greedy_digits : Greedy (several digit) (countWhile Char.isDigit) :=
  tests_digit.greedy_several

/-- A length that counts only if the text starts with a character. -/
def marked (c : Char) (f : List Char → Nat) (cs : List Char) : Nat :=
  if cs.head? = some c then f cs else 0

/-- A mark in front of a greedy match is greedy. -/
theorem greedy_marked {m : Language Char} {f g : List Char → Nat} (hm : Greedy m f)
    {text : String} {c : Char} (htext : text.toList = [c])
    (hmark : ∀ rest, g (c :: rest) = if f rest = 0 then 0 else f rest + 1) :
    Greedy (fixed text * m) (marked c g) := by
  refine hm.behind (fun rest => ?_) fun cs hcs => ?_
  · rw [htext]
    exact (if_pos rfl).trans (hmark rest)
  · have hhead : cs.head? = some c := by
      by_contra hne
      exact hcs (if_neg hne)
    obtain ⟨rest, rfl⟩ := List.head?_eq_some_iff.1 hhead
    exact ⟨rest, by rw [htext]; rfl⟩

/-- An optional part is there or it is not. -/
theorem optional_mul (l m : Language Char) : optional l * m = m + l * m := by
  rw [optional, add_mul, one_mul]

/-- A decimal number is its digits, with or without a sign. -/
theorem greedy_decimal : Greedy decimal.language decimalLength := by
  have hmarked : Greedy (fixed "-" * several digit) (marked '-' decimalLength) :=
    greedy_marked greedy_digits rfl fun _ => rfl
  show Greedy (optional (fixed "-") * several digit) decimalLength
  rw [optional_mul]
  refine greedy_digits.add hmarked fun cs => ?_
  by_cases hminus : ∃ more, cs = '-' :: more
  · obtain ⟨more, rfl⟩ := hminus
    exact Or.inr ⟨(if_pos rfl).symm, rfl⟩
  · refine Or.inl ⟨decimalLength_of_not_minus fun more heq => hminus ⟨more, heq⟩, if_neg ?_⟩
    exact fun hhead => hminus (List.head?_eq_some_iff.1 hhead)

theorem greedy_signedDigits :
    Greedy (optional (fixed "+" + fixed "-") * several digit) signedDigitsLength := by
  have hmarked : Greedy (fixed "+" * several digit) (marked '+' signedDigitsLength) :=
    greedy_marked greedy_digits rfl fun _ => rfl
  have hlanguage : optional (fixed "+" + fixed "-") * several digit
      = fixed "+" * several digit + decimal.language := by
    show (1 + (fixed "+" + fixed "-")) * several digit
      = fixed "+" * several digit + (1 + fixed "-") * several digit
    rw [add_left_comm, add_mul]
  rw [hlanguage]
  refine hmarked.add greedy_decimal fun cs => ?_
  by_cases hplus : ∃ more, cs = '+' :: more
  · obtain ⟨more, rfl⟩ := hplus
    exact Or.inl ⟨(if_pos rfl).symm, rfl⟩
  · refine Or.inr ⟨signedDigitsLength_of_not_plus fun more heq => hplus ⟨more, heq⟩, if_neg ?_⟩
    exact fun hhead => hplus (List.head?_eq_some_iff.1 hhead)

/-- An exponent is its mark and digits with or without a sign. -/
theorem greedy_exponent : Greedy exponent exponentLength := by
  have hlower : Greedy (fixed "e" * (optional (fixed "+" + fixed "-") * several digit))
      (marked 'e' exponentLength) := greedy_marked greedy_signedDigits rfl fun _ => rfl
  have hupper : Greedy (fixed "E" * (optional (fixed "+" + fixed "-") * several digit))
      (marked 'E' exponentLength) := greedy_marked greedy_signedDigits rfl fun _ => rfl
  rw [exponent, add_mul]
  refine hlower.add hupper fun cs => ?_
  cases cs with
  | nil => exact Or.inl ⟨rfl, rfl⟩
  | cons c rest =>
      by_cases he : c = 'e'
      · subst he
        exact Or.inl ⟨rfl, rfl⟩
      · by_cases hE : c = 'E'
        · subst hE
          exact Or.inr ⟨rfl, rfl⟩
        · have hzero : exponentLength (c :: rest) = 0 := if_neg (not_or.2 ⟨he, hE⟩)
          exact Or.inl ⟨by rw [marked, hzero, ite_self], by rw [marked, hzero, ite_self]⟩

/-- A sign or none, and digits. -/
theorem mem_decimal {w : List Char} : w ∈ decimal.language ↔
    ∃ digits, (w = digits ∨ w = '-' :: digits) ∧ digits ≠ [] ∧ ∀ c ∈ digits, c.isDigit = true := by
  show w ∈ optional (fixed "-") * several digit ↔ _
  rw [optional_mul, Language.mem_add, tests_digit.mem_several, Language.mem_mul]
  constructor
  · rintro (hdigits | ⟨mark, rfl, digits, hdigits, rfl⟩)
    · exact ⟨w, Or.inl rfl, hdigits⟩
    · exact ⟨digits, Or.inr rfl, tests_digit.mem_several.1 hdigits⟩
  · rintro ⟨digits, rfl | rfl, hdigits⟩
    · exact Or.inl hdigits
    · exact Or.inr ⟨['-'], rfl, digits, tests_digit.mem_several.2 hdigits, rfl⟩

/-- An integer ends where no digit follows. -/
theorem decimalLength_append_cons {w : List Char} (hw : w ∈ decimal.language) {c : Char}
    (hc : c.isDigit = false) (rest : List Char) : decimalLength (w ++ c :: rest) = w.length := by
  obtain ⟨digits, rfl | rfl, hne, hdigits⟩ := mem_decimal.1 hw
  · have hminus : ∀ more, w ++ c :: rest ≠ '-' :: more := by
      intro more heq
      obtain ⟨d, ds, rfl⟩ := List.exists_cons_of_ne_nil hne
      obtain ⟨rfl, -⟩ := List.cons.inj heq
      exact ne_minus_cons hdigits ds rfl
    rw [decimalLength_of_not_minus hminus, countWhile_append_cons hdigits hc]
  · have hlength : digits.length ≠ 0 := fun hzero => hne (List.eq_nil_of_length_eq_zero hzero)
    rw [List.cons_append, decimalLength, countWhile_append_cons hdigits hc]
    exact if_neg hlength

/-- What can stand behind a point: digits, and an exponent or none. -/
theorem mem_point {w : List Char} : w ∈ fixed "." * (digit∗ * optional exponent) ↔
    ∃ digits power, w = '.' :: (digits ++ power) ∧ (∀ c ∈ digits, c.isDigit = true)
      ∧ (power = [] ∨ power ∈ exponent) := by
  rw [Language.mem_mul]
  constructor
  · rintro ⟨mark, rfl, more, hmore, rfl⟩
    obtain ⟨digits, hdigits, power, hpower, rfl⟩ := Language.mem_mul.1 hmore
    exact ⟨digits, power, rfl, tests_digit.mem_kstar.1 hdigits, hpower⟩
  · rintro ⟨digits, power, rfl, hdigits, hpower⟩
    exact ⟨['.'], rfl, digits ++ power,
      Language.append_mem_mul (tests_digit.mem_kstar.2 hdigits) hpower, rfl⟩

/-- An exponent begins with no digit. -/
theorem exists_of_mem_exponent {w : List Char} (h : w ∈ exponent) :
    ∃ c more, w = c :: more ∧ c.isDigit = false := by
  rw [exponent, Language.mem_mul] at h
  obtain ⟨mark, rfl | rfl, more, -, rfl⟩ := h
  · exact ⟨'e', more, rfl, rfl⟩
  · exact ⟨'E', more, rfl, rfl⟩

/-- Behind a point there are digits and perhaps an exponent. -/
theorem greedy_point : Greedy (fixed "." * (digit∗ * optional exponent)) pointLength where
  nil_not_mem := by
    intro hmem
    obtain ⟨digits, power, heq, -, -⟩ := mem_point.1 hmem
    exact List.cons_ne_nil _ _ heq.symm
  matched := by
    intro cs hcs
    have hpoint : ∃ rest, cs = '.' :: rest := by
      by_contra hnone
      exact hcs (pointLength_of_not_point fun more heq => hnone ⟨more, heq⟩)
    obtain ⟨rest, rfl⟩ := hpoint
    -- what was counted is cut into the digits and the exponent behind them
    refine mem_point.2 ⟨rest.take (countWhile Char.isDigit rest),
      (rest.drop (countWhile Char.isDigit rest)).take
        (exponentLength (rest.drop (countWhile Char.isDigit rest))), ?_,
      forall_mem_take_countWhile rest, ?_⟩
    · rw [pointLength, Nat.add_right_comm, List.take_succ_cons, List.take_add]
    · by_cases hzero : exponentLength (rest.drop (countWhile Char.isDigit rest)) = 0
      · rw [hzero]
        exact Or.inl rfl
      · exact Or.inr (greedy_exponent.matched _ hzero)
  longest := by
    intro front back hfront
    obtain ⟨digits, power, rfl, hdigits, hpower⟩ := mem_point.1 hfront
    rw [List.cons_append, pointLength, List.length_cons, List.append_assoc, List.length_append]
    rcases hpower with rfl | hpower
    · have hle := le_countWhile_append hdigits ([] ++ back)
      rw [List.length_nil]
      omega
    · -- the digits end where the exponent starts
      have hle := greedy_exponent.longest power back hpower
      obtain ⟨c, more, rfl, hc⟩ := exists_of_mem_exponent hpower
      rw [List.cons_append] at hle ⊢
      rw [countWhile_append_cons hdigits hc, List.drop_left]
      omega

/-- A fractional number goes to the end of its exponent, if it has one. -/
theorem greedy_fractional : Greedy fractional.language fractionalLength := by
  refine greedy_decimal.mul greedy_point ?_ fun cs => rfl
  intro front hfront more hmore back
  obtain ⟨digits, power, rfl, -, -⟩ := mem_point.1 hmore
  exact decimalLength_append_cons hfront rfl _

/-- Each pattern finds the longest front in its language. -/
theorem greedy (p : Pattern) : Greedy p.language p.length := by
  cases p with
  | blank => exact greedy_blank
  | comment => exact greedy_comment
  | identifier => exact greedy_identifier
  | decimal => exact greedy_decimal
  | hexadecimal => exact greedy_hexadecimal
  | fractional => exact greedy_fractional

/-! ## One pattern for each text -/

/-- The pattern that a text can be of, by its first character, a point and the mark of a
hexadecimal integer. -/
def expected : List Char → Pattern
  | [] => .blank
  | c :: more =>
      if isBlank c then .blank
      else if c = '#' then .comment
      else if isNameStart c then .identifier
      else if '.' ∈ more then .fractional
      else if 'x' ∈ more then .hexadecimal
      else .decimal

/-- A number starts with a digit or a minus. -/
theorem expected_number {c : Char} (hc : c.isDigit = true ∨ c = '-') (more : List Char) :
    expected (c :: more) = if '.' ∈ more then .fractional
      else if 'x' ∈ more then .hexadecimal else .decimal := by
  have hblank : ¬ isBlank c = true := by
    intro hblank
    rcases eq_of_isBlank hblank with rfl | rfl | rfl
    all_goals exact absurd hc (by decide)
  have hcomment : c ≠ '#' := by
    rintro rfl
    exact absurd hc (by decide)
  have hname : ¬ isNameStart c = true := by
    intro hname
    rcases hc with hc | rfl
    · rw [isDigit_of_isNameStart hname] at hc
      exact nomatch hc
    · exact absurd hname (by decide)
  rw [expected, if_neg hblank, if_neg hcomment, if_neg hname]

/-- An integer starts like a number, and neither a point nor a mark is in it. -/
theorem exists_of_mem_decimal {w : List Char} (h : w ∈ decimal.language) :
    ∃ c more, w = c :: more ∧ (c.isDigit = true ∨ c = '-')
      ∧ ∀ d ∈ more, d.isDigit = true := by
  obtain ⟨digits, rfl | rfl, hne, hdigits⟩ := mem_decimal.1 h
  · obtain ⟨c, more, rfl⟩ := List.exists_cons_of_ne_nil hne
    obtain ⟨hc, hmore⟩ := List.forall_mem_cons.1 hdigits
    exact ⟨c, more, rfl, Or.inl hc, hmore⟩
  · exact ⟨'-', digits, rfl, Or.inr rfl, hdigits⟩

/-- A piece tells the pattern that it is of. -/
theorem expected_of_mem {p : Pattern} {w : List Char} (h : w ∈ p.language) : expected w = p := by
  cases p with
  | blank =>
      obtain ⟨hne, hall⟩ := tests_blank.mem_several.1 h
      obtain ⟨c, more, rfl⟩ := List.exists_cons_of_ne_nil hne
      exact if_pos (hall c List.mem_cons_self)
  | comment =>
      obtain ⟨mark, rfl, more, -, rfl⟩ := Language.mem_mul.1 h
      rfl
  | identifier =>
      obtain ⟨c, more, rfl, hc, -⟩ := (tests_nameStart.mem_mul_kstar tests_namePart).1 h
      obtain ⟨d, ds, heq, hblank, hcomment⟩ := startsWord_of_isNameStart hc more
      obtain ⟨rfl, rfl⟩ := List.cons.inj heq
      rw [expected, hblank, if_neg Bool.false_ne_true, if_neg hcomment, if_pos hc]
  | decimal =>
      obtain ⟨c, more, rfl, hc, hmore⟩ := exists_of_mem_decimal h
      have hpoint : '.' ∉ more := fun hmem => nomatch hmore '.' hmem
      have hmark : 'x' ∉ more := fun hmem => nomatch hmore 'x' hmem
      rw [expected_number hc, if_neg hpoint, if_neg hmark]
  | hexadecimal =>
      obtain ⟨mark, rfl, digits, hdigits, rfl⟩ := Language.mem_mul.1 h
      obtain ⟨-, hall⟩ := tests_hexDigit.mem_several.1 hdigits
      -- of the three kinds of numbers only the fractional ones have a point
      have hpoint : '.' ∉ 'x' :: digits := by
        intro hmem
        rcases List.mem_cons.1 hmem with heq | hmem
        · exact absurd heq (by decide)
        · exact nomatch hall '.' hmem
      show expected ('0' :: 'x' :: digits) = .hexadecimal
      rw [expected_number (Or.inl rfl), if_neg hpoint, if_pos List.mem_cons_self]
  | fractional =>
      obtain ⟨whole, hwhole, point, hpoint, rfl⟩ := Language.mem_mul.1 h
      obtain ⟨c, more, rfl, hc, -⟩ := exists_of_mem_decimal hwhole
      obtain ⟨digits, power, rfl, -, -⟩ := mem_point.1 hpoint
      rw [List.cons_append, expected_number hc,
        if_pos (List.mem_append_right more List.mem_cons_self)]

/-- No text is in the languages of two patterns. -/
theorem eq_of_mem_language {p q : Pattern} {w : List Char} (hp : w ∈ p.language)
    (hq : w ∈ q.language) : p = q :=
  (expected_of_mem hp).symm.trans (expected_of_mem hq)

/-! ## The longest match -/

/-- No piece in front of a text is longer than the longest match. -/
theorem le_longest {p : Pattern} {cs front : List Char} (hfront : front <+: cs)
    (hp : front ∈ p.language) : front.length ≤ (longest cs).2 := by
  obtain ⟨back, rfl⟩ := hfront
  exact Nat.le_trans (p.greedy.longest front back hp) (length_le_longest p _)

/-- The longest match is a piece of its own pattern. -/
theorem take_longest_mem {cs : List Char} (h : (longest cs).2 ≠ 0) :
    cs.take (longest cs).2 ∈ (longest cs).1.language := by
  have hlength := longest_eq_length h
  rw [hlength] at h ⊢
  exact (longest cs).1.greedy.matched cs h

/-- Nothing is found exactly if no front is in any language. -/
theorem longest_eq_zero_iff {cs : List Char} :
    (longest cs).2 = 0 ↔ ∀ p : Pattern, ∀ front, front <+: cs → front ∉ p.language := by
  constructor
  · intro hzero p front hfront hp
    have hle : front.length ≤ (longest cs).2 := le_longest hfront hp
    rw [hzero] at hle
    obtain rfl := List.eq_nil_of_length_eq_zero (Nat.le_zero.1 hle)
    exact p.greedy.nil_not_mem hp
  · intro hnone
    by_contra hne
    exact hnone _ _ (List.take_prefix _ cs) (take_longest_mem hne)

/-- A front in a language is what is found exactly if no front in any language is longer. -/
theorem longest_append_eq_iff {p : Pattern} {piece rest : List Char}
    (hpiece : piece ∈ p.language) :
    longest (piece ++ rest) = (p, piece.length)
      ↔ ∀ q : Pattern, ∀ front, front <+: piece ++ rest → front ∈ q.language →
          front.length ≤ piece.length := by
  constructor
  · intro hfound q front hfront hq
    have hle := le_longest hfront hq
    rw [hfound] at hle
    exact hle
  · intro hall
    have hle : piece.length ≤ (longest (piece ++ rest)).2 :=
      le_longest (List.prefix_append piece rest) hpiece
    have hne : (longest (piece ++ rest)).2 ≠ 0 := by
      have hpos : 0 < piece.length :=
        List.length_pos_iff.2 fun hnil => p.greedy.nil_not_mem (hnil ▸ hpiece)
      omega
    have hmem := take_longest_mem hne
    have hge := hall _ _ (List.take_prefix _ _) hmem
    rw [List.length_take, Nat.min_eq_left (longest_le _)] at hge
    have hlength : (longest (piece ++ rest)).2 = piece.length := Nat.le_antisymm hge hle
    rw [hlength, List.take_left] at hmem
    exact Prod.ext (eq_of_mem_language hmem hpiece) hlength

end Pattern

/-! ## Words -/

/-- Texts on one line. -/
def Plain (l : Language Char) : Prop := ∀ w ∈ l, '\n' ∉ w

section

variable {p : Char → Bool} {l m : Language Char}

/-- Characters that pass are on one line if a newline does not. -/
theorem Tests.plain (h : Tests p l) (hp : p '\n' = false) : Plain l := by
  intro w hw hmem
  obtain ⟨c, hc, rfl⟩ := (h w).1 hw
  rw [← List.mem_singleton.1 hmem, hp] at hc
  exact Bool.false_ne_true hc

theorem plain_fixed {text : String} (h : '\n' ∉ text.toList) : Plain (fixed text) := by
  rintro w rfl
  exact h

theorem Plain.add (hl : Plain l) (hm : Plain m) : Plain (l + m) :=
  fun w hw => (Language.mem_add l m w).1 hw |>.elim (hl w) (hm w)

/-- Parts on one line are together on one line. -/
theorem Plain.mul (hl : Plain l) (hm : Plain m) : Plain (l * m) := by
  intro w hw hmem
  obtain ⟨front, hfront, back, hback, rfl⟩ := Language.mem_mul.1 hw
  rcases List.mem_append.1 hmem with hmem | hmem
  · exact hl front hfront hmem
  · exact hm back hback hmem

theorem Plain.kstar (h : Plain l) : Plain l∗ := by
  intro w hw hmem
  obtain ⟨pieces, rfl, hpieces⟩ := Language.mem_kstar.1 hw
  obtain ⟨piece, hpiece, hmem⟩ := List.mem_flatten.1 hmem
  exact h piece (hpieces piece hpiece) hmem

theorem Plain.several (h : Plain l) : Plain (several l) := h.mul h.kstar

theorem Plain.optional (h : Plain l) : Plain (optional l) := by
  rintro w (rfl | hw)
  · exact List.not_mem_nil
  · exact h w hw

end

/-- No pattern matches a newline. -/
theorem Pattern.plain_language (p : Pattern) : Plain p.language := by
  have hdigits : Plain (several digit) := (tests_digit.plain rfl).several
  have hinteger : Plain (optional (fixed "-") * several digit) :=
    (plain_fixed (by decide)).optional.mul hdigits
  cases p with
  | blank => exact (tests_blank.plain rfl).several
  | comment => exact (plain_fixed (by decide)).mul ((tests_except '\n').plain (by decide)).kstar
  | identifier => exact (tests_nameStart.plain rfl).mul (tests_namePart.plain rfl).kstar
  | decimal => exact hinteger
  | hexadecimal => exact (plain_fixed (by decide)).mul (tests_hexDigit.plain rfl).several
  | fractional =>
      have hsign : Plain (optional (fixed "+" + fixed "-")) :=
        ((plain_fixed (by decide)).add (plain_fixed (by decide))).optional
      have hmark : Plain (fixed "e" + fixed "E") :=
        (plain_fixed (by decide)).add (plain_fixed (by decide))
      have hpower : Plain (optional exponent) := (hmark.mul (hsign.mul hdigits)).optional
      exact hinteger.mul ((plain_fixed (by decide)).mul ((tests_digit.plain rfl).kstar.mul hpower))

/-- A word is on one line. -/
theorem Spells.newline_not_mem {w : List Char} {t : Token} (h : Spells w t) : '\n' ∉ w := by
  obtain ⟨p, hlongest, -⟩ := h.whole
  have hne : (Pattern.longest w).2 ≠ 0 := by
    rw [hlongest]
    exact fun hzero => h.starts.ne_nil (List.eq_nil_of_length_eq_zero hzero)
  have hmem := Pattern.take_longest_mem hne
  rw [hlongest, List.take_length] at hmem
  exact p.plain_language w hmem

/-- A text of a pattern is a word, if the pattern makes a token of it. -/
theorem spells_of_mem {p : Pattern} {w : List Char} {t : Token} (h : w ∈ p.language)
    (ht : p.meaning w = .token t) : Spells w t := by
  have hlongest : Pattern.longest (w ++ []) = (p, w.length) := by
    refine (Pattern.longest_append_eq_iff h).2 fun q front hfront _ => ?_
    rw [List.append_nil] at hfront
    exact hfront.length_le
  rw [List.append_nil] at hlongest
  refine ⟨?_, p, hlongest, ht⟩
  have hne : w ≠ [] := fun hnil => p.greedy.nil_not_mem (hnil ▸ h)
  have hexpected := Pattern.expected_of_mem h
  obtain ⟨c, more, rfl⟩ := List.exists_cons_of_ne_nil hne
  refine ⟨c, more, rfl, ?_, ?_⟩
  · cases hblank : isBlank c with
    | false => rfl
    | true =>
        rw [Pattern.expected, if_pos hblank] at hexpected
        subst hexpected
        exact nomatch ht
  · rintro rfl
    obtain rfl : Pattern.comment = p := hexpected
    exact nomatch ht

end Coprocessor.Script
