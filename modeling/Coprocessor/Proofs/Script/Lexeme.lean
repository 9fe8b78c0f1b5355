import Coprocessor.Script.Pattern

/-!
# Lexemes — the pieces of a line end where a blank starts

No piece but a blank or a comment goes on over a blank or into a comment. So a word
that starts with neither is cut in the same way whether blanks or a comment follow
it or nothing does.

  • `Ends` — what stands behind a word: nothing, or a blank or a comment first.
  • `length_append` — the length of a match does not depend on what stands behind.
  • `longest_append` — nor does the longest match of a word.
  • `longest_le` — no match is longer than the text.
  • `longest_eq_length`, `length_le_longest` — the longest match is one, and none is longer.
  • `longest_identifier`, `longest_decimal`, `longest_hexadecimal` — the longest
    matches of names and of integers that stand alone.
-/

namespace Coprocessor.Script

/-- Whether a character ends the word in front of it: a blank, or the start of a
    comment. -/
def isGap (c : Char) : Bool := isBlank c || c = '#'

/-- Nothing, or a text that starts with a blank or a comment. -/
def Ends (rest : List Char) : Prop := ∀ c ∈ rest.head?, isGap c = true

theorem ends_nil : Ends [] := fun _ h => nomatch h

/-- A blank ends a word. -/
theorem ends_cons {c : Char} (h : isBlank c = true) (rest : List Char) : Ends (c :: rest) := by
  intro d hd
  obtain rfl := Option.some.inj hd
  exact Bool.or_eq_true_iff.2 (Or.inl h)

/-- A text that starts with neither a blank nor a comment. -/
def StartsWord (cs : List Char) : Prop := ∃ c more, cs = c :: more ∧ isBlank c = false ∧ c ≠ '#'

theorem StartsWord.ne_nil {cs : List Char} (h : StartsWord cs) : cs ≠ [] := by
  obtain ⟨c, more, rfl, -, -⟩ := h
  exact List.cons_ne_nil c more

/-- A word starts the same whatever is behind it. -/
theorem StartsWord.append {cs : List Char} (h : StartsWord cs) (rest : List Char) :
    StartsWord (cs ++ rest) := by
  obtain ⟨c, more, rfl, hblank, hcomment⟩ := h
  exact ⟨c, more ++ rest, rfl, hblank, hcomment⟩

theorem eq_of_isBlank {c : Char} (h : isBlank c = true) : c = ' ' ∨ c = '\t' ∨ c = '\r' := by
  simpa [isBlank, or_assoc] using h

theorem eq_of_isGap {c : Char} (h : isGap c = true) : c = ' ' ∨ c = '\t' ∨ c = '\r' ∨ c = '#' := by
  rcases Bool.or_eq_true_iff.1 h with hblank | hcomment
  · rcases eq_of_isBlank hblank with rfl | rfl | rfl <;> simp
  · exact Or.inr (Or.inr (Or.inr (of_decide_eq_true hcomment)))

/-! ## Counting characters -/

/-- A count goes on as long as the characters pass. -/
theorem countWhile_cons (p : Char → Bool) (c : Char) (cs : List Char) :
    countWhile p (c :: cs) = if p c then countWhile p cs + 1 else 0 := by
  rw [countWhile, List.takeWhile_cons]
  cases p c with
  | true => rfl
  | false => rfl

theorem countWhile_le (p : Char → Bool) (cs : List Char) : countWhile p cs ≤ cs.length :=
  (List.takeWhile_prefix p).length_le

/-- Counting goes at least as far as all characters have the property. -/
theorem le_countWhile_append {p : Char → Bool} {cs : List Char} (hcs : ∀ c ∈ cs, p c = true)
    (back : List Char) :
    cs.length ≤ countWhile p (cs ++ back) := by
  induction cs with
  | nil => exact Nat.zero_le _
  | cons c more ih =>
      obtain ⟨hc, hmore⟩ := List.forall_mem_cons.1 hcs
      rw [List.cons_append, countWhile_cons, if_pos hc]
      exact Nat.succ_le_succ (ih hmore)

/-- Counting goes to the end when every character has the property. -/
theorem countWhile_of_all {p : Char → Bool} {cs : List Char} (h : ∀ c ∈ cs, p c = true) :
    countWhile p cs = cs.length := by
  have hle : cs.length ≤ countWhile p (cs ++ []) := le_countWhile_append h []
  rw [List.append_nil] at hle
  exact Nat.le_antisymm (countWhile_le p cs) hle

/-- Counting ends at a character without the property. -/
theorem countWhile_append_cons {p : Char → Bool} {cs : List Char} (hcs : ∀ c ∈ cs, p c = true)
    {c : Char} (hc : p c = false) (rest : List Char) :
    countWhile p (cs ++ c :: rest) = cs.length := by
  induction cs with
  | nil =>
      rw [List.nil_append, countWhile_cons, hc]
      rfl
  | cons d more ih =>
      obtain ⟨hd, hmore⟩ := List.forall_mem_cons.1 hcs
      rw [List.cons_append, countWhile_cons, if_pos hd, ih hmore]
      rfl

/-- Counting a property that nothing between words has stops where the text ends. -/
theorem countWhile_append {p : Char → Bool} (hp : ∀ c, isGap c = true → p c = false)
    (cs : List Char) {rest : List Char} (h : Ends rest) :
    countWhile p (cs ++ rest) = countWhile p cs := by
  induction cs with
  | nil =>
      cases rest with
      | nil => rfl
      | cons c rest =>
          rw [List.nil_append, countWhile_cons, hp c (h c rfl)]
          rfl
  | cons c cs ih => rw [List.cons_append, countWhile_cons, countWhile_cons, ih]

/-- What ends a word is in no number and in no name. -/
theorem isDigit_of_isGap (c : Char) (h : isGap c = true) : c.isDigit = false := by
  rcases eq_of_isGap h with rfl | rfl | rfl | rfl <;> rfl

theorem isHexDigit_of_isGap (c : Char) (h : isGap c = true) : Text.isHexDigit c = false := by
  rcases eq_of_isGap h with rfl | rfl | rfl | rfl <;> rfl

theorem isNamePart_of_isGap (c : Char) (h : isGap c = true) : isNamePart c = false := by
  rcases eq_of_isGap h with rfl | rfl | rfl | rfl <;> rfl

theorem isNameStart_of_isGap (c : Char) (h : isGap c = true) : isNameStart c = false := by
  rcases eq_of_isGap h with rfl | rfl | rfl | rfl <;> rfl

/-- A word does not start with a blank. -/
theorem StartsWord.blankLength {cs : List Char} (h : StartsWord cs) :
    Pattern.blank.length cs = 0 := by
  obtain ⟨c, more, rfl, hblank, -⟩ := h
  show countWhile isBlank (c :: more) = 0
  rw [countWhile_cons, hblank]
  rfl

/-- A word does not start with a comment. -/
theorem StartsWord.commentLength {cs : List Char} (h : StartsWord cs) :
    Pattern.comment.length cs = 0 := by
  obtain ⟨c, more, rfl, -, hcomment⟩ := h
  show Pattern.commentLength (c :: more) = 0
  rw [Pattern.commentLength]
  exact fun rest hm => hcomment (List.cons.inj hm).1

namespace Pattern

/-! ## Each pattern stops where a word ends -/

/-- A name is as long with an end behind it. -/
theorem identifierLength_append (cs : List Char) {rest : List Char} (h : Ends rest) :
    identifierLength (cs ++ rest) = identifierLength cs := by
  cases cs with
  | nil =>
      cases rest with
      | nil => rfl
      | cons c rest =>
          rw [List.nil_append, identifierLength, isNameStart_of_isGap c (h c rfl)]
          rfl
  | cons c cs =>
      rw [List.cons_append, identifierLength, identifierLength,
        countWhile_append isNamePart_of_isGap cs h]

/-- A front without gaps stands before the end of the text. -/
theorem starts_of_append (front : List Char) (hfront : front.any isGap = false)
    {cs rest : List Char} (h : Ends rest) (hstart : ∃ more, cs ++ rest = front ++ more) :
    ∃ more, cs = front ++ more := by
  -- the front runs out before the text does, since the rest could only go on with a gap
  induction front generalizing cs with
  | nil => exact ⟨cs, rfl⟩
  | cons a front ih =>
      obtain ⟨more, hmore⟩ := hstart
      obtain ⟨ha, hfront'⟩ := Bool.or_eq_false_iff.1 hfront
      cases cs with
      | nil =>
          have hgap : isGap a = true := by
            rw [List.nil_append] at hmore
            exact h a (by rw [hmore]; rfl)
          rw [ha] at hgap
          exact nomatch hgap
      | cons c cs =>
          obtain ⟨rfl, htail⟩ := List.cons.inj hmore
          obtain ⟨more', rfl⟩ := ih hfront' ⟨more, htail⟩
          exact ⟨more', rfl⟩

/-- Digits do not start with a minus. -/
theorem ne_minus_cons {digits : List Char} (h : ∀ c ∈ digits, c.isDigit = true) :
    ∀ more, digits ≠ '-' :: more := by
  rintro more rfl
  have hminus : '-'.isDigit = true := h '-' List.mem_cons_self
  exact absurd hminus (by decide)

/-- Without a minus a decimal integer is its digits. -/
theorem decimalLength_of_not_minus {cs : List Char} (h : ∀ more, cs ≠ '-' :: more) :
    decimalLength cs = countWhile Char.isDigit cs := by
  rw [decimalLength]
  exact fun more hcs => h more hcs

/-- A decimal number is as long with an end behind it. -/
theorem decimalLength_append (cs : List Char) {rest : List Char} (h : Ends rest) :
    decimalLength (cs ++ rest) = decimalLength cs := by
  by_cases hminus : ∃ more, cs = '-' :: more
  · obtain ⟨more, rfl⟩ := hminus
    rw [List.cons_append, decimalLength, decimalLength,
      countWhile_append isDigit_of_isGap more h]
  · have happend : ∀ more, cs ++ rest ≠ '-' :: more :=
      fun more hm => hminus (starts_of_append ['-'] rfl h ⟨more, hm⟩)
    rw [decimalLength_of_not_minus fun more hm => hminus ⟨more, hm⟩,
      decimalLength_of_not_minus happend, countWhile_append isDigit_of_isGap cs h]

/-- No pattern is longer than the text. -/
theorem decimalLength_le (cs : List Char) : decimalLength cs ≤ cs.length := by
  by_cases hminus : ∃ more, cs = '-' :: more
  · obtain ⟨more, rfl⟩ := hminus
    have hle : countWhile Char.isDigit more ≤ more.length := countWhile_le _ more
    rw [decimalLength, List.length_cons]
    split
    · exact Nat.zero_le _
    · omega
  · rw [decimalLength_of_not_minus fun more hm => hminus ⟨more, hm⟩]
    exact countWhile_le _ cs

/-- Without its mark nothing is a hexadecimal integer. -/
theorem hexadecimalLength_of_not_mark {cs : List Char} (h : ∀ more, cs ≠ '0' :: 'x' :: more) :
    hexadecimalLength cs = 0 := by
  rw [hexadecimalLength]
  exact fun more hcs => h more hcs

/-- A hexadecimal number is as long with an end behind it. -/
theorem hexadecimalLength_append (cs : List Char) {rest : List Char} (h : Ends rest) :
    hexadecimalLength (cs ++ rest) = hexadecimalLength cs := by
  by_cases hmark : ∃ more, cs = '0' :: 'x' :: more
  · obtain ⟨more, rfl⟩ := hmark
    rw [List.cons_append, List.cons_append, hexadecimalLength, hexadecimalLength,
      countWhile_append isHexDigit_of_isGap more h]
  · have happend : ∀ more, cs ++ rest ≠ '0' :: 'x' :: more :=
      fun more hm => hmark (starts_of_append ['0', 'x'] rfl h ⟨more, hm⟩)
    rw [hexadecimalLength_of_not_mark fun more hm => hmark ⟨more, hm⟩,
      hexadecimalLength_of_not_mark happend]

/-- Without a plus the digits of an exponent are a decimal integer. -/
theorem signedDigitsLength_of_not_plus {cs : List Char} (h : ∀ more, cs ≠ '+' :: more) :
    signedDigitsLength cs = decimalLength cs := by
  rw [signedDigitsLength]
  exact fun more hcs => h more hcs

/-- Digits with a sign are as long with an end behind them. -/
theorem signedDigitsLength_append (cs : List Char) {rest : List Char} (h : Ends rest) :
    signedDigitsLength (cs ++ rest) = signedDigitsLength cs := by
  by_cases hplus : ∃ more, cs = '+' :: more
  · obtain ⟨more, rfl⟩ := hplus
    rw [List.cons_append, signedDigitsLength, signedDigitsLength,
      countWhile_append isDigit_of_isGap more h]
  · have happend : ∀ more, cs ++ rest ≠ '+' :: more :=
      fun more hm => hplus (starts_of_append ['+'] rfl h ⟨more, hm⟩)
    rw [signedDigitsLength_of_not_plus fun more hm => hplus ⟨more, hm⟩,
      signedDigitsLength_of_not_plus happend, decimalLength_append cs h]

/-- An exponent is as long with an end behind it. -/
theorem exponentLength_append (cs : List Char) {rest : List Char} (h : Ends rest) :
    exponentLength (cs ++ rest) = exponentLength cs := by
  cases cs with
  | nil =>
      cases rest with
      | nil => rfl
      | cons c rest =>
          have hc : ¬ (c = 'e' ∨ c = 'E') := by
            rcases eq_of_isGap (h c rfl) with rfl | rfl | rfl | rfl <;> decide
          rw [List.nil_append, exponentLength, if_neg hc]
          rfl
  | cons c cs =>
      rw [List.cons_append, exponentLength, exponentLength, signedDigitsLength_append cs h]

/-- Without a point nothing follows the digits. -/
theorem pointLength_of_not_point {cs : List Char} (h : ∀ more, cs ≠ '.' :: more) :
    pointLength cs = 0 := by
  rw [pointLength]
  exact fun more hcs => h more hcs

/-- What is behind a point is as long with an end behind it. -/
theorem pointLength_append (cs : List Char) {rest : List Char} (h : Ends rest) :
    pointLength (cs ++ rest) = pointLength cs := by
  by_cases hpoint : ∃ more, cs = '.' :: more
  · obtain ⟨more, rfl⟩ := hpoint
    rw [List.cons_append, pointLength, pointLength, countWhile_append isDigit_of_isGap more h,
      List.drop_append_of_le_length (countWhile_le _ more), exponentLength_append _ h]
  · have happend : ∀ more, cs ++ rest ≠ '.' :: more :=
      fun more hm => hpoint (starts_of_append ['.'] rfl h ⟨more, hm⟩)
    rw [pointLength_of_not_point fun more hm => hpoint ⟨more, hm⟩,
      pointLength_of_not_point happend]

/-- A fractional number is as long with an end behind it. -/
theorem fractionalLength_append (cs : List Char) {rest : List Char} (h : Ends rest) :
    fractionalLength (cs ++ rest) = fractionalLength cs := by
  rw [fractionalLength, fractionalLength, decimalLength_append cs h,
    List.drop_append_of_le_length (decimalLength_le cs), pointLength_append _ h]

/-! ## The longest match of a word -/

/-- Every pattern is as long with an end behind the word. -/
theorem length_append {w : List Char} (hw : StartsWord w) {rest : List Char} (h : Ends rest)
    (p : Pattern) : p.length (w ++ rest) = p.length w := by
  cases p with
  | blank => exact (hw.append rest).blankLength.trans hw.blankLength.symm
  | comment => exact (hw.append rest).commentLength.trans hw.commentLength.symm
  | identifier => exact identifierLength_append w h
  | decimal => exact decimalLength_append w h
  | hexadecimal => exact hexadecimalLength_append w h
  | fractional => exact fractionalLength_append w h

/-- What stands behind a word does not change its longest match. -/
theorem longest_append {w : List Char} (hw : StartsWord w) {rest : List Char} (h : Ends rest) :
    longest (w ++ rest) = longest w := by
  simp only [longest, length_append hw h]

/-! ## Matches within the text -/

theorem identifierLength_le (cs : List Char) : identifierLength cs ≤ cs.length := by
  cases cs with
  | nil => exact Nat.zero_le _
  | cons c cs =>
      have hle : countWhile isNamePart cs ≤ cs.length := countWhile_le _ cs
      rw [identifierLength, List.length_cons]
      split <;> omega

theorem commentLength_le (cs : List Char) : commentLength cs ≤ cs.length := by
  unfold commentLength
  split
  next rest => exact Nat.succ_le_succ (countWhile_le _ rest)
  next => exact Nat.zero_le _

theorem hexadecimalLength_le (cs : List Char) : hexadecimalLength cs ≤ cs.length := by
  by_cases hmark : ∃ more, cs = '0' :: 'x' :: more
  · obtain ⟨more, rfl⟩ := hmark
    have hle : countWhile Text.isHexDigit more ≤ more.length := countWhile_le _ more
    rw [hexadecimalLength, List.length_cons, List.length_cons]
    split <;> omega
  · rw [hexadecimalLength_of_not_mark fun more hm => hmark ⟨more, hm⟩]
    exact Nat.zero_le _

theorem signedDigitsLength_le (cs : List Char) : signedDigitsLength cs ≤ cs.length := by
  by_cases hplus : ∃ more, cs = '+' :: more
  · obtain ⟨more, rfl⟩ := hplus
    have hle : countWhile Char.isDigit more ≤ more.length := countWhile_le _ more
    rw [signedDigitsLength, List.length_cons]
    split <;> omega
  · rw [signedDigitsLength_of_not_plus fun more hm => hplus ⟨more, hm⟩]
    exact decimalLength_le cs

theorem exponentLength_le (cs : List Char) : exponentLength cs ≤ cs.length := by
  cases cs with
  | nil => exact Nat.zero_le _
  | cons c cs =>
      have hle : signedDigitsLength cs ≤ cs.length := signedDigitsLength_le cs
      rw [exponentLength, List.length_cons]
      dsimp only
      split
      · split <;> omega
      · omega

theorem pointLength_le (cs : List Char) : pointLength cs ≤ cs.length := by
  by_cases hpoint : ∃ more, cs = '.' :: more
  · obtain ⟨more, rfl⟩ := hpoint
    have hle : countWhile Char.isDigit more ≤ more.length := countWhile_le _ more
    have hexponent := exponentLength_le (more.drop (countWhile Char.isDigit more))
    rw [List.length_drop] at hexponent
    rw [pointLength, List.length_cons]
    omega
  · rw [pointLength_of_not_point fun more hm => hpoint ⟨more, hm⟩]
    exact Nat.zero_le _

/-- A fractional number is a sign, digits and what is behind the point. -/
theorem fractionalLength_le (cs : List Char) : fractionalLength cs ≤ cs.length := by
  have hdecimal : decimalLength cs ≤ cs.length := decimalLength_le cs
  have hpoint := pointLength_le (cs.drop (decimalLength cs))
  rw [List.length_drop] at hpoint
  rw [fractionalLength]
  dsimp only
  split
  · omega
  · split <;> omega

/-- What a pattern matches is in the text. -/
theorem length_le (p : Pattern) (cs : List Char) : p.length cs ≤ cs.length := by
  cases p with
  | blank => exact countWhile_le _ cs
  | comment => exact commentLength_le cs
  | identifier => exact identifierLength_le cs
  | decimal => exact decimalLength_le cs
  | hexadecimal => exact hexadecimalLength_le cs
  | fractional => exact fractionalLength_le cs

/-! ## The best match -/

/-- No pattern is left out. -/
theorem mem_all (p : Pattern) : p ∈ all := by
  cases p <;> decide

/-- What is kept along the patterns: nothing or a match, and one no shorter than those seen. -/
theorem foldl_longest (cs : List Char) (ps : List Pattern) (best : Pattern × Nat)
    (hbest : best.2 = 0 ∨ best.2 = best.1.length cs) :
    let found := ps.foldl
      (fun best p => if best.2 < p.length cs then (p, p.length cs) else best) best
    (found.2 = 0 ∨ found.2 = found.1.length cs) ∧ best.2 ≤ found.2
      ∧ ∀ p ∈ ps, p.length cs ≤ found.2 := by
  induction ps generalizing best with
  | nil => exact ⟨hbest, Nat.le_refl _, fun _ hmem => nomatch hmem⟩
  | cons p ps ih =>
      rw [List.foldl_cons]
      by_cases hlt : best.2 < p.length cs
      · obtain ⟨hmatch, hle, hall⟩ := ih (p, p.length cs) (Or.inr rfl)
        rw [if_pos hlt]
        exact ⟨hmatch, Nat.le_trans (Nat.le_of_lt hlt) hle, List.forall_mem_cons.2 ⟨hle, hall⟩⟩
      · obtain ⟨hmatch, hle, hall⟩ := ih best hbest
        rw [if_neg hlt]
        exact ⟨hmatch, hle,
          List.forall_mem_cons.2 ⟨Nat.le_trans (Nat.le_of_not_lt hlt) hle, hall⟩⟩

/-- The longest match is that of its own pattern. -/
theorem longest_eq_length {cs : List Char} (h : (longest cs).2 ≠ 0) :
    (longest cs).2 = (longest cs).1.length cs :=
  (foldl_longest cs all (.blank, 0) (Or.inl rfl)).1.resolve_left h

/-- No pattern matches more than the longest match. -/
theorem length_le_longest (p : Pattern) (cs : List Char) : p.length cs ≤ (longest cs).2 :=
  (foldl_longest cs all (.blank, 0) (Or.inl rfl)).2.2 p p.mem_all

/-- The longest match is in the text. -/
theorem longest_le (cs : List Char) : (longest cs).2 ≤ cs.length := by
  by_cases h : (longest cs).2 = 0
  · rw [h]
    exact Nat.zero_le _
  · rw [longest_eq_length h]
    exact length_le _ cs

/-- The pattern that matches most is found, if there is only one. -/
theorem longest_of_unique {p : Pattern} {cs : List Char}
    (h : ∀ q, q ≠ p → q.length cs < p.length cs) (hpos : 0 < p.length cs) :
    longest cs = (p, p.length cs) := by
  have hle : p.length cs ≤ (longest cs).2 := length_le_longest p cs
  have hlength : (longest cs).2 = (longest cs).1.length cs := longest_eq_length (by omega)
  have hp : (longest cs).1 = p := by
    by_cases heq : (longest cs).1 = p
    · exact heq
    · have hlt : (longest cs).1.length cs < p.length cs := h _ heq
      omega
  rw [hp] at hlength
  exact Prod.ext hp hlength

end Pattern

/-! ## Names and hexadecimal integers -/

/-- Whether a text is an identifier as a whole. -/
def isName : List Char → Bool
  | [] => false
  | c :: rest => isNameStart c && rest.all isNamePart

/-- No name starts with a digit. -/
theorem isDigit_of_isNameStart {c : Char} (h : isNameStart c = true) : c.isDigit = false := by
  refine Bool.eq_false_iff.2 fun hdigit => ?_
  obtain ⟨-, hhigh⟩ := Char.isDigit_iff_toNat.1 hdigit
  have hle : c.toNat ≤ 57 := hhigh
  rcases Bool.or_eq_true_iff.1 h with halpha | hunderscore
  · rcases Bool.or_eq_true_iff.1 halpha with hupper | hlower
    · have hge : 65 ≤ c.toNat := (of_decide_eq_true hupper).1
      omega
    · have hge : 97 ≤ c.toNat := of_decide_eq_true (Bool.and_eq_true_iff.1 hlower).1
      omega
  · obtain rfl := of_decide_eq_true hunderscore
    exact absurd hle (by decide)

/-- A name starts with nothing but what names start with. -/
theorem ne_of_isNameStart {c d : Char} (h : isNameStart c = true) (hd : isNameStart d = false) :
    c ≠ d := by
  rintro rfl
  rw [h] at hd
  exact nomatch hd

/-- The start of a name is the start of a word. -/
theorem startsWord_of_isNameStart {c : Char} (h : isNameStart c = true) (rest : List Char) :
    StartsWord (c :: rest) := by
  refine ⟨c, rest, rfl, Bool.eq_false_iff.2 ?_, ne_of_isNameStart h (by decide)⟩
  intro hblank
  rw [isNameStart_of_isGap c (Bool.or_eq_true_iff.2 (Or.inl hblank))] at h
  exact nomatch h

/-- A name that stands alone is one identifier. -/
theorem longest_identifier {w : List Char} (h : isName w = true) :
    StartsWord w ∧ Pattern.longest w = (.identifier, w.length) := by
  cases w with
  | nil => exact nomatch h
  | cons c rest =>
      obtain ⟨hstart, hrest⟩ := Bool.and_eq_true_iff.1 h
      have hword : StartsWord (c :: rest) := startsWord_of_isNameStart hstart rest
      have hname : Pattern.identifier.length (c :: rest) = (c :: rest).length := by
        show Pattern.identifierLength (c :: rest) = _
        rw [Pattern.identifierLength, if_pos hstart, countWhile_of_all (List.all_eq_true.1 hrest)]
        rfl
      have hdecimal : Pattern.decimalLength (c :: rest) = 0 := by
        have hminus : c ≠ '-' := ne_of_isNameStart hstart (by decide)
        rw [Pattern.decimalLength_of_not_minus fun more hm => hminus (List.cons.inj hm).1,
          countWhile_cons, isDigit_of_isNameStart hstart]
        rfl
      refine ⟨hword, ?_⟩
      rw [← hname]
      refine Pattern.longest_of_unique ?_ (by rw [hname]; exact Nat.succ_pos _)
      intro q hq
      rw [hname]
      -- no other pattern matches anything in front of a letter
      suffices hzero : q.length (c :: rest) = 0 by rw [hzero]; exact Nat.succ_pos _
      cases q with
      | identifier => exact absurd rfl hq
      | blank => exact hword.blankLength
      | comment => exact hword.commentLength
      | decimal => exact hdecimal
      | hexadecimal =>
          have hzero : c ≠ '0' := ne_of_isNameStart hstart (by decide)
          exact Pattern.hexadecimalLength_of_not_mark fun more hm => hzero (List.cons.inj hm).1
      | fractional =>
          show Pattern.fractionalLength (c :: rest) = 0
          rw [Pattern.fractionalLength, hdecimal]
          rfl

/-- A decimal integer that stands alone is one piece. -/
theorem longest_decimal {digits : List Char} (hne : digits ≠ [])
    (h : ∀ c ∈ digits, c.isDigit = true) :
    StartsWord digits ∧ Pattern.longest digits = (.decimal, digits.length) := by
  have hcount : Pattern.decimalLength digits = digits.length := by
    rw [Pattern.decimalLength_of_not_minus (Pattern.ne_minus_cons h), countWhile_of_all h]
  have hpos : 0 < digits.length := List.length_pos_iff.2 hne
  obtain ⟨c, rest, rfl⟩ := List.exists_cons_of_ne_nil hne
  have hc : c.isDigit = true := h c List.mem_cons_self
  have hword : StartsWord (c :: rest) := by
    refine ⟨c, rest, rfl, Bool.eq_false_iff.2 fun hblank => ?_, ?_⟩
    · rw [isDigit_of_isGap c (Bool.or_eq_true_iff.2 (Or.inl hblank))] at hc
      exact nomatch hc
    · rintro rfl
      exact nomatch hc
  have hdecimal : Pattern.decimal.length (c :: rest) = (c :: rest).length := hcount
  refine ⟨hword, ?_⟩
  rw [← hdecimal]
  refine Pattern.longest_of_unique ?_ (by rw [hdecimal]; exact hpos)
  intro q hq
  rw [hdecimal]
  suffices hzero : q.length (c :: rest) = 0 by rw [hzero]; exact hpos
  cases q with
  | decimal => exact absurd rfl hq
  | blank => exact hword.blankLength
  | comment => exact hword.commentLength
  | identifier =>
      have hname : ¬ isNameStart c = true := fun hstart => by
        rw [isDigit_of_isNameStart hstart] at hc
        exact nomatch hc
      show Pattern.identifierLength (c :: rest) = 0
      rw [Pattern.identifierLength, if_neg hname]
  | hexadecimal =>
      refine Pattern.hexadecimalLength_of_not_mark fun more hm => ?_
      obtain ⟨rfl, rfl⟩ := List.cons.inj hm
      exact nomatch h 'x' (List.mem_cons_of_mem _ List.mem_cons_self)
  | fractional =>
      -- nothing is left behind the digits, so no point is
      show Pattern.fractionalLength (c :: rest) = 0
      rw [Pattern.fractionalLength, hcount, List.drop_length]
      exact ite_self 0

/-- A hexadecimal integer that stands alone is one piece. -/
theorem longest_hexadecimal {digits : List Char} (hne : digits ≠ [])
    (h : ∀ c ∈ digits, Text.isHexDigit c = true) :
    StartsWord ('0' :: 'x' :: digits)
      ∧ Pattern.longest ('0' :: 'x' :: digits) = (.hexadecimal, digits.length + 2) := by
  have hword : StartsWord ('0' :: 'x' :: digits) := ⟨'0', 'x' :: digits, rfl, rfl, by decide⟩
  have hcount : countWhile Text.isHexDigit digits = digits.length := countWhile_of_all h
  have hpos : 0 < digits.length := List.length_pos_iff.2 hne
  have hhex : Pattern.hexadecimal.length ('0' :: 'x' :: digits) = digits.length + 2 := by
    show Pattern.hexadecimalLength ('0' :: 'x' :: digits) = _
    rw [Pattern.hexadecimalLength, hcount]
    exact if_neg (Nat.ne_of_gt hpos)
  refine ⟨hword, ?_⟩
  rw [← hhex]
  refine Pattern.longest_of_unique ?_ (by rw [hhex]; exact Nat.succ_pos _)
  intro q hq
  rw [hhex]
  cases q with
  | hexadecimal => exact absurd rfl hq
  | blank => exact hword.blankLength ▸ Nat.succ_pos _
  | comment => exact hword.commentLength ▸ Nat.succ_pos _
  | identifier => exact Nat.succ_pos _
  | decimal =>
      -- the decimal integer ends after the zero
      show 1 < digits.length + 2
      omega
  | fractional => exact Nat.succ_pos _

end Coprocessor.Script
