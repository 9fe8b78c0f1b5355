import Mathlib.Data.List.Forall2
import Coprocessor.Proofs.Script.Places
import Coprocessor.Proofs.Success
import Coprocessor.Proofs.Text.Caseless
import Coprocessor.Script.Source

/-!
# Recasing — the pieces of a text in small letters and in capitals

The pieces of a line are told by classes of characters that hold both forms of a letter
or neither. Only the mark of a hexadecimal integer has one form. So if letters change
their case, but no `x` behind a zero does, the text is cut in the same places, and its
tokens are the same but for the case of names and fractional numbers.

  • `Recased` — a text whose letters have changed their case, but for such an `x`.
  • `Pattern.commentLength_toLower` and the lemmas around it — what matches in front is
    as long in small letters.
  • `Recased.longest_eq` — so the same pattern matches, at the same length.
  • `Token.Recased`, `alike_scanFrom` — tokens but for their case, and the scans of both
    texts.
  • `recased_splitLines` — the lines of both texts.
-/

namespace Coprocessor.Script

open Text (Caseless)

/-! ## Texts that differ in case -/

/-- A text whose letters may have changed their case, but for an `x` behind a zero;
    `zero` tells whether a zero stands in front of the text. -/
inductive Recased : Bool → List Char → List Char → Prop where
  | nil (zero : Bool) : Recased zero [] []
  | cons {zero : Bool} {c d : Char} {cs ds : List Char} (letter : d.toLower = c.toLower)
      (mark : zero = true → c.toLower = 'x' → d = c) (rest : Recased (c == '0') cs ds) :
      Recased zero (c :: cs) (d :: ds)

/-- Whether only letters have changed their case is found by going along both texts. -/
def Recased.decide : (zero : Bool) → (cs ds : List Char) → Decidable (Recased zero cs ds)
  | zero, [], [] => isTrue (.nil zero)
  | _, [], _ :: _ => isFalse (fun h => by cases h)
  | _, _ :: _, [] => isFalse (fun h => by cases h)
  | zero, c :: cs, d :: ds =>
      match Recased.decide (c == '0') cs ds with
      | isTrue hrest =>
          decidable_of_iff (d.toLower = c.toLower ∧ (zero = true → c.toLower = 'x' → d = c))
            ⟨fun ⟨hletter, hmark⟩ => .cons hletter hmark hrest,
              fun h => by cases h with | cons hletter hmark _ => exact ⟨hletter, hmark⟩⟩
      | isFalse hrest => isFalse (fun h => by cases h with | cons _ _ h => exact hrest h)

instance (zero : Bool) (cs ds : List Char) : Decidable (Recased zero cs ds) :=
  Recased.decide zero cs ds

namespace Recased

variable {zero : Bool} {cs ds : List Char}

/-- In small letters both texts are the same. -/
theorem lower (h : Recased zero cs ds) : ds.map Char.toLower = cs.map Char.toLower := by
  induction h with
  | nil _ => rfl
  | cons letter _ _ ih => rw [List.map_cons, List.map_cons, letter, ih]

/-- Writing anew goes both ways. -/
theorem symm (h : Recased zero cs ds) : Recased zero ds cs := by
  induction h with
  | nil zero => exact .nil zero
  | @cons zero c d cs ds letter mark _ ih =>
      have hzero : (d == '0') = (c == '0') :=
        (Text.caseless_eq (d := '0') (by decide)).congr letter
      refine .cons letter.symm (fun hfront hx => (mark hfront (letter ▸ hx)).symm) ?_
      rw [hzero]
      exact ih

/-- What is behind some characters is written anew as well. -/
theorem drop (h : Recased zero cs ds) (n : Nat) :
    ∃ zero, Recased zero (cs.drop n) (ds.drop n) := by
  induction n generalizing zero cs ds with
  | zero => exact ⟨zero, h⟩
  | succ n ih =>
      cases h with
      | nil zero => exact ⟨zero, .nil zero⟩
      | cons _ _ rest => exact ih rest

/-- The mark of a hexadecimal integer is kept. -/
theorem exists_mark {rest : List Char} (h : Recased zero ('0' :: 'x' :: rest) ds) :
    ∃ rest', ds = '0' :: 'x' :: rest' ∧ rest'.map Char.toLower = rest.map Char.toLower := by
  cases h with
  | cons hzero _ h =>
      cases h with
      | cons _ hx h =>
          obtain rfl := (Text.toLower_eq_iff (d := '0') (by decide) _).1 hzero
          obtain rfl := hx rfl rfl
          exact ⟨_, rfl, h.lower⟩

/-- What takes no notice of letter case is the same for both texts. -/
theorem congr {α : Type} (h : Recased zero cs ds) {f : List Char → α}
    (hf : ∀ cs, f (cs.map Char.toLower) = f cs) : f ds = f cs := by
  rw [← hf ds, h.lower, hf cs]

end Recased

/-! ## Pieces -/

/-- A count that takes no notice of case is the same in small letters. -/
theorem countWhile_toLower {p : Char → Bool} (hp : Caseless p) (cs : List Char) :
    countWhile p (cs.map Char.toLower) = countWhile p cs := by
  rw [countWhile, hp.takeWhile_map, List.length_map]
  rfl

/-- A text that does not start with a character that is no letter does not do so in
    small letters either. -/
theorem toLower_ne_cons {d : Char}
    (hd : ∀ n < 26, Char.ofNat (97 + n) ≠ d ∧ Char.ofNat (65 + n) ≠ d) {cs : List Char}
    (h : ∀ more, cs ≠ d :: more) : ∀ more, cs.map Char.toLower ≠ d :: more := by
  intro more heq
  obtain ⟨c, rest, rfl, hc, -⟩ := List.map_eq_cons_iff.1 heq
  obtain rfl := (Text.toLower_eq_iff hd c).1 hc
  exact h rest rfl

theorem caseless_isBlank : Caseless isBlank := Text.caseless_of_letters (by decide)

theorem caseless_isNameStart : Caseless isNameStart := Text.caseless_of_letters (by decide)

theorem caseless_isNamePart : Caseless isNamePart := Text.caseless_of_letters (by decide)

namespace Pattern

/-- A comment is as long in small letters. -/
theorem commentLength_toLower (cs : List Char) :
    commentLength (cs.map Char.toLower) = commentLength cs := by
  have hline : Caseless fun c => c != '\n' := Text.caseless_of_letters (by decide)
  by_cases hmark : ∃ more, cs = '#' :: more
  · obtain ⟨more, rfl⟩ := hmark
    show countWhile _ (more.map Char.toLower) + 1 = countWhile _ more + 1
    rw [countWhile_toLower hline]
  · have hno : ∀ more, cs ≠ '#' :: more := fun more heq => hmark ⟨more, heq⟩
    rw [commentLength, commentLength]
    · exact hno
    · exact toLower_ne_cons (by decide) hno

/-- A name is as long in small letters. -/
theorem identifierLength_toLower (cs : List Char) :
    identifierLength (cs.map Char.toLower) = identifierLength cs := by
  cases cs with
  | nil => rfl
  | cons c rest =>
      rw [List.map_cons, identifierLength, identifierLength, caseless_isNameStart,
        countWhile_toLower caseless_isNamePart]

/-- A decimal number has no letters. -/
theorem decimalLength_toLower (cs : List Char) :
    decimalLength (cs.map Char.toLower) = decimalLength cs := by
  by_cases hminus : ∃ more, cs = '-' :: more
  · obtain ⟨more, rfl⟩ := hminus
    show decimalLength ('-' :: more.map Char.toLower) = _
    rw [decimalLength, decimalLength, countWhile_toLower Text.caseless_isDigit]
  · have hno : ∀ more, cs ≠ '-' :: more := fun more heq => hminus ⟨more, heq⟩
    rw [decimalLength_of_not_minus hno,
      decimalLength_of_not_minus (toLower_ne_cons (by decide) hno),
      countWhile_toLower Text.caseless_isDigit]

theorem signedDigitsLength_toLower (cs : List Char) :
    signedDigitsLength (cs.map Char.toLower) = signedDigitsLength cs := by
  by_cases hplus : ∃ more, cs = '+' :: more
  · obtain ⟨more, rfl⟩ := hplus
    show signedDigitsLength ('+' :: more.map Char.toLower) = _
    rw [signedDigitsLength, signedDigitsLength, countWhile_toLower Text.caseless_isDigit]
  · have hno : ∀ more, cs ≠ '+' :: more := fun more heq => hplus ⟨more, heq⟩
    rw [signedDigitsLength_of_not_plus hno,
      signedDigitsLength_of_not_plus (toLower_ne_cons (by decide) hno), decimalLength_toLower]

/-- The mark of an exponent counts in either case. -/
theorem exponentLength_toLower (cs : List Char) :
    exponentLength (cs.map Char.toLower) = exponentLength cs := by
  cases cs with
  | nil => rfl
  | cons c rest =>
      have hmark : Caseless fun c => decide (c = 'e' ∨ c = 'E') :=
        Text.caseless_of_letters (by decide)
      rw [List.map_cons, exponentLength, exponentLength, signedDigitsLength_toLower]
      simp only [decide_eq_decide.1 (hmark c)]

/-- Behind a point there may be an exponent in either case. -/
theorem pointLength_toLower (cs : List Char) :
    pointLength (cs.map Char.toLower) = pointLength cs := by
  by_cases hpoint : ∃ more, cs = '.' :: more
  · obtain ⟨more, rfl⟩ := hpoint
    show pointLength ('.' :: more.map Char.toLower) = _
    rw [pointLength, pointLength, countWhile_toLower Text.caseless_isDigit, ← List.map_drop,
      exponentLength_toLower]
  · have hno : ∀ more, cs ≠ '.' :: more := fun more heq => hpoint ⟨more, heq⟩
    rw [pointLength_of_not_point hno, pointLength_of_not_point (toLower_ne_cons (by decide) hno)]

/-- A fractional number is as long in small letters. -/
theorem fractionalLength_toLower (cs : List Char) :
    fractionalLength (cs.map Char.toLower) = fractionalLength cs := by
  rw [fractionalLength, fractionalLength, decimalLength_toLower, ← List.map_drop,
    pointLength_toLower]

end Pattern

/-- Letters of either case take one byte. -/
theorem byteLength_toLower (cs : List Char) : byteLength (cs.map Char.toLower) = byteLength cs := by
  have hcomp : Char.utf8Size ∘ Char.toLower = Char.utf8Size := funext Text.caseless_utf8Size
  rw [byteLength, List.map_map, hcomp]
  rfl

namespace Recased

open Pattern

variable {zero : Bool} {cs ds : List Char}

/-- A hexadecimal integer is as long in either case, once its mark is the same. -/
theorem hexadecimalLength_eq (h : Recased zero cs ds) :
    hexadecimalLength ds = hexadecimalLength cs := by
  by_cases hmark : ∃ rest, cs = '0' :: 'x' :: rest
  · obtain ⟨rest, rfl⟩ := hmark
    obtain ⟨rest', rfl, hlower⟩ := h.exists_mark
    rw [hexadecimalLength, hexadecimalLength, ← countWhile_toLower Text.caseless_isHexDigit rest',
      hlower, countWhile_toLower Text.caseless_isHexDigit]
  · have hno : ∀ rest, ds ≠ '0' :: 'x' :: rest := by
      rintro rest rfl
      obtain ⟨rest', heq, -⟩ := h.symm.exists_mark
      exact hmark ⟨rest', heq⟩
    rw [hexadecimalLength_of_not_mark hno,
      hexadecimalLength_of_not_mark fun rest heq => hmark ⟨rest, heq⟩]

/-- Every pattern matches as much in either case. -/
theorem length_eq (h : Recased zero cs ds) (p : Pattern) : p.length ds = p.length cs := by
  cases p with
  | blank => exact h.congr (countWhile_toLower caseless_isBlank)
  | comment => exact h.congr commentLength_toLower
  | identifier => exact h.congr identifierLength_toLower
  | decimal => exact h.congr decimalLength_toLower
  | hexadecimal => exact h.hexadecimalLength_eq
  | fractional => exact h.congr fractionalLength_toLower

/-- The same pattern matches in front, at the same length. -/
theorem longest_eq (h : Recased zero cs ds) : longest ds = longest cs := by
  simp only [longest, h.length_eq]

end Recased

/-! ## Tokens -/

/-- The same token, or names or fractional numbers that differ in letter case. -/
inductive Token.Recased : Token → Token → Prop where
  | same (t : Token) : Recased t t
  | identifier {name name' : String} (h : name'.toLower = name.toLower) :
      Recased (.identifier name) (.identifier name')
  | fractional {text text' : String} (h : text'.toLower = text.toLower) :
      Recased (.fractional text) (.fractional text')

/-- Such tokens at the same column. -/
structure Located.Recased (t u : Located) : Prop where
  token : t.token.Recased u.token
  column : u.column = t.column

/-- What a piece means, but for letter case. -/
inductive Pattern.Meaning.Recased : Pattern.Meaning → Pattern.Meaning → Prop where
  | skipped : Recased .skipped .skipped
  | tooLarge : Recased .tooLarge .tooLarge
  | token {t u : Token} (h : t.Recased u) : Recased (.token t) (.token u)

namespace Pattern

/-- Every meaning may stay as it is. -/
theorem Meaning.Recased.refl (m : Meaning) : m.Recased m := by
  cases m with
  | skipped => exact .skipped
  | tooLarge => exact .tooLarge
  | token t => exact .token (.same t)

/-- A decimal number is the same in small letters. -/
theorem decimalValue_toLower (piece : List Char) :
    decimalValue (piece.map Char.toLower) = decimalValue piece := by
  by_cases hminus : ∃ more, piece = '-' :: more
  · obtain ⟨more, rfl⟩ := hminus
    show decimalValue ('-' :: more.map Char.toLower) = _
    rw [decimalValue, decimalValue, Text.ofDigits_toLower]
  · have hno : ∀ more, piece ≠ '-' :: more := fun more heq => hminus ⟨more, heq⟩
    rw [decimalValue, decimalValue, Text.ofDigits_toLower]
    · exact hno
    · exact toLower_ne_cons (by decide) hno

theorem toLower_ofList (piece : List Char) :
    (String.ofList piece).toLower = String.ofList (piece.map Char.toLower) := by
  refine String.toList_inj.1 (String.toList_map.trans ?_)
  rw [String.toList_ofList, String.toList_ofList]

/-- Integers have a value in either case, and all else is the same but for its case. -/
theorem meaning_recased {piece piece' : List Char}
    (h : piece'.map Char.toLower = piece.map Char.toLower) (p : Pattern) :
    (p.meaning piece).Recased (p.meaning piece') := by
  cases p with
  | blank => exact .skipped
  | comment => exact .skipped
  | identifier =>
      refine .token (.identifier ?_)
      rw [toLower_ofList, toLower_ofList, h]
  | decimal =>
      have hvalue : decimalValue piece' = decimalValue piece := by
        rw [← decimalValue_toLower piece', h, decimalValue_toLower]
      rw [meaning, meaning, hvalue]
      exact .refl _
  | hexadecimal =>
      have hvalue : Text.ofDigits 16 (piece'.drop 2) = Text.ofDigits 16 (piece.drop 2) := by
        rw [← Text.ofDigits_toLower 16 (piece'.drop 2), List.map_drop, h, ← List.map_drop,
          Text.ofDigits_toLower]
      rw [meaning, meaning, hvalue]
      exact .refl _
  | fractional =>
      refine .token (.fractional ?_)
      rw [toLower_ofList, toLower_ofList, h]

end Pattern

/-- The tokens behind a piece follow the token of the piece. -/
theorem alike_behind {column : Nat} {x y : Except Nat (List Located)}
    (h : Alike (List.Forall₂ Located.Recased) x y) {t u : Token} (htoken : t.Recased u) :
    Alike (List.Forall₂ Located.Recased) (x.map (⟨t, column⟩ :: ·)) (y.map (⟨u, column⟩ :: ·)) := by
  cases h with
  | error e => exact .error e
  | ok htokens => exact .ok (.cons ⟨htoken, rfl⟩ htokens)

/-- A scan makes the same tokens of both texts but for letter case, at the same columns,
    or it fails at the same column. -/
theorem alike_scanFrom {zero : Bool} {cs ds : List Char} (h : Recased zero cs ds) (column : Nat) :
    Alike (List.Forall₂ Located.Recased) (scanFrom column cs) (scanFrom column ds) := by
  induction cs using pieces generalizing zero ds column with
  | nil =>
      cases h with
      | nil _ =>
          rw [scanFrom_nil]
          exact .ok .nil
  | blank c rest hblank ih =>
      cases h with
      | @cons _ _ d _ ds letter _ hrest =>
          have hblank' : isBlank d = true := (caseless_isBlank.congr letter).trans hblank
          rw [scanFrom_blank hblank, scanFrom_blank hblank']
          exact ih hrest _
  | stuck c rest _ hnone =>
      have hne : ds ≠ [] := by
        rintro rfl
        exact nomatch h
      have hnone' : (Pattern.longest ds).2 = 0 := by rw [h.longest_eq, hnone]
      rw [scanFrom_of_none (List.cons_ne_nil c rest) hnone, scanFrom_of_none hne hnone']
      exact .error column
  | piece c rest p n _ hlongest hn ih =>
      have hlongest' : Pattern.longest ds = (p, n) := h.longest_eq.trans hlongest
      -- the pieces are as long, so they are the same in small letters and in bytes
      have htake : (ds.take n).map Char.toLower = ((c :: rest).take n).map Char.toLower := by
        rw [List.map_take, h.lower, ← List.map_take]
      have hlength : byteLength (ds.take n) = byteLength ((c :: rest).take n) := by
        rw [← byteLength_toLower, htake, byteLength_toLower]
      obtain ⟨zero', hrest⟩ := h.drop n
      rw [scanFrom_of_longest hlongest hn, scanFrom_of_longest hlongest' hn, hlength]
      have hmeaning := Pattern.meaning_recased htake p
      generalize p.meaning ((c :: rest).take n) = m at hmeaning ⊢
      generalize p.meaning (ds.take n) = m' at hmeaning ⊢
      cases hmeaning with
      | skipped => exact ih hrest _
      | tooLarge => exact .error column
      | token htoken => exact alike_behind (ih hrest _) htoken

/-! ## Lines -/

/-- The same newlines cut both texts into lines. -/
theorem recased_splitLines {zero : Bool} {cs ds : List Char} (h : Recased zero cs ds) :
    ∃ first more first' more', splitLines cs = first :: more ∧ splitLines ds = first' :: more'
      ∧ Recased zero first first'
      ∧ List.Forall₂ (fun l l' => ∃ zero, Recased zero l l') more more' := by
  induction h with
  | nil zero => exact ⟨[], [], [], [], rfl, rfl, .nil zero, .nil⟩
  | @cons zero c d cs ds letter mark _ ih =>
      obtain ⟨first, more, first', more', hcs, hds, hfirst, hmore⟩ := ih
      by_cases hc : c = '\n'
      · subst hc
        obtain rfl := (Text.toLower_eq_iff (d := '\n') (by decide) d).1 letter
        refine ⟨[], splitLines cs, [], splitLines ds, if_pos rfl, if_pos rfl, .nil zero, ?_⟩
        rw [hcs, hds]
        exact .cons ⟨_, hfirst⟩ hmore
      · have hd : d ≠ '\n' := by
          rintro rfl
          exact hc ((Text.toLower_eq_iff (d := '\n') (by decide) c).1 letter.symm)
        refine ⟨c :: first, more, d :: first', more', ?_, ?_, .cons letter mark hfirst, hmore⟩
        · rw [splitLines, if_neg hc, hcs]
        · rw [splitLines, if_neg hd, hds]

end Coprocessor.Script
