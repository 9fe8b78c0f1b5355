import Coprocessor.Proofs.Binary.Decimals
import Coprocessor.Proofs.Script.Notations
import Coprocessor.Proofs.Script.Segments

/-!
# Fractions — numbers with a point, rounded once

A number with a point is an exact rational number, told by its shape and the values of the
places of its digits. A write reads it at its own width and rounds it in one step, so a
32-bit word is not the rounding of a 64-bit one. Nothing that a scan takes for such a
number fails to be read.

  • `Power`, `Amount` — the number that an exponent stands for, and the sign and the
    magnitude of a whole text; `exists_amount` gives every text of the pattern one.
  • `Amount.exists_decimal` — the decimal that is read is that number.
  • `mem_fractional` — the tokens of a scan that are such numbers are texts of the
    pattern.
  • `literal_rounded_once` — both words of such a token.
-/

namespace Coprocessor.Script

open Binary (Decimal Format)
open Computability

/-! ## The number of a text -/

/-- The number that an exponent with its mark stands for, or none at all. -/
inductive Power : List Char → ℤ → Prop where
  | none : Power [] 0
  | unsigned {mark : Char} {digits : List Char} (hmark : mark = 'e' ∨ mark = 'E')
      (hdigits : digits ∈ several digit) : Power (mark :: digits) (placeValue 10 digits)
  | plus {mark : Char} {digits : List Char} (hmark : mark = 'e' ∨ mark = 'E')
      (hdigits : digits ∈ several digit) : Power (mark :: '+' :: digits) (placeValue 10 digits)
  | minus {mark : Char} {digits : List Char} (hmark : mark = 'e' ∨ mark = 'E')
      (hdigits : digits ∈ several digit) : Power (mark :: '-' :: digits) (-placeValue 10 digits)

/-- The sign and the magnitude of a number with a point: the digits in front of the point,
those behind it as a fraction, and a power of ten. -/
inductive Amount : List Char → Bool → ℚ → Prop where
  | unsigned {whole fraction power : List Char} {e : ℤ} (hwhole : whole ∈ several digit)
      (hfraction : fraction ∈ digit∗) (hpower : Power power e) :
      Amount (whole ++ '.' :: (fraction ++ power)) false
        ((placeValue 10 whole + placeValue 10 fraction / 10 ^ fraction.length) * 10 ^ e)
  | minus {text : List Char} {x : ℚ} (h : Amount text false x) : Amount ('-' :: text) true x

/-- Every exponent of the language has a power. -/
theorem exists_power {power : List Char} (h : power ∈ exponent) : ∃ e, Power power e := by
  obtain ⟨mark, hmark, signed, hsigned, rfl⟩ := Language.mem_mul.1 h
  obtain ⟨sign, hsign, digits, hdigits, rfl⟩ := Language.mem_mul.1 hsigned
  obtain ⟨c, rfl, hc⟩ : ∃ c, mark = [c] ∧ (c = 'e' ∨ c = 'E') := by
    rcases hmark with rfl | rfl
    · exact ⟨'e', rfl, Or.inl rfl⟩
    · exact ⟨'E', rfl, Or.inr rfl⟩
  rcases hsign with rfl | rfl | rfl
  · exact ⟨_, .unsigned hc hdigits⟩
  · exact ⟨_, .plus hc hdigits⟩
  · exact ⟨_, .minus hc hdigits⟩

/-- Every text of the pattern is a number. -/
theorem exists_amount {text : List Char} (h : text ∈ Pattern.fractional.language) :
    ∃ negative x, Amount text negative x := by
  obtain ⟨front, hfront, point, hpoint, rfl⟩ := Language.mem_mul.1 h
  obtain ⟨fraction, power, rfl, hfraction, hpower⟩ := Pattern.mem_point.1 hpoint
  obtain ⟨whole, hwhole, hne, hdigits⟩ := Pattern.mem_decimal.1 hfront
  obtain ⟨e, he⟩ : ∃ e, Power power e := by
    rcases hpower with rfl | hpower
    · exact ⟨0, .none⟩
    · exact exists_power hpower
  have hamount := Amount.unsigned (tests_digit.mem_several.2 ⟨hne, hdigits⟩)
    (tests_digit.mem_kstar.2 hfraction) he
  rcases hwhole with rfl | rfl
  · exact ⟨false, _, hamount⟩
  · exact ⟨true, _, .minus hamount⟩

/-! ## The decimal that is read -/

/-- Digits end where a text does or at a character that is no digit. -/
theorem span_digits {digits rest : List Char} (hdigits : ∀ c ∈ digits, c.isDigit = true)
    (hrest : rest = [] ∨ ∃ c more, rest = c :: more ∧ c.isDigit = false) :
    (digits ++ rest).span Char.isDigit = (digits, rest) := by
  have htake : rest.takeWhile Char.isDigit = [] ∧ rest.dropWhile Char.isDigit = rest := by
    rcases hrest with rfl | ⟨c, more, rfl, hc⟩
    · exact ⟨rfl, rfl⟩
    · have hnot : ¬ c.isDigit = true := fun h => nomatch hc.symm.trans h
      exact ⟨List.takeWhile_cons_of_neg hnot, List.dropWhile_cons_of_neg hnot⟩
  rw [List.span_eq_takeWhile_dropWhile, List.takeWhile_append_of_pos hdigits,
    List.dropWhile_append_of_pos hdigits, htake.1, htake.2, List.append_nil]

/-- Digits have no sign. -/
theorem splitSign_digits {digits : List Char} (h : digits ∈ several digit) (rest : List Char) :
    Binary.splitSign (digits ++ rest) = (false, digits ++ rest) := by
  obtain ⟨hne, hall⟩ := tests_digit.mem_several.1 h
  obtain ⟨c, more, rfl⟩ := List.exists_cons_of_ne_nil hne
  have hc : c.isDigit = true := hall c List.mem_cons_self
  refine Binary.splitSign_of_ne ?_ ?_ (more ++ rest)
  · rintro rfl
    exact absurd hc (by decide)
  · rintro rfl
    exact absurd hc (by decide)

/-- An exponent is read as the number that it stands for. -/
theorem Power.exponent?_eq {power : List Char} {e : ℤ} (h : Power power e) :
    Binary.exponent? power = some e := by
  have hread {mark : Char} {signed digits : List Char} {negative : Bool}
      (hmark : mark = 'e' ∨ mark = 'E') (hdigits : digits ∈ several digit)
      (hsign : Binary.splitSign signed = (negative, digits)) :
      Binary.exponent? (mark :: signed)
        = some (if negative then -(placeValue 10 digits : ℤ) else placeValue 10 digits) := by
    obtain ⟨hne, hall⟩ := tests_digit.mem_several.1 hdigits
    rw [Binary.exponent?, if_pos hmark, hsign, placeValue_digits hall]
    exact if_pos ⟨hne, List.all_eq_true.2 hall⟩
  cases h with
  | none => rfl
  | @unsigned mark digits hmark hdigits =>
      have hsign := splitSign_digits hdigits []
      rw [List.append_nil] at hsign
      exact hread hmark hdigits hsign
  | @plus mark digits hmark hdigits =>
      have hsign : Binary.splitSign ('+' :: digits) = (false, digits) := rfl
      exact hread hmark hdigits hsign
  | @minus mark digits hmark hdigits =>
      have hsign : Binary.splitSign ('-' :: digits) = (true, digits) := rfl
      exact hread hmark hdigits hsign

/-- An exponent ends the digits in front of it. -/
theorem Power.ends {power : List Char} {e : ℤ} (h : Power power e) :
    power = [] ∨ ∃ c more, power = c :: more ∧ c.isDigit = false := by
  have hletter {mark : Char} (hmark : mark = 'e' ∨ mark = 'E') : mark.isDigit = false := by
    rcases hmark with rfl | rfl
    · rfl
    · rfl
  cases h with
  | none => exact Or.inl rfl
  | unsigned hmark _ => exact Or.inr ⟨_, _, rfl, hletter hmark⟩
  | plus hmark _ => exact Or.inr ⟨_, _, rfl, hletter hmark⟩
  | minus hmark _ => exact Or.inr ⟨_, _, rfl, hletter hmark⟩

/-- Digits in front weigh what the places behind them leave. -/
theorem placeValue_append (base : ℕ) (front back : List Char) :
    placeValue base (front ++ back)
      = placeValue base back + base ^ back.length * placeValue base front := by
  rw [placeValue, List.reverse_append, List.map_append, Nat.ofDigits_append, List.length_map,
    List.length_reverse]
  rfl

/-- The digits around a point are read as one coefficient, the point being in the exponent. -/
theorem exists_read_decimal {whole fraction power : List Char} {e : ℤ}
    (hwhole : whole ∈ several digit) (hfraction : fraction ∈ digit∗) (hpower : Power power e)
    (negative : Bool) :
    ∃ d : Decimal, Decimal.read? negative (whole ++ '.' :: (fraction ++ power)) = some d
      ∧ d.negative = negative
      ∧ d.magnitude
        = (placeValue 10 whole + placeValue 10 fraction / 10 ^ fraction.length) * 10 ^ e := by
  obtain ⟨hne, hdigits⟩ := tests_digit.mem_several.1 hwhole
  have hdigits' := tests_digit.mem_kstar.1 hfraction
  have hspan : (whole ++ '.' :: (fraction ++ power)).span Char.isDigit
      = (whole, '.' :: (fraction ++ power)) := span_digits hdigits (Or.inr ⟨'.', _, rfl, rfl⟩)
  have hsplit : Binary.splitFraction ('.' :: (fraction ++ power)) = (fraction, power) :=
    span_digits hdigits' hpower.ends
  refine ⟨⟨negative, Text.ofDigits 10 (whole ++ fraction), e - fraction.length⟩, ?_, rfl, ?_⟩
  · rw [Decimal.read?, hspan]
    dsimp only
    rw [hsplit]
    dsimp only
    rw [if_neg fun hnil => hne hnil.1, hpower.exponent?_eq]
    rfl
  · have hall : ∀ c ∈ whole ++ fraction, c.isDigit = true := fun c hc =>
      (List.mem_append.1 hc).elim (hdigits c) (hdigits' c)
    -- the digits behind the point are behind the others once the exponent is lowered
    have hten : (10 : ℚ) ^ fraction.length ≠ 0 := pow_ne_zero _ (by norm_num)
    rw [Decimal.magnitude, ← placeValue_digits hall, placeValue_append,
      zpow_sub₀ (by norm_num), zpow_natCast]
    push_cast
    field_simp
    ring

/-- What is read from a text is the number that it is. -/
theorem Amount.exists_decimal {text : List Char} {negative : Bool} {x : ℚ}
    (h : Amount text negative x) : ∃ body d, Binary.splitSign text = (negative, body)
      ∧ Decimal.read? negative body = some d ∧ d.negative = negative ∧ d.magnitude = x := by
  cases h with
  | unsigned hwhole hfraction hpower =>
      obtain ⟨d, hd⟩ := exists_read_decimal hwhole hfraction hpower false
      exact ⟨_, d, splitSign_digits hwhole _, hd⟩
  | @minus text x h =>
      cases h with
      | unsigned hwhole hfraction hpower =>
          obtain ⟨d, hd⟩ := exists_read_decimal hwhole hfraction hpower true
          exact ⟨_, d, rfl, hd⟩

/-- A text is one number only. -/
theorem Amount.unique {text : List Char} {negative negative' : Bool} {x x' : ℚ}
    (h : Amount text negative x) (h' : Amount text negative' x') :
    negative' = negative ∧ x' = x := by
  obtain ⟨body, d, hsign, hread, -, rfl⟩ := h.exists_decimal
  obtain ⟨body', d', hsign', hread', -, rfl⟩ := h'.exists_decimal
  obtain ⟨rfl, rfl⟩ := Prod.mk.inj (hsign.symm.trans hsign')
  obtain rfl := Option.some.inj (hread.symm.trans hread')
  exact ⟨rfl, rfl⟩

/-- Such a text is read at every width, as the rounding of the number that it is. -/
theorem Amount.exists_read {text : List Char} {negative : Bool} {x : ℚ}
    (h : Amount text negative x) {f : Format} (hf : f.Regular) :
    ∃ bits, f.read? text = some bits ∧ f.IsRounded negative x bits := by
  obtain ⟨body, d, hsign, hread, rfl, rfl⟩ := h.exists_decimal
  refine ⟨f.ofDecimal d, ?_, Format.isRounded_ofDecimal hf d⟩
  rw [Format.read?, hsign]
  dsimp only
  rw [hread]

/-! ## Tokens of a scan -/

/-- A token is named by one of the segments. -/
theorem Lists.exists_segment {before : List Char} {segments : List Segment}
    {tokens : List Located} (h : Lists before segments tokens) {t : Located} (ht : t ∈ tokens) :
    ∃ s ∈ segments, s.Names t.token := by
  induction h with
  | nil before => exact nomatch ht
  | skip _ _ ih =>
      obtain ⟨s, hs, hnames⟩ := ih ht
      exact ⟨s, List.mem_cons_of_mem _ hs, hnames⟩
  | token hnames _ ih =>
      rcases List.mem_cons.1 ht with rfl | ht
      · exact ⟨_, List.mem_cons_self, hnames⟩
      · obtain ⟨s, hs, hnames⟩ := ih ht
        exact ⟨s, List.mem_cons_of_mem _ hs, hnames⟩

theorem Cut.mem_language {cs back : List Char} {segments : List Segment}
    (h : Cut cs segments back) {s : Segment} (hs : s ∈ segments) :
    s.piece ∈ s.pattern.language := by
  induction h with
  | nil back => exact nomatch hs
  | cons hleads _ _ ih =>
      rcases List.mem_cons.1 hs with rfl | hs
      · exact hleads.mem
      · exact ih hs

/-- What a scan takes for a number with a point is a text of that pattern. -/
theorem mem_fractional {line : List Char} {tokens : List Located} (hscan : scan line = .ok tokens)
    {text : String} {column : ℕ} (h : ⟨.fractional text, column⟩ ∈ tokens) :
    text.toList ∈ Pattern.fractional.language := by
  obtain ⟨segments, hcut, hlists⟩ := exists_cut_of_scan hscan
  obtain ⟨s, hs, hnames⟩ := hlists.exists_segment h
  have hmem := hcut.mem_language hs
  cases hnames with
  | fractional piece =>
      rw [String.toList_ofList]
      exact hmem

/-! ## Both words of a number -/

/-- **Numbers with a point are rounded once, at the width they are written with**: every token
that a scan makes of one is exactly one number, and is read as such at both widths. As the
value of a write it gives the one word that the number is rounded to: the nearest one, the
even one of two, infinity from the overflow on, with the sign even of a zero. -/
theorem literal_rounded_once {line : List Char} {tokens : List Located} {text : String}
    {column : ℕ} (hscan : scan line = .ok tokens) (hmem : ⟨.fractional text, column⟩ ∈ tokens) :
    ∃ negative x, Amount text.toList negative x
      ∧ (∀ negative' x', Amount text.toList negative' x' → negative' = negative ∧ x' = x)
      ∧ ∃ (word32 : UInt32) (word64 : UInt64),
        Format.single.IsRounded negative x word32.toNat
        ∧ Format.double.IsRounded negative x word64.toNat
        ∧ (∀ place, Located.literal? .single ⟨.fractional text, place⟩ = some word32.toNat
          ∧ Located.literal? .double ⟨.fractional text, place⟩ = some word64.toNat)
        ∧ ∀ (verb address : String) (v t : Token) (a : UInt8),
          Spells verb.toList v → Spells address.toList t → t.IsByte a →
            (v.IsNamed "write32" → parse (verb ++ " " ++ address ++ " " ++ text)
              = .ok [⟨1, .transaction (.write32 a word32)⟩])
            ∧ (v.IsNamed "write64" → parse (verb ++ " " ++ address ++ " " ++ text)
              = .ok [⟨1, .transaction (.write64 a word64)⟩]) := by
  have hpattern := mem_fractional hscan hmem
  obtain ⟨negative, x, hamount⟩ := exists_amount hpattern
  obtain ⟨bits32, hread32, hrounded32⟩ := hamount.exists_read Format.regular_single
  obtain ⟨bits64, hread64, hrounded64⟩ := hamount.exists_read Format.regular_double
  obtain ⟨word32, rfl⟩ : ∃ word : UInt32, word.toNat = bits32 :=
    ⟨UInt32.ofNat bits32, UInt32.toNat_ofNat_of_lt' (Format.read?_lt (by decide) hread32)⟩
  obtain ⟨word64, rfl⟩ : ∃ word : UInt64, word.toNat = bits64 :=
    ⟨UInt64.ofNat bits64, UInt64.toNat_ofNat_of_lt' (Format.read?_lt (by decide) hread64)⟩
  -- the text is of the pattern, so it is a word of a line
  have hvalue : Spells text.toList (.fractional text) := by
    refine spells_of_mem hpattern ?_
    rw [Pattern.meaning, String.ofList_toList]
  refine ⟨negative, x, hamount, fun _ _ h => hamount.unique h, word32, word64, hrounded32,
    hrounded64, fun _ => ⟨hread32, hread64⟩, ?_⟩
  intro verb address v t a hverb haddress ha
  exact ⟨fun hname => parse_value hverb haddress hvalue (.write32 hname ha (.fractional hread32)),
    fun hname => parse_value hverb haddress hvalue (.write64 hname ha (.fractional hread64))⟩

/-- Just above halfway between two numbers of 32 bits. The number goes up, while its rounding
at 64 bits is halfway and would go down to the even one. -/
theorem literal_rounded_once_halfway :
    let text := "1.0000000596046447753906251"
    let token : Located := ⟨.fractional text, 1⟩
    scan text.toList = .ok [token] ∧ token ∈ [token]
      ∧ ∃ negative x, Amount text.toList negative x
        ∧ ∃ (word32 : UInt32) (word64 : UInt64), Format.single.IsRounded negative x word32.toNat
          ∧ Format.double.IsRounded negative x word64.toNat
          ∧ word32 = 0x3F800001 ∧ Format.double.convert .single word64.toNat = 0x3F800000
          ∧ parse ("write32" ++ " " ++ "0" ++ " " ++ text)
            = .ok [⟨1, .transaction (.write32 0 0x3F800001)⟩] := by
  intro text token
  have hscan : scan text.toList = .ok [token] := by decide +kernel
  have hmem : token ∈ [token] := List.mem_cons_self
  obtain ⟨negative, x, hamount, -, word32, word64, hrounded32, hrounded64, hread, hparse⟩ :=
    literal_rounded_once hscan hmem
  have hsingle : Located.literal? .single token = some 0x3F800001 := by decide +kernel
  have hdouble : Located.literal? .double token = some 0x3FF0000010000000 := by decide +kernel
  obtain ⟨hread32, hread64⟩ := hread 1
  have hword32 : word32 = 0x3F800001 :=
    UInt32.toNat_inj.1 (Option.some.inj (hread32.symm.trans hsingle))
  have hword64 : word64.toNat = 0x3FF0000010000000 :=
    Option.some.inj (hread64.symm.trans hdouble)
  have hconvert : Format.double.convert .single 0x3FF0000010000000 = 0x3F800000 := by
    decide +kernel
  have hwrite := (hparse "write32" "0" _ _ 0 (spells_name (by decide)) spells_zero isByte_zero).1
    (isNamed_verb .write32)
  exact ⟨hscan, hmem, negative, x, hamount, word32, word64, hrounded32, hrounded64, hword32,
    hword64 ▸ hconvert, hword32 ▸ hwrite⟩

end Coprocessor.Script
