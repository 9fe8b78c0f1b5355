import Mathlib.Data.Nat.Digits.Defs
import Coprocessor.Proofs.Script.Places
import Coprocessor.Proofs.Script.Shapes

/-!
# Segments — a line as a sequence of longest matches

What a scan does is told without its recursion: a text is cut into segments, each the
longest front of what is left in any language of a pattern, and the tokens are the
segments that are not skipped, each at its column. A scan fails where the first
segment cannot be cut off.

  • `Segment.Leads`, `Segment.Fits` — a segment is the longest match where it stands; an
    integer fits 64 bits.
  • `Cut` — a text cut into such segments, and what is left of it; `Stuck` is what
    nothing can be cut off from.
  • `Segment.Names`, `Lists` — the token of a segment, and the tokens of all of them.
  • `placeValue_eq` — values by places are those that a scan reads.
  • `Segment.meaning_of_names`, `meaning_of_not_fits` — what a scan makes of a segment.
  • `exists_cut` — every text is cut to its end or up to where it is stuck.
  • `scanFrom_of_cut` — the scan of a text that is cut; `scan_of_cut` and `scan_of_stuck`
    are its two ends.
  • `scan_exact` — these together.
-/

namespace Coprocessor.Script

/-! ## Segments and their tokens -/

/-- The number that digits denote in a base, by the values of their places. -/
def placeValue (base : Nat) (digits : List Char) : Nat :=
  Nat.ofDigits base (digits.reverse.map fun c => "0123456789abcdef".toList.idxOf c.toLower)

/-- The number that digits with a minus or without one denote. -/
def signedValue : List Char → Int
  | '-' :: digits => -(placeValue 10 digits : Int)
  | digits => placeValue 10 digits

/-- How many bytes a text takes. -/
def byteSize (cs : List Char) : Nat := (String.ofList cs).utf8ByteSize

/-- A piece of a text and the pattern it is of. -/
structure Segment where
  pattern : Pattern
  piece : List Char

namespace Segment

/-- The longest match in front of `rest`: no front of both together is longer in any
language. -/
structure Leads (s : Segment) (rest : List Char) : Prop where
  mem : s.piece ∈ s.pattern.language
  longest : ∀ p : Pattern, ∀ front, front <+: s.piece ++ rest → front ∈ p.language →
    front.length ≤ s.piece.length

/-- An integer is one of 64 bits, signed in decimal and unsigned in hexadecimal. -/
def Fits : Segment → Prop
  | ⟨.decimal, piece⟩ =>
      Int64.minValue.toInt ≤ signedValue piece ∧ signedValue piece ≤ Int64.maxValue.toInt
  | ⟨.hexadecimal, piece⟩ => placeValue 16 (piece.drop 2) < UInt64.size
  | _ => True

/-- Blanks and comments. -/
def Skipped (s : Segment) : Prop := s.pattern = .blank ∨ s.pattern = .comment

/-- The token that a segment is: a name or a number with a point as it stands, an integer by
its value. -/
inductive Names : Segment → Token → Prop where
  | identifier (piece : List Char) :
      Names ⟨.identifier, piece⟩ (.identifier (String.ofList piece))
  | decimal {piece : List Char} {value : Int64} :
      value.toInt = signedValue piece → Names ⟨.decimal, piece⟩ (.number value)
  | hexadecimal {piece : List Char} {value : UInt64} :
      value.toNat = placeValue 16 (piece.drop 2) →
        Names ⟨.hexadecimal, piece⟩ (.hexadecimal value)
  | fractional (piece : List Char) :
      Names ⟨.fractional, piece⟩ (.fractional (String.ofList piece))

end Segment

/-- A text cut into segments up to what is left of it. -/
inductive Cut : List Char → List Segment → List Char → Prop where
  | nil (back : List Char) : Cut back [] back
  | cons {s : Segment} {rest back : List Char} {more : List Segment} :
      s.Leads rest → s.Fits → Cut rest more back → Cut (s.piece ++ rest) (s :: more) back

/-- A text from which no segment can be cut off: no pattern matches in front, or the longest
match is an integer that does not fit. -/
def Stuck (back : List Char) : Prop :=
  back ≠ [] ∧ ((∀ p : Pattern, ∀ front, front <+: back → front ∉ p.language)
    ∨ ∃ s : Segment, ∃ rest, back = s.piece ++ rest ∧ s.Leads rest ∧ ¬ s.Fits)

/-- The tokens of the segments behind a text, in order, at their columns. -/
inductive Lists : List Char → List Segment → List Located → Prop where
  | nil (before : List Char) : Lists before [] []
  | skip {before : List Char} {s : Segment} {more : List Segment} {tokens : List Located} :
      s.Skipped → Lists (before ++ s.piece) more tokens → Lists before (s :: more) tokens
  | token {before : List Char} {s : Segment} {more : List Segment} {t : Token}
      {tokens : List Located} :
      s.Names t → Lists (before ++ s.piece) more tokens →
        Lists before (s :: more) (⟨t, byteSize before + 1⟩ :: tokens)

/-! ## Sizes and values -/

/-- Both sizes of a text count its bytes. -/
theorem byteSize_eq (cs : List Char) : byteSize cs = byteLength cs := by
  induction cs with
  | nil => rfl
  | cons c rest ih =>
      rw [byteSize, String.ofList_cons, String.utf8ByteSize_append, String.utf8ByteSize_singleton]
      exact congrArg (c.utf8Size + ·) ih

theorem byteSize_append (cs ds : List Char) : byteSize (cs ++ ds) = byteSize cs + byteSize ds := by
  rw [byteSize_eq, byteSize_eq, byteSize_eq, byteLength_append]

theorem byteSize_pos {cs : List Char} (h : cs ≠ []) : 0 < byteSize cs := by
  obtain ⟨c, rest, rfl⟩ := List.exists_cons_of_ne_nil h
  rw [byteSize_eq, byteLength, List.map_cons, List.sum_cons]
  exact Nat.add_pos_left c.utf8Size_pos _

/-- The value of a digit is its place among the digits. -/
theorem idxOf_eq_digitValue {c : Char} (h : Text.isHexDigit c = true) :
    "0123456789abcdef".toList.idxOf c.toLower = Text.digitValue c := by
  have hall : ∀ n < 128, Text.isHexDigit (Char.ofNat n) = true →
      "0123456789abcdef".toList.idxOf (Char.ofNat n).toLower = Text.digitValue (Char.ofNat n) := by
    decide +kernel
  have hlow : c.toNat < 128 := by
    rcases Bool.or_eq_true_iff.1 h with hfront | hupper
    · rcases Bool.or_eq_true_iff.1 hfront with hdigit | hlower
      · have hle : c.toNat ≤ 57 := (Char.isDigit_iff_toNat.1 hdigit).2
        omega
      · have hle : c.toNat ≤ 102 := of_decide_eq_true (Bool.and_eq_true_iff.1 hlower).2
        omega
    · have hle : c.toNat ≤ 70 := of_decide_eq_true (Bool.and_eq_true_iff.1 hupper).2
      omega
  have hc := hall c.toNat hlow
  rw [Char.ofNat_toNat] at hc
  exact hc h

/-- The places of digits have the values that a scan reads them with. -/
theorem placeValue_eq (base : Nat) {digits : List Char}
    (h : ∀ c ∈ digits, Text.isHexDigit c = true) :
    placeValue base digits = Text.ofDigits base digits := by
  induction digits using List.reverseRecOn with
  | nil => rfl
  | append_singleton digits c ih =>
      have hdigits : ∀ d ∈ digits, Text.isHexDigit d = true :=
        fun d hd => h d (List.mem_append_left [c] hd)
      have hc : Text.isHexDigit c = true := h c (List.mem_append_right digits List.mem_cons_self)
      rw [Text.ofDigits_append_singleton, ← ih hdigits, ← idxOf_eq_digitValue hc, placeValue,
        List.reverse_append, List.reverse_singleton, List.singleton_append, List.map_cons,
        Nat.ofDigits_cons, Nat.add_comm]
      rfl

/-- Decimal digits have the value that their places give. -/
theorem placeValue_digits {digits : List Char} (h : ∀ c ∈ digits, c.isDigit = true) :
    placeValue 10 digits = Text.ofDigits 10 digits :=
  placeValue_eq 10 fun c hc => by rw [Text.isHexDigit, h c hc]; rfl

/-- A decimal piece has the value of its sign and digits. -/
theorem signedValue_eq {piece : List Char} (h : piece ∈ Pattern.decimal.language) :
    signedValue piece = Pattern.decimalValue piece := by
  obtain ⟨digits, rfl | rfl, hne, hdigits⟩ := Pattern.mem_decimal.1 h
  · have hminus : ∀ more, piece ≠ '-' :: more := Pattern.ne_minus_cons hdigits
    rw [signedValue, Pattern.decimalValue, placeValue_digits hdigits]
    · exact hminus
    · exact hminus
  · rw [signedValue, Pattern.decimalValue, placeValue_digits hdigits]

/-- A hexadecimal piece has the value of the digits behind its mark. -/
theorem hexadecimalValue_eq {piece : List Char} (h : piece ∈ Pattern.hexadecimal.language) :
    placeValue 16 (piece.drop 2) = Text.ofDigits 16 (piece.drop 2) := by
  obtain ⟨mark, rfl, digits, hdigits, rfl⟩ := Language.mem_mul.1 h
  exact placeValue_eq 16 (tests_hexDigit.mem_several.1 hdigits).2

/-! ## One segment -/

namespace Segment

theorem Leads.ne_nil {s : Segment} {rest : List Char} (h : s.Leads rest) : s.piece ≠ [] :=
  fun hnil => s.pattern.greedy.nil_not_mem (hnil ▸ h.mem)

/-- A segment that leads is the longest match. -/
theorem Leads.longest_eq {s : Segment} {rest : List Char} (h : s.Leads rest) :
    Pattern.longest (s.piece ++ rest) = (s.pattern, s.piece.length) :=
  (Pattern.longest_append_eq_iff h.mem).2 h.longest

/-- What is found is the segment that stands in front. -/
theorem exists_leads {cs : List Char} (h : (Pattern.longest cs).2 ≠ 0) :
    ∃ s : Segment, ∃ rest, cs = s.piece ++ rest ∧ s.Leads rest := by
  have hsplit : cs = cs.take (Pattern.longest cs).2 ++ cs.drop (Pattern.longest cs).2 :=
    (List.take_append_drop _ cs).symm
  refine ⟨⟨(Pattern.longest cs).1, cs.take (Pattern.longest cs).2⟩,
    cs.drop (Pattern.longest cs).2, hsplit, Pattern.take_longest_mem h, ?_⟩
  intro p front hfront hp
  rw [← hsplit] at hfront
  rw [List.length_take, Nat.min_eq_left (Pattern.longest_le cs)]
  exact Pattern.le_longest hfront hp

/-- Blanks and comments have no token. -/
theorem meaning_skipped {s : Segment} (h : s.Skipped) : s.pattern.meaning s.piece = .skipped := by
  obtain ⟨p, piece⟩ := s
  rcases h with rfl | rfl
  · rfl
  · rfl

/-- The integers that fit are those that a scan takes. -/
theorem fits_decimal {piece : List Char} (h : piece ∈ Pattern.decimal.language) :
    Fits ⟨.decimal, piece⟩ ↔ -2 ^ 63 ≤ Pattern.decimalValue piece
      ∧ Pattern.decimalValue piece < 2 ^ 63 := by
  have hmin : Int64.minValue.toInt = -9223372036854775808 := rfl
  have hmax : Int64.maxValue.toInt = 9223372036854775807 := rfl
  rw [Fits, signedValue_eq h, hmin, hmax]
  omega

/-- A hexadecimal piece fits if its value has 64 bits. -/
theorem fits_hexadecimal {piece : List Char} (h : piece ∈ Pattern.hexadecimal.language) :
    Fits ⟨.hexadecimal, piece⟩ ↔ Text.ofDigits 16 (piece.drop 2) < 2 ^ 64 := by
  rw [Fits, hexadecimalValue_eq h]
  exact Iff.rfl

/-- The token of a segment is the one that a scan makes of it. -/
theorem meaning_of_names {s : Segment} (hmem : s.piece ∈ s.pattern.language) {t : Token}
    (ht : s.Names t) : s.pattern.meaning s.piece = .token t := by
  cases ht with
  | identifier piece => rfl
  | @decimal piece value hvalue =>
      rw [signedValue_eq hmem] at hvalue
      rw [Pattern.meaning, ← hvalue, Int64.ofInt_toInt]
      exact if_pos ⟨value.le_toInt, value.toInt_lt⟩
  | @hexadecimal piece value hvalue =>
      rw [hexadecimalValue_eq hmem] at hvalue
      rw [Pattern.meaning, ← hvalue, UInt64.ofNat_toNat]
      exact if_pos value.toNat_lt
  | fractional piece => rfl

/-- A piece that does not fit is too large. -/
theorem meaning_of_not_fits {s : Segment} (hmem : s.piece ∈ s.pattern.language)
    (h : ¬ s.Fits) : s.pattern.meaning s.piece = .tooLarge := by
  obtain ⟨p, piece⟩ := s
  cases p with
  | decimal => exact if_neg fun hfits => h ((fits_decimal hmem).2 hfits)
  | hexadecimal => exact if_neg fun hfits => h ((fits_hexadecimal hmem).2 hfits)
  | blank | comment | identifier | fractional => exact absurd trivial h

/-- A segment that fits is skipped or has a token. -/
theorem skipped_or_exists_names {s : Segment} (hmem : s.piece ∈ s.pattern.language)
    (h : s.Fits) : s.Skipped ∨ ∃ t, s.Names t := by
  obtain ⟨p, piece⟩ := s
  cases p with
  | blank => exact Or.inl (Or.inl rfl)
  | comment => exact Or.inl (Or.inr rfl)
  | identifier => exact Or.inr ⟨_, .identifier piece⟩
  | decimal =>
      obtain ⟨hlow, hhigh⟩ := (fits_decimal hmem).1 h
      refine Or.inr ⟨.number (Int64.ofInt (signedValue piece)), .decimal ?_⟩
      rw [signedValue_eq hmem]
      exact Int64.toInt_ofInt_of_le hlow hhigh
  | hexadecimal =>
      exact Or.inr ⟨.hexadecimal (UInt64.ofNat (placeValue 16 (piece.drop 2))),
        .hexadecimal (UInt64.toNat_ofNat_of_lt' h)⟩
  | fractional => exact Or.inr ⟨_, .fractional piece⟩

section

variable {s : Segment} {rest : List Char}

theorem Leads.length_ne_zero (h : s.Leads rest) : s.piece.length ≠ 0 :=
  fun hzero => h.ne_nil (List.eq_nil_of_length_eq_zero hzero)

/-- A scan steps over a segment that is skipped. -/
theorem Leads.scanFrom_skipped (h : s.Leads rest) (hskipped : s.Skipped) (column : Nat) :
    scanFrom column (s.piece ++ rest) = scanFrom (column + byteLength s.piece) rest := by
  rw [scanFrom_of_longest h.longest_eq h.length_ne_zero, List.take_left, List.drop_left,
    meaning_skipped hskipped]

/-- A scan makes a token of a segment that has one. -/
theorem Leads.scanFrom_names (h : s.Leads rest) {t : Token} (ht : s.Names t) (column : Nat) :
    scanFrom column (s.piece ++ rest)
      = (scanFrom (column + byteLength s.piece) rest).map (⟨t, column⟩ :: ·) := by
  rw [scanFrom_of_longest h.longest_eq h.length_ne_zero, List.take_left, List.drop_left,
    meaning_of_names h.mem ht]

/-- A scan refuses an integer that does not fit. -/
theorem Leads.scanFrom_not_fits (h : s.Leads rest) (hfits : ¬ s.Fits) (column : Nat) :
    scanFrom column (s.piece ++ rest) = .error column := by
  rw [scanFrom_of_longest h.longest_eq h.length_ne_zero, List.take_left, List.drop_left,
    meaning_of_not_fits h.mem hfits]

end

end Segment

/-! ## A text that is cut -/

/-- What a cut leaves over is the end of the text. -/
theorem Cut.exists_append {cs back : List Char} {segments : List Segment}
    (h : Cut cs segments back) : ∃ front, cs = front ++ back := by
  induction h with
  | nil back => exact ⟨[], rfl⟩
  | @cons s rest back more _ _ _ ih =>
      obtain ⟨front, rfl⟩ := ih
      exact ⟨s.piece ++ front, (List.append_assoc ..).symm⟩

/-- What is left has no part in how the rest is cut. -/
theorem Cut.front {cs back : List Char} {segments : List Segment} (h : Cut cs segments back)
    {front : List Char} (hfront : cs = front ++ back) : Cut front segments [] := by
  induction h generalizing front with
  | nil back =>
      obtain rfl := List.self_eq_append_left.1 hfront
      exact .nil []
  | @cons s rest back more hleads hfits hcut ih =>
      obtain ⟨behind, rfl⟩ := hcut.exists_append
      obtain rfl : s.piece ++ behind = front :=
        List.append_cancel_right ((List.append_assoc ..).trans hfront)
      refine .cons ⟨hleads.mem, fun p other hother hp => ?_⟩ hfits (ih rfl)
      -- a front of a part is a front of the whole
      refine hleads.longest p other (hother.trans ?_) hp
      rw [← List.append_assoc]
      exact List.prefix_append _ _

/-- Every text is cut up to its end or to where it is stuck. -/
theorem exists_cut (cs : List Char) :
    ∃ segments back, Cut cs segments back ∧ (back = [] ∨ Stuck back) := by
  induction hlength : cs.length using Nat.strongRecOn generalizing cs with
  | ind k ih =>
      subst hlength
      by_cases hne : cs = []
      · exact ⟨[], cs, .nil cs, Or.inl hne⟩
      · by_cases hzero : (Pattern.longest cs).2 = 0
        · exact ⟨[], cs, .nil cs, Or.inr ⟨hne, Or.inl (Pattern.longest_eq_zero_iff.1 hzero)⟩⟩
        · obtain ⟨s, rest, rfl, hleads⟩ := Segment.exists_leads hzero
          by_cases hfits : s.Fits
          · have hpos : 0 < s.piece.length := List.length_pos_iff.2 hleads.ne_nil
            have hshort : rest.length < (s.piece ++ rest).length := by
              rw [List.length_append]
              omega
            obtain ⟨more, back, hcut, hend⟩ := ih _ hshort rest rfl
            exact ⟨s :: more, back, .cons hleads hfits hcut, hend⟩
          · exact ⟨[], _, .nil _, Or.inr ⟨hne, Or.inr ⟨s, rest, rfl, hleads, hfits⟩⟩⟩

/-- Every cut has its list of tokens. -/
theorem Cut.exists_lists {cs back : List Char} {segments : List Segment}
    (h : Cut cs segments back) (before : List Char) : ∃ tokens, Lists before segments tokens := by
  induction h generalizing before with
  | nil back => exact ⟨[], .nil before⟩
  | @cons s rest back more hleads hfits _ ih =>
      obtain ⟨tokens, htokens⟩ := ih (before ++ s.piece)
      rcases s.skipped_or_exists_names hleads.mem hfits with hskipped | ⟨t, ht⟩
      · exact ⟨tokens, .skip hskipped htokens⟩
      · exact ⟨_, .token ht htokens⟩

/-- Columns grow along a text. -/
theorem Lists.columns {cs back before : List Char} {segments : List Segment}
    {tokens : List Located} (hcut : Cut cs segments back) (h : Lists before segments tokens) :
    (∀ t ∈ tokens, byteSize before < t.column)
      ∧ tokens.Pairwise fun t u => t.column < u.column := by
  induction h generalizing cs with
  | nil before => exact ⟨List.forall_mem_nil _, .nil⟩
  | @skip before s more tokens _ _ ih =>
      cases hcut with
      | cons hleads _ hmore =>
          obtain ⟨hlow, hpairwise⟩ := ih hmore
          have hle : byteSize before ≤ byteSize (before ++ s.piece) := by
            rw [byteSize_append]
            exact Nat.le_add_right _ _
          exact ⟨fun t ht => Nat.lt_of_le_of_lt hle (hlow t ht), hpairwise⟩
  | @token before s more t tokens _ _ ih =>
      cases hcut with
      | cons hleads _ hmore =>
          obtain ⟨hlow, hpairwise⟩ := ih hmore
          have hlt : byteSize before < byteSize (before ++ s.piece) := by
            rw [byteSize_append]
            exact Nat.lt_add_of_pos_right (byteSize_pos hleads.ne_nil)
          refine ⟨List.forall_mem_cons.2 ⟨Nat.lt_succ_self _, fun u hu => ?_⟩,
            List.pairwise_cons.2 ⟨fun u hu => ?_, hpairwise⟩⟩
          · exact Nat.lt_trans hlt (hlow u hu)
          · exact Nat.lt_of_le_of_lt hlt (hlow u hu)

/-- A scan goes on behind what was cut, with the tokens of the segments in front. -/
theorem scanFrom_of_cut {cs back before : List Char} {segments : List Segment}
    {tokens : List Located} (hcut : Cut cs segments back) (h : Lists before segments tokens)
    {front : List Char} (hfront : cs = front ++ back) :
    scanFrom (byteSize before + 1) cs
      = (scanFrom (byteSize (before ++ front) + 1) back).map (tokens ++ ·) := by
  induction hcut generalizing before tokens front with
  | nil back =>
      obtain rfl := List.self_eq_append_left.1 hfront
      cases h
      rw [List.append_nil]
      cases scanFrom (byteSize before + 1) back with
      | error e => rfl
      | ok found => rfl
  | @cons s rest back more hleads _ hcut ih =>
      obtain ⟨behind, rfl⟩ := hcut.exists_append
      obtain rfl : s.piece ++ behind = front :=
        List.append_cancel_right ((List.append_assoc ..).trans hfront)
      -- the next column counts the piece, with a token or without
      have hcolumn : byteSize before + 1 + byteLength s.piece
          = byteSize (before ++ s.piece) + 1 := by
        rw [byteSize_append, byteSize_eq s.piece]
        omega
      cases h with
      | skip hskipped htokens =>
          rw [hleads.scanFrom_skipped hskipped, hcolumn, ih htokens rfl, List.append_assoc]
      | token ht htokens =>
          rw [hleads.scanFrom_names ht, hcolumn, ih htokens rfl, List.append_assoc]
          cases scanFrom (byteSize (before ++ (s.piece ++ behind)) + 1) back with
          | error e => rfl
          | ok found => rfl

/-- A line that is cut to its end has the tokens of its segments. -/
theorem scan_of_cut {cs : List Char} {segments : List Segment} {tokens : List Located}
    (hcut : Cut cs segments []) (h : Lists [] segments tokens) : scan cs = .ok tokens := by
  have hscan := scanFrom_of_cut hcut h (List.append_nil cs).symm
  rw [scanFrom_nil] at hscan
  exact hscan.trans (congrArg Except.ok (List.append_nil tokens))

/-- A scan fails where nothing can be cut off. -/
theorem Stuck.scanFrom_eq {back : List Char} (h : Stuck back) (column : Nat) :
    scanFrom column back = .error column := by
  obtain ⟨hne, hnone | ⟨s, rest, rfl, hleads, hfits⟩⟩ := h
  · exact scanFrom_of_none hne (Pattern.longest_eq_zero_iff.2 hnone) column
  · exact hleads.scanFrom_not_fits hfits column

/-- A line that is stuck is refused where it is stuck. -/
theorem scan_of_stuck {front back : List Char} {segments : List Segment}
    (hcut : Cut (front ++ back) segments back) (hstuck : Stuck back) :
    scan (front ++ back) = .error (byteSize front + 1) := by
  obtain ⟨tokens, htokens⟩ := hcut.exists_lists []
  have hscan := scanFrom_of_cut hcut htokens rfl
  rw [hstuck.scanFrom_eq] at hscan
  exact hscan

/-- A text that is scanned is cut to its end. -/
theorem exists_cut_of_scan {text : List Char} {tokens : List Located}
    (h : scan text = .ok tokens) : ∃ segments, Cut text segments [] ∧ Lists [] segments tokens := by
  obtain ⟨segments, back, hcut, hend⟩ := exists_cut text
  obtain ⟨found, hfound⟩ := hcut.exists_lists []
  rcases hend with rfl | hstuck
  · rw [scan_of_cut hcut hfound] at h
    obtain rfl := Except.ok.inj h
    exact ⟨segments, hcut, hfound⟩
  · obtain ⟨front, rfl⟩ := hcut.exists_append
    rw [scan_of_stuck hcut hstuck] at h
    exact nomatch h

/-! ## Every scan -/

/-- **Scans are longest matches**: a text has tokens exactly if it is a sequence of segments,
each the longest match where it stands and an integer only if it fits, and then its tokens
are the segments that are not skipped, with their values, at byte columns that grow. It has
an error exactly at the first place where nothing matches or the longest match is an
integer that does not fit. And the text in front of any place that a cut comes to has the
tokens of what was cut. -/
theorem scan_exact (text : List Char) :
    (∀ tokens, scan text = .ok tokens
      ↔ ∃ segments, Cut text segments [] ∧ Lists [] segments tokens)
    ∧ (∀ tokens, scan text = .ok tokens → tokens.Pairwise fun t u => t.column < u.column)
    ∧ (∀ column, scan text = .error column
      ↔ ∃ front segments back, text = front ++ back ∧ Cut text segments back ∧ Stuck back
          ∧ column = byteSize front + 1)
    ∧ (∀ front segments back, text = front ++ back → Cut text segments back →
        ∃ tokens, scan front = .ok tokens ∧ Lists [] segments tokens) := by
  obtain ⟨segments, back, hcut, hend⟩ := exists_cut text
  obtain ⟨tokens, htokens⟩ := hcut.exists_lists []
  refine ⟨fun found => ⟨exists_cut_of_scan, ?_⟩, ?_, fun column => ⟨?_, ?_⟩, ?_⟩
  · rintro ⟨others, hothers, hlists⟩
    exact scan_of_cut hothers hlists
  · intro found hscan
    obtain ⟨others, hothers, hlists⟩ := exists_cut_of_scan hscan
    exact (hlists.columns hothers).2
  · intro hscan
    -- the cut that every text has ends at its end or is stuck
    rcases hend with rfl | hstuck
    · rw [scan_of_cut hcut htokens] at hscan
      exact nomatch hscan
    · obtain ⟨front, rfl⟩ := hcut.exists_append
      rw [scan_of_stuck hcut hstuck] at hscan
      exact ⟨front, segments, back, rfl, hcut, hstuck, (Except.error.inj hscan).symm⟩
  · rintro ⟨front, others, behind, rfl, hothers, hstuck, rfl⟩
    exact scan_of_stuck hothers hstuck
  · rintro front others behind rfl hothers
    obtain ⟨found, hfound⟩ := hothers.exists_lists []
    exact ⟨found, scan_of_cut (hothers.front rfl) hfound, hfound⟩

/-- An exponent without digits is a name behind a number, and a text that is stuck behind an
integer has that integer. -/
theorem scan_exact_mixed :
    let tokens : List Located := [⟨.fractional "1.5", 1⟩, ⟨.identifier "e", 4⟩]
    let refused := "0x1 $".toList
    scan "1.5e".toList = .ok tokens
      ∧ (∃ segments, Cut "1.5e".toList segments [] ∧ Lists [] segments tokens)
      ∧ tokens.Pairwise (fun t u => t.column < u.column)
      ∧ scan refused = .error 5
      ∧ ∃ front segments back found, refused = front ++ back ∧ Cut refused segments back
        ∧ Stuck back ∧ 5 = byteSize front + 1 ∧ scan front = .ok found
        ∧ Lists [] segments found := by
  intro tokens refused
  have hok : scan "1.5e".toList = .ok tokens := by decide +kernel
  have herror : scan refused = .error 5 := by decide +kernel
  obtain ⟨htokens, hcolumns, -, -⟩ := scan_exact "1.5e".toList
  obtain ⟨-, -, hstuck, hfront⟩ := scan_exact refused
  obtain ⟨front, segments, back, heq, hcut, hback, hcolumn⟩ := (hstuck 5).1 herror
  obtain ⟨found, hscan, hlists⟩ := hfront front segments back heq hcut
  exact ⟨hok, (htokens tokens).1 hok, hcolumns tokens hok, herror, front, segments, back, found,
    heq, hcut, hback, hcolumn, hscan, hlists⟩

end Coprocessor.Script
