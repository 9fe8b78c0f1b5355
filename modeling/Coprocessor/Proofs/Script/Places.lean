import Coprocessor.Proofs.Script.Scan

/-!
# Places — a line around one of its words

A line is cut at every gap on its own, so what stands in front of a word and what
stands behind it are scanned as if the other were not there. Only columns move.

  • `pieces` — induction along the pieces of a line.
  • `scanFrom_append` — a scan goes on where it stopped.
  • `scanFrom_shift` — where a text starts moves the columns only.
  • `scan_append_gap` — a text behind blanks is scanned as if it stood alone.
  • `scan_place` — the tokens of a line with any word at one place.
-/

namespace Coprocessor.Script

/-! ## Texts behind each other -/

/-- A scan stops where no pattern matches. -/
theorem scanFrom_of_none {cs : List Char} (hne : cs ≠ []) (h : (Pattern.longest cs).2 = 0)
    (column : Nat) : scanFrom column cs = .error column := by
  rw [scanFrom, dif_neg hne]
  exact dif_pos h

theorem byteLength_append (cs ds : List Char) :
    byteLength (cs ++ ds) = byteLength cs + byteLength ds := by
  rw [byteLength, List.map_append, List.sum_append]
  rfl

/-- Induction along the pieces of a line: a blank, then a character where no pattern
    matches or the longest match and what is behind it. -/
@[elab_as_elim]
theorem pieces {motive : List Char → Prop} (nil : motive [])
    (blank : ∀ c rest, isBlank c = true → motive rest → motive (c :: rest))
    (stuck : ∀ c rest, isBlank c = false → (Pattern.longest (c :: rest)).2 = 0 →
      motive (c :: rest))
    (piece : ∀ c rest p n, isBlank c = false → Pattern.longest (c :: rest) = (p, n) → n ≠ 0 →
      motive ((c :: rest).drop n) → motive (c :: rest))
    (cs : List Char) : motive cs := by
  induction hlength : cs.length using Nat.strongRecOn generalizing cs with
  | ind k ih =>
      subst hlength
      cases cs with
      | nil => exact nil
      | cons c rest =>
          cases hblank : isBlank c with
          | true => exact blank c rest hblank (ih rest.length (Nat.lt_succ_self _) rest rfl)
          | false =>
              by_cases hn : (Pattern.longest (c :: rest)).2 = 0
              · exact stuck c rest hblank hn
              · have hshort : ((c :: rest).drop (Pattern.longest (c :: rest)).2).length
                    < (c :: rest).length := by
                  rw [List.length_drop, List.length_cons]
                  omega
                exact piece c rest _ _ hblank rfl hn (ih _ hshort _ rfl)

/-- A scan goes on behind a text without comments as if it started there. -/
theorem scanFrom_append {rest : List Char} (hrest : Ends rest) {cs : List Char} (hcs : '#' ∉ cs)
    (column : Nat) :
    scanFrom column (cs ++ rest) = (scanFrom column cs).bind fun front =>
      (scanFrom (column + byteLength cs) rest).map (front ++ ·) := by
  induction cs using pieces generalizing column with
  | nil =>
      rw [List.nil_append, scanFrom_nil]
      show scanFrom column rest = (scanFrom column rest).map ([] ++ ·)
      cases scanFrom column rest with
      | error e => rfl
      | ok tokens => rfl
  | blank c more hblank ih =>
      have hmore : '#' ∉ more := fun hmem => hcs (List.mem_cons_of_mem c hmem)
      rw [List.cons_append, scanFrom_blank hblank, scanFrom_blank hblank, ih hmore,
        byteLength_blank hblank, Nat.add_comm (byteLength more), Nat.add_assoc]
  | stuck c more hblank hnone =>
      have hword : StartsWord (c :: more) :=
        ⟨c, more, rfl, hblank, fun hc => hcs (hc ▸ List.mem_cons_self)⟩
      have hnone' : (Pattern.longest (c :: more ++ rest)).2 = 0 := by
        rw [Pattern.longest_append hword hrest, hnone]
      rw [scanFrom_of_none hword.ne_nil hnone, scanFrom_of_none (hword.append rest).ne_nil hnone']
      rfl
  | piece c more p n hblank hlongest hn ih =>
      have hword : StartsWord (c :: more) :=
        ⟨c, more, rfl, hblank, fun hc => hcs (hc ▸ List.mem_cons_self)⟩
      -- what is behind the gap does not make the piece longer
      have hfound : Pattern.longest (c :: more ++ rest) = (p, n) := by
        rw [Pattern.longest_append hword hrest, hlongest]
      have hle : n ≤ (c :: more).length := by
        have hbound := Pattern.longest_le (c :: more)
        rw [hlongest] at hbound
        exact hbound
      have hplain : '#' ∉ (c :: more).drop n := fun hmem => hcs (List.mem_of_mem_drop hmem)
      have hcolumn : column + byteLength ((c :: more).take n)
          + byteLength ((c :: more).drop n) = column + byteLength (c :: more) := by
        rw [Nat.add_assoc, ← byteLength_append, List.take_append_drop]
      rw [scanFrom_of_longest hfound hn, scanFrom_of_longest hlongest hn,
        List.take_append_of_le_length hle, List.drop_append_of_le_length hle, ih hplain, hcolumn]
      cases p.meaning ((c :: more).take n) with
      | tooLarge => rfl
      | skipped => rfl
      | token token =>
          cases scanFrom (column + byteLength ((c :: more).take n)) ((c :: more).drop n) with
          | error e => rfl
          | ok front =>
              cases scanFrom (column + byteLength (c :: more)) rest with
              | error e => rfl
              | ok tokens => rfl

/-! ## Columns -/

/-- A word some columns further on. -/
def Located.shift (k : Nat) (t : Located) : Located := { t with column := t.column + k }

/-- Where a text starts moves the columns and nothing else. -/
theorem scanFrom_shift (k column : Nat) (cs : List Char) :
    scanFrom (column + k) cs
      = ((scanFrom column cs).mapError (· + k)).map (List.map (Located.shift k)) := by
  induction cs using pieces generalizing column with
  | nil =>
      rw [scanFrom_nil, scanFrom_nil]
      rfl
  | blank c rest hblank ih =>
      rw [scanFrom_blank hblank, scanFrom_blank hblank, Nat.add_right_comm, ih]
  | stuck c rest _ hnone =>
      rw [scanFrom_of_none (List.cons_ne_nil c rest) hnone,
        scanFrom_of_none (List.cons_ne_nil c rest) hnone]
      rfl
  | piece c rest p n _ hlongest hn ih =>
      rw [scanFrom_of_longest hlongest hn, scanFrom_of_longest hlongest hn, Nat.add_right_comm, ih]
      cases p.meaning ((c :: rest).take n) with
      | tooLarge => rfl
      | skipped => rfl
      | token token =>
          cases scanFrom (column + byteLength ((c :: rest).take n)) ((c :: rest).drop n) with
          | error e => rfl
          | ok tokens => rfl

/-! ## Texts with blanks between them -/

/-- Blanks only move the column of what is behind them. -/
theorem scanFrom_gap {gap : List Char} (h : ∀ c ∈ gap, isBlank c = true) (column : Nat)
    (back : List Char) :
    scanFrom column (gap ++ back) = scanFrom (column + byteLength gap) back := by
  induction gap generalizing column with
  | nil => rfl
  | cons c gap ih =>
      obtain ⟨hc, hgap⟩ := List.forall_mem_cons.1 h
      rw [List.cons_append, scanFrom_blank hc, ih hgap, byteLength_blank hc,
        Nat.add_comm (byteLength gap), Nat.add_assoc]

/-- Behind a text without comments and some blanks every text is scanned as if it stood
    alone, and moved as a whole. -/
theorem scan_append_gap {front gap : List Char} {tokens : List Located} (hfront : '#' ∉ front)
    (hscan : scan front = .ok tokens) (hne : gap ≠ []) (hgap : ∀ c ∈ gap, isBlank c = true)
    (back : List Char) :
    scan (front ++ gap ++ back) = ((scan back).mapError (· + byteLength (front ++ gap))).map
      fun more => tokens ++ more.map (Located.shift (byteLength (front ++ gap))) := by
  have hends : Ends (gap ++ back) := by
    obtain ⟨c, rest, rfl⟩ := List.exists_cons_of_ne_nil hne
    exact ends_cons (hgap c List.mem_cons_self) (rest ++ back)
  have hcolumn : 1 + byteLength front + byteLength gap = 1 + byteLength (front ++ gap) := by
    rw [byteLength_append, Nat.add_assoc]
  unfold scan at hscan ⊢
  rw [List.append_assoc, scanFrom_append hends hfront, hscan, scanFrom_gap hgap, hcolumn,
    scanFrom_shift]
  cases scanFrom 1 back with
  | error e => rfl
  | ok more => rfl

/-! ## One word of a line -/

section

variable {front back : List Char} {c : Char}

theorem byteLength_append_blank (hc : isBlank c = true) (front : List Char) :
    byteLength (front ++ [c]) = byteLength front + 1 := by
  rw [byteLength_append, byteLength_blank hc]
  rfl

/-- A line is scanned up to the blank in front of a word, and then from the word on. -/
theorem scan_behind_blank (hfront : '#' ∉ front) (hc : isBlank c = true) (cs : List Char) :
    scan (front ++ [c] ++ cs) = (scanFrom 1 front).bind fun before =>
      (scanFrom (byteLength (front ++ [c]) + 1) cs).map (before ++ ·) := by
  have hcolumn : 1 + byteLength front + 1 = byteLength (front ++ [c]) + 1 := by
    rw [byteLength_append_blank hc]
    omega
  rw [List.append_assoc, List.singleton_append, scan, scanFrom_append (ends_cons hc cs) hfront,
    scanFrom_blank hc, hcolumn]

/-- The tokens of a line with a word behind a blank: those in front, the word, and
    those behind as they are scanned on their own, at other columns. -/
theorem scan_place (hfront : '#' ∉ front) (hc : isBlank c = true) {w : List Char} {token : Token}
    (hw : Spells w token) (hback : Ends back) :
    ∃ column, scan (front ++ [c] ++ (w ++ back)) = (scanFrom 1 front).bind fun before =>
      ((scanFrom 0 back).mapError (· + column)).map fun behind =>
        before ++ ⟨token, byteLength (front ++ [c]) + 1⟩ :: behind.map (Located.shift column) := by
  refine ⟨byteLength (front ++ [c]) + 1 + byteLength w, ?_⟩
  have hshift := scanFrom_shift (byteLength (front ++ [c]) + 1 + byteLength w) 0 back
  rw [Nat.zero_add] at hshift
  rw [scan_behind_blank hfront hc, scanFrom_word hw hback, hshift]
  cases scanFrom 1 front with
  | error e => rfl
  | ok before =>
      cases scanFrom 0 back with
      | error e => rfl
      | ok behind => rfl

end

end Coprocessor.Script
