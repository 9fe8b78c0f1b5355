import Coprocessor.Proofs.Script.Joining
import Coprocessor.Proofs.Script.Notations

/-!
# Layout — what stands at the end of a line, behind it and between its words

Blanks and a comment may be added to the end of any line, also right behind its last word
and behind a comment that is there already: the line has the same tokens at the same columns,
or the same error at the same column. So a script may be laid out freely, and an error is
a matter of its own line: what stands in front of it only moves its number. Within a line
blanks keep apart what is on both sides of them: no word goes on over a blank, not even one
that is a part of a longer one.

  • `Trailing` — blanks, then a comment or nothing.
  • `scanFrom_trailing`, `scan_append_trailing` — it adds no token and takes no error away.
  • `exists_last_line` — the end of a text is the end of its last line.
  • `parse_append_trailing` — the same at the end of any line of a script.
  • `parse_layout` — this, and two scripts with a newline between them.
  • `scan_distributes` — two texts of a line with blanks between them.
-/

namespace Coprocessor.Script

/-- Blanks and behind them nothing, or a comment up to the end of the line. -/
inductive Trailing : List Char → Prop where
  | nil : Trailing []
  | comment {more : List Char} : '\n' ∉ more → Trailing ('#' :: more)
  | blank {c : Char} {rest : List Char} : isBlank c = true → Trailing rest → Trailing (c :: rest)

/-- What may stand behind a line ends its last word. -/
theorem Trailing.ends {gap : List Char} (h : Trailing gap) : Ends gap := by
  cases h with
  | nil => exact ends_nil
  | comment hmore =>
      intro c hc
      obtain rfl := Option.some.inj hc
      rfl
  | blank hc hrest => exact ends_cons hc _

theorem Trailing.newline_not_mem {gap : List Char} (h : Trailing gap) : '\n' ∉ gap := by
  induction h with
  | nil => exact List.not_mem_nil
  | comment hmore =>
      intro hmem
      rcases List.mem_cons.1 hmem with heq | hmem
      · exact absurd heq (by decide)
      · exact hmore hmem
  | blank hc _ ih =>
      intro hmem
      rcases List.mem_cons.1 hmem with rfl | hmem
      · exact absurd hc (by decide)
      · exact ih hmem

/-! ## The end of a line -/

/-- A comment goes up to the end of the line. -/
theorem longest_comment {more : List Char} (h : '\n' ∉ more) :
    Pattern.longest ('#' :: more) = (.comment, ('#' :: more).length) := by
  have hcount : countWhile (fun c => c != '\n') more = more.length := by
    refine countWhile_of_all fun c hc => bne_iff_ne.2 ?_
    rintro rfl
    exact h hc
  have hlength : Pattern.comment.length ('#' :: more) = ('#' :: more).length :=
    congrArg (· + 1) hcount
  rw [← hlength]
  refine Pattern.longest_of_unique ?_ (by rw [hlength]; exact Nat.succ_pos _)
  intro q hq
  suffices hzero : q.length ('#' :: more) = 0 by
    rw [hzero, hlength]
    exact Nat.succ_pos _
  cases q with
  | comment => exact absurd rfl hq
  | blank | identifier | decimal | hexadecimal | fractional => rfl

/-- A comment is no word. -/
theorem scanFrom_comment {more : List Char} (h : '\n' ∉ more) (column : Nat) :
    scanFrom column ('#' :: more) = .ok [] := by
  rw [scanFrom_of_longest (longest_comment h) (Nat.succ_ne_zero _), List.drop_length,
    scanFrom_nil]
  rfl

/-- Nothing that may stand behind a line is a word. -/
theorem scanFrom_trailing {gap : List Char} (h : Trailing gap) (column : Nat) :
    scanFrom column gap = .ok [] := by
  induction h generalizing column with
  | nil => exact scanFrom_nil column
  | comment hmore => exact scanFrom_comment hmore column
  | blank hc _ ih => rw [scanFrom_blank hc, ih]

/-- Behind a text without comments it changes nothing. -/
theorem scanFrom_append_trailing {cs gap : List Char} (hcs : '#' ∉ cs) (h : Trailing gap)
    (column : Nat) : scanFrom column (cs ++ gap) = scanFrom column cs := by
  rw [scanFrom_append h.ends hcs, scanFrom_trailing h]
  cases scanFrom column cs with
  | error e => rfl
  | ok tokens => exact congrArg Except.ok (List.append_nil tokens)

/-- A line is a text without comments and a comment, if it has one. -/
theorem exists_plain (cs : List Char) (hcs : '\n' ∉ cs) :
    ∃ plain comment, cs = plain ++ comment ∧ '#' ∉ plain
      ∧ (comment = [] ∨ ∃ more, comment = '#' :: more ∧ '\n' ∉ more) := by
  induction cs with
  | nil => exact ⟨[], [], rfl, List.not_mem_nil, Or.inl rfl⟩
  | cons c rest ih =>
      have hrest : '\n' ∉ rest := fun hmem => hcs (List.mem_cons_of_mem c hmem)
      by_cases hc : c = '#'
      · subst hc
        exact ⟨[], '#' :: rest, rfl, List.not_mem_nil, Or.inr ⟨rest, rfl, hrest⟩⟩
      · obtain ⟨plain, comment, rfl, hplain, hcomment⟩ := ih hrest
        refine ⟨c :: plain, comment, rfl, ?_, hcomment⟩
        intro hmem
        rcases List.mem_cons.1 hmem with rfl | hmem
        · exact hc rfl
        · exact hplain hmem

/-- Behind any line it changes nothing. -/
theorem scan_append_trailing {cs gap : List Char} (hcs : '\n' ∉ cs) (h : Trailing gap) :
    scan (cs ++ gap) = scan cs := by
  obtain ⟨plain, comment, rfl, hplain, rfl | ⟨more, rfl, hmore⟩⟩ := exists_plain cs hcs
  · rw [List.append_nil]
    exact scanFrom_append_trailing hplain h 1
  · -- what is added becomes part of the comment
    have hlonger : '\n' ∉ more ++ gap := by
      intro hmem
      rcases List.mem_append.1 hmem with hmem | hmem
      · exact hmore hmem
      · exact h.newline_not_mem hmem
    rw [List.append_assoc, scan, scan, scanFrom_append_trailing hplain (.comment hmore)]
    exact scanFrom_append_trailing hplain (.comment hlonger) 1

/-- A line is parsed without what is behind it. -/
theorem parseLine_append_trailing {cs gap : List Char} (hcs : '\n' ∉ cs) (h : Trailing gap)
    (line : Nat) : parseLine line (cs ++ gap) = parseLine line cs := by
  unfold parseLine
  rw [scan_append_trailing hcs h]

/-! ## Any line of a script -/

/-- What is added to a text without a newline is added to its last line. -/
theorem exists_last_line {gap : List Char} (hgap : '\n' ∉ gap) (cs : List Char) :
    ∃ lines last, splitLines cs = lines ++ [last] ∧ '\n' ∉ last
      ∧ splitLines (cs ++ gap) = lines ++ [last ++ gap] := by
  induction cs with
  | nil => exact ⟨[], [], rfl, List.not_mem_nil, splitLines_of_not_mem hgap⟩
  | cons c rest ih =>
      obtain ⟨lines, last, hlines, hlast, happend⟩ := ih
      by_cases hc : c = '\n'
      · subst hc
        refine ⟨[] :: lines, last, ?_, hlast, ?_⟩
        · rw [splitLines, if_pos rfl, hlines, List.cons_append]
        · rw [List.cons_append, splitLines, if_pos rfl, happend, List.cons_append]
      -- the character belongs to the last line if there is no line before it
      · cases lines with
        | nil =>
            refine ⟨[], c :: last, ?_, ?_, ?_⟩
            · rw [splitLines, if_neg hc, hlines]
              rfl
            · intro hmem
              rcases List.mem_cons.1 hmem with heq | hmem
              · exact hc heq.symm
              · exact hlast hmem
            · rw [List.cons_append, splitLines, if_neg hc, happend]
              rfl
        | cons first more =>
            refine ⟨(c :: first) :: more, last, ?_, hlast, ?_⟩
            · rw [splitLines, if_neg hc, hlines]
              rfl
            · rw [List.cons_append, splitLines, if_neg hc, happend]
              rfl

theorem parseLines_append_trailing {gap : List Char} (h : Trailing gap) (cs : List Char)
    (more : List (List Char)) (line : Nat) :
    parseLines line (splitLines (cs ++ gap) ++ more)
      = parseLines line (splitLines cs ++ more) := by
  obtain ⟨lines, last, hlines, hlast, happend⟩ := exists_last_line h.newline_not_mem cs
  have hrest : ∀ n : Nat, parseLines n ((last ++ gap) :: more) = parseLines n (last :: more) := by
    intro n
    simp only [parseLines, parseLine_append_trailing hlast h]
  rw [happend, hlines, List.append_assoc, List.append_assoc, List.singleton_append,
    List.singleton_append, parseLines_append, hrest, ← parseLines_append]

/-- What ends a line: nothing more, or a newline and whatever comes then. -/
theorem exists_lines_behind {back : List Char} (hback : back = [] ∨ ∃ rest, back = '\n' :: rest) :
    ∃ more, ∀ cs, splitLines (cs ++ back) = splitLines cs ++ more := by
  rcases hback with rfl | ⟨rest, rfl⟩
  · refine ⟨[], fun cs => ?_⟩
    rw [List.append_nil, List.append_nil]
  · exact ⟨splitLines rest, fun cs => splitLines_join cs rest⟩

/-- Blanks and a comment at the end of any line of a script change neither its commands nor
its error. -/
theorem parse_append_trailing {gap back : List Char} (h : Trailing gap)
    (hback : back = [] ∨ ∃ rest, back = '\n' :: rest) (cs : List Char) :
    parse (String.ofList (cs ++ gap ++ back)) = parse (String.ofList (cs ++ back)) := by
  obtain ⟨more, hmore⟩ := exists_lines_behind hback
  rw [parse, parse, String.toList_ofList, String.toList_ofList, hmore, hmore]
  exact parseLines_append_trailing h cs more 1

/-! ## The layout of a script -/

theorem isBlank_of_eq {c : Char} (h : c = ' ' ∨ c = '\t' ∨ c = '\r') : isBlank c = true := by
  rcases h with rfl | rfl | rfl
  · rfl
  · rfl
  · rfl

/-- Blanks, and a comment or none, as they are written. -/
theorem trailing_append {w comment : List Char} (hw : ∀ c ∈ w, c = ' ' ∨ c = '\t' ∨ c = '\r')
    (hcomment : comment = [] ∨ ∃ more, comment = '#' :: more ∧ '\n' ∉ more) :
    Trailing (w ++ comment) := by
  induction w with
  | nil =>
      rcases hcomment with rfl | ⟨more, rfl, hmore⟩
      · exact .nil
      · exact .comment hmore
  | cons c rest ih =>
      exact .blank (isBlank_of_eq (hw c List.mem_cons_self))
        (ih fun d hd => hw d (List.mem_cons_of_mem c hd))

/-- **Layout does not matter**: two scripts with a newline between them are the first one's
error, or else the second one's error further down, or else the lines of the first and the
lines of the second further down. And behind the text of any line may stand blanks and a
comment: the script has the same commands, or the same error at the same line and
column. -/
theorem parse_layout :
    (∀ front back : String,
      (∀ e, parse front = .error e → parse (front ++ "\n" ++ back) = .error e)
      ∧ (∀ lines e, parse front = .ok lines → parse back = .error e →
          parse (front ++ "\n" ++ back) = .error (e.shift (lineCount front)))
      ∧ (∀ lines more, parse front = .ok lines → parse back = .ok more →
          parse (front ++ "\n" ++ back)
            = .ok (lines ++ more.map (ScriptLine.shift (lineCount front)))))
    ∧ (∀ front text w comment back : String,
        (∀ c ∈ w.toList, c = ' ' ∨ c = '\t' ∨ c = '\r') →
        (comment = "" ∨ ∃ more : String, comment = "#" ++ more ∧ '\n' ∉ more.toList) →
        (back = "" ∨ ∃ rest : String, back = "\n" ++ rest) →
        parse (front ++ (text ++ w ++ comment) ++ back) = parse (front ++ text ++ back)) := by
  refine ⟨fun front back => ⟨?_, ?_, fun lines more hfront hback => parse_join_ok hfront hback⟩, ?_⟩
  · intro e hfront
    rw [parse_join, hfront]
    rfl
  · intro lines e hfront hback
    rw [parse_join, hfront, hback]
    rfl
  · intro front text w comment back hw hcomment hback
    -- the second part is about lists of characters, the statement about texts
    have hgap : Trailing (w.toList ++ comment.toList) := by
      refine trailing_append hw ?_
      rcases hcomment with rfl | ⟨more, rfl, hmore⟩
      · exact Or.inl rfl
      · exact Or.inr ⟨more.toList, String.toList_append, hmore⟩
    have hend : back.toList = [] ∨ ∃ rest, back.toList = '\n' :: rest := by
      rcases hback with rfl | ⟨rest, rfl⟩
      · exact Or.inl rfl
      · exact Or.inr ⟨rest.toList, String.toList_append⟩
    have hwith := parse_append_trailing hgap hend (front.toList ++ text.toList)
    simpa only [String.ofList_append, String.ofList_toList, String.append_assoc] using hwith

/-- A comment right behind what is refused. -/
theorem parse_layout_glued :
    parse "reset" = .ok [⟨1, .reset⟩] ∧ parse "add $7" = .error ⟨1, .misplaced 5 .unrecognized⟩
      ∧ parse "reset\nadd $7" = .error ⟨2, .misplaced 5 .unrecognized⟩
      ∧ parse "reset\nadd $7#sum\nreset" = parse "reset\nadd $7\nreset" := by
  have hfront : parse "reset" = .ok [⟨1, .reset⟩] := by decide +kernel
  have hback : parse "add $7" = .error ⟨1, .misplaced 5 .unrecognized⟩ := by decide +kernel
  refine ⟨hfront, hback, (parse_layout.1 "reset" "add $7").2.1 _ _ hfront hback, ?_⟩
  exact parse_layout.2 "reset\n" "add $7" "" "#sum" "\nreset"
    (fun c hc => absurd hc List.not_mem_nil) (Or.inr ⟨"sum", rfl, by decide⟩)
    (Or.inr ⟨"reset", rfl⟩)

/-! ## Blanks between two texts of a line -/

/-- **Scanning distributes over blanks**: behind a text without comments that is cut into
tokens, and at least one blank, a text is accepted exactly if it is accepted alone. Then its
tokens follow those in front, their columns increased by the bytes before them, and else its
error is that many columns further on. -/
theorem scan_distributes {front gap : List Char} {tokens : List Located} (hfront : '#' ∉ front)
    (hscan : scan front = .ok tokens) (hne : gap ≠ [])
    (hgap : ∀ c ∈ gap, c = ' ' ∨ c = '\t' ∨ c = '\r') (back : List Char) :
    ((∃ found, scan (front ++ gap ++ back) = .ok found) ↔ ∃ more, scan back = .ok more)
      ∧ (∀ more, scan back = .ok more → scan (front ++ gap ++ back)
        = .ok (tokens ++ more.map fun t => ⟨t.token, t.column + byteLength (front ++ gap)⟩))
      ∧ ∀ column, scan back = .error column →
        scan (front ++ gap ++ back) = .error (column + byteLength (front ++ gap)) := by
  have hblank : ∀ c ∈ gap, isBlank c = true := fun c hc => isBlank_of_eq (hgap c hc)
  rw [scan_append_gap hfront hscan hne hblank back]
  cases scan back with
  | error e =>
      refine ⟨⟨?_, ?_⟩, ?_, ?_⟩
      · rintro ⟨found, hfound⟩
        exact nomatch hfound
      · rintro ⟨more, hmore⟩
        exact nomatch hmore
      · intro more hmore
        exact nomatch hmore
      · intro column hcolumn
        obtain rfl := Except.error.inj hcolumn
        rfl
  | ok found =>
      refine ⟨⟨fun _ => ⟨found, rfl⟩, fun _ => ⟨_, rfl⟩⟩, ?_, ?_⟩
      · intro more hmore
        obtain rfl := Except.ok.inj hmore
        rfl
      · intro column hcolumn
        exact nomatch hcolumn

/-- The mark of a hexadecimal integer and that of an exponent do not reach over the blanks to
the digits behind them, and columns count bytes. -/
theorem scan_distributes_marks :
    let front := "0x 1.5e".toList
    let gap := "\t ".toList
    let tokens : List Located :=
      [⟨.number 0, 1⟩, ⟨.identifier "x", 2⟩, ⟨.fractional "1.5", 4⟩, ⟨.identifier "e", 7⟩]
    '#' ∉ front ∧ scan front = .ok tokens ∧ gap ≠ []
      ∧ (∀ c ∈ gap, c = ' ' ∨ c = '\t' ∨ c = '\r')
      ∧ scan (front ++ gap ++ "10 #é".toList) = .ok (tokens ++ [⟨.number 10, 10⟩])
      ∧ scan (front ++ gap ++ "10 é".toList) = .error 13 := by
  intro front gap tokens
  have hfront : '#' ∉ front := by decide
  have hscan : scan front = .ok tokens := by decide +kernel
  have hne : gap ≠ [] := by decide
  have hgap : ∀ c ∈ gap, c = ' ' ∨ c = '\t' ∨ c = '\r' := by
    intro c hc
    rcases List.mem_cons.1 hc with rfl | hc
    · exact Or.inr (Or.inl rfl)
    · exact Or.inl (List.mem_singleton.1 hc)
  obtain ⟨-, hok, -⟩ := scan_distributes hfront hscan hne hgap "10 #é".toList
  obtain ⟨-, -, herror⟩ := scan_distributes hfront hscan hne hgap "10 é".toList
  exact ⟨hfront, hscan, hne, hgap, hok [⟨.number 10, 1⟩] (by decide +kernel),
    herror 4 (by decide +kernel)⟩

end Coprocessor.Script
