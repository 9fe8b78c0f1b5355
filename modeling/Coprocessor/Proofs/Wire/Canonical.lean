import Mathlib.Algebra.Group.Nat.Defs
import Coprocessor.Proofs.Success
import Coprocessor.Wire.Codec

/-!
# Canonical codecs — one form for each value

A codec is faithful when a value that was written is read back, whatever stands
behind it, and canonical when nothing but the written form of a value is read as
that value. Both laws go through every way of putting codecs together, and both
are stated on the values that can be written at all: the numbers below a bound,
and the lists whose length fits its count.

  • One lemma for each combinator says when reading succeeds, `fixed_eq_ok` first;
    every law is derived from these, and no law opens a codec again.
  • `faithful_list`, `canonical_list` — the laws of counted lists.
  • `Exact` — both laws at once. The forms of a faithful codec are prefix-free:
    `Faithful.prefixFree`.
-/

namespace Coprocessor.Wire

namespace Codec

variable {α β : Type} {c : Codec α} {d : Codec β} {P : α → Prop} {Q : β → Prop}

/-- Reading what was written gives the value back, and what stands behind it. -/
def Faithful (c : Codec α) (P : α → Prop) : Prop :=
  ∀ v rest, P v → c.decode (c.encode v ++ rest) = .ok (v, rest)

/-- Whatever is read as a value is the written form of that value. -/
def Canonical (c : Codec α) (P : α → Prop) : Prop :=
  ∀ bytes v rest, c.decode bytes = .ok (v, rest) → P v ∧ bytes = c.encode v ++ rest

/-- No form begins with another one. -/
def PrefixFree (c : Codec α) (P : α → Prop) : Prop :=
  ∀ v w, P v → P w → c.encode v <+: c.encode w → v = w

/-- A form that is read back with anything behind it is no beginning of another. -/
theorem Faithful.prefixFree (h : c.Faithful P) : c.PrefixFree P := by
  rintro v w hv hw ⟨behind, hbehind⟩
  have hv' := h v behind hv
  have hw' := h w [] hw
  rw [List.append_nil, ← hbehind, hv'] at hw'
  exact (Prod.mk.inj (Except.ok.inj hw')).1

/-- The values and their forms determine each other. -/
structure Exact (c : Codec α) (P : α → Prop) : Prop where
  faithful : c.Faithful P
  prefixFree : c.PrefixFree P
  canonical : c.Canonical P

/-- What is read back and written back is exact. -/
theorem Faithful.exact (h : c.Faithful P) (h' : c.Canonical P) : c.Exact P :=
  ⟨h, h.prefixFree, h'⟩

/-! ## When reading succeeds -/

section Success

variable {bytes rest : List UInt8}

/-- A number is read from as many bytes as its width. -/
theorem fixed_eq_ok {width n : Nat} :
    (fixed width).decode bytes = .ok (n, rest)
      ↔ ∃ front, split width bytes = .ok (front, rest) ∧ Bytes.toNat front = n := by
  constructor
  · intro h
    obtain ⟨⟨front, rest'⟩, hs, hv⟩ := bind_eq_ok.1 h
    obtain ⟨hn, rfl⟩ := Prod.mk.inj (Except.ok.inj hv)
    exact ⟨front, hs, hn⟩
  · rintro ⟨front, hs, rfl⟩
    exact bind_eq_ok.2 ⟨(front, rest), hs, rfl⟩

/-- A value is built from the value that is read in its place. -/
theorem iso_eq_ok {plain : β → α} {build : α → β} {v : β} :
    (c.iso plain build).decode bytes = .ok (v, rest)
      ↔ ∃ a, c.decode bytes = .ok (a, rest) ∧ build a = v := by
  constructor
  · intro h
    obtain ⟨⟨a, rest'⟩, ha, hv⟩ := bind_eq_ok.1 h
    obtain ⟨hbuild, rfl⟩ := Prod.mk.inj (Except.ok.inj hv)
    exact ⟨a, ha, hbuild⟩
  · rintro ⟨a, ha, rfl⟩
    exact bind_eq_ok.2 ⟨(a, rest), ha, rfl⟩

/-- A value is accepted or refused once it is read. -/
theorem refine_eq_ok {plain : β → α} {accept : α → Except Fault β} {v : β} :
    (c.refine plain accept).decode bytes = .ok (v, rest)
      ↔ ∃ a, c.decode bytes = .ok (a, rest) ∧ accept a = .ok v := by
  constructor
  · intro h
    obtain ⟨⟨a, rest'⟩, ha, hv⟩ := bind_eq_ok.1 h
    obtain ⟨v', hacc, hv⟩ := bind_eq_ok.1 hv
    obtain ⟨rfl, rfl⟩ := Prod.mk.inj (Except.ok.inj hv)
    exact ⟨a, ha, hacc⟩
  · rintro ⟨a, ha, hacc⟩
    exact bind_eq_ok.2 ⟨(a, rest), ha, bind_eq_ok.2 ⟨v, hacc, rfl⟩⟩

/-- A pair is its first part and then its second. -/
theorem pair_eq_ok {v : α × β} :
    (c.pair d).decode bytes = .ok (v, rest)
      ↔ ∃ middle, c.decode bytes = .ok (v.1, middle) ∧ d.decode middle = .ok (v.2, rest) := by
  constructor
  · intro h
    obtain ⟨⟨a, middle⟩, ha, hb⟩ := bind_eq_ok.1 h
    obtain ⟨⟨b, rest'⟩, hd, hv⟩ := bind_eq_ok.1 hb
    obtain ⟨rfl, rfl⟩ := Prod.mk.inj (Except.ok.inj hv)
    exact ⟨middle, ha, hd⟩
  · rintro ⟨middle, ha, hb⟩
    exact bind_eq_ok.2 ⟨(v.1, middle), ha, bind_eq_ok.2 ⟨(v.2, rest), hb, rfl⟩⟩

/-- An optional value is a mark, and behind it the value if there is one. -/
theorem option_eq_ok {v : Option α} :
    (option c).decode bytes = .ok (v, rest)
      ↔ (byte.decode bytes = .ok (0, rest) ∧ v = none)
        ∨ ∃ a middle, byte.decode bytes = .ok (1, middle) ∧ c.decode middle = .ok (a, rest)
          ∧ v = some a := by
  constructor
  · intro h
    obtain ⟨⟨tag, middle⟩, htag, h⟩ := bind_eq_ok.1 h
    dsimp only at h
    by_cases hzero : tag = 0
    · rw [if_pos hzero] at h
      obtain ⟨rfl, rfl⟩ := Prod.mk.inj (Except.ok.inj h)
      exact Or.inl ⟨hzero ▸ htag, rfl⟩
    · rw [if_neg hzero] at h
      by_cases hone : tag = 1
      · rw [if_pos hone] at h
        obtain ⟨⟨a, rest'⟩, ha, h⟩ := bind_eq_ok.1 h
        obtain ⟨rfl, rfl⟩ := Prod.mk.inj (Except.ok.inj h)
        exact Or.inr ⟨a, middle, hone ▸ htag, ha, rfl⟩
      · rw [if_neg hone] at h
        exact nomatch h
  · rintro (⟨htag, rfl⟩ | ⟨a, middle, htag, ha, rfl⟩)
    · exact bind_eq_ok.2 ⟨(0, rest), htag, rfl⟩
    · exact bind_eq_ok.2 ⟨(1, middle), htag, bind_eq_ok.2 ⟨(a, rest), ha, rfl⟩⟩

/-- Several values are the first and then the others. -/
theorem decodeMany_succ_eq_ok {n : Nat} {vs : List α} :
    decodeMany c (n + 1) bytes = .ok (vs, rest)
      ↔ ∃ v middle more, c.decode bytes = .ok (v, middle)
        ∧ decodeMany c n middle = .ok (more, rest) ∧ vs = v :: more := by
  constructor
  · intro h
    rw [decodeMany] at h
    split at h
    · exact nomatch h
    next v middle hv =>
      split at h
      · exact nomatch h
      next more rest' hmore =>
        obtain ⟨rfl, rfl⟩ := Prod.mk.inj (Except.ok.inj h)
        exact ⟨v, middle, more, hv, hmore, rfl⟩
  · rintro ⟨v, middle, more, hv, hmore, rfl⟩
    simp only [decodeMany, hv, hmore]

/-- A list is its length and then as many values. -/
theorem list_eq_ok {vs : List α} :
    (list c).decode bytes = .ok (vs, rest)
      ↔ ∃ n middle, (fixed 8).decode bytes = .ok (n, middle)
        ∧ decodeMany c n middle = .ok (vs, rest) := by
  constructor
  · intro h
    obtain ⟨⟨n, middle⟩, hn, hvs⟩ := bind_eq_ok.1 h
    exact ⟨n, middle, hn, hvs⟩
  · rintro ⟨n, middle, hn, hvs⟩
    exact bind_eq_ok.2 ⟨(n, middle), hn, hvs⟩

end Success

/-! ## Numbers and words -/

/-- A number that fits its width is read back. -/
theorem faithful_fixed (width : Nat) : (fixed width).Faithful (· < 256 ^ width) := by
  intro n rest hn
  have hsplit := split_append (Bytes.ofNat width n) rest
  rw [Bytes.length_ofNat] at hsplit
  refine fixed_eq_ok.2 ⟨Bytes.ofNat width n, hsplit, ?_⟩
  rw [Bytes.toNat_ofNat, Nat.mod_eq_of_lt hn]

/-- The bytes of a number are those that are written for it. -/
theorem canonical_fixed (width : Nat) : (fixed width).Canonical (· < 256 ^ width) := by
  intro bytes n rest h
  obtain ⟨front, hs, rfl⟩ := fixed_eq_ok.1 h
  obtain ⟨hlen, hbytes⟩ := eq_append_of_split hs
  subst hlen
  refine ⟨Bytes.toNat_lt front, ?_⟩
  show bytes = Bytes.ofNat front.length (Bytes.toNat front) ++ rest
  rw [Bytes.ofNat_toNat, hbytes]

/-- A value is read back if what is written for it is. -/
theorem Faithful.iso {plain : β → α} {build : α → β} (h : c.Faithful P)
    (hplain : ∀ v, Q v → P (plain v)) (hbuild : ∀ v, Q v → build (plain v) = v) :
    (c.iso plain build).Faithful Q := by
  intro v rest hv
  exact iso_eq_ok.2 ⟨plain v, h (plain v) rest (hplain v hv), hbuild v hv⟩

/-- Bytes are written back if building loses nothing. -/
theorem Canonical.iso {plain : β → α} {build : α → β} (h : c.Canonical P)
    (hbuild : ∀ a, P a → Q (build a)) (hplain : ∀ a, P a → plain (build a) = a) :
    (c.iso plain build).Canonical Q := by
  intro bytes v rest hv
  obtain ⟨a, ha, rfl⟩ := iso_eq_ok.1 hv
  obtain ⟨hP, hbytes⟩ := h bytes a rest ha
  refine ⟨hbuild a hP, ?_⟩
  show bytes = c.encode (plain (build a)) ++ rest
  rw [hplain a hP, hbytes]

/-- A value is read back if it is accepted. -/
theorem Faithful.refine {plain : β → α} {accept : α → Except Fault β} (h : c.Faithful P)
    (hplain : ∀ v, Q v → P (plain v)) (haccept : ∀ v, Q v → accept (plain v) = .ok v) :
    (c.refine plain accept).Faithful Q := by
  intro v rest hv
  exact refine_eq_ok.2 ⟨plain v, h (plain v) rest (hplain v hv), haccept v hv⟩

/-- Bytes are written back if only what is written is accepted. -/
theorem Canonical.refine {plain : β → α} {accept : α → Except Fault β} (h : c.Canonical P)
    (haccept : ∀ a v, P a → accept a = .ok v → Q v ∧ plain v = a) :
    (c.refine plain accept).Canonical Q := by
  intro bytes v rest hv
  obtain ⟨a, ha, hacc⟩ := refine_eq_ok.1 hv
  obtain ⟨hP, hbytes⟩ := h bytes a rest ha
  obtain ⟨hQ, hplain⟩ := haccept a v hP hacc
  refine ⟨hQ, ?_⟩
  show bytes = c.encode (plain v) ++ rest
  rw [hplain, hbytes]

/-- Bytes and words have the width of their numbers. -/
theorem faithful_byte : byte.Faithful fun _ => True :=
  (faithful_fixed 1).iso (fun v _ => v.toNat_lt) fun _ _ => UInt8.ofNat_toNat

/-- Every byte and every word is the form of some value. -/
theorem canonical_byte : byte.Canonical fun _ => True :=
  (canonical_fixed 1).iso (fun _ _ => trivial) fun _ hn => UInt8.toNat_ofNat_of_lt' hn

theorem faithful_word32 : word32.Faithful fun _ => True :=
  (faithful_fixed 4).iso (fun v _ => v.toNat_lt) fun _ _ => UInt32.ofNat_toNat

theorem canonical_word32 : word32.Canonical fun _ => True :=
  (canonical_fixed 4).iso (fun _ _ => trivial) fun _ hn => UInt32.toNat_ofNat_of_lt' hn

theorem faithful_word64 : word64.Faithful fun _ => True :=
  (faithful_fixed 8).iso (fun v _ => v.toNat_lt) fun _ _ => UInt64.ofNat_toNat

theorem canonical_word64 : word64.Canonical fun _ => True :=
  (canonical_fixed 8).iso (fun _ _ => trivial) fun _ hn => UInt64.toNat_ofNat_of_lt' hn

/-- A flag is written as one of two bytes. -/
theorem faithful_flag : flag.Faithful fun _ => True := by
  refine faithful_byte.refine (fun _ _ => trivial) ?_
  intro v _
  cases v <;> rfl

/-- Any other byte is refused. -/
theorem canonical_flag : flag.Canonical fun _ => True := by
  refine canonical_byte.refine ?_
  intro b v _ hv
  by_cases hzero : b = 0
  · rw [if_pos hzero] at hv
    obtain rfl := Except.ok.inj hv
    exact ⟨trivial, hzero.symm⟩
  · rw [if_neg hzero] at hv
    by_cases hone : b = 1
    · rw [if_pos hone] at hv
      obtain rfl := Except.ok.inj hv
      exact ⟨trivial, hone.symm⟩
    · rw [if_neg hone] at hv
      exact nomatch hv

/-! ## Choices, sequences and lists -/

/-- One of several values is written as its place among them. -/
theorem faithful_choice [DecidableEq α] (all : List α) (hlen : all.length ≤ 256 ^ 4) :
    (choice all).Faithful (· ∈ all) := by
  refine (faithful_fixed 4).refine ?_ ?_
  · intro v hv
    exact Nat.lt_of_lt_of_le (List.idxOf_lt_length_of_mem hv) hlen
  · intro v hv
    have hlt : all.idxOf v < all.length := List.idxOf_lt_length_of_mem hv
    simp only [List.getElem?_eq_getElem hlt, List.getElem_idxOf]

/-- A place is that of one value only. -/
theorem canonical_choice [DecidableEq α] (all : List α) (hall : all.Nodup) :
    (choice all).Canonical (· ∈ all) := by
  refine (canonical_fixed 4).refine ?_
  intro n v _ hv
  split at hv
  next v' hn =>
    obtain rfl := Except.ok.inj hv
    obtain ⟨hlt, hget⟩ := List.getElem?_eq_some_iff.1 hn
    subst hget
    exact ⟨List.getElem_mem hlt, hall.idxOf_getElem n hlt⟩
  next => exact nomatch hv

/-- The second part is read from what the first leaves. -/
theorem Faithful.pair (hc : c.Faithful P) (hd : d.Faithful Q) :
    (c.pair d).Faithful fun v => P v.1 ∧ Q v.2 := by
  intro v rest hv
  refine pair_eq_ok.2 ⟨d.encode v.2 ++ rest, ?_, hd v.2 rest hv.2⟩
  show c.decode ((c.encode v.1 ++ d.encode v.2) ++ rest) = _
  rw [List.append_assoc]
  exact hc v.1 _ hv.1

/-- The bytes of a pair are those of its parts. -/
theorem Canonical.pair (hc : c.Canonical P) (hd : d.Canonical Q) :
    (c.pair d).Canonical fun v => P v.1 ∧ Q v.2 := by
  intro bytes v rest h
  obtain ⟨middle, ha, hb⟩ := pair_eq_ok.1 h
  obtain ⟨hP, hbytes⟩ := hc bytes v.1 middle ha
  obtain ⟨hQ, hmiddle⟩ := hd middle v.2 rest hb
  refine ⟨⟨hP, hQ⟩, ?_⟩
  show bytes = (c.encode v.1 ++ d.encode v.2) ++ rest
  rw [List.append_assoc, ← hmiddle, hbytes]

/-- The mark tells whether a value follows. -/
theorem Faithful.option (hc : c.Faithful P) : (option c).Faithful fun v => ∀ a ∈ v, P a := by
  intro v rest hv
  cases v with
  | none => exact option_eq_ok.2 (Or.inl ⟨faithful_byte 0 rest trivial, rfl⟩)
  | some a =>
      refine option_eq_ok.2 (Or.inr ⟨a, c.encode a ++ rest, ?_, hc a rest (hv a rfl), rfl⟩)
      show byte.decode ((byte.encode 1 ++ c.encode a) ++ rest) = _
      rw [List.append_assoc]
      exact faithful_byte 1 _ trivial

/-- Only two marks are accepted. -/
theorem Canonical.option (hc : c.Canonical P) : (option c).Canonical fun v => ∀ a ∈ v, P a := by
  intro bytes v rest h
  rcases option_eq_ok.1 h with ⟨htag, rfl⟩ | ⟨a, middle, htag, ha, rfl⟩
  · exact ⟨nofun, (canonical_byte bytes 0 rest htag).2⟩
  · obtain ⟨-, hbytes⟩ := canonical_byte bytes 1 middle htag
    obtain ⟨hP, hmiddle⟩ := hc middle a rest ha
    refine ⟨fun u hu => Option.some.inj hu ▸ hP, ?_⟩
    show bytes = (byte.encode 1 ++ c.encode a) ++ rest
    rw [List.append_assoc, ← hmiddle, hbytes]

/-- Values are read back one behind the other. -/
theorem Faithful.decodeMany (hc : c.Faithful P) (vs : List α) (rest : List UInt8)
    (hvs : ∀ v ∈ vs, P v) :
    decodeMany c vs.length (vs.flatMap c.encode ++ rest) = .ok (vs, rest) := by
  induction vs with
  | nil => rfl
  | cons v vs ih =>
      have hv : P v := hvs v List.mem_cons_self
      have hmore : ∀ u ∈ vs, P u := fun u hu => hvs u (List.mem_cons_of_mem v hu)
      refine decodeMany_succ_eq_ok.2 ⟨v, vs.flatMap c.encode ++ rest, vs, ?_, ih hmore, rfl⟩
      rw [List.flatMap_cons, List.append_assoc]
      exact hc v _ hv

/-- As many values are read as were asked for, from their own bytes. -/
theorem Canonical.decodeMany (hc : c.Canonical P) {n : Nat} {bytes rest : List UInt8}
    {vs : List α} (h : decodeMany c n bytes = .ok (vs, rest)) :
    vs.length = n ∧ (∀ v ∈ vs, P v) ∧ bytes = vs.flatMap c.encode ++ rest := by
  induction n generalizing bytes vs with
  | zero =>
      obtain ⟨rfl, rfl⟩ := Prod.mk.inj (Except.ok.inj h)
      exact ⟨rfl, List.forall_mem_nil P, rfl⟩
  | succ n ih =>
      obtain ⟨v, middle, more, hv, hmore, rfl⟩ := decodeMany_succ_eq_ok.1 h
      obtain ⟨hP, hbytes⟩ := hc bytes v middle hv
      obtain ⟨hlen, hall, hmiddle⟩ := ih hmore
      refine ⟨congrArg (· + 1) hlen, ?_, ?_⟩
      · intro u hu
        rcases List.mem_cons.1 hu with rfl | hu
        · exact hP
        · exact hall u hu
      · rw [List.flatMap_cons, List.append_assoc, ← hmiddle, hbytes]

/-- A list is read back if its length can be written. -/
theorem faithful_list (hc : c.Faithful P) :
    (list c).Faithful fun vs => vs.length < 256 ^ 8 ∧ ∀ v ∈ vs, P v := by
  intro vs rest hvs
  refine list_eq_ok.2 ⟨vs.length, vs.flatMap c.encode ++ rest, ?_, hc.decodeMany vs rest hvs.2⟩
  show (fixed 8).decode (((fixed 8).encode vs.length ++ vs.flatMap c.encode) ++ rest) = _
  rw [List.append_assoc]
  exact faithful_fixed 8 vs.length _ hvs.1

/-- A list is read from its length and the bytes of its values. -/
theorem canonical_list (hc : c.Canonical P) :
    (list c).Canonical fun vs => vs.length < 256 ^ 8 ∧ ∀ v ∈ vs, P v := by
  intro bytes vs rest h
  obtain ⟨n, middle, hn, hvs⟩ := list_eq_ok.1 h
  obtain ⟨hlt, hbytes⟩ := canonical_fixed 8 bytes n middle hn
  obtain ⟨rfl, hall, hmiddle⟩ := hc.decodeMany hvs
  refine ⟨⟨hlt, hall⟩, ?_⟩
  show bytes = ((fixed 8).encode vs.length ++ vs.flatMap c.encode) ++ rest
  rw [List.append_assoc, ← hmiddle, hbytes]

end Codec

end Coprocessor.Wire
