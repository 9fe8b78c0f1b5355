import Coprocessor.Proofs.Wire.Canonical

/-!
# Extents — where reading stops, and on which bytes it succeeds

Most forms take a fixed number of bytes, so the bytes on which reading succeeds
can be told by offsets: there must be enough of them, and at some offsets there
must be small numbers. A counted list is such a form once its count is known.

  • `HasExtent` — a form of a fixed size that accepts the bytes with a property.
  • `list_accepts` — a counted list of such forms, told by its count and offsets.
-/

namespace Coprocessor.Wire

/-- The number that stands in `width` bytes at an offset. -/
def numberAt (bytes : List UInt8) (offset width : Nat) : Nat :=
  Bytes.toNat ((bytes.drop offset).take width)

/-- A place behind bytes that are left out is a place of the whole. -/
theorem numberAt_drop (bytes : List UInt8) (skipped offset width : Nat) :
    numberAt (bytes.drop skipped) offset width = numberAt bytes (skipped + offset) width := by
  rw [numberAt, numberAt, List.drop_drop]

namespace Codec

variable {α β : Type} {c : Codec α} {d : Codec β} {size more : Nat}
  {good fine : List UInt8 → Prop}

/-- Splitting takes the first bytes, if there are enough. -/
theorem split_eq_ok {n : Nat} {bytes front rest : List UInt8} :
    split n bytes = .ok (front, rest)
      ↔ n ≤ bytes.length ∧ front = bytes.take n ∧ rest = bytes.drop n := by
  constructor
  · intro h
    obtain ⟨rfl, rfl⟩ := eq_append_of_split h
    refine ⟨?_, List.take_left.symm, List.drop_left.symm⟩
    rw [List.length_append]
    exact Nat.le_add_right _ _
  · rintro ⟨hlen, rfl, rfl⟩
    have h := split_append (bytes.take n) (bytes.drop n)
    rw [List.take_append_drop, List.length_take, Nat.min_eq_left hlen] at h
    exact h

/-- Reading takes `size` bytes and succeeds on the good ones. -/
structure HasExtent (c : Codec α) (size : Nat) (good : List UInt8 → Prop) : Prop where
  accepts : ∀ bytes, (∃ v rest, c.decode bytes = .ok (v, rest)) ↔ size ≤ bytes.length ∧ good bytes
  rest_eq : ∀ bytes v rest, c.decode bytes = .ok (v, rest) → rest = bytes.drop size

/-- A number is what stands in its bytes. -/
theorem fixed_eq_ok_iff {width n : Nat} {bytes rest : List UInt8} :
    (fixed width).decode bytes = .ok (n, rest)
      ↔ width ≤ bytes.length ∧ numberAt bytes 0 width = n ∧ rest = bytes.drop width := by
  constructor
  · intro h
    obtain ⟨front, hs, hn⟩ := fixed_eq_ok.1 h
    obtain ⟨hlen, rfl, hrest⟩ := split_eq_ok.1 hs
    exact ⟨hlen, hn, hrest⟩
  · rintro ⟨hlen, hn, hrest⟩
    exact fixed_eq_ok.2 ⟨bytes.take width, split_eq_ok.2 ⟨hlen, rfl, hrest⟩, hn⟩

/-- A number has the extent of its width. -/
theorem hasExtent_fixed (width : Nat) : (fixed width).HasExtent width fun _ => True where
  accepts bytes := by
    constructor
    · rintro ⟨n, rest, h⟩
      exact ⟨(fixed_eq_ok_iff.1 h).1, trivial⟩
    · rintro ⟨hlen, -⟩
      exact ⟨_, _, fixed_eq_ok_iff.2 ⟨hlen, rfl, rfl⟩⟩
  rest_eq bytes n rest h := (fixed_eq_ok_iff.1 h).2.2

/-- Building a value needs no bytes. -/
theorem HasExtent.iso {plain : β → α} {build : α → β} (h : c.HasExtent size good) :
    (c.iso plain build).HasExtent size good where
  accepts bytes := by
    rw [← h.accepts bytes]
    constructor
    · rintro ⟨v, rest, hv⟩
      obtain ⟨a, ha, -⟩ := iso_eq_ok.1 hv
      exact ⟨a, rest, ha⟩
    · rintro ⟨a, rest, ha⟩
      exact ⟨build a, rest, iso_eq_ok.2 ⟨a, ha, rfl⟩⟩
  rest_eq bytes v rest hv := by
    obtain ⟨a, ha, -⟩ := iso_eq_ok.1 hv
    exact h.rest_eq bytes a rest ha

/-- A pair has the extent of both parts. -/
theorem HasExtent.pair (hc : c.HasExtent size good) (hd : d.HasExtent more fine) :
    (c.pair d).HasExtent (size + more) fun bytes => good bytes ∧ fine (bytes.drop size) where
  accepts bytes := by
    constructor
    · rintro ⟨v, rest, hv⟩
      obtain ⟨middle, ha, hb⟩ := pair_eq_ok.1 hv
      obtain ⟨hlen, hgood⟩ := (hc.accepts bytes).1 ⟨v.1, middle, ha⟩
      have hmiddle := hc.rest_eq bytes v.1 middle ha
      obtain ⟨hmore, hfine⟩ := (hd.accepts middle).1 ⟨v.2, rest, hb⟩
      rw [hmiddle] at hfine
      rw [hmiddle, List.length_drop] at hmore
      exact ⟨by omega, hgood, hfine⟩
    · rintro ⟨hlen, hgood, hfine⟩
      obtain ⟨a, middle, ha⟩ := (hc.accepts bytes).2 ⟨by omega, hgood⟩
      have hmiddle := hc.rest_eq bytes a middle ha
      have hmore : more ≤ middle.length := by
        rw [hmiddle, List.length_drop]
        omega
      obtain ⟨b, rest, hb⟩ := (hd.accepts middle).2 ⟨hmore, hmiddle ▸ hfine⟩
      exact ⟨(a, b), rest, pair_eq_ok.2 ⟨middle, ha, hb⟩⟩
  rest_eq bytes v rest hv := by
    obtain ⟨middle, ha, hb⟩ := pair_eq_ok.1 hv
    rw [hd.rest_eq middle v.2 rest hb, hc.rest_eq bytes v.1 middle ha, List.drop_drop]

/-- A choice is accepted when its number is below the number of values. -/
theorem hasExtent_choice [DecidableEq α] (all : List α) :
    (choice all).HasExtent 4 fun bytes => numberAt bytes 0 4 < all.length where
  accepts bytes := by
    constructor
    · rintro ⟨v, rest, hv⟩
      obtain ⟨n, hn, hacc⟩ := refine_eq_ok.1 hv
      obtain ⟨hlen, rfl, -⟩ := fixed_eq_ok_iff.1 hn
      refine ⟨hlen, ?_⟩
      split at hacc
      next v' hget => exact (List.getElem?_eq_some_iff.1 hget).1
      next => exact nomatch hacc
    · rintro ⟨hlen, hlt⟩
      refine ⟨all[numberAt bytes 0 4], bytes.drop 4, ?_⟩
      refine refine_eq_ok.2 ⟨numberAt bytes 0 4, fixed_eq_ok_iff.2 ⟨hlen, rfl, rfl⟩, ?_⟩
      simp only [List.getElem?_eq_getElem hlt]
  rest_eq bytes v rest hv := by
    obtain ⟨n, hn, -⟩ := refine_eq_ok.1 hv
    exact (fixed_eq_ok_iff.1 hn).2.2

/-! ## Values one after the other -/

/-- Values of one extent leave what is behind as many of them. -/
theorem HasExtent.decodeMany_rest (hc : c.HasExtent size good) {n : Nat}
    {bytes rest : List UInt8} {vs : List α} (h : decodeMany c n bytes = .ok (vs, rest)) :
    vs.length = n ∧ rest = bytes.drop (size * n) := by
  induction n generalizing bytes vs with
  | zero =>
      obtain ⟨rfl, rfl⟩ := Prod.mk.inj (Except.ok.inj h)
      exact ⟨rfl, rfl⟩
  | succ n ih =>
      obtain ⟨v, middle, vs, hv, hvs, rfl⟩ := decodeMany_succ_eq_ok.1 h
      obtain ⟨hlen, hrest⟩ := ih hvs
      refine ⟨congrArg (· + 1) hlen, ?_⟩
      rw [hrest, hc.rest_eq bytes v middle hv, List.drop_drop, Nat.mul_succ, Nat.add_comm size]

/-- Values are read if each is good in its place. -/
theorem HasExtent.decodeMany_accepts (hc : c.HasExtent size good) (n : Nat)
    (bytes : List UInt8) :
    (∃ vs rest, decodeMany c n bytes = .ok (vs, rest))
      ↔ size * n ≤ bytes.length ∧ ∀ i < n, good (bytes.drop (size * i)) := by
  induction n generalizing bytes with
  | zero =>
      constructor
      · intro _
        exact ⟨Nat.zero_le _, fun i hi => absurd hi (Nat.not_lt_zero i)⟩
      · intro _
        exact ⟨[], bytes, rfl⟩
  | succ n ih =>
      have hstep : ∀ i, (bytes.drop size).drop (size * i) = bytes.drop (size * (i + 1)) := by
        intro i
        rw [List.drop_drop, Nat.mul_succ, Nat.add_comm size]
      constructor
      · rintro ⟨vs, rest, h⟩
        -- behind the first value the places count from its end
        obtain ⟨v, middle, more, hv, hmore, rfl⟩ := decodeMany_succ_eq_ok.1 h
        obtain ⟨hlen, hgood⟩ := (hc.accepts bytes).1 ⟨v, middle, hv⟩
        obtain ⟨hlens, hgoods⟩ := (ih middle).1 ⟨more, rest, hmore⟩
        rw [hc.rest_eq bytes v middle hv] at hlens hgoods
        rw [List.length_drop] at hlens
        refine ⟨by rw [Nat.mul_succ]; omega, ?_⟩
        intro i hi
        cases i with
        | zero => exact hgood
        | succ i => exact hstep i ▸ hgoods i (Nat.lt_of_succ_lt_succ hi)
      · rintro ⟨hlen, hgood⟩
        rw [Nat.mul_succ] at hlen
        obtain ⟨v, middle, hv⟩ :=
          (hc.accepts bytes).2 ⟨by omega, hgood 0 (Nat.succ_pos n)⟩
        have hmiddle := hc.rest_eq bytes v middle hv
        have hlens : size * n ≤ middle.length := by
          rw [hmiddle, List.length_drop]
          omega
        have hgoods : ∀ i < n, good (middle.drop (size * i)) := by
          intro i hi
          rw [hmiddle, hstep]
          exact hgood (i + 1) (Nat.succ_lt_succ hi)
        obtain ⟨more, rest, hmore⟩ := (ih middle).2 ⟨hlens, hgoods⟩
        exact ⟨v :: more, rest, decodeMany_succ_eq_ok.2 ⟨v, middle, more, hv, hmore, rfl⟩⟩

/-- A counted list stops behind its count and its values. -/
theorem HasExtent.list_rest (hc : c.HasExtent size good) {bytes rest : List UInt8}
    {vs : List α} (h : (list c).decode bytes = .ok (vs, rest)) :
    rest = bytes.drop (8 + size * vs.length) := by
  obtain ⟨n, middle, hn, hvs⟩ := list_eq_ok.1 h
  obtain ⟨hlen, hrest⟩ := hc.decodeMany_rest hvs
  rw [hrest, (fixed_eq_ok_iff.1 hn).2.2, List.drop_drop, hlen]

/-- A counted list of `n` values is read exactly from a count of `n`, enough
    bytes and good bytes at every place. -/
theorem HasExtent.list_accepts (hc : c.HasExtent size good) (n : Nat) (bytes : List UInt8) :
    (∃ vs rest, (list c).decode bytes = .ok (vs, rest) ∧ vs.length = n)
      ↔ 8 + size * n ≤ bytes.length ∧ numberAt bytes 0 8 = n
        ∧ ∀ i < n, good (bytes.drop (8 + size * i)) := by
  constructor
  · rintro ⟨vs, rest, h, hlen⟩
    obtain ⟨count, middle, hcount, hvs⟩ := list_eq_ok.1 h
    obtain ⟨h8, hnumber, rfl⟩ := fixed_eq_ok_iff.1 hcount
    obtain rfl : count = n := (hc.decodeMany_rest hvs).1.symm.trans hlen
    obtain ⟨hmany, hgood⟩ := (hc.decodeMany_accepts count (bytes.drop 8)).1 ⟨vs, rest, hvs⟩
    rw [List.length_drop] at hmany
    refine ⟨by omega, hnumber, ?_⟩
    intro i hi
    rw [← List.drop_drop]
    exact hgood i hi
  · rintro ⟨hlen, hnumber, hgood⟩
    have hmany : size * n ≤ (bytes.drop 8).length := by
      rw [List.length_drop]
      omega
    have hgoods : ∀ i < n, good ((bytes.drop 8).drop (size * i)) := by
      intro i hi
      rw [List.drop_drop]
      exact hgood i hi
    obtain ⟨vs, rest, hvs⟩ := (hc.decodeMany_accepts n (bytes.drop 8)).2 ⟨hmany, hgoods⟩
    have hcount : (fixed 8).decode bytes = .ok (n, bytes.drop 8) :=
      fixed_eq_ok_iff.2 ⟨by omega, hnumber, rfl⟩
    exact ⟨vs, rest, list_eq_ok.2 ⟨n, bytes.drop 8, hcount, hvs⟩, (hc.decodeMany_rest hvs).1⟩

end Codec

end Coprocessor.Wire
