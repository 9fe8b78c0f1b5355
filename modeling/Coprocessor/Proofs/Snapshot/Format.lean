import Coprocessor.Proofs.Wire.Forms
import Coprocessor.Snapshot

/-!
# The bytes of a snapshot — which are accepted, and what is said of the others

A snapshot of the right lengths takes 10264 bytes: a count and 256 words of four
bytes, a count and 256 words of eight, a count and 1024 records of seven. Bytes
are accepted exactly when they are long enough, the three counts stand at their
places and every record starts with the number of a kind; what was accepted is
written back as the same bytes.

  • `IsEncoded` — the accepted bytes, told by offsets.
  • `firstWrong?` — the first section, in the order of `Part.all`, whose length is
    not its capacity.
  • `ofBytes_format` — acceptance, the two inverse laws and the two kinds of
    refusal.

The codec laws give "read" as "is the written form of"; the extents of the forms
give it as conditions at offsets. The two views meet in `isEncoded_of_decode` and
`decode_of_isEncoded`.
-/

namespace Coprocessor

/-- Every section, in the order in which they are checked. -/
def Part.all : List Part := [.single, .double, .opcodes]

/-- How many entries a section must have. -/
def Part.capacity : Part → Nat
  | .single => 256
  | .double => 256
  | .opcodes => 1024

namespace Snapshot

/-- How many entries a section has. -/
def size (s : Snapshot) : Part → Nat
  | .single => s.single.length
  | .double => s.double.length
  | .opcodes => s.opcodes.length

/-- The first section of a wrong length. -/
def firstWrong? (s : Snapshot) : Option Part :=
  Part.all.find? fun part => s.size part ≠ part.capacity

/-- Every section has its length. -/
def IsFull (s : Snapshot) : Prop := ∀ part, s.size part = part.capacity

/-- Every section is short enough to be counted in eight bytes. -/
def IsCountable (s : Snapshot) : Prop := ∀ part, s.size part < 2 ^ 64

/-- How many bytes a snapshot of the right lengths takes. -/
def byteCount : Nat := 10264

/-- The bytes that hold a snapshot of the right lengths. -/
structure IsEncoded (bytes : List UInt8) : Prop where
  long : byteCount ≤ bytes.length
  singles : Wire.numberAt bytes 0 8 = 256
  doubles : Wire.numberAt bytes 1032 8 = 256
  records : Wire.numberAt bytes 3088 8 = 1024
  kinds : ∀ i < 1024, Wire.numberAt bytes (3096 + 7 * i) 4 ≤ 5

/-! ## Sections -/

/-- A full snapshot has as many entries as storage. -/
theorem isFull_iff (s : Snapshot) :
    s.IsFull ↔ s.single.length = 256 ∧ s.double.length = 256 ∧ s.opcodes.length = 1024 := by
  constructor
  · intro h
    exact ⟨h .single, h .double, h .opcodes⟩
  · rintro ⟨hs, hd, ho⟩ part
    cases part with
    | single => exact hs
    | double => exact hd
    | opcodes => exact ho

/-- The snapshot of storage has the right lengths. -/
theorem isFull_ofStorage (s : Storage) : (ofStorage s).IsFull :=
  (isFull_iff _).2 ⟨Vector.length_toList, Vector.length_toList, Vector.length_toList⟩

/-- Only a full snapshot has no section of a wrong length. -/
theorem firstWrong?_eq_none (s : Snapshot) : s.firstWrong? = none ↔ s.IsFull := by
  rw [firstWrong?, List.find?_eq_none]
  constructor
  · intro h part
    have hpart := h part (by cases part <;> decide)
    simpa using hpart
  · intro h part _
    simpa using h part

/-- The sections of a full snapshot have lengths that can be written. -/
theorem IsFull.isCountable {s : Snapshot} (h : s.IsFull) : s.IsCountable := by
  intro part
  rw [h part]
  cases part <;> decide

/-- The check names the first wrong section with its length. -/
theorem check_eq (s : Snapshot) :
    s.check = match s.firstWrong? with
      | none => .ok ()
      | some part => .error (.snapshotMismatch part part.capacity (s.size part)) := by
  have hs : decide (s.size .single ≠ Part.single.capacity)
      = !decide (s.single.length = registerCount) := decide_not
  have hd : decide (s.size .double ≠ Part.double.capacity)
      = !decide (s.double.length = registerCount) := decide_not
  have ho : decide (s.size .opcodes ≠ Part.opcodes.capacity)
      = !decide (s.opcodes.length = slotCount) := decide_not
  rw [check, toStorage, firstWrong?, Part.all, List.find?_cons, List.find?_cons, List.find?_cons,
    hs, hd, ho]
  by_cases hsingle : s.single.length = registerCount
  · rw [dif_pos hsingle, decide_eq_true hsingle]
    by_cases hdouble : s.double.length = registerCount
    · rw [dif_pos hdouble, decide_eq_true hdouble]
      by_cases hopcodes : s.opcodes.length = slotCount
      · rw [dif_pos hopcodes, decide_eq_true hopcodes]
        rfl
      · rw [dif_neg hopcodes, decide_eq_false hopcodes]
        rfl
    · rw [dif_neg hdouble, decide_eq_false hdouble]
      rfl
  · rw [dif_neg hsingle, decide_eq_false hsingle]
    rfl

/-! ## The two views of reading -/

/-- A snapshot is read back from its bytes. -/
theorem faithful_snapshot : Wire.snapshot.Faithful IsCountable := by
  refine ((Wire.Codec.faithful_list Wire.Codec.faithful_word32).pair
    ((Wire.Codec.faithful_list Wire.Codec.faithful_word64).pair
      (Wire.Codec.faithful_list Wire.faithful_record))).iso ?_ ?_
  · intro s h
    exact ⟨⟨h .single, fun _ _ => trivial⟩, ⟨h .double, fun _ _ => trivial⟩,
      ⟨h .opcodes, fun _ _ => trivial⟩⟩
  · intro s _
    rfl

/-- Bytes that are read are those that are written. -/
theorem canonical_snapshot : Wire.snapshot.Canonical IsCountable := by
  refine ((Wire.Codec.canonical_list Wire.Codec.canonical_word32).pair
    ((Wire.Codec.canonical_list Wire.Codec.canonical_word64).pair
      (Wire.Codec.canonical_list Wire.canonical_record))).iso ?_ ?_
  · rintro v ⟨⟨hs, -⟩, ⟨hd, -⟩, ⟨ho, -⟩⟩ part
    cases part with
    | single => exact hs
    | double => exact hd
    | opcodes => exact ho
  · intro v _
    rfl

/-- What is read is exactly what was written, with anything behind it. -/
theorem decode_eq_ok_iff (bytes : List UInt8) (s : Snapshot) (tail : List UInt8) :
    Wire.snapshot.decode bytes = .ok (s, tail) ↔ s.IsCountable ∧ bytes = s.toBytes ++ tail := by
  constructor
  · intro h
    exact canonical_snapshot bytes s tail h
  · rintro ⟨hs, rfl⟩
    exact faithful_snapshot s tail hs

/-- Reading takes the sections one after the other. -/
theorem decode_sections (bytes : List UInt8) (s : Snapshot) (tail : List UInt8) :
    Wire.snapshot.decode bytes = .ok (s, tail)
      ↔ ∃ behind32 behind64,
        (Wire.Codec.list Wire.Codec.word32).decode bytes = .ok (s.single, behind32)
        ∧ (Wire.Codec.list Wire.Codec.word64).decode behind32 = .ok (s.double, behind64)
        ∧ (Wire.Codec.list Wire.record).decode behind64 = .ok (s.opcodes, tail) := by
  constructor
  · intro h
    obtain ⟨v, hv, rfl⟩ := Wire.Codec.iso_eq_ok.1 h
    obtain ⟨behind32, hs, hrest⟩ := Wire.Codec.pair_eq_ok.1 hv
    obtain ⟨behind64, hd, ho⟩ := Wire.Codec.pair_eq_ok.1 hrest
    exact ⟨behind32, behind64, hs, hd, ho⟩
  · rintro ⟨behind32, behind64, hs, hd, ho⟩
    refine Wire.Codec.iso_eq_ok.2 ⟨(s.single, s.double, s.opcodes), ?_, rfl⟩
    exact Wire.Codec.pair_eq_ok.2
      ⟨behind32, hs, Wire.Codec.pair_eq_ok.2 ⟨behind64, hd, ho⟩⟩

/-- A snapshot of the right lengths ends at its byte count. -/
theorem tail_of_isFull {bytes : List UInt8} {s : Snapshot} {tail : List UInt8}
    (h : Wire.snapshot.decode bytes = .ok (s, tail)) (hs : s.IsFull) :
    tail = bytes.drop byteCount := by
  obtain ⟨behind32, behind64, hsingle, hdouble, hopcodes⟩ := (decode_sections bytes s tail).1 h
  obtain ⟨h32, h64, ho⟩ := s.isFull_iff.1 hs
  rw [Wire.hasExtent_record.list_rest hopcodes, Wire.hasExtent_word64.list_rest hdouble,
    Wire.hasExtent_word32.list_rest hsingle, List.drop_drop, List.drop_drop, h32, h64, ho]
  rfl

theorem numberAt_record (bytes : List UInt8) (i : Nat) :
    Wire.numberAt ((bytes.drop 3088).drop (8 + 7 * i)) 0 4
      = Wire.numberAt bytes (3096 + 7 * i) 4 := by
  rw [Wire.numberAt_drop, Wire.numberAt_drop, Nat.add_zero, ← Nat.add_assoc]

/-- What was read with the right lengths has its counts and kinds at their offsets. -/
theorem isEncoded_of_decode {bytes : List UInt8} {s : Snapshot} {tail : List UInt8}
    (h : Wire.snapshot.decode bytes = .ok (s, tail)) (hs : s.IsFull) : IsEncoded bytes := by
  obtain ⟨behind32, behind64, hsingle, hdouble, hopcodes⟩ := (decode_sections bytes s tail).1 h
  obtain ⟨h32, h64, ho⟩ := s.isFull_iff.1 hs
  -- each section tells its own count and where the next one starts
  have hrest32 : behind32 = bytes.drop 1032 := by
    rw [Wire.hasExtent_word32.list_rest hsingle, h32]
  have hrest64 : behind64 = bytes.drop 3088 := by
    rw [Wire.hasExtent_word64.list_rest hdouble, h64, hrest32, List.drop_drop]
  subst hrest32 hrest64
  obtain ⟨-, hsingles, -⟩ :=
    (Wire.hasExtent_word32.list_accepts 256 bytes).1 ⟨_, _, hsingle, h32⟩
  obtain ⟨-, hdoubles, -⟩ :=
    (Wire.hasExtent_word64.list_accepts 256 _).1 ⟨_, _, hdouble, h64⟩
  obtain ⟨hlen, hrecords, hkinds⟩ :=
    (Wire.hasExtent_record.list_accepts 1024 _).1 ⟨_, _, hopcodes, ho⟩
  rw [List.length_drop] at hlen
  rw [Wire.numberAt_drop] at hdoubles hrecords
  refine ⟨?_, hsingles, hdoubles, hrecords, ?_⟩
  · show 10264 ≤ bytes.length
    omega
  · intro i hi
    exact numberAt_record bytes i ▸ hkinds i hi

/-- Encoded bytes are read, section after section. -/
theorem decode_of_isEncoded {bytes : List UInt8} (h : IsEncoded bytes) :
    ∃ s tail, Wire.snapshot.decode bytes = .ok (s, tail) ∧ s.IsFull := by
  obtain ⟨hlen, hsingles, hdoubles, hrecords, hkinds⟩ := h
  have hlong : 10264 ≤ bytes.length := hlen
  obtain ⟨singles, behind32, hsingle, h32⟩ :=
    (Wire.hasExtent_word32.list_accepts 256 bytes).2
      ⟨by omega, hsingles, fun _ _ => trivial⟩
  have hrest32 : behind32 = bytes.drop 1032 := by
    rw [Wire.hasExtent_word32.list_rest hsingle, h32]
  subst hrest32
  obtain ⟨doubles, behind64, hdouble, h64⟩ :=
    (Wire.hasExtent_word64.list_accepts 256 (bytes.drop 1032)).2
      ⟨by rw [List.length_drop]; omega, by rw [Wire.numberAt_drop]; exact hdoubles,
        fun _ _ => trivial⟩
  have hrest64 : behind64 = bytes.drop 3088 := by
    rw [Wire.hasExtent_word64.list_rest hdouble, h64, List.drop_drop]
  subst hrest64
  obtain ⟨records, tail, hopcodes, ho⟩ :=
    (Wire.hasExtent_record.list_accepts 1024 (bytes.drop 3088)).2
      ⟨by rw [List.length_drop]; omega, by rw [Wire.numberAt_drop]; exact hrecords,
        fun i hi => (numberAt_record bytes i).symm ▸ hkinds i hi⟩
  refine ⟨⟨singles, doubles, records⟩, tail, ?_, ?_⟩
  · exact (decode_sections bytes _ tail).2 ⟨_, _, hsingle, hdouble, hopcodes⟩
  · exact (isFull_iff _).2 ⟨h32, h64, ho⟩

/-! ## Acceptance and refusal -/

/-- Bytes that cannot be read are a fault of encoding. -/
theorem ofBytes_of_fault {bytes : List UInt8} {fault : Wire.Fault}
    (h : Wire.snapshot.decode bytes = .error fault) : ofBytes bytes = .error (.encoding fault) := by
  rw [ofBytes, h]

/-- A snapshot that is read with a wrong section is refused for the first of them. -/
theorem ofBytes_of_firstWrong {bytes : List UInt8} {s : Snapshot} {tail : List UInt8} {part : Part}
    (h : Wire.snapshot.decode bytes = .ok (s, tail)) (hpart : s.firstWrong? = some part) :
    ofBytes bytes
      = .error (.coprocessor (.snapshotMismatch part part.capacity (s.size part))) := by
  simp only [ofBytes, h, check_eq, hpart]

/-- A full snapshot that is read is accepted. -/
theorem ofBytes_of_isFull {bytes : List UInt8} {s : Snapshot} {tail : List UInt8}
    (h : Wire.snapshot.decode bytes = .ok (s, tail)) (hs : s.IsFull) : ofBytes bytes = .ok s := by
  simp only [ofBytes, h, check_eq, s.firstWrong?_eq_none.2 hs]

/-- What is accepted was read, and its sections have their lengths. -/
theorem ofBytes_eq_ok_iff (bytes : List UInt8) (s : Snapshot) :
    ofBytes bytes = .ok s ↔ (∃ tail, Wire.snapshot.decode bytes = .ok (s, tail)) ∧ s.IsFull := by
  constructor
  · intro h
    cases hread : Wire.snapshot.decode bytes with
    | error fault =>
        rw [ofBytes_of_fault hread] at h
        exact nomatch h
    | ok v =>
        obtain ⟨s', tail⟩ := v
        cases hpart : s'.firstWrong? with
        | some part =>
            rw [ofBytes_of_firstWrong hread hpart] at h
            exact nomatch h
        | none =>
            have hs' : s'.IsFull := s'.firstWrong?_eq_none.1 hpart
            rw [ofBytes_of_isFull hread hs'] at h
            obtain rfl : s' = s := Except.ok.inj h
            exact ⟨⟨tail, rfl⟩, hs'⟩
  · rintro ⟨⟨tail, hread⟩, hs⟩
    exact ofBytes_of_isFull hread hs

/-- What is accepted is written back as the bytes it was read from. -/
theorem toBytes_of_ofBytes {bytes : List UInt8} {s : Snapshot} (h : ofBytes bytes = .ok s) :
    s.IsFull ∧ s.toBytes = bytes.take byteCount := by
  obtain ⟨⟨tail, hread⟩, hs⟩ := (ofBytes_eq_ok_iff bytes s).1 h
  have htail : tail = bytes.drop byteCount := tail_of_isFull hread hs
  obtain ⟨-, hbytes⟩ := (decode_eq_ok_iff bytes s tail).1 hread
  refine ⟨hs, ?_⟩
  have hsame : s.toBytes ++ tail = bytes.take byteCount ++ tail := by
    rw [← hbytes, htail, List.take_append_drop]
  exact List.append_cancel_right hsame

theorem ofBytes_toBytes_append {s : Snapshot} (hs : s.IsFull) (tail : List UInt8) :
    ofBytes (s.toBytes ++ tail) = .ok s :=
  ofBytes_of_isFull ((decode_eq_ok_iff _ s tail).2 ⟨hs.isCountable, rfl⟩) hs

/-- A written snapshot with bytes missing at its end is not the form of anything. -/
theorem ofBytes_of_properPrefix {s : Snapshot} {front : List UInt8} (hs : s.IsCountable)
    (hfront : front <+: s.toBytes) (hne : front ≠ s.toBytes) :
    ∃ fault, ofBytes front = .error (.encoding fault) := by
  obtain ⟨missing, hmissing⟩ := hfront
  cases hread : Wire.snapshot.decode front with
  | error fault => exact ⟨fault, ofBytes_of_fault hread⟩
  | ok v =>
      obtain ⟨s', tail⟩ := v
      obtain ⟨hs', hbytes⟩ := (decode_eq_ok_iff front s' tail).1 hread
      -- the whole would be read as the same snapshot with the missing bytes left over
      have hwhole : Wire.snapshot.decode s.toBytes = .ok (s', tail ++ missing) := by
        refine (decode_eq_ok_iff s.toBytes s' _).2 ⟨hs', ?_⟩
        rw [← hmissing, hbytes, List.append_assoc]
      have hself : Wire.snapshot.decode s.toBytes = .ok (s, []) :=
        (decode_eq_ok_iff s.toBytes s []).2 ⟨hs, (List.append_nil _).symm⟩
      rw [hself] at hwhole
      obtain ⟨-, hnil⟩ := Prod.mk.inj (Except.ok.inj hwhole)
      have hnone : missing = [] := (List.append_eq_nil_iff.1 hnil.symm).2
      rw [hnone, List.append_nil] at hmissing
      exact absurd hmissing hne

/-- Bytes that are not accepted name the first wrong section of what they hold,
    or hold nothing. -/
theorem ofBytes_eq_error {bytes : List UInt8} {e : Failure} (h : ofBytes bytes = .error e) :
    (∃ s tail part, Wire.snapshot.decode bytes = .ok (s, tail) ∧ s.firstWrong? = some part
        ∧ e = .coprocessor (.snapshotMismatch part part.capacity (s.size part)))
      ∨ ∃ fault, Wire.snapshot.decode bytes = .error fault ∧ e = .encoding fault := by
  cases hread : Wire.snapshot.decode bytes with
  | error fault =>
      rw [ofBytes_of_fault hread] at h
      exact .inr ⟨fault, rfl, (Except.error.inj h).symm⟩
  | ok v =>
      obtain ⟨s, tail⟩ := v
      cases hpart : s.firstWrong? with
      | some part =>
          rw [ofBytes_of_firstWrong hread hpart] at h
          exact .inl ⟨s, tail, part, rfl, hpart, (Except.error.inj h).symm⟩
      | none =>
          rw [ofBytes_of_isFull hread (s.firstWrong?_eq_none.1 hpart)] at h
          exact nomatch h

/-- **The bytes of a snapshot**: exactly the encoded bytes are accepted; what is
    accepted is written back as the bytes it was read from, and what was written
    is accepted with anything behind it but not with a byte missing. Bytes that
    hold a snapshot of other lengths are refused with the first wrong section,
    any other bytes as not being the form of a snapshot. -/
theorem ofBytes_format :
    (∀ bytes, (∃ s, ofBytes bytes = .ok s) ↔ IsEncoded bytes)
      ∧ (∀ bytes s, ofBytes bytes = .ok s → s.IsFull ∧ s.toBytes = bytes.take byteCount)
      ∧ (∀ (s : Snapshot) tail, s.IsFull → ofBytes (s.toBytes ++ tail) = .ok s)
      ∧ (∀ (s : Snapshot) front, s.IsFull → front <+: s.toBytes → front ≠ s.toBytes →
          ∃ fault, ofBytes front = .error (.encoding fault))
      ∧ (∀ bytes s tail, Wire.snapshot.decode bytes = .ok (s, tail)
          ↔ s.IsCountable ∧ bytes = s.toBytes ++ tail)
      ∧ (∀ bytes s tail part, Wire.snapshot.decode bytes = .ok (s, tail) →
          s.firstWrong? = some part →
          ofBytes bytes
            = .error (.coprocessor (.snapshotMismatch part part.capacity (s.size part))))
      ∧ (∀ bytes e, ofBytes bytes = .error e →
          (∃ s tail part, Wire.snapshot.decode bytes = .ok (s, tail)
              ∧ s.firstWrong? = some part
              ∧ e = .coprocessor (.snapshotMismatch part part.capacity (s.size part)))
            ∨ ∃ fault, Wire.snapshot.decode bytes = .error fault ∧ e = .encoding fault) := by
  refine ⟨?_, ?_, ?_, ?_, decode_eq_ok_iff, ?_, ?_⟩
  · intro bytes
    constructor
    · rintro ⟨s, h⟩
      obtain ⟨⟨tail, hread⟩, hs⟩ := (ofBytes_eq_ok_iff bytes s).1 h
      exact isEncoded_of_decode hread hs
    · intro h
      obtain ⟨s, tail, hread, hs⟩ := decode_of_isEncoded h
      exact ⟨s, ofBytes_of_isFull hread hs⟩
  · intro bytes s h
    exact toBytes_of_ofBytes h
  · intro s tail hs
    exact ofBytes_toBytes_append hs tail
  · intro s front hs hfront hne
    exact ofBytes_of_properPrefix hs.isCountable hfront hne
  · intro bytes s tail part hread hpart
    exact ofBytes_of_firstWrong hread hpart
  · intro bytes e h
    exact ofBytes_eq_error h

/-- Cleared storage with a byte behind it, three empty sections, and three bytes. -/
theorem ofBytes_format_cleared :
    let s := ofStorage .cleared
    ofBytes (s.toBytes ++ [7]) = .ok s
      ∧ IsEncoded (s.toBytes ++ [7])
      ∧ ofBytes (List.replicate 24 0)
          = .error (.coprocessor (.snapshotMismatch .single 256 0))
      ∧ ∃ fault, ofBytes [1, 2, 3] = .error (.encoding fault) := by
  intro s
  obtain ⟨haccept, -, hwritten, -, -, hwrong, -⟩ := ofBytes_format
  have hread : ofBytes (s.toBytes ++ [7]) = .ok s := hwritten s [7] (isFull_ofStorage .cleared)
  refine ⟨hread, (haccept _).1 ⟨s, hread⟩, ?_, ?_⟩
  · exact hwrong (List.replicate 24 0) ⟨[], [], []⟩ [] .single rfl rfl
  · exact ⟨.unexpectedEnd, rfl⟩

end Snapshot

end Coprocessor
