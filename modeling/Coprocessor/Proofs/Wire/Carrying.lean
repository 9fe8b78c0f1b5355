import Coprocessor.Proofs.Wire.Forms

/-!
# Carrying — the one form that is not canonical

Nanoseconds beyond a second are carried into the seconds when an interval is
read, so bytes with too many of them are read as an interval that is written
otherwise. Every other type of the data model is written in one way only, and
every value of every type is read back from its form.

  • `Interval.ofParts?_parts`, `Interval.eq_of_ofParts?` — parts without a carry
    and intervals are the same.
  • `interval_eq_ok` — the parts from which an interval is read.
  • `interval_isPrefix_iff` — an interval is written as it was read exactly if its
    nanoseconds needed no carry.
  • `dataModel_exact` — the laws of all types of the data model.
-/

namespace Coprocessor

namespace Interval

/-- An interval comes from its own parts. -/
theorem ofParts?_parts (d : Interval) :
    ofParts? d.seconds (UInt32.ofNat d.nanos.val) = some d := by
  have hnanos : (UInt32.ofNat d.nanos.val).toNat = d.nanos.val :=
    UInt32.toNat_ofNat_of_lt' (Nat.lt_trans d.nanos.isLt (by decide))
  have hcarry : d.nanos.val / 1000000000 = 0 := Nat.div_eq_of_lt d.nanos.isLt
  have hrest : d.nanos.val % 1000000000 = d.nanos.val := Nat.mod_eq_of_lt d.nanos.isLt
  simp only [ofParts?, hnanos, hcarry, Nat.add_zero, if_pos d.seconds.toNat_lt, hrest,
    UInt64.ofNat_toNat]

/-- Parts without a carry are the parts of their interval. -/
theorem eq_of_ofParts? {seconds : UInt64} {nanos : UInt32} {d : Interval}
    (h : ofParts? seconds nanos = some d) (hlt : nanos.toNat < 1000000000) :
    seconds = d.seconds ∧ nanos = UInt32.ofNat d.nanos.val := by
  have hparts := ofParts?_parts ⟨seconds, ⟨nanos.toNat, hlt⟩⟩
  rw [UInt32.ofNat_toNat, h] at hparts
  obtain rfl := Option.some.inj hparts
  exact ⟨rfl, UInt32.ofNat_toNat.symm⟩

end Interval

namespace Wire

open Codec

/-! ## Intervals -/

/-- An interval keeps its nanoseconds below a second, so reading it back carries nothing. -/
theorem faithful_interval : interval.Faithful fun _ => True := by
  refine (faithful_word64.pair faithful_word32).refine (fun _ _ => ⟨trivial, trivial⟩) ?_
  intro d _
  simp only [Interval.ofParts?_parts]

/-- An interval is read from the forms of a number of seconds and one of nanoseconds
    from which there is an interval. -/
theorem interval_eq_ok {bytes rest : List UInt8} {d : Interval}
    (h : interval.decode bytes = .ok (d, rest)) :
    ∃ seconds nanos, bytes = word64.encode seconds ++ (word32.encode nanos ++ rest)
      ∧ Interval.ofParts? seconds nanos = some d := by
  obtain ⟨⟨seconds, nanos⟩, hparts, haccept⟩ := refine_eq_ok.1 h
  obtain ⟨-, hbytes⟩ := (canonical_word64.pair canonical_word32) bytes _ rest hparts
  refine ⟨seconds, nanos, ?_, ?_⟩
  · rw [hbytes, ← List.append_assoc]
    rfl
  · dsimp only at haccept
    split at haccept
    next d' hd =>
      obtain rfl := Except.ok.inj haccept
      exact hd
    next => exact nomatch haccept

/-- The nanoseconds stand behind eight bytes of seconds. -/
theorem numberAt_nanos (seconds : UInt64) (nanos : UInt32) (rest : List UInt8) :
    numberAt (word64.encode seconds ++ (word32.encode nanos ++ rest)) 8 4 = nanos.toNat := by
  have hlen : (word64.encode seconds).length = 8 := Bytes.length_ofNat 8 _
  have hread := faithful_fixed 4 nanos.toNat rest nanos.toNat_lt
  rw [← Nat.add_zero 8, ← numberAt_drop, List.drop_left' hlen]
  exact (fixed_eq_ok_iff.1 hread).2.1

/-- An interval, and what stands behind it, is written as it was read exactly if
    there was nothing to carry. -/
theorem interval_isPrefix_iff {bytes behind rest : List UInt8} {d : Interval}
    (h : interval.decode bytes = .ok (d, behind ++ rest)) :
    interval.encode d ++ behind <+: bytes ↔ numberAt bytes 8 4 < 1000000000 := by
  obtain ⟨seconds, nanos, rfl, hd⟩ := interval_eq_ok h
  have hform : ∀ more : List UInt8, interval.encode d ++ more
      = word64.encode d.seconds ++ (word32.encode (UInt32.ofNat d.nanos.val) ++ more) :=
    fun more => List.append_assoc _ _ _
  constructor
  · rintro ⟨more, hmore⟩
    -- the nanoseconds of an interval that was written are its own
    rw [← hmore, List.append_assoc, hform, numberAt_nanos]
    exact Nat.lt_of_le_of_lt (Nat.mod_le _ _) d.nanos.isLt
  · rw [numberAt_nanos]
    intro hlt
    obtain ⟨rfl, rfl⟩ := Interval.eq_of_ofParts? hd hlt
    refine ⟨rest, ?_⟩
    rw [List.append_assoc, hform]

/-! ## Configurations -/

theorem faithful_config : config.Faithful fun _ => True := by
  have h := faithful_interval.pair (faithful_flag.pair faithful_word64.option)
  exact h.iso (fun _ _ => ⟨trivial, trivial, fun _ _ => trivial⟩) fun _ _ => rfl

/-- A configuration is written as it was read exactly if its interval is. -/
theorem config_isPrefix_iff {bytes rest : List UInt8} {c : Config}
    (h : config.decode bytes = .ok (c, rest)) :
    config.encode c <+: bytes ↔ numberAt bytes 8 4 < 1000000000 := by
  obtain ⟨v, hv, rfl⟩ := iso_eq_ok.1 h
  obtain ⟨middle, hinterval, hmiddle⟩ := pair_eq_ok.1 hv
  obtain ⟨-, rfl⟩ := (canonical_flag.pair canonical_word64.option) middle v.2 rest hmiddle
  exact interval_isPrefix_iff hinterval

/-- **The forms of the data model are prefix-free and canonical**: every value of
    every type is read back from its form, whatever stands behind it, so that no
    form begins with another one; and what is read as a value is the form of that
    value, but for configurations, which are read like that exactly if the
    nanoseconds of the interval are less than a second. The payload of a transaction
    must be one that can be counted in 64 bits. -/
theorem dataModel_exact :
    kind.Exact (fun _ => True)
      ∧ record.Exact (fun _ => True)
      ∧ operation.Exact (fun _ => True)
      ∧ request.Exact (fun _ => True)
      ∧ direction.Exact (fun _ => True)
      ∧ transaction.Exact (fun t => t.payload.length < 256 ^ 8)
      ∧ signals.Exact (fun _ => True)
      ∧ config.Faithful (fun _ => True)
      ∧ config.PrefixFree (fun _ => True)
      ∧ ∀ bytes c rest, config.decode bytes = .ok (c, rest) →
          (config.encode c <+: bytes ↔ numberAt bytes 8 4 < 1000000000) := by
  refine ⟨faithful_kind.exact canonical_kind, exact_record, exact_operation, exact_request,
    exact_direction, exact_transaction, exact_signals, faithful_config,
    faithful_config.prefixFree, ?_⟩
  intro bytes c rest h
  exact config_isPrefix_iff h

/-- A read with one payload byte, and a lenient configuration whose interval of a
    billion nanoseconds is read as one second. -/
theorem dataModel_exact_carried :
    let t : Transaction := ⟨.read, 3, [9]⟩
    let bytes : List UInt8 := [0, 0, 0, 0, 0, 0, 0, 0, 0x00, 0xca, 0x9a, 0x3b, 0, 0, 7]
    transaction.decode (transaction.encode t ++ [7]) = .ok (t, [7])
      ∧ config.decode bytes = .ok (⟨.second, false, none⟩, [7])
      ∧ ¬ config.encode ⟨.second, false, none⟩ <+: bytes := by
  intro t bytes
  obtain ⟨-, -, -, -, -, htransaction, -, -, -, hconfig⟩ := dataModel_exact
  have hread : config.decode bytes = .ok (⟨.second, false, none⟩, [7]) := rfl
  refine ⟨htransaction.faithful t [7] (by decide), hread, ?_⟩
  rw [hconfig bytes _ [7] hread]
  decide

end Wire

end Coprocessor
