import Coprocessor.Proofs.Wire.Extent
import Coprocessor.Wire.Forms

/-!
# Forms of the data model — their laws and extents

The forms are put together from choices, words, flags and lists, and their laws
in the same way. Every value can be written but a transaction whose payload is
too long for its count of 64 bits.

  • `exact_choice` — a choice among all values of a type.
  • `exact_record`, `exact_request`, `exact_transaction`, `exact_signals` — the
    records of the data model, field by field.
  • `hasExtent_record` — seven bytes are a record exactly when their first four
    are the number of a kind.
-/

namespace Coprocessor

/-- No kind is left out. -/
theorem Kind.mem_all (k : Kind) : k ∈ Kind.all := by
  cases k <;> decide

/-- No operation is left out. -/
theorem Operation.mem_all (op : Operation) : op ∈ Operation.all := by
  rcases op with op | op | fn
  · cases op <;> decide
  · cases op <;> decide
  · cases fn <;> decide

namespace Wire

open Codec

/-- A kind is read back from its byte. -/
theorem faithful_kind : kind.Faithful fun _ => True := by
  intro k rest _
  exact faithful_choice Kind.all (by decide) k rest (Kind.mem_all k)

/-- A byte is that of one kind only. -/
theorem canonical_kind : kind.Canonical fun _ => True := by
  intro bytes k rest h
  exact ⟨trivial, (canonical_choice Kind.all (by decide) bytes k rest h).2⟩

/-- A record is read back from its kind and its operands. -/
theorem faithful_record : record.Faithful fun _ => True := by
  refine (faithful_kind.pair (faithful_byte.pair (faithful_byte.pair faithful_byte))).iso ?_ ?_
  · intro _ _
    exact ⟨trivial, trivial, trivial, trivial⟩
  · intro r _
    rfl

/-- The bytes of a record are those that are written for it. -/
theorem canonical_record : record.Canonical fun _ => True := by
  refine (canonical_kind.pair (canonical_byte.pair (canonical_byte.pair canonical_byte))).iso
    ?_ ?_
  · intro _ _
    trivial
  · intro v _
    rfl

/-- A record has one form, and the form one record. -/
theorem exact_record : record.Exact fun _ => True := faithful_record.exact canonical_record

/-! ## The other types -/

/-- A choice among all values of a type. -/
theorem exact_choice {α : Type} [DecidableEq α] {all : List α} (hmem : ∀ v, v ∈ all)
    (hnodup : all.Nodup) (hlen : all.length ≤ 256 ^ 4) : (choice all).Exact fun _ => True := by
  have hfaithful : (choice all).Faithful fun _ => True :=
    fun v rest _ => faithful_choice all hlen v rest (hmem v)
  have hcanonical : (choice all).Canonical fun _ => True :=
    fun bytes v rest h => ⟨trivial, (canonical_choice all hnodup bytes v rest h).2⟩
  exact hfaithful.exact hcanonical

/-- Operations are chosen by their numbers. -/
theorem exact_operation : operation.Exact fun _ => True :=
  exact_choice Operation.mem_all (by decide) (by decide)

/-- A direction is chosen by its number. -/
theorem exact_direction : direction.Exact fun _ => True :=
  exact_choice (by intro v; cases v <;> decide) (by decide) (by decide)

/-- A request is its operation and three indices. -/
theorem exact_request : request.Exact fun _ => True := by
  have hfaithful := exact_operation.faithful.pair
    (faithful_word64.pair (faithful_word64.pair faithful_word64))
  have hcanonical := exact_operation.canonical.pair
    (canonical_word64.pair (canonical_word64.pair canonical_word64))
  exact (hfaithful.iso (fun _ _ => ⟨trivial, trivial, trivial, trivial⟩) fun _ _ => rfl).exact
    (hcanonical.iso (fun _ _ => trivial) fun _ _ => rfl)

/-- Three lines are three flags. -/
theorem exact_signals : signals.Exact fun _ => True := by
  have hfaithful := faithful_flag.pair (faithful_flag.pair faithful_flag)
  have hcanonical := canonical_flag.pair (canonical_flag.pair canonical_flag)
  exact (hfaithful.iso (fun _ _ => ⟨trivial, trivial, trivial⟩) fun _ _ => rfl).exact
    (hcanonical.iso (fun _ _ => trivial) fun _ _ => rfl)

/-- A payload is written if its length can be. -/
theorem exact_transaction : transaction.Exact fun t => t.payload.length < 256 ^ 8 := by
  have hfaithful := exact_direction.faithful.pair
    (faithful_byte.pair (faithful_list faithful_byte))
  have hcanonical := exact_direction.canonical.pair
    (canonical_byte.pair (canonical_list canonical_byte))
  exact (hfaithful.iso (fun _ h => ⟨trivial, trivial, h, fun _ _ => trivial⟩) fun _ _ => rfl).exact
    (hcanonical.iso (fun _ h => h.2.2.1) fun _ _ => rfl)

/-! ## Extents -/

/-- Words are as long as their width, whatever stands there. -/
theorem hasExtent_byte : byte.HasExtent 1 fun _ => True := (hasExtent_fixed 1).iso

theorem hasExtent_word32 : word32.HasExtent 4 fun _ => True := (hasExtent_fixed 4).iso

theorem hasExtent_word64 : word64.HasExtent 8 fun _ => True := (hasExtent_fixed 8).iso

/-- Seven bytes are a record when the number of a kind stands in front. -/
theorem hasExtent_record : record.HasExtent 7 fun bytes => numberAt bytes 0 4 ≤ 5 := by
  have h : record.HasExtent 7 _ := ((hasExtent_choice Kind.all).pair
    (hasExtent_byte.pair (hasExtent_byte.pair hasExtent_byte))).iso
  constructor
  · intro bytes
    refine (h.accepts bytes).trans ?_
    constructor
    · rintro ⟨hlen, hkind, -⟩
      exact ⟨hlen, Nat.le_of_lt_succ hkind⟩
    · rintro ⟨hlen, hkind⟩
      exact ⟨hlen, Nat.lt_succ_of_le hkind, trivial, trivial, trivial⟩
  · exact h.rest_eq

end Wire

end Coprocessor
