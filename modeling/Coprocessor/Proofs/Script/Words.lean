import Coprocessor.Proofs.Binary.Literal
import Coprocessor.Proofs.Script.Grammar
import Coprocessor.Proofs.Success

/-!
# Words — a single word is read exactly if it is of its class

  • `Located.name_eq_ok`, `integer_eq_ok`, `byte_eq_ok`, `word32_eq_ok`,
    `word64_eq_ok`, `operation_eq_ok`, `kind_eq_ok` — one equivalence for each
    way to read a word, whatever column the word stands at.
  • `Token.isPattern_fractional`, `isPattern_identifier` — what such a word can be.
  • `Located.literal?_cases` — a word is a literal of a format or none; a value is
    tried as a literal first, so no integer is lost by it.
  • `Verb.ofName?_eq_some`, `direction?_eq_some` — the names that are looked up
    without a word.
  • `Located.verb` — the first word of a line, read like the names of operations and
    kinds.
-/

namespace Coprocessor

/-! ## Names -/

/-- An operation is found by its mnemonic. -/
theorem Operation.ofMnemonic?_mnemonic (op : Operation) :
    Operation.ofMnemonic? op.mnemonic = some op := by
  have hall : ∀ op ∈ Operation.all, Operation.ofMnemonic? op.mnemonic = some op := by
    decide +kernel
  exact hall op (by cases op <;> rename_i f <;> cases f <;> decide)

/-- A kind is found by its mnemonic. -/
theorem Kind.ofMnemonic?_mnemonic (k : Kind) : Kind.ofMnemonic? k.mnemonic = some k := by
  cases k <;> decide +kernel

namespace Script

open Binary (Format)

/-! ## Patterns by the kind of word -/

namespace Token

/-- A fractional word is the pattern that its text is read as. -/
theorem isPattern_fractional {f : Format} {text : String} {n : Nat} :
    (Token.fractional text).IsPattern f n ↔ f.read? text.toList = some n := by
  constructor
  · rintro (h | ⟨_, h, _⟩ | ⟨_, h, _⟩ | h)
    · exact h
    · exact nomatch h
    · exact nomatch h
    · exact nomatch h
  · exact .fractional

/-- A name is a pattern if it is one of an infinity or of no number. -/
theorem isPattern_identifier {f : Format} {name : String} {n : Nat} :
    (Token.identifier name).IsPattern f n
      ↔ name.toLower = "inf" ∧ f.infinity = n ∨ name.toLower = "nan" ∧ f.quietNaN = n := by
  constructor
  · rintro (_ | ⟨_, h, hinf⟩ | ⟨_, h, hnan⟩ | h)
    · obtain rfl := Token.identifier.inj h
      exact Or.inl ⟨hinf, rfl⟩
    · obtain rfl := Token.identifier.inj h
      exact Or.inr ⟨hnan, rfl⟩
    · exact nomatch h
  · rintro (⟨hinf, rfl⟩ | ⟨hnan, rfl⟩)
    · exact .infinity ⟨name, rfl, hinf⟩
    · exact .nan ⟨name, rfl, hnan⟩

end Token

/-! ## Single words -/

namespace Located

variable {t : Located} {role : Role}

/-- A name is read from a name only. -/
theorem name_eq_ok {name : String} : t.name role = .ok name ↔ t.token = .identifier name := by
  rw [Located.name]
  split
  next found h =>
    rw [h]
    constructor
    · intro hok
      rw [Except.ok.inj hok]
    · intro heq
      rw [Token.identifier.inj heq]
  next hother =>
    constructor
    · intro hok
      exact nomatch hok
    · intro heq
      exact absurd heq (hother name)

/-- An integer is read from either notation, if it is not negative. -/
theorem integer_eq_ok {value : UInt64} : t.integer role = .ok value ↔ t.token.IsIndex value := by
  rw [Located.integer, Token.IsIndex]
  split
  next found h =>
    rw [h]
    constructor
    · intro hok
      exact .hexadecimal (congrArg UInt64.toNat (Except.ok.inj hok))
    · rintro ⟨heq⟩
      rw [UInt64.toNat.inj heq]
  next found h =>
    rw [h]
    have hbound : found.toInt < 2 ^ 63 := found.toInt_lt
    -- a number in decimal notation has 63 bits and a sign
    by_cases hsign : 0 ≤ found.toInt
    · rw [if_pos hsign]
      constructor
      · intro hok
        have hvalue := congrArg UInt64.toNat (Except.ok.inj hok)
        rw [UInt64.toNat_ofNat'] at hvalue
        exact .number (by omega)
      · rintro (⟨⟩ | ⟨heq⟩)
        rw [heq, Int.toNat_natCast, UInt64.ofNat_toNat]
    · rw [if_neg hsign]
      constructor
      · intro hok
        exact nomatch hok
      · rintro (⟨⟩ | ⟨heq⟩)
        exact absurd (heq ▸ Int.natCast_nonneg _) hsign
  next hhex hnumber =>
    constructor
    · intro hok
      exact nomatch hok
    · intro h
      generalize t.token = token at *
      cases h with
      | hexadecimal _ => exact absurd rfl (hhex _)
      | number _ => exact absurd rfl (hnumber _)

/-- A byte is an integer of eight bits. -/
theorem byte_eq_ok {b : UInt8} : t.byte role = .ok b ↔ t.token.IsByte b := by
  rw [Located.byte, Token.IsByte, bind_eq_ok]
  constructor
  · rintro ⟨value, hvalue, hok⟩
    by_cases hlt : value.toNat < 256
    · rw [if_pos hlt] at hok
      have hb : b.toNat = value.toNat := by
        rw [← Except.ok.inj hok, UInt8.toNat_ofNat']
        exact Nat.mod_eq_of_lt hlt
      rw [hb]
      exact integer_eq_ok.1 hvalue
    · rw [if_neg hlt] at hok
      exact nomatch hok
  · intro h
    rw [← UInt8.toNat_toUInt64] at h
    refine ⟨b.toUInt64, integer_eq_ok.2 h, ?_⟩
    rw [UInt8.toNat_toUInt64, if_pos b.toNat_lt, UInt8.ofNat_toNat]

/-- A word is a literal of a format, which then is its only pattern, or it is none
    and its patterns are the integers. -/
theorem literal?_cases {f : Format} (hf : 0 < f.fractionBits) (t : Located) :
    (∃ bits, t.literal? f = some bits ∧ bits < 2 * f.signBit
        ∧ ∀ n, t.token.IsPattern f n ↔ bits = n)
      ∨ (t.literal? f = none ∧ ∀ n, t.token.IsPattern f n ↔ t.token.IsInteger n) := by
  obtain ⟨token, column⟩ := t
  cases token with
  | hexadecimal value | number value =>
      refine Or.inr ⟨rfl, fun n => ⟨?_, .integer⟩⟩
      rintro (h | ⟨_, h, _⟩ | ⟨_, h, _⟩ | h)
      · exact nomatch h
      · exact nomatch h
      · exact h
  | fractional text =>
      have hliteral : literal? f ⟨.fractional text, column⟩ = f.read? text.toList := rfl
      cases hread : f.read? text.toList with
      | some bits =>
          refine Or.inl ⟨bits, hliteral.trans hread, Format.read?_lt hf hread, fun n => ?_⟩
          rw [Token.isPattern_fractional, hread, Option.some_inj]
      | none =>
          refine Or.inr ⟨hliteral.trans hread, fun n => ⟨?_, .integer⟩⟩
          rw [Token.isPattern_fractional, hread]
          intro h
          exact nomatch h
  | identifier name =>
      have hliteral : literal? f ⟨.identifier name, column⟩
          = if name.toLower = "inf" ∨ name.toLower = "nan" then f.read? name.toList else none := rfl
      -- two names are literals, and no other name is even tried
      by_cases hinf : name.toLower = "inf"
      · have hread := f.read?_inf hinf
        refine Or.inl ⟨f.infinity, ?_, Format.read?_lt hf hread, fun n => ?_⟩
        · rw [hliteral, if_pos (Or.inl hinf), hread]
        · rw [Token.isPattern_identifier, hinf]
          simp [eq_comm]
      · by_cases hnan : name.toLower = "nan"
        · have hread := f.read?_nan hnan
          refine Or.inl ⟨f.quietNaN, ?_, Format.read?_lt hf hread, fun n => ?_⟩
          · rw [hliteral, if_pos (Or.inr hnan), hread]
          · rw [Token.isPattern_identifier, hnan]
            simp [eq_comm]
        · refine Or.inr ⟨?_, fun n => ⟨?_, .integer⟩⟩
          · rw [hliteral, if_neg (not_or.2 ⟨hinf, hnan⟩)]
          · rw [Token.isPattern_identifier]
            rintro (⟨h, -⟩ | ⟨h, -⟩)
            · exact absurd h hinf
            · exact absurd h hnan

/-- A 32-bit value is a literal in single precision or an integer that fits. -/
theorem word32_eq_ok {word : UInt32} : t.word32 = .ok word ↔ t.token.IsWord32 word := by
  rw [Located.word32, Token.IsWord32]
  obtain ⟨bits, hliteral, hbits, hpattern⟩ | ⟨hliteral, hpattern⟩ :=
    literal?_cases (f := .single) (by decide) t
  · rw [hliteral, hpattern]
    have hlt : bits < 2 ^ 32 := hbits
    constructor
    · intro hok
      rw [← Except.ok.inj hok, UInt32.toNat_ofNat']
      exact (Nat.mod_eq_of_lt hlt).symm
    · rintro rfl
      exact congrArg Except.ok UInt32.ofNat_toNat
  · rw [hliteral, hpattern]
    dsimp only
    rw [bind_eq_ok]
    constructor
    -- no literal, so an integer that is checked
    · rintro ⟨value, hvalue, hok⟩
      by_cases hlt : value.toNat < 2 ^ (32 : Nat)
      · rw [if_pos hlt] at hok
        have hword : word.toNat = value.toNat := by
          rw [← Except.ok.inj hok, UInt32.toNat_ofNat']
          exact Nat.mod_eq_of_lt hlt
        rw [hword]
        exact integer_eq_ok.1 hvalue
      · rw [if_neg hlt] at hok
        exact nomatch hok
    · intro h
      rw [← UInt32.toNat_toUInt64] at h
      refine ⟨word.toUInt64, integer_eq_ok.2 h, ?_⟩
      rw [UInt32.toNat_toUInt64, if_pos word.toNat_lt, UInt32.ofNat_toNat]

/-- A 64-bit value is a literal in double precision or an integer. -/
theorem word64_eq_ok {word : UInt64} : t.word64 = .ok word ↔ t.token.IsWord64 word := by
  rw [Located.word64, Token.IsWord64]
  obtain ⟨bits, hliteral, hbits, hpattern⟩ | ⟨hliteral, hpattern⟩ :=
    literal?_cases (f := .double) (by decide) t
  · rw [hliteral, hpattern]
    have hlt : bits < 2 ^ 64 := hbits
    constructor
    · intro hok
      rw [← Except.ok.inj hok, UInt64.toNat_ofNat']
      exact (Nat.mod_eq_of_lt hlt).symm
    · rintro rfl
      exact congrArg Except.ok UInt64.ofNat_toNat
  · rw [hliteral, hpattern]
    exact integer_eq_ok

/-- A name that is looked up after it was read. -/
theorem lookup_eq_ok {α : Type} {find : String → Option α} {next : String → Except Problem α}
    {a : α} (h : ∀ name, next name = .ok a ↔ find name = some a) :
    (t.name role >>= next) = .ok a
      ↔ ∃ name, t.token = .identifier name ∧ find name = some a := by
  rw [bind_eq_ok]
  constructor
  · rintro ⟨name, hname, hok⟩
    exact ⟨name, name_eq_ok.1 hname, (h name).1 hok⟩
  · rintro ⟨name, hname, hfind⟩
    exact ⟨name, name_eq_ok.2 hname, (h name).2 hfind⟩

/-- An operation is read from its name, in any case of letters. -/
theorem operation_eq_ok {op : Operation} : t.operation = .ok op ↔ t.token.IsOperation op := by
  refine lookup_eq_ok fun name => ?_
  cases Operation.ofMnemonic? name with
  | none => exact ⟨fun h => (nomatch h), fun h => (nomatch h)⟩
  | some found =>
      exact ⟨fun h => congrArg some (Except.ok.inj h),
        fun h => congrArg Except.ok (Option.some.inj h)⟩

theorem kind_eq_ok {kind : Kind} : t.kind = .ok kind ↔ t.token.IsKind kind := by
  refine lookup_eq_ok fun name => ?_
  cases Kind.ofMnemonic? name with
  | none => exact ⟨fun h => (nomatch h), fun h => (nomatch h)⟩
  | some found =>
      exact ⟨fun h => congrArg some (Except.ok.inj h),
        fun h => congrArg Except.ok (Option.some.inj h)⟩

end Located

/-- A verb goes by its name, in any case of letters. -/
theorem Verb.ofName?_eq_some {name : String} {v : Verb} :
    Verb.ofName? name = some v ↔ name.toLower = v.name := by
  constructor
  · intro h
    have hfound : decide (v.name = name.toLower) = true :=
      List.find?_some (p := fun v : Verb => decide (v.name = name.toLower)) h
    exact (of_decide_eq_true hfound).symm
  · intro h
    rw [Verb.ofName?, h]
    cases v <;> decide +kernel

/-- A word that must name a verb. -/
def Located.verb (t : Located) : Except Problem Verb := do
  let name ← t.name .command
  match Verb.ofName? name with
  | some verb => .ok verb
  | none => .error (.unknownCommand name.toLower)

theorem Located.verb_eq_ok {t : Located} {v : Verb} :
    t.verb = .ok v ↔ t.token.IsNamed v.name := by
  have hlookup : t.verb = .ok v
      ↔ ∃ name, t.token = .identifier name ∧ Verb.ofName? name = some v := by
    refine lookup_eq_ok fun name => ?_
    cases Verb.ofName? name with
    | none => exact ⟨fun h => (nomatch h), fun h => (nomatch h)⟩
    | some found =>
        exact ⟨fun h => congrArg some (Except.ok.inj h),
          fun h => congrArg Except.ok (Option.some.inj h)⟩
  exact hlookup.trans (exists_congr fun name => and_congr_right fun _ => Verb.ofName?_eq_some)

/-- A payload is read if each of its words is a byte. -/
theorem mapM_byte_eq_ok (role : Role) {words : List Located} {bytes : List UInt8} :
    words.mapM (Located.byte role) = .ok bytes
      ↔ List.Forall₂ Token.IsByte (words.map Located.token) bytes := by
  induction words generalizing bytes with
  | nil =>
      rw [List.mapM_nil, List.map_nil, List.forall₂_nil_left_iff]
      constructor
      · intro hok
        exact (Except.ok.inj hok).symm
      · rintro rfl
        rfl
  | cons t words ih =>
      rw [List.mapM_cons, List.map_cons, List.forall₂_cons_left_iff, bind_eq_ok]
      constructor
      · rintro ⟨b, hb, hok⟩
        obtain ⟨more, hmore, hok⟩ := bind_eq_ok.1 hok
        exact ⟨b, more, Located.byte_eq_ok.1 hb, ih.1 hmore, (Except.ok.inj hok).symm⟩
      · rintro ⟨b, more, hb, hmore, rfl⟩
        exact ⟨b, Located.byte_eq_ok.2 hb, bind_eq_ok.2 ⟨more, ih.2 hmore, rfl⟩⟩

theorem direction?_eq_some {name : String} {direction : Direction} :
    direction? name = some direction ↔ Token.IsDirection (.identifier name) direction := by
  have hnamed : ∀ lower, Token.IsNamed (.identifier name) lower ↔ name.toLower = lower := by
    intro lower
    constructor
    · rintro ⟨name', heq, h⟩
      rw [Token.identifier.inj heq]
      exact h
    · intro h
      exact ⟨name, rfl, h⟩
  rw [direction?]
  -- the four names differ, so the order in which they are tried does not matter
  by_cases hread : name.toLower = "read" ∨ name.toLower = "r"
  · rw [if_pos hread]
    constructor
    · intro h
      obtain rfl := Option.some.inj h
      exact .read (hread.imp (hnamed _).2 (hnamed _).2)
    · rintro (_ | hwrite)
      · rfl
      · rw [hnamed, hnamed] at hwrite
        rcases hread with h | h
        · rw [h] at hwrite
          exact absurd hwrite (by decide)
        · rw [h] at hwrite
          exact absurd hwrite (by decide)
  · rw [if_neg hread]
    by_cases hwrite : name.toLower = "write" ∨ name.toLower = "w"
    · rw [if_pos hwrite]
      constructor
      · intro h
        obtain rfl := Option.some.inj h
        exact .write (hwrite.imp (hnamed _).2 (hnamed _).2)
      · rintro (h | _)
        · rw [hnamed, hnamed] at h
          exact absurd h hread
        · rfl
    · rw [if_neg hwrite]
      constructor
      · intro h
        exact nomatch h
      · rintro (h | h)
        · rw [hnamed, hnamed] at h
          exact absurd h hread
        · rw [hnamed, hnamed] at h
          exact absurd h hwrite

end Script

end Coprocessor
