import Mathlib.Data.Nat.Digits.Defs
import Coprocessor.Proofs.Bus.Shape
import Coprocessor.Proofs.Script.Notations

/-!
# Byte order — a word written as an integer and as its bytes

Four bytes given one by one, to `write` or to `raw write`, and the integer with these
digits in base 256, low digit first, given to `write32`, are one command. Its transaction
puts that integer into the register, and a read of the register answers with the four
bytes again. Eight bytes and `write64` are the same for the other space, which no
transaction reads.

  • `Numeral` — an integer of 64 bits as a script writes it, in either notation.
  • `parse_line` — the command of words behind single blanks.
  • `parse_bytes`, `parse_word32`, `parse_word64` — the lines that write bytes or a word.
  • `writes_agree` — all lines for one word, what they store, and what is read.
-/

namespace Coprocessor

/-- Bytes are the digits of their value in base 256, the lowest first. -/
theorem Bytes.toNat_eq_ofDigits (bytes : List UInt8) :
    toNat bytes = Nat.ofDigits 256 (bytes.map UInt8.toNat) := by
  induction bytes with
  | nil => rfl
  | cons b rest ih =>
      rw [toNat, ih, List.map_cons, Nat.ofDigits_cons]

namespace Script

/-! ## Lines of words -/

/-- A text that is one integer from zero up, in either notation. -/
def Numeral (text : String) (n : Nat) : Prop :=
  ∃ token, Spells text.toList token ∧ token.IsInteger n

/-- Below the sign bit, decimal digits are a numeral. -/
theorem numeral_decimal {digits : String} {n : Nat} (h : Text.IsDecimal digits.toList n)
    (hn : n < 2 ^ 63) : Numeral digits n :=
  ⟨_, spells_decimal h hn, isInteger_number hn⟩

/-- In hexadecimal, digits are a numeral up to the width of a word. -/
theorem numeral_hexadecimal {hexits : String} {n : Nat} (h : Text.IsHexadecimal hexits.toList n)
    (hn : n < 2 ^ 64) : Numeral ("0x" ++ hexits) n :=
  ⟨_, spells_marked h hn, isInteger_hexadecimal hn⟩

/-- Words behind single blanks. -/
def line (words : List String) : String := " ".intercalate words

/-- Words that spell a sentence are a line that is its command. -/
theorem parse_line {words : List (String × Token)} (hwords : ∀ p ∈ words, Spells p.1.toList p.2)
    {command : Command} (h : Sentence (words.map Prod.snd) command) :
    parse (line (words.map Prod.fst)) = .ok [⟨1, command⟩] := by
  have hfst : (words.map fun p => (p.1.toList, p.2)).map Prod.fst
      = (words.map Prod.fst).map String.toList := by
    rw [List.map_map, List.map_map]
    rfl
  have hsnd : (words.map fun p => (p.1.toList, p.2)).map Prod.snd = words.map Prod.snd := by
    rw [List.map_map]
    rfl
  rw [← hsnd] at h
  refine parse_words ?_ ?_ h
  · rw [hfst, line, String.toList_intercalate]
    rfl
  · intro p hp
    obtain ⟨q, hq, rfl⟩ := List.mem_map.1 hp
    exact hwords q hq

/-- Names and what they stand for, as words of a line. -/
theorem spells_cons {name : String} (hname : isName name.toList = true)
    {words : List (String × Token)} (h : ∀ p ∈ words, Spells p.1.toList p.2) :
    ∀ p ∈ (name, Token.identifier name) :: words, Spells p.1.toList p.2 :=
  List.forall_mem_cons.2 ⟨spells_name hname, h⟩

/-- Numerals of bytes are words of a payload. -/
theorem exists_payload {texts : List String} {bytes : List UInt8}
    (h : List.Forall₂ (fun text b => Numeral text b.toNat) texts bytes) :
    ∃ words : List (String × Token), words.map Prod.fst = texts
      ∧ (∀ p ∈ words, Spells p.1.toList p.2)
      ∧ List.Forall₂ Token.IsByte (words.map Prod.snd) bytes := by
  induction h with
  | nil => exact ⟨[], rfl, List.forall_mem_nil _, .nil⟩
  | @cons text b texts bytes hnumeral _ ih =>
      obtain ⟨token, hspells, hinteger⟩ := hnumeral
      obtain ⟨words, rfl, hwords, hbytes⟩ := ih
      exact ⟨(text, token) :: words, rfl, List.forall_mem_cons.2 ⟨hspells, hwords⟩,
        .cons hinteger hbytes⟩

section

variable {address : String} {a : UInt8}

/-- Bytes are written as they are given, with a direction or without. -/
theorem parse_bytes {texts : List String} {bytes : List UInt8} (haddress : Numeral address a.toNat)
    (htexts : List.Forall₂ (fun text b => Numeral text b.toNat) texts bytes) :
    parse (line ("write" :: address :: texts)) = .ok [⟨1, .transaction ⟨.write, a, bytes⟩⟩]
      ∧ parse (line ("raw" :: "write" :: address :: texts))
        = .ok [⟨1, .transaction ⟨.write, a, bytes⟩⟩] := by
  obtain ⟨t, ht, ha⟩ := haddress
  obtain ⟨words, rfl, hwords, hbytes⟩ := exists_payload htexts
  have hline : ∀ p ∈ (address, t) :: words, Spells p.1.toList p.2 :=
    List.forall_mem_cons.2 ⟨ht, hwords⟩
  have hwrite : ∀ p ∈ ("write", Token.identifier "write") :: (address, t) :: words,
      Spells p.1.toList p.2 := spells_cons (by decide) hline
  have hraw : ∀ p ∈ ("raw", Token.identifier "raw") :: ("write", Token.identifier "write")
      :: (address, t) :: words, Spells p.1.toList p.2 := spells_cons (by decide) hwrite
  exact ⟨parse_line hwrite (.write (isNamed_verb .write) ha hbytes),
    parse_line hraw (.raw (isNamed_verb .raw) (isDirection_name .write) ha hbytes)⟩

/-- The line of a verb, an address and a value, as a list of words. -/
theorem line_value (verb address value : String) :
    line [verb, address, value] = verb ++ " " ++ address ++ " " ++ value := rfl

/-- A 32-bit write is the transaction of its word, in whatever notation. -/
theorem parse_word32 {value : String} {word : UInt32} (haddress : Numeral address a.toNat)
    (hvalue : Numeral value word.toNat) :
    parse (line ["write32", address, value]) = .ok [⟨1, .transaction (.write32 a word)⟩] := by
  obtain ⟨t, ht, ha⟩ := haddress
  obtain ⟨u, hu, hn⟩ := hvalue
  rw [line_value]
  exact parse_value (spells_name (by decide)) ht hu
    (.write32 (isNamed_verb .write32) ha (.integer hn))

theorem parse_word64 {value : String} {word : UInt64} (haddress : Numeral address a.toNat)
    (hvalue : Numeral value word.toNat) :
    parse (line ["write64", address, value]) = .ok [⟨1, .transaction (.write64 a word)⟩] := by
  obtain ⟨t, ht, ha⟩ := haddress
  obtain ⟨u, hu, hn⟩ := hvalue
  rw [line_value]
  exact parse_value (spells_name (by decide)) ht hu
    (.write64 (isNamed_verb .write64) ha (.integer hn))

end

/-! ## One word -/

/-- **The ways to write a word agree on the order of its bytes**: four bytes written one by
one, with a direction or without, and the integer whose digits in base 256 they are, low
digit first, are one command. It puts that integer into its register and changes nothing
else, and a read behind it is answered with the four bytes. Eight bytes are the same for a
64-bit register. -/
theorem writes_agree {address value : String} {texts : List String} {a : UInt8}
    {bytes : List UInt8} (haddress : Numeral address a.toNat)
    (htexts : List.Forall₂ (fun text b => Numeral text b.toNat) texts bytes)
    (hvalue : Numeral value (Nat.ofDigits 256 (bytes.map UInt8.toNat))) :
    (bytes.length = 4 → ∃ word : UInt32,
      word.toNat = Nat.ofDigits 256 (bytes.map UInt8.toNat)
      ∧ parse (line ("write" :: address :: texts)) = .ok [⟨1, .transaction ⟨.write, a, bytes⟩⟩]
      ∧ parse (line ("raw" :: "write" :: address :: texts))
        = .ok [⟨1, .transaction ⟨.write, a, bytes⟩⟩]
      ∧ parse (line ["write32", address, value]) = .ok [⟨1, .transaction ⟨.write, a, bytes⟩⟩]
      ∧ ∀ (β : Type) [Bus β] (r : Registers) (bus later : β),
        Transaction.resolve ⟨.write, a, bytes⟩ r bus
          = (.written .single a, r.set32 a word, bus)
        ∧ (Transaction.read a).resolve (r.set32 a word) later
          = (.responded a bytes, r.set32 a word, Bus.respond later (.read a) bytes))
    ∧ (bytes.length = 8 → ∃ word : UInt64,
      word.toNat = Nat.ofDigits 256 (bytes.map UInt8.toNat)
      ∧ parse (line ("write" :: address :: texts)) = .ok [⟨1, .transaction ⟨.write, a, bytes⟩⟩]
      ∧ parse (line ("raw" :: "write" :: address :: texts))
        = .ok [⟨1, .transaction ⟨.write, a, bytes⟩⟩]
      ∧ parse (line ["write64", address, value]) = .ok [⟨1, .transaction ⟨.write, a, bytes⟩⟩]
      ∧ ∀ (β : Type) [Bus β] (r : Registers) (bus : β),
        Transaction.resolve ⟨.write, a, bytes⟩ r bus
          = (.written .double a, r.set64 a word, bus)) := by
  obtain ⟨hwrite, hraw⟩ := parse_bytes haddress htexts
  rw [← Bytes.toNat_eq_ofDigits] at hvalue ⊢
  constructor
  · intro hlength
    -- the word of the bytes is the integer, so its line is that of the bytes
    have hword := Bytes.toNat_toWord32 hlength
    rw [← hword] at hvalue
    have hparse := parse_word32 haddress hvalue
    rw [Transaction.write32, Bytes.ofWord32_toWord32 hlength] at hparse
    refine ⟨Bytes.toWord32 bytes, hword, hwrite, hraw, hparse, fun β _ r bus later => ⟨?_, ?_⟩⟩
    · exact Transaction.resolve_of_isWrite32 ⟨rfl, hlength⟩ r bus
    · have hread := Transaction.resolve_of_isRead (t := .read a) ⟨rfl, rfl⟩
        (r.set32 a (Bytes.toWord32 bytes)) later
      have hstored : (r.set32 a (Bytes.toWord32 bytes)).word32 (Transaction.read a).address
          = Bytes.toWord32 bytes := (r.word32_set32 a a _).trans (if_pos rfl)
      rw [hstored, Bytes.ofWord32_toWord32 hlength] at hread
      exact hread
  · intro hlength
    have hword := Bytes.toNat_toWord64 hlength
    rw [← hword] at hvalue
    have hparse := parse_word64 haddress hvalue
    rw [Transaction.write64, Bytes.ofWord64_toWord64 hlength] at hparse
    exact ⟨Bytes.toWord64 bytes, hword, hwrite, hraw, hparse, fun β _ r bus =>
      Transaction.resolve_of_isWrite64 ⟨rfl, hlength⟩ r bus⟩

/-- Four bytes in an order of their own, and eight. -/
theorem writes_agree_distinct :
    let bytes : List UInt8 := [1, 2, 3, 0x84]
    let more : List UInt8 := [1, 2, 3, 0x84, 0x84, 3, 1, 2]
    Numeral "16" (16 : UInt8).toNat
      ∧ List.Forall₂ (fun text b => Numeral text b.toNat) ["1", "2", "3", "0x84"] bytes
      ∧ Numeral "0x84030201" (Nat.ofDigits 256 (bytes.map UInt8.toNat))
      ∧ parse "write 16 1 2 3 0x84" = .ok [⟨1, .transaction ⟨.write, 16, bytes⟩⟩]
      ∧ parse "raw write 16 1 2 3 0x84" = .ok [⟨1, .transaction ⟨.write, 16, bytes⟩⟩]
      ∧ parse "write32 16 0x84030201" = .ok [⟨1, .transaction ⟨.write, 16, bytes⟩⟩]
      ∧ (∀ r : Registers, Transaction.resolve ⟨.write, 16, bytes⟩ r NoBus.unconnected
        = (.written .single 16, r.set32 16 0x84030201, .unconnected))
      ∧ parse "write64 16 0x0201038484030201" = .ok [⟨1, .transaction ⟨.write, 16, more⟩⟩]
      ∧ ∀ r : Registers, Transaction.resolve ⟨.write, 16, more⟩ r NoBus.unconnected
        = (.written .double 16, r.set64 16 0x0201038484030201, .unconnected) := by
  intro bytes more
  have haddress : Numeral "16" (16 : UInt8).toNat := numeral_decimal (by decide) (by decide)
  have hone : Numeral "1" (1 : UInt8).toNat := numeral_decimal (by decide) (by decide)
  have htwo : Numeral "2" (2 : UInt8).toNat := numeral_decimal (by decide) (by decide)
  have hthree : Numeral "3" (3 : UInt8).toNat := numeral_decimal (by decide) (by decide)
  have hhigh : Numeral ("0x" ++ "84") (0x84 : UInt8).toNat :=
    numeral_hexadecimal (by decide) (by decide)
  have htexts : List.Forall₂ (fun text b => Numeral text b.toNat) ["1", "2", "3", "0x84"] bytes :=
    .cons hone (.cons htwo (.cons hthree (.cons hhigh .nil)))
  have htexts' : List.Forall₂ (fun text b => Numeral text b.toNat)
      ["1", "2", "3", "0x84", "0x84", "3", "1", "2"] more :=
    .cons hone (.cons htwo (.cons hthree (.cons hhigh (.cons hhigh (.cons hthree
      (.cons hone (.cons htwo .nil)))))))
  have hvalue : Numeral ("0x" ++ "84030201") (Nat.ofDigits 256 (bytes.map UInt8.toNat)) :=
    numeral_hexadecimal (by decide) (by decide)
  have hvalue' : Numeral ("0x" ++ "0201038484030201") (Nat.ofDigits 256 (more.map UInt8.toNat)) :=
    numeral_hexadecimal (by decide) (by decide)
  obtain ⟨word, hword, hwrite, hraw, hwrite32, hresolve⟩ :=
    (writes_agree haddress htexts hvalue).1 rfl
  obtain ⟨word', hword', -, -, hwrite64, hresolve'⟩ :=
    (writes_agree haddress htexts' hvalue').2 rfl
  obtain rfl : word = 0x84030201 := UInt32.toNat.inj hword
  obtain rfl : word' = 0x0201038484030201 := UInt64.toNat.inj hword'
  exact ⟨haddress, htexts, hvalue, hwrite, hraw, hwrite32,
    fun r => (hresolve NoBus r .unconnected .unconnected).1, hwrite64,
    fun r => hresolve' NoBus r .unconnected⟩

end Script

end Coprocessor
