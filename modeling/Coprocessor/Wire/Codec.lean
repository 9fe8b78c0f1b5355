import Coprocessor.Bytes

/-!
# Codecs — values as bytes, read from the front

A codec writes a value as bytes and reads one from the front of a byte list,
leaving the rest alone. Larger forms are put together from smaller ones in the
order of their fields.

  • Words have a fixed width and come low byte first.
  • A choice among listed values is the 32-bit index into the list.
  • A flag is one byte, an optional value is a tag byte and then the value, and a
    list is a 64-bit count and then its elements one after the other.
  • Reading stops at the first fault, and what follows the value is not looked at.
-/

namespace Coprocessor.Wire

/-- Why bytes are not the form of a value. -/
inductive Fault where
  | unexpectedEnd
  | unknownVariant (index count : Nat)
  | badFlag (byte : UInt8)
  | badTag (byte : UInt8)
  | intervalOverflow
deriving DecidableEq

/-- The wording of a fault. -/
def Fault.message : Fault → String
  | .unexpectedEnd => "io error: unexpected end of file"
  | .unknownVariant index count =>
      "invalid value: integer `" ++ toString index ++ "`, expected variant index 0 <= i < "
        ++ toString count
  | .badFlag byte =>
      "invalid u8 while decoding bool, expected 0 or 1, found " ++ toString byte.toNat
  | .badTag byte => "tag for enum is not valid, found " ++ toString byte.toNat
  | .intervalOverflow => "overflow deserializing Duration"

/-- How values of a type are written and read. -/
structure Codec (α : Type) where
  /-- The bytes of a value. -/
  encode : α → List UInt8
  /-- Reads a value from the front and returns the bytes behind it. -/
  decode : List UInt8 → Except Fault (α × List UInt8)

namespace Codec

variable {α β : Type}

/-- Splits off the first bytes. -/
def split : Nat → List UInt8 → Except Fault (List UInt8 × List UInt8)
  | 0, rest => .ok ([], rest)
  | _ + 1, [] => .error .unexpectedEnd
  | n + 1, b :: rest =>
      match split n rest with
      | .ok (front, rest) => .ok (b :: front, rest)
      | .error e => .error e

/-- Splitting off what stands in front gives it back, and the rest. -/
theorem split_append (front rest : List UInt8) :
    split front.length (front ++ rest) = .ok (front, rest) := by
  induction front with
  | nil => cases rest <;> rfl
  | cons b front ih =>
      show (match split front.length (front ++ rest) with
        | .ok (front, rest) => Except.ok (b :: front, rest)
        | .error e => .error e) = .ok (b :: front, rest)
      rw [ih]

/-- What splitting gives back stands in front of the rest. -/
theorem eq_append_of_split {n : Nat} {bytes front rest : List UInt8}
    (h : split n bytes = .ok (front, rest)) : front.length = n ∧ bytes = front ++ rest := by
  induction n generalizing bytes front with
  | zero =>
      obtain ⟨rfl, rfl⟩ : [] = front ∧ bytes = rest := by
        cases bytes <;> simpa [split] using h
      exact ⟨rfl, rfl⟩
  | succ n ih =>
      cases bytes with
      | nil => exact nomatch h
      | cons b bytes =>
          simp only [split] at h
          split at h
          next front' rest' hs =>
            obtain ⟨rfl, rfl⟩ : b :: front' = front ∧ rest' = rest := by simpa using h
            obtain ⟨hlen, hbytes⟩ := ih hs
            exact ⟨by rw [List.length_cons, hlen], by rw [hbytes, List.cons_append]⟩
          next => exact nomatch h

/-- Reads one form as another type; reading may refuse. -/
def refine (c : Codec α) (plain : β → α) (accept : α → Except Fault β) : Codec β where
  encode v := c.encode (plain v)
  decode bytes := do
    let (v, rest) ← c.decode bytes
    let v ← accept v
    .ok (v, rest)

/-- Reads one form as another type with the same values. -/
def iso (c : Codec α) (plain : β → α) (build : α → β) : Codec β where
  encode v := c.encode (plain v)
  decode bytes := do
    let (v, rest) ← c.decode bytes
    .ok (build v, rest)

/-- One form after another. -/
def pair (c : Codec α) (d : Codec β) : Codec (α × β) where
  encode v := c.encode v.1 ++ d.encode v.2
  decode bytes := do
    let (a, rest) ← c.decode bytes
    let (b, rest) ← d.decode rest
    .ok ((a, b), rest)

/-- A number of a fixed width in bytes. -/
def fixed (width : Nat) : Codec Nat where
  encode := Bytes.ofNat width
  decode bytes := do
    let (front, rest) ← split width bytes
    .ok (Bytes.toNat front, rest)

/-- One byte. -/
def byte : Codec UInt8 := (fixed 1).iso UInt8.toNat UInt8.ofNat

/-- A 32-bit word. -/
def word32 : Codec UInt32 := (fixed 4).iso UInt32.toNat UInt32.ofNat

/-- A 64-bit word. -/
def word64 : Codec UInt64 := (fixed 8).iso UInt64.toNat UInt64.ofNat

/-- A truth value. -/
def flag : Codec Bool :=
  byte.refine (fun b => if b then 1 else 0) fun b =>
    if b = 0 then .ok false
    else if b = 1 then .ok true
    else .error (.badFlag b)

/-- A choice among listed values. -/
def choice [DecidableEq α] (all : List α) : Codec α :=
  (fixed 4).refine (fun v => all.idxOf v) fun n =>
    match all[n]? with
    | some v => .ok v
    | none => .error (.unknownVariant n all.length)

/-- A value that may be missing. -/
def option (c : Codec α) : Codec (Option α) where
  encode
    | none => byte.encode 0
    | some v => byte.encode 1 ++ c.encode v
  decode bytes := do
    let (tag, rest) ← byte.decode bytes
    if tag = 0 then .ok (none, rest)
    else if tag = 1 then
      let (v, rest) ← c.decode rest
      .ok (some v, rest)
    else .error (.badTag tag)

/-- Reads a given number of values one after the other. -/
def decodeMany (c : Codec α) : Nat → List UInt8 → Except Fault (List α × List UInt8)
  | 0, rest => .ok ([], rest)
  | n + 1, bytes =>
      match c.decode bytes with
      | .error e => .error e
      | .ok (v, rest) =>
          match decodeMany c n rest with
          | .error e => .error e
          | .ok (vs, rest) => .ok (v :: vs, rest)

/-- A counted list. -/
def list (c : Codec α) : Codec (List α) where
  encode vs := (fixed 8).encode vs.length ++ vs.flatMap c.encode
  decode bytes := do
    let (n, rest) ← (fixed 8).decode bytes
    decodeMany c n rest

end Codec

end Coprocessor.Wire
