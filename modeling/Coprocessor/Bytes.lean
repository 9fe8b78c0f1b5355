/-!
# Bytes — words as little-endian byte lists

The low byte of a word comes first. Reading and writing are inverse: a list of
`k` bytes is the same as a number below `256 ^ k`.

  • `toNat_ofNat`, `ofNat_toNat` — the two inverse laws, which every other
    statement about byte order uses.
  • Words of 32 and 64 bits are the lists of four and eight bytes.
-/

namespace Coprocessor.Bytes

-- powers are those of the core library, whatever else is imported
attribute [local instance (high)] instPowNat

/-- The low `width` bytes of a number, low byte first. -/
def ofNat : Nat → Nat → List UInt8
  | 0, _ => []
  | width + 1, n => UInt8.ofNat n :: ofNat width (n / 256)

/-- The number whose bytes these are, low byte first. -/
def toNat : List UInt8 → Nat
  | [] => 0
  | b :: rest => b.toNat + 256 * toNat rest

@[simp] theorem length_ofNat (width n : Nat) : (ofNat width n).length = width := by
  induction width generalizing n with
  | zero => rfl
  | succ width ih => simp [ofNat, ih]

theorem toNat_lt (bytes : List UInt8) : toNat bytes < 256 ^ bytes.length := by
  induction bytes with
  | nil => simp [toNat]
  | cons b rest ih =>
      have hb : b.toNat < 256 := b.toNat_lt
      simp only [toNat, List.length_cons, Nat.pow_succ]
      omega

/-- Writing and reading keeps what fits. -/
theorem toNat_ofNat (width n : Nat) : toNat (ofNat width n) = n % 256 ^ width := by
  induction width generalizing n with
  | zero => simp [ofNat, toNat, Nat.mod_one]
  | succ width ih =>
      simp only [ofNat, toNat, ih, Nat.pow_succ', Nat.mod_mul]
      simp

/-- Reading and writing gives the same bytes. -/
theorem ofNat_toNat (bytes : List UInt8) : ofNat bytes.length (toNat bytes) = bytes := by
  induction bytes with
  | nil => rfl
  | cons b rest ih =>
      have hb : b.toNat < 256 := b.toNat_lt
      have hdiv : (b.toNat + 256 * toNat rest) / 256 = toNat rest := by omega
      have hlow : UInt8.ofNat (b.toNat + 256 * toNat rest) = b := by
        apply UInt8.toNat.inj
        simp
      simp only [List.length_cons, toNat, ofNat, hdiv, ih, hlow]

/-! ## Words -/

/-- The four bytes of a 32-bit word. -/
def ofWord32 (word : UInt32) : List UInt8 := ofNat 4 word.toNat

/-- The eight bytes of a 64-bit word. -/
def ofWord64 (word : UInt64) : List UInt8 := ofNat 8 word.toNat

/-- The 32-bit word with these four bytes. -/
def toWord32 (bytes : List UInt8) : UInt32 := UInt32.ofNat (toNat bytes)

/-- The 64-bit word with these eight bytes. -/
def toWord64 (bytes : List UInt8) : UInt64 := UInt64.ofNat (toNat bytes)

/-- Four bytes are a word of their value. -/
theorem toNat_toWord32 {bytes : List UInt8} (h : bytes.length = 4) :
    (toWord32 bytes).toNat = toNat bytes := by
  have hlt : toNat bytes < 256 ^ 4 := h ▸ toNat_lt bytes
  exact UInt32.toNat_ofNat_of_lt' hlt

/-- Eight bytes are a word of their value. -/
theorem toNat_toWord64 {bytes : List UInt8} (h : bytes.length = 8) :
    (toWord64 bytes).toNat = toNat bytes := by
  have hlt : toNat bytes < 256 ^ 8 := h ▸ toNat_lt bytes
  exact UInt64.toNat_ofNat_of_lt' hlt

/-- The bytes of the word that four bytes make are these four. -/
theorem ofWord32_toWord32 {bytes : List UInt8} (h : bytes.length = 4) :
    ofWord32 (toWord32 bytes) = bytes := by
  rw [ofWord32, toNat_toWord32 h, ← h, ofNat_toNat]

theorem ofWord64_toWord64 {bytes : List UInt8} (h : bytes.length = 8) :
    ofWord64 (toWord64 bytes) = bytes := by
  rw [ofWord64, toNat_toWord64 h, ← h, ofNat_toNat]

/-- A word is read back from its bytes. -/
theorem toWord32_ofWord32 (word : UInt32) : toWord32 (ofWord32 word) = word := by
  have h : word.toNat < 2 ^ 32 := word.toNat_lt
  apply UInt32.toNat.inj
  simp [toWord32, ofWord32, toNat_ofNat]

theorem toWord64_ofWord64 (word : UInt64) : toWord64 (ofWord64 word) = word := by
  have h : word.toNat < 2 ^ 64 := word.toNat_lt
  apply UInt64.toNat.inj
  simp [toWord64, ofWord64, toNat_ofNat]

end Coprocessor.Bytes
