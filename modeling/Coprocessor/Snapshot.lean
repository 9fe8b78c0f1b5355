import Coprocessor.Binary.Shortest
import Coprocessor.Failure
import Coprocessor.Storage
import Coprocessor.Wire.Forms

/-!
# Snapshots — storage as three sections

A snapshot holds the 32-bit words, the 64-bit words and the opcode records as
lists. Lists of any length can be written and read as bytes; only a snapshot
whose sections have exactly the capacities of the storage can be restored.

  • Sections are checked in the order in which they are listed, and the first one
    of a wrong length is named.
  • Restoring is all or nothing.
-/

namespace Coprocessor

/-- The contents of storage as lists. -/
structure Snapshot where
  single : List UInt32
  double : List UInt64
  opcodes : List Record
deriving DecidableEq

/-- A snapshot is its three sections. -/
def Wire.snapshot : Wire.Codec Snapshot :=
  ((Wire.Codec.list Wire.Codec.word32).pair
    ((Wire.Codec.list Wire.Codec.word64).pair (Wire.Codec.list Wire.record))).iso
    (fun s => (s.single, s.double, s.opcodes))
    fun (single, double, opcodes) => ⟨single, double, opcodes⟩

namespace Snapshot

/-- The snapshot of storage. -/
def ofStorage (s : Storage) : Snapshot :=
  ⟨s.registers.single.toList, s.registers.double.toList, s.opcodes.slots.toList⟩

/-- The storage that a snapshot describes. -/
def toStorage (s : Snapshot) : Except CoprocessorError Storage :=
  if hs : s.single.length = registerCount then
    if hd : s.double.length = registerCount then
      if ho : s.opcodes.length = slotCount then
        .ok
          { registers := ⟨⟨s.single.toArray, by simp [hs]⟩, ⟨s.double.toArray, by simp [hd]⟩⟩
            opcodes := ⟨⟨s.opcodes.toArray, by simp [ho]⟩⟩ }
      else .error (.snapshotMismatch .opcodes slotCount s.opcodes.length)
    else .error (.snapshotMismatch .double registerCount s.double.length)
  else .error (.snapshotMismatch .single registerCount s.single.length)

/-- Whether every section has the length of its storage. -/
def check (s : Snapshot) : Except CoprocessorError Unit := s.toStorage.map fun _ => ()

/-- The bytes of a snapshot. -/
def toBytes (s : Snapshot) : List UInt8 := Wire.snapshot.encode s

/-- Reads a snapshot of the right lengths; bytes behind it are ignored. -/
def ofBytes (bytes : List UInt8) : Except Failure Snapshot :=
  match Wire.snapshot.decode bytes with
  | .error fault => .error (.encoding fault)
  | .ok (s, _) =>
      match s.check with
      | .error e => .error (.coprocessor e)
      | .ok () => .ok s

/-- One line for each word that is not zero and each slot that is not `nop`. -/
def describe (s : Snapshot) : List String :=
  let singles := s.single.zipIdx.filter fun (word, _) => word ≠ 0
  let doubles := s.double.zipIdx.filter fun (word, _) => word ≠ 0
  let records := s.opcodes.zipIdx.filter fun (record, _) => !record.isNop
  (singles.map fun (word, i) =>
      "r32[" ++ Text.column 3 i ++ "] = 0x" ++ Text.hex 8 word.toNat ++ " ("
        ++ Binary.Format.single.text word.toNat ++ ")")
    ++ (doubles.map fun (word, i) =>
      "r64[" ++ Text.column 3 i ++ "] = 0x" ++ Text.hex 16 word.toNat ++ " ("
        ++ Binary.Format.double.text word.toNat ++ ")")
    ++ records.map fun (record, i) =>
      "slot[" ++ Text.column 4 i ++ "] = " ++ record.text

end Snapshot

end Coprocessor
