import Coprocessor.Files.Path

/-!
# Files — reading and writing by name

A session needs two things of its surroundings: the bytes of a named file, and
a way to write bytes under a name. Anything that offers both is a place to run
a session in.

  • `Directory` is such a place without side effects: the files of one
    directory, and what is written into the directories above it. A path can go
    up from it but not down: a name stands for a file or for nothing.
  • `read_of_write` — what a path was written with, it reads back.
-/

namespace Coprocessor

/-- Reading and writing files by name. -/
class Files (m : Type → Type) where
  /-- The bytes of a file. -/
  read : String → m (Except FileError (List UInt8))
  /-- Replaces or creates a file. -/
  write : String → List UInt8 → m (Except FileError Unit)

/-- A directory that a path can pass through: one so many levels above the
directory at hand, or the root. -/
inductive Place where
  | above (levels : Nat)
  | root
deriving DecidableEq

/-- The directory above; the root is above itself. -/
def Place.parent : Place → Place
  | .above levels => .above (levels + 1)
  | .root => .root

/-- A name in a directory. -/
structure Location where
  place : Place
  name : String
deriving DecidableEq

/-- The files of a directory and of those above it. -/
structure Directory where
  files : List (Location × List UInt8)

namespace Directory

/-- A directory of named files, with none above it. -/
def ofFiles (files : List (String × List UInt8)) : Directory :=
  ⟨files.map fun (name, bytes) => (⟨.above 0, name⟩, bytes)⟩

/-- The contents of a name in the directory at hand. -/
def find? (d : Directory) (name : String) : Option (List UInt8) :=
  d.files.lookup ⟨.above 0, name⟩

/-- Gives a location new contents. -/
def insert (d : Directory) (l : Location) (bytes : List UInt8) : Directory :=
  ⟨(l, bytes) :: d.files.filter fun file => file.1 ≠ l⟩

/-- The contents of a location. -/
def contents (d : Directory) (l : Location) : Except FileError (List UInt8) :=
  if Path.maxNameBytes < l.name.utf8ByteSize then .error .nameTooLong
  else
    match d.files.lookup l with
    | some bytes => .ok bytes
    | none => .error .notFound

/-- Why a location cannot be used as a directory. -/
def obstacle (d : Directory) (l : Location) : FileError :=
  match d.contents l with
  | .ok _ => .notDirectory
  | .error e => e

/-- Where steps lead from a directory: to a name in the directory they reach,
or to that directory itself. -/
def walk (d : Directory) (place : Place) : List Path.Step → Except FileError (Option Location)
  | [] => .ok none
  | .stay :: rest => d.walk place rest
  | .up :: rest => d.walk place.parent rest
  | [.enter name] => .ok (some ⟨place, name⟩)
  | .enter name :: _ :: _ => .error (d.obstacle ⟨place, name⟩)

/-- The name that a path leads to. -/
def locate (d : Directory) (path : Path) : Except FileError Location :=
  match d.walk (if path.fromRoot then .root else .above 0) path.steps with
  | .error e => .error e
  | .ok none => .error .isDirectory
  | .ok (some l) => .ok l

/-- Reads a file. -/
def read (d : Directory) (text : String) : Except FileError (List UInt8) := do
  let path ← Path.ofString text
  let l ← d.locate path
  if path.endsInSlash then .error (d.obstacle l) else d.contents l

/-- The location that a path gives to write at. A slash at the end asks to
create a directory, which writing does not do. -/
def target (d : Directory) (text : String) : Except FileError Location := do
  let path ← Path.ofString text
  let l ← d.locate path
  if path.endsInSlash then .error .isDirectory
  else if Path.maxNameBytes < l.name.utf8ByteSize then .error .nameTooLong
  else .ok l

/-- Writes a file; on error the directory stays as it is. -/
def write (d : Directory) (text : String) (bytes : List UInt8) :
    Except FileError Unit × Directory :=
  match d.target text with
  | .error e => (.error e, d)
  | .ok l => (.ok (), d.insert l bytes)

/-! ## Reading what was written -/

/-- A location has the contents that it was given. -/
theorem contents_insert (d : Directory) (l : Location) (bytes : List UInt8)
    (short : l.name.utf8ByteSize ≤ Path.maxNameBytes) :
    (d.insert l bytes).contents l = .ok bytes := by
  simp [contents, insert, Nat.not_lt.mpr short]

/-- A walk that arrives does not depend on the files. -/
theorem walk_eq_ok {d : Directory} {place : Place} {steps : List Path.Step}
    {arrival : Option Location} (h : d.walk place steps = .ok arrival) (e : Directory) :
    e.walk place steps = .ok arrival := by
  fun_induction walk d place steps <;> simp_all [walk]

/-- A path that leads to a name does so whatever the files. -/
theorem locate_eq_ok {d : Directory} {path : Path} {l : Location}
    (h : d.locate path = .ok l) (e : Directory) : e.locate path = .ok l := by
  unfold locate at h ⊢
  split at h
  · simp at h
  · simp at h
  · next hw => simpa [walk_eq_ok hw e] using h

/-- What a target is: the name that the path leads to, of a length that a name
may have, and no slash after it. -/
theorem target_eq_ok {d : Directory} {text : String} {l : Location}
    (h : d.target text = .ok l) :
    ∃ path, Path.ofString text = .ok path ∧ d.locate path = .ok l
      ∧ path.endsInSlash = false ∧ l.name.utf8ByteSize ≤ Path.maxNameBytes := by
  unfold target at h
  cases hp : Path.ofString text with
  | error e => simp [hp, bind, Except.bind] at h
  | ok path =>
      cases hl : d.locate path with
      | error e => simp [hp, hl, bind, Except.bind] at h
      | ok found =>
          simp only [hp, hl, bind, Except.bind] at h
          split at h
          · simp at h
          · split at h
            · simp at h
            · next hs short =>
                obtain rfl : found = l := by simpa using h
                exact ⟨path, rfl, hl, by simpa using hs, Nat.not_lt.mp short⟩

/-- What a path was written with, it reads back. -/
theorem read_of_write {d : Directory} {text : String} {bytes : List UInt8}
    (h : (d.write text bytes).1 = .ok ()) : (d.write text bytes).2.read text = .ok bytes := by
  unfold write at h ⊢
  split at h
  · simp at h
  · next l ht =>
      obtain ⟨path, hp, hl, open_, short⟩ := target_eq_ok ht
      simp [read, bind, Except.bind, hp, locate_eq_ok hl, open_, contents_insert, short]

end Directory

instance : Files (StateM Directory) where
  read path := do
    let d ← get
    pure (d.read path)
  write path bytes := modifyGet fun d => d.write path bytes

end Coprocessor
