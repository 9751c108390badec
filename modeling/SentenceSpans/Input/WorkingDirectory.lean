import SentenceSpans.Input.Host

/-!
# A working directory

A small file system: a working directory with some files, and the null device.  Paths are resolved
name by name from the working directory, or from the root for a path that starts with a slash.
-/

namespace SentenceSpans

/-- A directory that holds files and no further directories. -/
structure WorkingDirectory where
  /-- The names and contents of the files. -/
  files : List (Path × List UInt8)

namespace WorkingDirectory

/-! ## Resolving paths -/

inductive Spot where
  /-- The working directory. -/
  | working
  /-- The directory above it. -/
  | above
  /-- The directory of the devices. -/
  | devices
  /-- The null device. -/
  | nullDevice
  /-- A file of the working directory. -/
  | file (name : Path) (content : List UInt8)
  /-- A name that a directory does not hold. -/
  | absent
deriving DecidableEq, Repr

def slash : UInt8 := 0x2F

/-- The names of a path, between its slashes; `name` holds the name at hand and `done` the earlier
names, both latest first. -/
def namesFrom (name : List UInt8) (done : List Path) : List UInt8 → List Path
  | [] => (⟨name.reverse⟩ :: done).reverse
  | byte :: rest =>
      if byte = slash then namesFrom [] (⟨name.reverse⟩ :: done) rest
      else namesFrom (byte :: name) done rest

def names (path : Path) : List Path := namesFrom [] [] path.bytes

/-- The greatest number of bytes of a name and of a path. -/
def nameLimit : Nat := 255
def pathLimit : Nat := 4095

/-- Look a name up in a directory, given what the directory holds under it. -/
def lookUp (name : Path) (held : Option Spot) : Except IoFailure Spot :=
  if nameLimit < name.bytes.length then .error .nameTooLong else .ok (held.getD .absent)

/-- Follow one name of a path.  An empty name and a single dot stay in the directory, two dots
leave it. -/
def follow (directory : WorkingDirectory) (spot : Spot) (name : Path) : Except IoFailure Spot :=
  match spot with
  | .absent => .error .notFound
  | .nullDevice => .error .notADirectory
  | .file _ _ => .error .notADirectory
  | .working =>
      if name.bytes = [] ∨ name = .ofString "." then .ok .working
      else if name = .ofString ".." then .ok .above
      else
        lookUp name ((directory.files.find? fun file => file.1 = name).map fun file =>
          .file file.1 file.2)
  | .above =>
      if name.bytes = [] ∨ name = .ofString "." ∨ name = .ofString ".." then .ok .above
      else lookUp name (if name = .ofString "dev" then some .devices else none)
  | .devices =>
      if name.bytes = [] ∨ name = .ofString "." then .ok .devices
      else if name = .ofString ".." then .ok .above
      else lookUp name (if name = .ofString "null" then some .nullDevice else none)

def followAll (directory : WorkingDirectory) (spot : Spot) : List Path → Except IoFailure Spot
  | [] => .ok spot
  | name :: rest =>
      match directory.follow spot name with
      | .ok next => followAll directory next rest
      | .error cause => .error cause

def resolve (directory : WorkingDirectory) (path : Path) : Except IoFailure Spot :=
  if path.bytes.contains 0 then .error .zeroByteInPath
  else if path.bytes = [] then .error .notFound
  else if pathLimit < path.bytes.length then .error .nameTooLong
  else
    directory.followAll (if path.bytes.head? = some slash then .above else .working) (names path)

/-! ## Using files -/

def openInput (directory : WorkingDirectory) (path : Path) : Except IoFailure InputFile :=
  match directory.resolve path with
  | .error cause => .error cause
  | .ok .absent => .error .notFound
  | .ok .nullDevice => .ok .emptyDevice
  | .ok (.file _ content) => .ok (.ofBytes content)
  | .ok .working => .ok .directory
  | .ok .above => .ok .directory
  | .ok .devices => .ok .directory

def withoutFinalSlashes (path : Path) : Path :=
  ⟨(path.bytes.reverse.dropWhile (· = slash)).reverse⟩

/-- Where a file that is stored at a path ends up: a new or an old file, or the null device.  A
path that ends in a slash, or leads to a directory, names no file. -/
def storeSpot (directory : WorkingDirectory) (path : Path) : Except IoFailure Spot :=
  let stem := withoutFinalSlashes path
  if path.bytes ≠ [] ∧ stem.bytes = [] then .error .isADirectory
  else
    match directory.resolve stem with
    | .error cause => .error cause
    | .ok spot =>
        if stem ≠ path ∨ spot = .working ∨ spot = .above ∨ spot = .devices then
          .error .isADirectory
        else .ok spot

def host (directory : WorkingDirectory) : Host where
  measure := fun path => (directory.openInput path).map (·.size)
  openInput := directory.openInput
  storeRefusal := fun path =>
    match directory.storeSpot path with
    | .ok _ => none
    | .error cause => some cause

def put (directory : WorkingDirectory) (path : Path) (content : List UInt8) : WorkingDirectory :=
  match directory.storeSpot path with
  | .ok .absent => ⟨directory.files ++ [((names path).getLastD path, content)]⟩
  | .ok (.file name _) =>
      ⟨directory.files.map fun file => if file.1 = name then (name, content) else file⟩
  | _ => directory

end WorkingDirectory

end SentenceSpans
