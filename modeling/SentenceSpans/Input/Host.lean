import SentenceSpans.Input.Delivery
import SentenceSpans.Input.Lines

/-!
# Files

What a run needs from the file system: the size of a file, its content as it is read or mapped,
and whether a report can be stored.
-/

namespace SentenceSpans

structure InputFile where
  /-- Its size in bytes, as the file system gives it. -/
  size : Nat
  /-- What reading it brings. -/
  reads : List Input.ReadStep
  /-- What mapping it into memory brings. -/
  mapping : Except IoFailure (List UInt8)

namespace InputFile

def ofBytes (bytes : List UInt8) : InputFile := ⟨bytes.length, [.bytes bytes], .ok bytes⟩

/-- A directory can be opened, but neither read nor mapped. -/
def directory : InputFile := ⟨4096, [.failure .isADirectory], .error .noSuchDevice⟩

/-- A device without content. -/
def emptyDevice : InputFile := ⟨0, [], .error .noSuchDevice⟩

def bufferedItems (file : InputFile) (bufferSize : Nat) : List Item :=
  Input.bufferedItems bufferSize file.reads

/-- The content of a file that is mapped.  An empty file is not mapped: it has no content. -/
def mappedBytes (file : InputFile) : Except IoFailure (List UInt8) :=
  if file.size = 0 then .ok [] else file.mapping

end InputFile

structure Host where
  /-- The size of the file at a path. -/
  measure : Path → Except IoFailure Nat
  /-- The file at a path, opened for reading. -/
  openInput : Path → Except IoFailure InputFile
  /-- Why nothing can be stored at a path, or none when it can. -/
  storeRefusal : Path → Option IoFailure

namespace Host

/-- A refusal of the file system to give access to an input. -/
def unavailable (path : Path) : Except IoFailure α → Except Failure α
  | .ok value => .ok value
  | .error cause => .error (.inputUnavailable path cause)

def inputSize (host : Host) (path : Path) : Except Failure Nat :=
  unavailable path (host.measure path)

def bufferedItems (host : Host) (bufferSize : Nat) (path : Path) : Except Failure (List Item) :=
  match unavailable path (host.openInput path) with
  | .error failure => .error failure
  | .ok file => .ok (file.bufferedItems bufferSize)

def mappedBytes (host : Host) (path : Path) : Except Failure (List UInt8) :=
  match unavailable path (host.openInput path) with
  | .error failure => .error failure
  | .ok file => unavailable path file.mappedBytes

def store (host : Host) (path : Path) : Except Failure Unit :=
  match host.storeRefusal path with
  | none => .ok ()
  | some cause => .error (.reportWrite path cause.message)

end Host

end SentenceSpans
