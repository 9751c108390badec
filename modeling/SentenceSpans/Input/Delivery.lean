import SentenceSpans.Input.Record

/-!
# Lines of a delivered input

A reader delivers its bytes in portions, may be interrupted and may fail.  The line source reads
through a buffer: each time the buffer is empty it is filled with at most as many bytes as it
holds.  An interrupted read is tried again.

A read that brings no bytes means the end of the input for the line being read.  A partial line is
then a record, and the source reads on for the next line; with no partial line it ends for good.
A failed read ends it for good as well: the partial line is lost.
-/

namespace SentenceSpans.Input

/-! ## Reads -/

/-- What one read from the underlying reader brings. -/
inductive ReadStep where
  /-- These bytes; no bytes mean the end of the input. -/
  | bytes (bytes : List UInt8)
  /-- An interruption, which is no failure. -/
  | interrupted
  | failure (cause : IoFailure)
deriving DecidableEq, Repr

namespace ReadStep

def bytesOf : ReadStep → List UInt8
  | bytes brought => brought
  | interrupted => []
  | failure _ => []

/-- Whether a read brings bytes or is tried again, so that the input goes on after it. -/
def goesOn : ReadStep → Bool
  | bytes brought => !brought.isEmpty
  | interrupted => true
  | failure _ => false

end ReadStep

def delivered (steps : List ReadStep) : List UInt8 :=
  steps.flatMap ReadStep.bytesOf

/-- What filling the empty buffer brings. -/
inductive Fill where
  | chunk (bytes : List UInt8)
  | endOfInput
  | failure (cause : IoFailure)
deriving DecidableEq, Repr

/-- Cut bytes into chunks of `room` and then of `size` bytes each; `chunk` holds the bytes of the
chunk at hand and `done` the earlier chunks, both latest first. -/
def chopFrom (size room : Nat) (chunk : List UInt8) (done : List (List UInt8)) :
    List UInt8 → List (List UInt8)
  | [] => if chunk.isEmpty then done.reverse else (chunk.reverse :: done).reverse
  | byte :: rest =>
      match room with
      | 0 => chopFrom size (size - 1) [byte] (chunk.reverse :: done) rest
      | room + 1 => chopFrom size room (byte :: chunk) done rest

/-- Cut bytes into chunks of `size` bytes, the last one perhaps shorter. -/
def chop (size : Nat) (bytes : List UInt8) : List (List UInt8) :=
  chopFrom size size [] [] bytes

/-- The fills of a buffer that holds `size` bytes.  A buffer without room takes no bytes, which
reads like the end of the input. -/
def fillsOfStep (size : Nat) : ReadStep → List Fill
  | .bytes bytes =>
      if size = 0 ∨ bytes = [] then [.endOfInput] else (chop size bytes).map .chunk
  | .interrupted => []
  | .failure cause => [.failure cause]

def fills (size : Nat) (steps : List ReadStep) : List Fill :=
  steps.flatMap (fillsOfStep size)

/-! ## Putting lines together -/

/-- The lines found so far, and the bytes of the line being read. -/
structure Assembly where
  /-- The items of the lines found, latest first. -/
  found : List Item
  /-- The number of the line being read. -/
  line : Nat
  /-- Its bytes, latest first. -/
  pending : List UInt8

namespace Assembly

def empty : Assembly := ⟨[], 1, []⟩

def completeLine (assembly : Assembly) : Assembly :=
  ⟨Item.ofLine assembly.line assembly.pending.reverse :: assembly.found, assembly.line + 1, []⟩

/-- Take one byte; a line feed completes the line. -/
def push (assembly : Assembly) (byte : UInt8) : Assembly :=
  let longer : Assembly := ⟨assembly.found, assembly.line, byte :: assembly.pending⟩
  if byte = lineFeed then longer.completeLine else longer

/-- The items of a source that ends here; a partial line is an item. -/
def close (assembly : Assembly) : List Item :=
  if assembly.pending.isEmpty then assembly.found.reverse
  else assembly.completeLine.found.reverse

def read (assembly : Assembly) : List Fill → List Item
  | [] => assembly.close
  | .chunk bytes :: rest => read (bytes.foldl push assembly) rest
  | .endOfInput :: rest =>
      if assembly.pending.isEmpty then assembly.close else read assembly.completeLine rest
  | .failure cause :: _ =>
      (.error (.inputRead assembly.line cause) :: assembly.found).reverse

end Assembly

def bufferedItems (size : Nat) (steps : List ReadStep) : List Item :=
  Assembly.empty.read (fills size steps)

end SentenceSpans.Input
