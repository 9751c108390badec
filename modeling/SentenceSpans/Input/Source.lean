import SentenceSpans.Input.Delivery
import SentenceSpans.Input.Lines

/-!
# Line sources

A line source is asked for one item after another, until it has none.  There are two sources: one
reads a delivery through a buffer and keeps what the buffer holds beyond a line, the other one has
the whole input at hand and cuts off one line at a time.

A source may be asked again after it had nothing to give.
-/

namespace SentenceSpans.Input

/-- What a source gives when it is asked once more after `n` other times. -/
def answer (next : σ → Option Item × σ) (source : σ) : Nat → Option Item
  | 0 => (next source).1
  | n + 1 => answer next (next source).2 n

/-- Cut bytes behind their first line feed, if they have one. -/
def cutLine : List UInt8 → Option (List UInt8 × List UInt8)
  | [] => none
  | byte :: rest =>
      if byte = lineFeed then some ([byte], rest)
      else (cutLine rest).map fun parts => (byte :: parts.1, parts.2)

/-! ## Reading through a buffer -/

/-- A buffer: the bytes it still holds, and what filling it will bring. -/
structure Buffer where
  held : List UInt8
  script : List Fill
deriving DecidableEq, Repr

/-- Read on up to a line feed, the end of the input or a failure.  `taken` has the bytes of the line
that were read before, `held` those in the buffer. -/
def readLine (taken held : List UInt8) (script : List Fill) :
    Except IoFailure (List UInt8) × Buffer :=
  match cutLine held, script with
  | some (line, left), script => (.ok (taken ++ line), ⟨left, script⟩)
  | none, [] => (.ok (taken ++ held), ⟨[], []⟩)
  | none, .chunk bytes :: later => readLine (taken ++ held) bytes later
  | none, .endOfInput :: later => (.ok (taken ++ held), ⟨[], later⟩)
  | none, .failure cause :: later => (.error cause, ⟨[], later⟩)

structure BufferedLines where
  buffer : Buffer
  /-- The number of lines read so far. -/
  count : Nat
  /-- Whether a read brought nothing or failed; the buffer is left alone from then on. -/
  finished : Bool
deriving DecidableEq, Repr

namespace BufferedLines

def new (size : Nat) (steps : List ReadStep) : BufferedLines := ⟨⟨[], fills size steps⟩, 0, false⟩

def next (source : BufferedLines) : Option Item × BufferedLines :=
  if source.finished then (none, source)
  else
    match readLine [] source.buffer.held source.buffer.script with
    | (.ok [], buffer) => (none, ⟨buffer, source.count, true⟩)
    | (.ok line, buffer) =>
        (some (.ofLine (source.count + 1) line), ⟨buffer, source.count + 1, false⟩)
    | (.error cause, buffer) =>
        (some (.error (.inputRead (source.count + 1) cause)), ⟨buffer, source.count, true⟩)

end BufferedLines

/-! ## Reading from memory -/

structure MappedLines where
  remaining : List UInt8
  /-- The number of lines cut off so far. -/
  count : Nat
deriving DecidableEq, Repr

namespace MappedLines

def new (bytes : List UInt8) : MappedLines := ⟨bytes, 0⟩

/-- The next line; the last one need not end in a line feed. -/
def next (source : MappedLines) : Option Item × MappedLines :=
  if source.remaining.isEmpty then (none, source)
  else
    match cutLine source.remaining with
    | some (line, rest) => (some (.ofLine (source.count + 1) line), ⟨rest, source.count + 1⟩)
    | none => (some (.ofLine (source.count + 1) source.remaining), ⟨[], source.count + 1⟩)

end MappedLines

end SentenceSpans.Input
