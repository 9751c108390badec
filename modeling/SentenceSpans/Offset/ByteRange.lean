import SentenceSpans.Offset.Unit

/-!
# Byte ranges

The parts of a text are named by the UTF-8 byte positions of their ends.  A list of parts is laid
out from the start of the text, each part where the one before it ends.

`Covers` is the promise of whoever cuts a text: the ranges are not empty, follow each other without
a gap and take in the whole text, and none starts or ends inside a character.
-/

namespace SentenceSpans

/-- The bytes from `start` up to, but not including, `stop`. -/
structure ByteRange where
  start : Nat
  stop : Nat
deriving DecidableEq, Repr

/-- Adjacent ranges of the given sizes, the first one at `start`; `done` holds the earlier ones,
latest first. -/
def layFrom (start : Nat) (done : List ByteRange) : List Nat → List ByteRange
  | [] => done.reverse
  | size :: rest => layFrom (start + size) (⟨start, start + size⟩ :: done) rest

def layOut (parts : List (List Char)) : List ByteRange :=
  layFrom 0 [] (parts.map byteLength)

/-- A byte position between two characters of a text or at one of its ends. -/
def IsPlace (text : List Char) (position : Nat) : Prop :=
  ∃ front back, text = front ++ back ∧ position = byteLength front

/-- The promise of whoever cuts a text. -/
structure Covers (text : List Char) (ranges : List ByteRange) : Prop where
  /-- No range is empty. -/
  nonempty : ∀ range ∈ ranges, range.start < range.stop
  /-- No range starts or ends inside a character. -/
  places : ∀ range ∈ ranges, IsPlace text range.start ∧ IsPlace text range.stop
  /-- The first range starts where the text does. -/
  first : ∀ range, ranges.head? = some range → range.start = 0
  /-- Each range starts where the one before it ends. -/
  linked : ∀ front range next back, ranges = front ++ range :: next :: back →
    range.stop = next.start
  /-- The last range ends where the text does. -/
  last : ∀ range, ranges.getLast? = some range → range.stop = byteLength text
  /-- Only the empty text has no range. -/
  nil_iff : ranges = [] ↔ text = []

theorem layFrom_eq_append (start : Nat) (done : List ByteRange) (sizes : List Nat) :
    layFrom start done sizes = done.reverse ++ layFrom start [] sizes := by
  induction sizes generalizing start done with
  | nil => simp [layFrom]
  | cons size rest ih =>
      rw [layFrom, layFrom, ih, ih _ [_]]
      simp

theorem layFrom_cons (start size : Nat) (rest : List Nat) :
    layFrom start [] (size :: rest) = ⟨start, start + size⟩ :: layFrom (start + size) [] rest := by
  rw [layFrom, layFrom_eq_append]
  rfl

end SentenceSpans
