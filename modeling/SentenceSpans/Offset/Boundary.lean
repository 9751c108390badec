import SentenceSpans.Offset.ByteRange
import SentenceSpans.Offset.Tracker

/-!
# Boundaries and spans

A boundary gives the offsets of one sentence, its end exclusive.  A span is what is reported: its
end is one less, unless the sentence reaches the end of the record.
-/

namespace SentenceSpans

/-- The place of a sentence in a record, in offset units; `stop` is exclusive. -/
structure Boundary where
  start : Nat
  stop : Nat
  /-- Whether the sentence is the last one of its record. -/
  reachesEnd : Bool
deriving DecidableEq, Repr

structure Span where
  start : Nat
  stop : Nat
deriving DecidableEq, Repr

namespace Boundary

/-- The reported end is exclusive at the end of the record and inclusive elsewhere.  An empty range
at the start stays empty. -/
def toSpan (boundary : Boundary) : Span :=
  ⟨boundary.start, if boundary.reachesEnd then boundary.stop else boundary.stop - 1⟩

/-- Turn byte ranges into boundaries with one tracker; `done` holds the earlier boundaries, latest
first.  A range with an end that is no place of the text gives no answer. -/
def ofRangesFrom (length : Nat) (tracker : Tracker) (done : List Boundary) :
    List ByteRange → Option (List Boundary)
  | [] => some done.reverse
  | range :: rest =>
      match tracker.advance? range.start with
      | none => none
      | some opened =>
          match opened.advance? range.stop with
          | none => none
          | some closed =>
              ofRangesFrom length closed
                (⟨opened.offset, closed.offset, range.stop = length⟩ :: done) rest

def ofRanges? (unit : OffsetUnit) (text : List Char) (ranges : List ByteRange) :
    Option (List Boundary) :=
  ofRangesFrom (byteLength text) (Tracker.start unit text) [] ranges

end Boundary

end SentenceSpans
