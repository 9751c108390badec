import SentenceSpans.Sentence.Segments
import SentenceSpans.Sentence.Abbreviation
import SentenceSpans.Offset.ByteRange

/-!
# English sentences

The sentences of a text are its raw segments with the false cuts removed: two adjacent segments
belong to one sentence when an abbreviation joins them.  The two segments judged are always the
raw ones on both sides of the cut, however many cuts before it were false.

## Contents

  * `join?`: one walk over the raw segments that puts the sentences together.
  * `sentenceRanges`: the byte ranges of the sentences of a text.
  * `sentences`: the same sentences, said without the walk.
-/

namespace SentenceSpans

/-! ## The walk -/

/-- A sentence that may still go on. -/
structure OpenSentence where
  start : Nat
  stop : Nat
  /-- The text of the raw segment read last. -/
  last : List Char
deriving DecidableEq, Repr

namespace OpenSentence

def begin (segment : RawSegment) : OpenSentence := ⟨segment.start, segment.stop, segment.text⟩

def extend (sentence : OpenSentence) (segment : RawSegment) : OpenSentence :=
  ⟨sentence.start, segment.stop, segment.text⟩

def range (sentence : OpenSentence) : ByteRange := ⟨sentence.start, sentence.stop⟩

end OpenSentence

/-- The sentences put together and the false cuts removed on the way, latest first. -/
structure Joining where
  ranges : List ByteRange
  removed : List Nat
deriving DecidableEq, Repr

namespace Joining

def start : Joining := ⟨[], []⟩

def close (joining : Joining) (sentence : OpenSentence) : Joining :=
  ⟨sentence.range :: joining.ranges, joining.removed⟩

def remove (joining : Joining) (sentence : OpenSentence) : Joining :=
  ⟨joining.ranges, sentence.stop :: joining.removed⟩

def inOrder (joining : Joining) : Joining := ⟨joining.ranges.reverse, joining.removed.reverse⟩

end Joining

/-- Walk over the raw segments after an open sentence.  A segment that continues it has to start
where it ends; otherwise there is no answer. -/
def joinFrom (sentence : OpenSentence) (done : Joining) : List RawSegment → Option Joining
  | [] => some (done.close sentence)
  | next :: rest =>
      if suppressesBreak sentence.last next.text then
        if next.start = sentence.stop then
          joinFrom (sentence.extend next) (done.remove sentence) rest
        else none
      else joinFrom (.begin next) (done.close sentence) rest

def join? : List RawSegment → Option Joining
  | [] => some .start
  | first :: rest => (joinFrom (.begin first) .start rest).map Joining.inOrder

/-! ## Sentences of a text -/

/-- The byte ranges of the sentences of a text, given what cuts it into raw segments. -/
def sentenceRangesBy (segmenter : Segmenter) (text : List Char) : List ByteRange :=
  match join? (segmenter text) with
  | some joining => joining.ranges
  | none => []

def sentenceRanges (text : List Char) : List ByteRange :=
  sentenceRangesBy .unicode text

/-- The byte positions of the false cuts of a text, in their order. -/
def suppressedBreaks (text : List Char) : List Nat :=
  match join? (Segmenter.unicode text) with
  | some joining => joining.removed
  | none => []

/-- Raw segments gathered into sentences. -/
def sentencesOf (raw : List (List Char)) : List (List Char) :=
  (raw.splitBy suppressesBreak).map List.flatten

def sentences (text : List Char) : List (List Char) :=
  sentencesOf (segments text)

example : sentenceRanges "Mr. and Mrs. Smith arrived. They sat.".toList =
    [⟨0, 28⟩, ⟨28, 37⟩] := by decide +kernel
example : suppressedBreaks "Ask Dr. Who. Then go.".toList = [8] := by decide +kernel

end SentenceSpans
