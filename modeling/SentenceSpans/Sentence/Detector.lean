import SentenceSpans.Sentence.Sentences
import SentenceSpans.Offset.Boundary

/-!
# Sentence detectors

A boundary provider cuts a text into sentences, as byte ranges.  A detector reports them as spans
in its offset unit.

A provider promises that its ranges cover the text (`BoundaryProvider.IsLawful`).  With ranges
that are no places of the text there is nothing to report.
-/

namespace SentenceSpans

/-! ## Locales -/

inductive Locale where
  | english
deriving DecidableEq, Repr

def Locale.name : Locale → String
  | .english => "en"

/-! ## Providers -/

structure BoundaryProvider where
  /-- The byte ranges of the sentences of a text. -/
  ranges : List Char → List ByteRange
  /-- The byte positions of the breaks that were found and then removed, for the log. -/
  removed : List Char → List Nat

namespace BoundaryProvider

/-- A provider keeps its promise when its ranges cover every text. -/
def IsLawful (provider : BoundaryProvider) : Prop :=
  ∀ text, Covers text (provider.ranges text)

/-- English sentences: the sentence rules of Unicode without the breaks after abbreviations. -/
def english : BoundaryProvider := ⟨sentenceRanges, suppressedBreaks⟩

def ofLocale : Locale → BoundaryProvider
  | .english => english

end BoundaryProvider

/-! ## Detectors -/

/-- A provider together with the unit in which its sentences are reported. -/
structure Detector where
  unit : OffsetUnit
  provider : BoundaryProvider

namespace Detector

def boundaries? (detector : Detector) (text : List Char) : Option (List Boundary) :=
  Boundary.ofRanges? detector.unit text (detector.provider.ranges text)

/-- The boundaries of the sentences of a text; none when a range is no place of the text. -/
def boundaries (detector : Detector) (text : List Char) : List Boundary :=
  (detector.boundaries? text).getD []

def spans (detector : Detector) (text : List Char) : List Span :=
  (detector.boundaries text).map Boundary.toSpan

end Detector

end SentenceSpans
