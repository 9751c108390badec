import SentenceSpans.Unicode.SentenceBreak
import SentenceSpans.Offset.Unit

/-!
# Raw sentence segments

A text is cut into raw segments by the sentence rules of Unicode text segmentation (SB3 to SB998).
The rules judge every place between two characters from what stands before and after it.

A character of the classes Extend and Format belongs to the character before it, and no rule sees
it (SB5).  So the text is first gathered into clusters, each a base character with the attached
characters after it, and the rules judge the places between clusters.  At the start of the text
and after a paragraph end there is nothing to attach to: such a character starts a cluster of its
own, of the class Any.

## Contents

  * `clusters`: a text as a list of clusters.
  * `cutBetween`: whether the text is cut, given the classes before and after a place.
  * `segments`: the raw segments of a text.
  * `Segmenter`: a way to cut texts into raw segments; `Segmenter.unicode` follows the rules.
-/

namespace SentenceSpans

open Unicode

/-! ## Clusters -/

/-- A base character and the characters attached to it. -/
structure Cluster where
  /-- The class the rules see. -/
  kind : SentenceBreak
  base : Char
  attached : List Char
deriving DecidableEq, Repr

namespace Cluster

def chars (cluster : Cluster) : List Char := cluster.base :: cluster.attached

/-- Attached characters without a base are a cluster of the class Any. -/
def ofAttached : List Char → List Cluster
  | [] => []
  | c :: rest => [⟨.any, c, rest⟩]

end Cluster

/-- The clusters of a text, read from its end: attached characters wait for their base. -/
structure Clustering where
  attached : List Char
  clusters : List Cluster

namespace Clustering

def cons (c : Char) (rest : Clustering) : Clustering :=
  let kind := SentenceBreak.ofChar c
  if kind = .attached then ⟨c :: rest.attached, rest.clusters⟩
  else if kind.isParagraphEnd then
    ⟨[], ⟨kind, c, []⟩ :: (Cluster.ofAttached rest.attached ++ rest.clusters)⟩
  else ⟨[], ⟨kind, c, rest.attached⟩ :: rest.clusters⟩

/-- At the start of the text, waiting characters find no base. -/
def close (clustering : Clustering) : List Cluster :=
  Cluster.ofAttached clustering.attached ++ clustering.clusters

def ofText (text : List Char) : Clustering :=
  text.foldr cons ⟨[], []⟩

end Clustering

def clusters (text : List Char) : List Cluster :=
  (Clustering.ofText text).close

namespace Cluster

theorem chars_ofAttached (attached : List Char) :
    (ofAttached attached).flatMap chars = attached := by
  cases attached with
  | nil => rfl
  | cons c rest => simp [ofAttached, chars]

end Cluster

theorem Clustering.chars_close_cons (c : Char) (rest : Clustering) :
    (Clustering.cons c rest).close.flatMap Cluster.chars =
      c :: rest.close.flatMap Cluster.chars := by
  rw [cons]
  simp only [close, List.flatMap_append, Cluster.chars_ofAttached]
  split
  · simp
  · split
    · simp [Cluster.chars_ofAttached, Cluster.chars]
    · simp [Cluster.chars]

/-- Clustering loses no character and keeps their order. -/
theorem chars_clusters (text : List Char) : (clusters text).flatMap Cluster.chars = text := by
  induction text with
  | nil => rfl
  | cons c rest ih =>
      rw [clusters, Clustering.ofText, List.foldr_cons, Clustering.chars_close_cons]
      exact congrArg (c :: ·) ih

/-! ## The rules -/

/-- The end mark before a place, with only closing marks and then blanks between the two, from the
classes before the place, nearest first. -/
def endMark? (before : List SentenceBreak) : Option SentenceBreak :=
  match (before.dropWhile (· = .sp)).dropWhile (· = .close) with
  | kind :: _ => if kind.isSentenceEnd then some kind else none
  | [] => none

/-- Classes that settle whether a full stop is followed by a small letter. -/
def settlesCase : SentenceBreak → Bool
  | .oLetter | .upper | .lower | .cr | .lf | .sep | .aTerm | .sTerm => true
  | _ => false

/-- A sentence goes on in lower case after a full stop, whatever digits, blanks, closing marks and
symbols come before the small letter (the part of SB8 after the place). -/
def goesOnInLowerCase (after : List SentenceBreak) : Bool :=
  after.find? settlesCase = some .lower

/-- Characters that no end mark is separated from: further end marks, marks inside a sentence,
blanks and paragraph ends (SB8a, SB9, SB10), and closing marks without a blank before them (SB9).
Without an end mark before them they are separated from nothing either. -/
def neverStarts (previous next : SentenceBreak) : Bool :=
  next.isSentenceEnd || next = .sContinue || next = .sp || next.isParagraphEnd ||
    (next = .close && previous != .sp)

/-- Whether a text is cut at a place, from the classes before it, nearest first, and the classes
after it.  The first rule that applies decides:

  * SB3: no cut between a carriage return and a line feed;
  * SB4: a cut after a paragraph end;
  * SB6: no cut between a full stop and a digit;
  * SB7: no cut between a letter with a full stop and a capital;
  * SB8a, SB9, SB10: no cut before what belongs to an end mark;
  * SB8: no cut after a full stop before a continuation in lower case;
  * SB11: a cut after an end mark otherwise;
  * SB998: no cut anywhere else. -/
def cutBetween (before after : List SentenceBreak) : Bool :=
  match before, after with
  | [], _ => false
  | _, [] => false
  | previous :: earlier, next :: _ =>
      if previous = .cr ∧ next = .lf then false
      else if previous.isParagraphEnd then true
      else if previous = .aTerm ∧ next = .numeric then false
      else if previous = .aTerm ∧ next = .upper ∧
          (earlier.head? = some .upper ∨ earlier.head? = some .lower) then false
      else if neverStarts previous next then false
      else
        match endMark? before with
        | none => false
        | some mark => !(mark = .aTerm && goesOnInLowerCase after)

/-! ## Cutting a text -/

/-- For every class of a list, whether the text is cut before it.  `before` holds the classes
already passed and `done` their answers, latest first. -/
def cutsFrom (before : List SentenceBreak) (done : List Bool) : List SentenceBreak → List Bool
  | [] => done.reverse
  | kind :: rest => cutsFrom (kind :: before) (cutBetween before (kind :: rest) :: done) rest

def cuts (kinds : List SentenceBreak) : List Bool :=
  cutsFrom [] [] kinds

/-- The raw segments of a text: its clusters, cut where the rules cut. -/
def segments (text : List Char) : List (List Char) :=
  let parts := clusters text
  let marked := parts.zip (cuts (parts.map (·.kind)))
  (marked.splitBy fun _ next => !next.2).map fun group => group.flatMap (·.1.chars)

theorem length_cutsFrom (before : List SentenceBreak) (done : List Bool)
    (kinds : List SentenceBreak) :
    (cutsFrom before done kinds).length = done.length + kinds.length := by
  induction kinds generalizing before done with
  | nil => simp [cutsFrom]
  | cons kind rest ih =>
      rw [cutsFrom, ih]
      simp only [List.length_cons]
      omega

theorem length_cuts (kinds : List SentenceBreak) : (cuts kinds).length = kinds.length := by
  simp [cuts, length_cutsFrom]

/-- Each answer is the rules' answer at its place. -/
theorem getElem?_cuts (kinds : List SentenceBreak) (place : Nat) (inside : place < kinds.length) :
    (cuts kinds)[place]? =
      some (cutBetween (kinds.take place).reverse (kinds.drop place)) := by
  suffices general : ∀ (passed rest : List SentenceBreak) (done : List Bool),
      done.length = passed.length →
      (∀ place, place < passed.length →
        done.reverse[place]? =
          some (cutBetween ((passed ++ rest).take place).reverse ((passed ++ rest).drop place))) →
      ∀ place, place < (passed ++ rest).length →
        (cutsFrom passed.reverse done rest)[place]? =
          some (cutBetween ((passed ++ rest).take place).reverse
            ((passed ++ rest).drop place)) by
    exact general [] kinds [] rfl (by simp) place inside
  intro passed rest
  induction rest generalizing passed with
  | nil =>
      intro done _ answers place bound
      rw [cutsFrom]
      exact answers place (by simpa using bound)
  | cons kind rest ih =>
      intro done sizes answers place bound
      have step := ih (passed ++ [kind])
        (cutBetween passed.reverse (kind :: rest) :: done) (by simp [sizes])
      rw [List.append_assoc] at step
      rw [cutsFrom]
      simp only [List.reverse_append, List.reverse_cons, List.reverse_nil, List.nil_append,
        List.singleton_append] at step
      apply step _ place bound
      intro early earlyBound
      rcases Nat.lt_or_ge early passed.length with before | after
      · rw [List.getElem?_append_left (by simp [sizes, before])]
        exact answers early before
      · have same : early = passed.length := by
          simp at earlyBound
          omega
        rw [List.getElem?_append_right (by simp [sizes, same])]
        simp [same, sizes]

/-! ## Segments and their places -/

/-- A raw segment and the byte position at which it starts. -/
structure RawSegment where
  start : Nat
  text : List Char
deriving DecidableEq, Repr

def RawSegment.stop (segment : RawSegment) : Nat := segment.start + byteLength segment.text

abbrev Segmenter := List Char → List RawSegment

/-- Segments follow each other from the given byte position on; `done` holds the earlier ones,
latest first. -/
def placeFrom (start : Nat) (done : List RawSegment) : List (List Char) → List RawSegment
  | [] => done.reverse
  | text :: rest => placeFrom (start + byteLength text) (⟨start, text⟩ :: done) rest

/-- Raw segments make up a text: none is empty, together they are the text, and each stands at the
byte position where those before it end. -/
structure IsSegmentation (text : List Char) (raw : List RawSegment) : Prop where
  nonempty : ∀ segment ∈ raw, segment.text ≠ []
  whole : raw.flatMap (·.text) = text
  placed : ∀ front segment back, raw = front ++ segment :: back →
    segment.start = byteLength (front.flatMap (·.text))

namespace Segmenter

def unicode : Segmenter := fun text => placeFrom 0 [] (segments text)

/-- A segmenter is faithful when it neither loses nor misplaces a part of any text. -/
def IsFaithful (segmenter : Segmenter) : Prop :=
  ∀ text, IsSegmentation text (segmenter text)

end Segmenter

example : segments "Hi. A b? C".toList = ["Hi. ".toList, "A b? ".toList, "C".toList] := by
  decide +kernel
example : segments "It costs 3.5. so what".toList = ["It costs 3.5. so what".toList] := by
  decide +kernel

end SentenceSpans
