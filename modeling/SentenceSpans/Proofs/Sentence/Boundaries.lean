import SentenceSpans.Proofs.Sentence.Joining

/-!
# Boundaries of lawful providers

A detector turns byte ranges into offsets with one tracker, which only ever measures the text
between two stops.  When the ranges cover the text, the offsets are those of the whole text before
each place, and the boundaries cut the record into sentences.

Results:
1. `Tracker.advance?_append`: a tracker takes any step that ends at a place, and adds the size of
   the text it passes.
2. `ofRanges?_layOut`: no range of a list of parts is refused, and its boundary has the sizes of
   the text before its ends.
3. `partitions_prefixBoundary`: these boundaries cut the record into sentences.
4. `boundaries?_of_isLawful`: all of this holds for every lawful provider.
-/

namespace SentenceSpans

/-! ## Definitions -/

def textBefore : List Char → Nat → List Char
  | [], _ => []
  | c :: rest, position =>
      if c.utf8Size ≤ position then c :: textBefore rest (position - c.utf8Size) else []

/-- The boundary of a byte range, from the whole text before each of its ends. -/
def prefixBoundary (unit : OffsetUnit) (text : List Char) (range : ByteRange) : Boundary :=
  ⟨unit.measure (textBefore text range.start), unit.measure (textBefore text range.stop),
    range.stop = byteLength text⟩

/-- Boundaries cut a record of the given size into sentences that are not empty, and only the last
one is flagged. -/
structure Partitions (size : Nat) (boundaries : List Boundary) : Prop where
  first : ∀ boundary, boundaries.head? = some boundary → boundary.start = 0
  linked : ∀ front boundary next back, boundaries = front ++ boundary :: next :: back →
    boundary.stop = next.start
  nonempty : ∀ boundary ∈ boundaries, boundary.start < boundary.stop
  last : ∀ boundary, boundaries.getLast? = some boundary → boundary.stop = size
  flagged : ∀ front boundary back, boundaries = front ++ boundary :: back →
    (boundary.reachesEnd = true ↔ back = [])

/-! ## 1. Steps of a tracker -/

theorem Tracker.advance?_append (unit : OffsetUnit) (position offset : Nat)
    (front back : List Char) :
    advance? ⟨unit, position, offset, front ++ back⟩ (position + byteLength front) =
      some ⟨unit, position + byteLength front, offset + unit.measure front, back⟩ := by
  unfold advance?
  split
  · next reached =>
      have empty : front = [] := byteLength_eq_zero_iff.1 (by simp only at reached; omega)
      subst empty
      rfl
  · exact walk_append unit position offset front back

/-- A tracker does not move for a position that it has reached. -/
theorem Tracker.advance?_self (tracker : Tracker) :
    tracker.advance? tracker.position = some tracker :=
  if_pos (Nat.le_refl tracker.position)

/-! ## 2. Boundaries of parts -/

theorem textBefore_append (front back : List Char) :
    textBefore (front ++ back) (byteLength front) = front := by
  induction front with
  | nil =>
      cases back with
      | nil => rfl
      | cons c rest =>
          have size := Char.utf8Size_pos c
          exact if_neg (Nat.not_le.2 size)
  | cons c rest ih =>
      rw [List.cons_append, textBefore, byteLength_cons, if_pos (Nat.le_add_right _ _),
        Nat.add_sub_cancel_left, ih]

theorem ofRangesFrom_layFrom (unit : OffsetUnit) (text front : List Char)
    (parts : List (List Char)) (whole : text = front ++ parts.flatten) (done : List Boundary) :
    Boundary.ofRangesFrom (byteLength text)
        ⟨unit, byteLength front, unit.measure front, parts.flatten⟩ done
        (layFrom (byteLength front) [] (parts.map byteLength)) =
      some (done.reverse ++
        (layFrom (byteLength front) [] (parts.map byteLength)).map (prefixBoundary unit text)) := by
  -- The tracker stands behind `front`, which grows by one part with each range.
  induction parts generalizing front done with
  | nil => simp [layFrom, Boundary.ofRangesFrom]
  | cons part rest ih =>
      have regrouped : text = front ++ part ++ rest.flatten := by
        rw [whole, List.flatten_cons, List.append_assoc]
      have start : textBefore text (byteLength front) = front := by
        rw [whole, textBefore_append]
      have stop : textBefore text (byteLength front + byteLength part) = front ++ part := by
        rw [regrouped, ← byteLength_append, textBefore_append]
      have here : prefixBoundary unit text
          ⟨byteLength front, byteLength front + byteLength part⟩ =
          ⟨unit.measure front, unit.measure front + unit.measure part,
            decide (byteLength front + byteLength part = byteLength text)⟩ := by
        rw [prefixBoundary, start, stop, OffsetUnit.measure_append]
      have passed := Tracker.advance?_append unit (byteLength front) (unit.measure front) part
        rest.flatten
      have others := ih (front ++ part) regrouped (prefixBoundary unit text
        ⟨byteLength front, byteLength front + byteLength part⟩ :: done)
      rw [byteLength_append, OffsetUnit.measure_append, here, List.reverse_cons,
        List.append_assoc] at others
      rw [List.map_cons, layFrom_cons, Boundary.ofRangesFrom, List.flatten_cons, List.map_cons,
        here]
      simp only [Tracker.advance?_self ⟨unit, byteLength front, unit.measure front, _⟩, passed]
      exact others

theorem ofRanges?_layOut (unit : OffsetUnit) (parts : List (List Char)) :
    Boundary.ofRanges? unit parts.flatten (layOut parts) =
      some ((layOut parts).map (prefixBoundary unit parts.flatten)) :=
  ofRangesFrom_layFrom unit parts.flatten [] parts rfl []

/-! ## 3. The partition of a record -/

/-- Of two places, the later one has the larger text before it, in every unit. -/
theorem measure_textBefore_lt (unit : OffsetUnit) {text : List Char} {position later : Nat}
    (place : IsPlace text position) (laterPlace : IsPlace text later) (lt : position < later) :
    unit.measure (textBefore text position) < unit.measure (textBefore text later) := by
  obtain ⟨front, back, rfl, rfl⟩ := place
  obtain ⟨longer, rest, same, rfl⟩ := laterPlace
  rw [textBefore_append, same, textBefore_append]
  obtain ⟨middle, rfl, _⟩ := front_append_of_le same (Nat.le_of_lt lt)
  rw [OffsetUnit.measure_append]
  refine Nat.lt_add_of_pos_right (Nat.pos_of_ne_zero fun zero => ?_)
  rw [OffsetUnit.measure_eq_zero_iff.1 zero, List.append_nil] at lt
  exact Nat.lt_irrefl _ lt

theorem textBefore_byteLength (text : List Char) : textBefore text (byteLength text) = text := by
  have all := textBefore_append text []
  rwa [List.append_nil] at all

theorem IsPlace.le_byteLength {text : List Char} {position : Nat} (place : IsPlace text position) :
    position ≤ byteLength text := by
  obtain ⟨front, back, rfl, rfl⟩ := place
  rw [byteLength_append]
  exact Nat.le_add_right _ _

theorem partitions_prefixBoundary (unit : OffsetUnit) {text : List Char}
    {ranges : List ByteRange} (covers : Covers text ranges) :
    Partitions (unit.measure text) (ranges.map (prefixBoundary unit text)) where
  first boundary found := by
    rw [List.head?_map] at found
    obtain ⟨range, head, rfl⟩ := Option.map_eq_some_iff.1 found
    have nothing : textBefore text range.start = [] := by
      rw [covers.first range head]
      exact textBefore_append [] text
    rw [prefixBoundary, nothing, OffsetUnit.measure_nil]
  linked front boundary next back split := by
    obtain ⟨before, others, laid, _, tail⟩ := List.map_eq_append_iff.1 split
    obtain ⟨range, rest, rfl, rfl, others⟩ := List.map_eq_cons_iff.1 tail
    obtain ⟨follower, after, rfl, rfl, _⟩ := List.map_eq_cons_iff.1 others
    simp only [prefixBoundary]
    rw [covers.linked before range follower after laid]
  nonempty boundary member := by
    obtain ⟨range, present, rfl⟩ := List.mem_map.1 member
    obtain ⟨start, stop⟩ := covers.places range present
    exact measure_textBefore_lt unit start stop (covers.nonempty range present)
  last boundary found := by
    rw [List.getLast?_map] at found
    obtain ⟨range, final, rfl⟩ := Option.map_eq_some_iff.1 found
    rw [prefixBoundary, covers.last range final, textBefore_byteLength]
  flagged front boundary back split := by
    obtain ⟨before, others, rfl, _, tail⟩ := List.map_eq_append_iff.1 split
    obtain ⟨range, after, rfl, rfl, rfl⟩ := List.map_eq_cons_iff.1 tail
    simp only [prefixBoundary, decide_eq_true_eq, List.map_eq_nil_iff]
    constructor
    · intro reaches
      cases after with
      | nil => rfl
      | cons next after =>
          -- A later range would have to lie behind the end of the text.
          have member : next ∈ before ++ range :: next :: after := by simp
          have start := covers.linked before range next after rfl
          have positive := covers.nonempty next member
          have inside := (covers.places next member).2.le_byteLength
          omega
    · rintro rfl
      exact covers.last range List.getLast?_concat

/-! ## 4. Lawful providers -/

/-- No position that the tracker is asked for by a lawful provider is refused. -/
theorem Detector.boundaries?_eq {detector : Detector} (lawful : detector.provider.IsLawful)
    (text : List Char) :
    detector.boundaries? text =
      some ((detector.provider.ranges text).map (prefixBoundary detector.unit text)) := by
  obtain ⟨parts, _, rfl, laid⟩ := covers_iff_parts.1 (lawful text)
  rw [Detector.boundaries?, ← laid, ofRanges?_layOut]

/-- A detector with a lawful provider gives one boundary for each range, with the sizes of the
whole text before its ends; the boundaries cut the record into sentences. -/
theorem boundaries?_of_isLawful {detector : Detector} (lawful : detector.provider.IsLawful)
    (text : List Char) :
    ∃ boundaries, detector.boundaries? text = some boundaries ∧
      boundaries = (detector.provider.ranges text).map (prefixBoundary detector.unit text) ∧
      Partitions (detector.unit.measure text) boundaries ∧ (boundaries = [] ↔ text = []) := by
  have covers : Covers text (detector.provider.ranges text) := lawful text
  refine ⟨_, Detector.boundaries?_eq lawful text, rfl,
    partitions_prefixBoundary detector.unit covers, ?_⟩
  rw [List.map_eq_nil_iff, covers.nil_iff]

/-- Characters of one to four bytes, counted in UTF-16 units. -/
theorem boundaries?_of_isLawful_utf16 :
    BoundaryProvider.english.IsLawful ∧
      OffsetUnit.utf16.measure "Grüße von Dr. Ä. – 😀 Ende! Ja.".toList = 31 ∧
      ∃ boundaries,
        Detector.boundaries? ⟨.utf16, .english⟩ "Grüße von Dr. Ä. – 😀 Ende! Ja.".toList =
          some boundaries ∧
        boundaries = [⟨0, 28, false⟩, ⟨28, 31, true⟩] ∧ Partitions 31 boundaries := by
  have lawful : Detector.provider ⟨.utf16, .english⟩ |>.IsLawful :=
    BoundaryProvider.english_isLawful
  have size : OffsetUnit.utf16.measure "Grüße von Dr. Ä. – 😀 Ende! Ja.".toList = 31 := by
    decide +kernel
  obtain ⟨boundaries, found, _, partition, _⟩ :=
    boundaries?_of_isLawful lawful "Grüße von Dr. Ä. – 😀 Ende! Ja.".toList
  refine ⟨lawful, size, boundaries, found, ?_, size ▸ partition⟩
  exact Option.some.inj (found.symm.trans (by decide +kernel))

end SentenceSpans
