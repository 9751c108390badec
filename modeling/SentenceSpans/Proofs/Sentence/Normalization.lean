import SentenceSpans.Proofs.Sentence.Boundaries

/-!
# Ends of spans

A span reports the last offset of its sentence, except at the end of the record, where it reports
the offset behind it.  A reader who sees only the spans knows which one is the last, and so can
undo this: no sentence is empty and only the last one is flagged, whatever the unit.

Results:
1. `toSpan_stop_of_inside`: the end of a sentence inside a record is reported one less.
2. `ofSpans_map_toSpan`: the boundaries, from their spans alone.
3. `le_of_mem_map_toSpan`, `linked_map_toSpan` and `last_map_toSpan`: how the spans of a record lie.
4. `ofSpans_spans`: all of this for every lawful provider.
-/

namespace SentenceSpans

/-! ## Definitions -/

/-- The boundaries that were reported as the given spans: the end of the last one was exclusive,
the other ends were inclusive. -/
def Boundary.ofSpans : List Span → List Boundary
  | [] => []
  | [span] => [⟨span.start, span.stop, true⟩]
  | span :: next :: rest => ⟨span.start, span.stop + 1, false⟩ :: ofSpans (next :: rest)

/-! ## 1. Single spans -/

theorem toSpan_stop_of_last {boundary : Boundary} (reaches : boundary.reachesEnd = true) :
    boundary.toSpan.stop = boundary.stop :=
  if_pos reaches

/-- The end of a sentence that is not empty can be reported one less. -/
theorem toSpan_stop_of_inside {boundary : Boundary} (inside : boundary.reachesEnd = false)
    (nonempty : boundary.start < boundary.stop) :
    boundary.toSpan.stop + 1 = boundary.stop := by
  have reported : boundary.toSpan.stop = boundary.stop - 1 :=
    if_neg (by rw [inside]; exact Bool.false_ne_true)
  omega

/-! ## 2. The boundaries of spans -/

theorem ofSpans_map_toSpan {boundaries : List Boundary}
    (nonempty : ∀ boundary ∈ boundaries, boundary.start < boundary.stop)
    (flagged : ∀ front boundary back, boundaries = front ++ boundary :: back →
      (boundary.reachesEnd = true ↔ back = [])) :
    Boundary.ofSpans (boundaries.map Boundary.toSpan) = boundaries := by
  -- Whether another boundary follows tells both the flag and how the end was reported.
  induction boundaries with
  | nil => rfl
  | cons boundary rest ih =>
      have flag := flagged [] boundary rest rfl
      have start : boundary.toSpan.start = boundary.start := rfl
      cases rest with
      | nil =>
          have reaches := flag.2 rfl
          rw [List.map_singleton, Boundary.ofSpans, toSpan_stop_of_last reaches, start, ← reaches]
      | cons next rest =>
          have inside : boundary.reachesEnd = false := by
            rw [Bool.eq_false_iff]
            exact fun reaches => absurd (flag.1 reaches) (List.cons_ne_nil next rest)
          obtain ⟨here, later⟩ := List.forall_mem_cons.1 nonempty
          have others := ih later fun front other back split =>
            flagged (boundary :: front) other back (by rw [split]; rfl)
          rw [List.map_cons] at others
          rw [List.map_cons, List.map_cons, Boundary.ofSpans, others,
            toSpan_stop_of_inside inside here, start, ← inside]

/-! ## 3. The spans of a record -/

section Spans

variable {size : Nat} {boundaries : List Boundary}

theorem le_of_mem_map_toSpan (partitions : Partitions size boundaries) {span : Span}
    (member : span ∈ boundaries.map Boundary.toSpan) : span.start ≤ span.stop := by
  obtain ⟨boundary, present, rfl⟩ := List.mem_map.1 member
  have nonempty := partitions.nonempty boundary present
  change boundary.start ≤ boundary.toSpan.stop
  cases reaches : boundary.reachesEnd with
  | true =>
      rw [toSpan_stop_of_last reaches]
      exact Nat.le_of_lt nonempty
  | false =>
      have reported := toSpan_stop_of_inside reaches nonempty
      omega

theorem linked_map_toSpan (partitions : Partitions size boundaries) {front back : List Span}
    {span next : Span}
    (split : boundaries.map Boundary.toSpan = front ++ span :: next :: back) :
    span.stop + 1 = next.start := by
  obtain ⟨before, others, rfl, _, tail⟩ := List.map_eq_append_iff.1 split
  obtain ⟨boundary, rest, rfl, rfl, others⟩ := List.map_eq_cons_iff.1 tail
  obtain ⟨follower, after, rfl, rfl, _⟩ := List.map_eq_cons_iff.1 others
  have inside : boundary.reachesEnd = false := by
    rw [Bool.eq_false_iff]
    intro reaches
    have final := (partitions.flagged before boundary (follower :: after) rfl).1 reaches
    exact absurd final (List.cons_ne_nil follower after)
  have nonempty := partitions.nonempty boundary (by simp)
  rw [toSpan_stop_of_inside inside nonempty]
  exact partitions.linked before boundary follower after rfl

theorem last_map_toSpan (partitions : Partitions size boundaries) {span : Span}
    (found : (boundaries.map Boundary.toSpan).getLast? = some span) : span.stop = size := by
  rw [List.getLast?_map] at found
  obtain ⟨boundary, final, rfl⟩ := Option.map_eq_some_iff.1 found
  obtain ⟨front, split⟩ := List.getLast?_eq_some_iff.1 final
  have reaches := (partitions.flagged front boundary [] split).2 rfl
  rw [toSpan_stop_of_last reaches]
  exact partitions.last boundary final

end Spans

/-! ## 4. Lawful providers -/

/-- The spans that a detector with a lawful provider reports give back its boundaries.  Every end
that is reported one less stays where its sentence is, each span but the last ends right before the
next one starts, and the last one ends with the record. -/
theorem ofSpans_spans {detector : Detector} (lawful : detector.provider.IsLawful)
    (text : List Char) :
    ∃ boundaries, detector.boundaries? text = some boundaries ∧
      detector.spans text = boundaries.map Boundary.toSpan ∧
      Boundary.ofSpans (detector.spans text) = boundaries ∧
      (∀ boundary ∈ boundaries, boundary.reachesEnd = false →
        boundary.toSpan.stop + 1 = boundary.stop) ∧
      (∀ span ∈ detector.spans text, span.start ≤ span.stop) ∧
      (∀ front span next back, detector.spans text = front ++ span :: next :: back →
        span.stop + 1 = next.start) ∧
      ∀ span, (detector.spans text).getLast? = some span →
        span.stop = detector.unit.measure text := by
  have found := Detector.boundaries?_eq lawful text
  have partitions := partitions_prefixBoundary detector.unit (lawful text)
  have reported : detector.spans text = ((detector.provider.ranges text).map
      (prefixBoundary detector.unit text)).map Boundary.toSpan := by
    rw [Detector.spans, Detector.boundaries, found]
    rfl
  rw [reported]
  refine ⟨_, found, rfl, ofSpans_map_toSpan partitions.nonempty partitions.flagged, ?_,
    fun span => le_of_mem_map_toSpan partitions, fun front span next back =>
    linked_map_toSpan partitions, fun span => last_map_toSpan partitions⟩
  exact fun boundary member inside =>
    toSpan_stop_of_inside inside (partitions.nonempty boundary member)

/-- A character that counts twice stands in the first of two sentences. -/
theorem ofSpans_spans_utf16 :
    BoundaryProvider.english.IsLawful ∧
      Detector.spans ⟨.utf16, .english⟩ "Hi 😀. Bye.".toList = [⟨0, 6⟩, ⟨7, 11⟩] ∧
      Detector.boundaries? ⟨.utf16, .english⟩ "Hi 😀. Bye.".toList =
        some (Boundary.ofSpans [⟨0, 6⟩, ⟨7, 11⟩]) ∧
      Boundary.ofSpans [⟨0, 6⟩, ⟨7, 11⟩] = [⟨0, 7, false⟩, ⟨7, 11, true⟩] := by
  have lawful : (Detector.mk .utf16 .english).provider.IsLawful :=
    BoundaryProvider.english_isLawful
  have spans : Detector.spans ⟨.utf16, .english⟩ "Hi 😀. Bye.".toList = [⟨0, 6⟩, ⟨7, 11⟩] := by
    decide +kernel
  obtain ⟨boundaries, found, _, restored, _⟩ := ofSpans_spans lawful "Hi 😀. Bye.".toList
  rw [spans] at restored
  exact ⟨lawful, spans, by rw [found, restored], rfl⟩

end SentenceSpans
