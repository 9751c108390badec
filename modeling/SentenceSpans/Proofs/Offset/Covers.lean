import SentenceSpans.Offset.ByteRange
import SentenceSpans.Proofs.Pieces

/-!
# Ranges that cover a text

Ranges can be judged one by one (`Covers`) or be read off a list of parts (`layOut`).  Both ways
describe the same lists of ranges.

Results:
1. `front_append_of_le`: of two places of a text, the earlier one leaves a shorter text before it.
2. `layFrom_eq_append_cons`: every range of a list of parts is that of one part, between the ranges
   of the parts before and after it.
3. `covers_iff_parts`: ranges cover a text exactly when they are those of its non-empty parts.
4. `stop_layOut_iff`: a range of a list of parts ends where some of the leading parts end.
-/

namespace SentenceSpans

/-! ## 1. Places -/

theorem byteLength_append (front back : List Char) :
    byteLength (front ++ back) = byteLength front + byteLength back :=
  OffsetUnit.measure_append .byte front back

theorem byteLength_eq_zero_iff {text : List Char} : byteLength text = 0 ↔ text = [] :=
  OffsetUnit.measure_eq_zero_iff

theorem byteLength_pos {text : List Char} (nonempty : text ≠ []) : 0 < byteLength text :=
  Nat.pos_of_ne_zero fun zero => nonempty (byteLength_eq_zero_iff.1 zero)

theorem front_append_of_le {front back other rest : List Char}
    (same : front ++ back = other ++ rest) (le : byteLength front ≤ byteLength other) :
    ∃ middle, other = front ++ middle ∧ back = middle ++ rest := by
  rcases List.append_eq_append_iff.1 same with ⟨middle, longer, split⟩ | ⟨middle, longer, split⟩
  · exact ⟨middle, longer, split⟩
  · -- `other` is no longer than `front` here, so the two are equal.
    have bytes : byteLength front = byteLength other + byteLength middle := by
      rw [longer, byteLength_append]
    have empty : middle = [] := byteLength_eq_zero_iff.1 (by omega)
    subst empty
    rw [List.append_nil] at longer
    exact ⟨[], by rw [longer, List.append_nil], split.symm⟩

/-- A byte position determines the text before it. -/
theorem front_eq_of_byteLength_eq {front back other rest : List Char}
    (same : front ++ back = other ++ rest) (equal : byteLength front = byteLength other) :
    front = other ∧ back = rest := by
  obtain ⟨middle, longer, split⟩ := front_append_of_le same (Nat.le_of_eq equal)
  rw [longer, byteLength_append] at equal
  have empty : middle = [] := byteLength_eq_zero_iff.1 (by omega)
  subst empty
  exact ⟨by rw [longer, List.append_nil], split⟩

/-! ## 2. Ranges of parts -/

/-- The ranges of later parts start where the earlier ones end. -/
theorem layFrom_append (start : Nat) (front back : List (List Char)) :
    layFrom start [] ((front ++ back).map byteLength) =
      layFrom start [] (front.map byteLength) ++
        layFrom (start + byteLength front.flatten) [] (back.map byteLength) := by
  induction front generalizing start with
  | nil => rfl
  | cons part rest ih =>
      rw [List.cons_append, List.map_cons, List.map_cons, layFrom_cons, layFrom_cons, ih,
        List.flatten_cons, byteLength_append, ← Nat.add_assoc]
      rfl

/-- The range of a last part stands after those of the other parts. -/
theorem layOut_concat (parts : List (List Char)) (part : List Char) :
    layOut (parts ++ [part]) = layOut parts ++
      [⟨byteLength parts.flatten, byteLength parts.flatten + byteLength part⟩] := by
  rw [layOut, layFrom_append, Nat.zero_add]
  rfl

theorem layFrom_eq_append_cons {start : Nat} {parts : List (List Char)}
    {front back : List ByteRange} {range : ByteRange}
    (laid : layFrom start [] (parts.map byteLength) = front ++ range :: back) :
    ∃ before part after, parts = before ++ part :: after ∧
      front = layFrom start [] (before.map byteLength) ∧
      range = ⟨start + byteLength before.flatten,
        start + byteLength before.flatten + byteLength part⟩ ∧
      back = layFrom (start + byteLength before.flatten + byteLength part) []
        (after.map byteLength) := by
  induction front generalizing start parts with
  | nil =>
      cases parts with
      | nil => cases laid
      | cons part after =>
          rw [List.map_cons, layFrom_cons] at laid
          obtain ⟨this, others⟩ := List.cons.inj laid
          exact ⟨[], part, after, rfl, rfl, this.symm, others.symm⟩
  | cons earlier front ih =>
      cases parts with
      | nil => cases laid
      | cons first rest =>
          rw [List.map_cons, layFrom_cons] at laid
          obtain ⟨this, others⟩ := List.cons.inj laid
          obtain ⟨before, part, after, split, laidBefore, here, laidAfter⟩ := ih others
          rw [Nat.add_assoc start, ← byteLength_append, ← List.flatten_cons] at here laidAfter
          refine ⟨first :: before, part, after, ?_, ?_, here, laidAfter⟩
          · rw [split]
            rfl
          · rw [List.map_cons, layFrom_cons, laidBefore, this]

/-- The same from the start of the text: a range starts where the parts before its own end. -/
theorem layOut_eq_append_cons {parts : List (List Char)} {front back : List ByteRange}
    {range : ByteRange} (laid : layOut parts = front ++ range :: back) :
    ∃ before part after, parts = before ++ part :: after ∧
      front = layOut before ∧
      range = ⟨byteLength before.flatten, byteLength before.flatten + byteLength part⟩ ∧
      back = layFrom (byteLength before.flatten + byteLength part) [] (after.map byteLength) := by
  have placed := layFrom_eq_append_cons laid
  simp only [Nat.zero_add] at placed
  exact placed

/-! ## 3. Covers and parts -/

theorem covers_layOut {parts : List (List Char)} (filled : [] ∉ parts) :
    Covers parts.flatten (layOut parts) where
  nonempty range member := by
    obtain ⟨front, back, laid⟩ := List.append_of_mem member
    obtain ⟨before, part, after, rfl, _, rfl, _⟩ := layOut_eq_append_cons laid
    have size : 0 < byteLength part := byteLength_pos fun empty => filled (by simp [empty])
    exact Nat.lt_add_of_pos_right size
  places range member := by
    obtain ⟨front, back, laid⟩ := List.append_of_mem member
    obtain ⟨before, part, after, rfl, _, rfl, _⟩ := layOut_eq_append_cons laid
    refine ⟨⟨before.flatten, part ++ after.flatten, by simp, rfl⟩, ?_⟩
    exact ⟨before.flatten ++ part, after.flatten, by simp, by rw [byteLength_append]⟩
  first range found := by
    obtain ⟨back, laid⟩ := List.head?_eq_some_iff.1 found
    rw [← List.nil_append (range :: back)] at laid
    obtain ⟨before, part, after, _, front, rfl, _⟩ := layOut_eq_append_cons laid
    cases before with
    | nil => rfl
    | cons first rest => cases front.trans (layFrom_cons 0 _ _)
  linked front range next back laid := by
    obtain ⟨before, part, after, _, _, rfl, others⟩ := layOut_eq_append_cons laid
    cases after with
    | nil => cases others
    | cons follower after =>
        rw [List.map_cons, layFrom_cons] at others
        rw [(List.cons.inj others).1]
  last range found := by
    obtain ⟨front, laid⟩ := List.getLast?_eq_some_iff.1 found
    obtain ⟨before, part, after, rfl, _, rfl, others⟩ := layOut_eq_append_cons laid
    cases after with
    | nil => simp [byteLength_append]
    | cons follower after =>
        rw [List.map_cons, layFrom_cons] at others
        cases others
  nil_iff := by
    cases parts with
    | nil => exact ⟨fun _ => rfl, fun _ => rfl⟩
    | cons part rest =>
        constructor
        · intro empty
          rw [layOut, List.map_cons, layFrom_cons] at empty
          cases empty
        · intro empty
          have first : part = [] := (List.append_eq_nil_iff.1 empty).1
          exact absurd List.mem_cons_self (first ▸ filled)

/-- Ranges cover the back of a text, which starts behind `front`. -/
structure CoversBehind (front back : List Char) (ranges : List ByteRange) : Prop where
  nonempty : ∀ range ∈ ranges, range.start < range.stop
  places : ∀ range ∈ ranges, IsPlace (front ++ back) range.stop
  first : ∀ range, ranges.head? = some range → range.start = byteLength front
  linked : ∀ before range next after, ranges = before ++ range :: next :: after →
    range.stop = next.start
  last : ∀ range, ranges.getLast? = some range → range.stop = byteLength (front ++ back)
  nil : ranges = [] → back = []

/-- The first range is that of a part behind the front, and the others cover what is behind it. -/
theorem CoversBehind.cons {front back : List Char} {range : ByteRange} {rest : List ByteRange}
    (covers : CoversBehind front back (range :: rest)) :
    ∃ part others, back = part ++ others ∧ part ≠ [] ∧
      range = ⟨byteLength front, byteLength front + byteLength part⟩ ∧
      CoversBehind (front ++ part) others rest := by
  obtain ⟨longer, others, same, stop⟩ := covers.places range List.mem_cons_self
  have start : range.start = byteLength front := covers.first range rfl
  have positive : range.start < range.stop := covers.nonempty range List.mem_cons_self
  obtain ⟨part, rfl, rfl⟩ := front_append_of_le same (by omega)
  have whole : front ++ part ++ others = front ++ (part ++ others) := List.append_assoc ..
  rw [byteLength_append] at stop
  refine ⟨part, others, rfl, ?_, ?_, ?_, ?_, ?_, ?_, ?_, ?_⟩
  · rintro rfl
    rw [start, stop] at positive
    exact Nat.lt_irrefl _ positive
  · rw [← stop, ← start]
  · intro other member
    exact covers.nonempty other (List.mem_cons_of_mem range member)
  · intro other member
    exact whole ▸ covers.places other (List.mem_cons_of_mem range member)
  · intro next found
    obtain ⟨after, rfl⟩ := List.head?_eq_some_iff.1 found
    rw [byteLength_append, ← stop]
    exact (covers.linked [] range next after rfl).symm
  · intro before other next after split
    exact covers.linked (range :: before) other next after (by rw [split]; rfl)
  · intro other found
    have more : rest ≠ [] := by
      rintro rfl
      cases found
    rw [whole]
    exact covers.last other (by rw [List.getLast?_cons_of_ne_nil more, found])
  · -- Without another range, the part reaches the end of the text.
    rintro rfl
    have ends := covers.last range rfl
    rw [byteLength_append, byteLength_append] at ends
    exact byteLength_eq_zero_iff.1 (by omega)

/-- Ranges that cover the back of a text are those of its parts. -/
theorem CoversBehind.exists_parts {front back : List Char} {ranges : List ByteRange}
    (covers : CoversBehind front back ranges) :
    ∃ parts : List (List Char), [] ∉ parts ∧ parts.flatten = back ∧
      layFrom (byteLength front) [] (parts.map byteLength) = ranges := by
  -- The front grows by the part of the first range.
  induction ranges generalizing front back with
  | nil => exact ⟨[], List.not_mem_nil, (covers.nil rfl).symm, rfl⟩
  | cons range rest ih =>
      obtain ⟨part, others, rfl, filled, rfl, behind⟩ := covers.cons
      obtain ⟨parts, allFilled, rfl, laid⟩ := ih behind
      refine ⟨part :: parts, ?_, rfl, ?_⟩
      · rw [List.mem_cons, not_or]
        exact ⟨filled.symm, allFilled⟩
      · rw [List.map_cons, layFrom_cons, ← byteLength_append, laid]

theorem covers_iff_parts {text : List Char} {ranges : List ByteRange} :
    Covers text ranges ↔
      ∃ parts : List (List Char), [] ∉ parts ∧ parts.flatten = text ∧ layOut parts = ranges := by
  constructor
  · intro covers
    have behind : CoversBehind [] text ranges :=
      ⟨covers.nonempty, fun range member => (covers.places range member).2, covers.first,
        covers.linked, covers.last, covers.nil_iff.1⟩
    exact behind.exists_parts
  · rintro ⟨parts, filled, rfl, rfl⟩
    exact covers_layOut filled

/-! ## 4. Ends of ranges -/

theorem stop_layOut_iff {parts : List (List Char)} {position : Nat} :
    (∃ range ∈ layOut parts, range.stop = position) ↔
      ∃ left right, parts = left ++ right ∧ left ≠ [] ∧ position = byteLength left.flatten := by
  constructor
  · rintro ⟨range, member, rfl⟩
    obtain ⟨front, back, laid⟩ := List.append_of_mem member
    obtain ⟨before, part, after, rfl, _, rfl, _⟩ := layOut_eq_append_cons laid
    refine ⟨before ++ [part], after, by simp, by simp, ?_⟩
    simp [byteLength_append]
  · rintro ⟨left, right, rfl, nonempty, rfl⟩
    obtain ⟨before, part, rfl⟩ := exists_concat nonempty
    refine ⟨⟨byteLength before.flatten, byteLength before.flatten + byteLength part⟩, ?_, ?_⟩
    · have member := List.mem_append_right (layOut before) (List.mem_singleton_self
        (⟨byteLength before.flatten, byteLength before.flatten + byteLength part⟩ : ByteRange))
      rw [← layOut_concat] at member
      rw [layOut, layFrom_append]
      exact List.mem_append_left _ member
    · simp [byteLength_append]

end SentenceSpans
