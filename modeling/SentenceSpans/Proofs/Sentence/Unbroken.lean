import SentenceSpans.Proofs.Sentence.Joining

/-!
# Texts that the sentence rules leave together

Whether a sentence ends at a place hangs on the last word of the raw segment in front and on the
first word of the one behind.  The segments themselves may reach arbitrarily far.  But where the
rules never cut a word, the segment in front of the place holds all of a word that ends there, and
the segment behind it all of a word that starts there.

Results:
1. `not_isCut_of_uncut`, `isUnbroken_of_uncut` and `isUnbroken_of_isChain`: how to see that the
   rules do not cut at a place, and leave a text together, whatever stands around it.
2. `IsUnbroken.le_or_le_of_isCut`: every cut is before such a text or behind it.
3. `IsUnbroken.exists_lead` and `IsUnbroken.exists_rest`: a segment that ends with such a text, or
   starts with it, holds all of it.
4. `stopsBetween_iff` and `StopsBetween.isCut`: a sentence ends at a place when the rules cut there
   and neither of the two segments around the cut gives a reason to remove it.
-/

namespace SentenceSpans

open Unicode

/-! ## Definitions -/

/-- The sentence rules leave a text together, whatever stands around it. -/
def IsUnbroken (text : List Char) : Prop :=
  ∀ front back, text = front ++ back → front ≠ [] → back ≠ [] → ∀ lead rest,
    ¬ IsCut (segments (lead ++ front ++ (back ++ rest))) (lead ++ front) (back ++ rest)

/-- A sentence of the text made up of a front and a back ends between the two. -/
def StopsBetween (front back : List Char) : Prop :=
  ∃ range ∈ sentenceRanges (front ++ back), range.stop = byteLength front

/-! ## 1. Unbroken texts -/

/-- The characters in front of a place and the one behind it are enough to see that the rules do not
cut there. -/
theorem not_isCut_of_uncut {near : List Char} {c : Char} (nonempty : near ≠ [])
    (bases : ∀ d ∈ near, SentenceBreak.ofChar d ≠ .attached)
    (base : SentenceBreak.ofChar c ≠ .attached)
    (uncut : ∀ earlier later,
      cutBetween ((near.map SentenceBreak.ofChar).reverse ++ earlier)
        (SentenceBreak.ofChar c :: later) = false)
    (lead rest : List Char) :
    ¬ IsCut (segments (lead ++ near ++ c :: rest)) (lead ++ near) (c :: rest) := by
  intro cut
  obtain ⟨later, seen⟩ := kinds_cons_of_base base rest
  have answer := ((isCut_segments_iff (by simp [nonempty]) (by simp)).1 cut).2
  rw [kinds_append_of_bases lead bases, seen, List.reverse_append, uncut] at answer
  cases answer

/-- It is enough to look at all neighbours, with the characters of the text before them. -/
theorem isUnbroken_of_uncut {text : List Char}
    (bases : ∀ c ∈ text, SentenceBreak.ofChar c ≠ .attached)
    (uncut : ∀ front a b back, text = front ++ a :: b :: back → ∀ earlier later,
      cutBetween (SentenceBreak.ofChar a :: ((front.map SentenceBreak.ofChar).reverse ++ earlier))
        (SentenceBreak.ofChar b :: later) = false) :
    IsUnbroken text := by
  intro front back split before after lead rest
  obtain ⟨fewer, a, rfl⟩ := exists_concat before
  obtain ⟨b, others, rfl⟩ := List.exists_cons_of_ne_nil after
  have frontBases : ∀ c ∈ fewer ++ [a], SentenceBreak.ofChar c ≠ .attached := by
    intro c member
    exact bases c (by rw [split]; exact List.mem_append_left _ member)
  have base : SentenceBreak.ofChar b ≠ .attached := bases b (by simp [split])
  refine not_isCut_of_uncut before frontBases base ?_ lead (others ++ rest)
  intro earlier later
  rw [List.map_append, List.reverse_append]
  rw [List.append_assoc] at split
  exact uncut fewer a b others split earlier later

theorem isUnbroken_singleton (c : Char) : IsUnbroken [c] := by
  intro front back whole before after
  have sizes : 1 = front.length + back.length := by
    rw [← List.length_append, ← whole, List.length_singleton]
  have first := List.length_pos_iff.2 before
  have second := List.length_pos_iff.2 after
  omega

/-- It is enough that no two neighbours are ever cut apart. -/
theorem isUnbroken_of_isChain {text : List Char}
    (bases : ∀ c ∈ text, SentenceBreak.ofChar c ≠ .attached)
    (chain : text.IsChain fun a b => ∀ earlier later,
      cutBetween (SentenceBreak.ofChar a :: earlier) (SentenceBreak.ofChar b :: later) = false) :
    IsUnbroken text := by
  refine isUnbroken_of_uncut bases ?_
  rintro front a b back rfl earlier later
  exact (List.isChain_cons_cons.1 (List.IsChain.right_of_append chain)).1 _ _

/-! ## 2. Cuts around an unbroken text -/

namespace IsUnbroken

variable {text lead rest : List Char}

/-- Every cut is before the text or behind it, in byte positions. -/
theorem le_or_le_of_isCut (unbroken : IsUnbroken text) {front back : List Char}
    (cut : IsCut (segments (lead ++ text ++ rest)) front back) :
    byteLength front ≤ byteLength lead ∨ byteLength (lead ++ text) ≤ byteLength front := by
  have whole := cut.flatten_eq
  rw [flatten_segments] at whole
  by_contra inside
  rw [not_or, Nat.not_le, Nat.not_le] at inside
  obtain ⟨behind, before⟩ := inside
  obtain ⟨tail, upTo, rfl⟩ := front_append_of_le whole.symm (Nat.le_of_lt before)
  obtain ⟨middle, rfl, split⟩ := front_append_of_le upTo (Nat.le_of_lt behind)
  rw [upTo, List.append_assoc] at cut
  refine unbroken middle tail split ?_ ?_ lead rest cut
  · rintro rfl
    rw [List.append_nil] at behind
    exact Nat.lt_irrefl _ behind
  · rintro rfl
    rw [upTo, List.append_nil] at before
    exact Nat.lt_irrefl _ before

/-! ## 3. Segments around an unbroken text -/

variable {front back : List (List Char)} {segment : List Char}

/-- The segment that ends with the text starts before it. -/
theorem exists_lead (unbroken : IsUnbroken text)
    (split : segments (lead ++ text ++ rest) = front ++ segment :: back)
    (ends : front.flatten ++ segment = lead ++ text) :
    ∃ middle, lead = front.flatten ++ middle ∧ segment = middle ++ text := by
  have filled : segment ≠ [] := by
    rintro rfl
    exact nil_notMem_segments _ (split ▸ List.mem_append_right front List.mem_cons_self)
  have size : 0 < byteLength segment := byteLength_pos filled
  -- The segment also starts at a cut, or at the start of the text.
  have starting : IsCut (segments (lead ++ text ++ rest)) front.flatten (segment :: back).flatten :=
    ⟨front, segment :: back, split, rfl, rfl⟩
  have early : byteLength front.flatten ≤ byteLength lead := by
    apply (unbroken.le_or_le_of_isCut starting).resolve_right
    rw [← ends, byteLength_append]
    omega
  exact front_append_of_le ends early

/-- The segment that starts with the text ends behind it. -/
theorem exists_rest (unbroken : IsUnbroken text)
    (split : segments (lead ++ text ++ rest) = front ++ segment :: back)
    (starts : front.flatten = lead) : ∃ more, segment = text ++ more := by
  have filled : segment ≠ [] := by
    rintro rfl
    exact nil_notMem_segments _ (split ▸ List.mem_append_right front List.mem_cons_self)
  have size : 0 < byteLength segment := byteLength_pos filled
  have ending : IsCut (segments (lead ++ text ++ rest)) (lead ++ segment) back.flatten := by
    refine ⟨front ++ [segment], back, ?_, ?_, rfl⟩
    · rw [split, List.append_assoc, List.singleton_append]
    · rw [List.flatten_append, starts, List.flatten_singleton]
  have late : byteLength (lead ++ text) ≤ byteLength (lead ++ segment) := by
    apply (unbroken.le_or_le_of_isCut ending).resolve_left
    rw [byteLength_append]
    omega
  have whole := ending.flatten_eq
  rw [flatten_segments] at whole
  obtain ⟨more, longer, _⟩ := front_append_of_le whole late
  rw [List.append_assoc] at longer
  exact ⟨more, List.append_cancel_left longer⟩

end IsUnbroken

/-! ## 4. Ends of sentences at a place -/

theorem IsCut.exists_neighbours {α : Type} {pieces : List (List α)} {front back : List α}
    (cut : IsCut pieces front back) (before : front ≠ []) (after : back ≠ []) :
    ∃ left piece next right, pieces = left ++ piece :: next :: right ∧
      left.flatten ++ piece = front ∧ (next :: right).flatten = back := by
  obtain ⟨left, right, rfl, rfl, rfl⟩ := cut
  have leftFilled : left ≠ [] := by
    rintro rfl
    exact before rfl
  have rightFilled : right ≠ [] := by
    rintro rfl
    exact after rfl
  obtain ⟨earlier, piece, rfl⟩ := exists_concat leftFilled
  obtain ⟨next, later, rfl⟩ := List.exists_cons_of_ne_nil rightFilled
  exact ⟨earlier, piece, next, later, by simp, by simp, rfl⟩

/-- A sentence ends inside a text where two neighbouring segments meet and neither of them gives a
reason to join them. -/
theorem stopsBetween_iff {front back : List Char} (after : back ≠ []) :
    StopsBetween front back ↔
      ∃ left segment next right, segments (front ++ back) = left ++ segment :: next :: right ∧
        left.flatten ++ segment = front ∧ (next :: right).flatten = back ∧
        suppressesBreak segment next = false := by
  rw [StopsBetween, sentenceRanges_eq, sentences, stop_layOut_sentencesOf_iff]
  constructor
  · rintro (⟨_, whole⟩ | ⟨left, segment, next, right, split, kept, stop⟩)
    · -- The end of the text lies behind the back.
      have size : 0 < byteLength back := byteLength_pos after
      rw [flatten_segments, byteLength_append] at whole
      omega
    · have flat : front ++ back = left.flatten ++ segment ++ (next :: right).flatten := by
        rw [← flatten_segments (front ++ back), split]
        simp
      obtain ⟨rfl, rfl⟩ := front_eq_of_byteLength_eq flat stop
      exact ⟨left, segment, next, right, split, rfl, rfl, kept⟩
  · rintro ⟨left, segment, next, right, split, rfl, _, kept⟩
    exact .inr ⟨left, segment, next, right, split, kept, rfl⟩

/-- Sentences end only where the rules cut: abbreviations remove cuts and add none. -/
theorem StopsBetween.isCut {front back : List Char} (stops : StopsBetween front back)
    (after : back ≠ []) : IsCut (segments (front ++ back)) front back := by
  obtain ⟨left, segment, next, right, split, rfl, rfl, _⟩ := (stopsBetween_iff after).1 stops
  refine ⟨left ++ [segment], next :: right, ?_, ?_, rfl⟩
  · rw [split, List.append_assoc, List.singleton_append]
  · rw [List.flatten_append, List.flatten_singleton]

end SentenceSpans
