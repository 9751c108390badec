import SentenceSpans.Proofs.Sentence.Cuts
import SentenceSpans.Sentence.Detector

/-!
# Sentences coarsen the raw segments

The walk that puts sentences together holds three things: where the open sentence starts, where it
ends, and the raw segment read last.  It judges the next segment by the last one only, so it removes
a cut for a reason that both sides of the cut give, however long the open sentence has grown.

Results:
1. `eq_placeFrom`: the segments of a faithful segmenter are texts placed one after another.
2. `join?_placeFrom`: the walk never meets a segment at a wrong place, and finds the groups that
   splitting at the kept cuts gives.
3. `stop_layOut_sentencesOf_iff`: a sentence ends at the end of the text and at each kept cut.
4. `sentenceRangesBy_coarsens`: all of this for the ranges of a text, which cover it.
-/

namespace SentenceSpans

/-! ## 1. Placed segments -/

/-- Segments that each stand where those before it end are their texts, placed. -/
theorem eq_placeFrom {start : Nat} {raw : List RawSegment}
    (placed : ∀ front segment back, raw = front ++ segment :: back →
      segment.start = start + byteLength (front.flatMap (·.text))) :
    raw = placeFrom start [] (raw.map (·.text)) := by
  induction raw generalizing start with
  | nil => rfl
  | cons first rest ih =>
      have here : first.start = start := placed [] first rest rfl
      have later : rest = placeFrom (start + byteLength first.text) [] (rest.map (·.text)) := by
        apply ih
        intro front segment back split
        have stands := placed (first :: front) segment back (by rw [split]; rfl)
        rw [stands, List.flatMap_cons, byteLength_append, Nat.add_assoc]
      rw [List.map_cons, placeFrom_cons, ← later, ← here]

/-! ## 2. The walk -/

/-- An open sentence stands for a group of segments that no kept cut divides. -/
structure OpenSentence.StandsFor (sentence : OpenSentence) (group : List (List Char)) : Prop where
  reaches : sentence.stop = sentence.start + byteLength group.flatten
  last : group.getLast? = some sentence.last
  joined : group.IsChain fun segment next => suppressesBreak segment next = true

namespace OpenSentence.StandsFor

variable {sentence : OpenSentence} {group : List (List Char)} {text : List Char}

/-- A segment alone is a group. -/
theorem begin (segment : RawSegment) : (OpenSentence.begin segment).StandsFor [segment.text] where
  reaches := by
    rw [List.flatten_singleton]
    rfl
  last := rfl
  joined := List.isChain_singleton segment.text

/-- A false cut makes the group longer by the segment behind it. -/
theorem extend (stands : sentence.StandsFor group)
    (suppressed : suppressesBreak sentence.last text = true) :
    (sentence.extend ⟨sentence.stop, text⟩).StandsFor (group ++ [text]) where
  reaches := by
    rw [List.flatten_append, List.flatten_singleton, byteLength_append, ← Nat.add_assoc,
      OpenSentence.extend, ← stands.reaches]
    rfl
  last := List.getLast?_concat
  joined := by
    refine List.isChain_append.2 ⟨stands.joined, List.isChain_singleton text, ?_⟩
    intro segment found next same
    rw [stands.last] at found
    cases found
    cases same
    exact suppressed

theorem splitBy_eq (stands : sentence.StandsFor group) :
    group.splitBy suppressesBreak = [group] := by
  apply List.splitBy_of_isChain _ stands.joined
  rintro rfl
  cases stands.last

/-- A kept cut ends the group. -/
theorem splitBy_append (stands : sentence.StandsFor group)
    (kept : suppressesBreak sentence.last text = false) (rest : List (List Char)) :
    (group ++ text :: rest).splitBy suppressesBreak =
      group :: (text :: rest).splitBy suppressesBreak := by
  rw [List.splitBy_append_cons rest _, stands.splitBy_eq, List.singleton_append]
  intro segment found
  rw [stands.last] at found
  cases found
  exact kept

end OpenSentence.StandsFor

/-- The walk answers with the groups of the open sentence and all that follows. -/
theorem joinFrom_placeFrom {sentence : OpenSentence} {group : List (List Char)}
    (stands : sentence.StandsFor group) (done : Joining) (texts : List (List Char)) :
    ∃ joining, joinFrom sentence done (placeFrom sentence.stop [] texts) = some joining ∧
      joining.ranges.reverse = done.ranges.reverse ++ layFrom sentence.start []
        (((group ++ texts).splitBy suppressesBreak).map fun group => byteLength group.flatten) := by
  induction texts generalizing sentence done group with
  | nil =>
      refine ⟨_, rfl, ?_⟩
      rw [List.append_nil, stands.splitBy_eq, List.map_singleton, layFrom_cons, ← stands.reaches,
        Joining.close, List.reverse_cons]
      rfl
  | cons text rest ih =>
      rw [placeFrom_cons, joinFrom]
      cases suppressed : suppressesBreak sentence.last text with
      | true =>
          -- The segment stands where the sentence ends, so the check of its place succeeds.
          obtain ⟨joining, found, ranges⟩ := ih (stands.extend suppressed) (done.remove sentence)
          refine ⟨joining, ?_, ?_⟩
          · rw [if_pos rfl, if_pos rfl]
            exact found
          · rw [ranges, List.append_assoc]
            rfl
      | false =>
          -- The group is complete: its range comes before those of the groups after it.
          obtain ⟨joining, found, ranges⟩ := ih (.begin ⟨sentence.stop, text⟩) (done.close sentence)
          refine ⟨joining, found, ?_⟩
          rw [ranges, stands.splitBy_append suppressed, List.map_cons, layFrom_cons,
            ← stands.reaches, Joining.close, List.reverse_cons, List.append_assoc]
          rfl

theorem join?_placeFrom (texts : List (List Char)) :
    ∃ joining, join? (placeFrom 0 [] texts) = some joining ∧
      joining.ranges = layOut (sentencesOf texts) := by
  cases texts with
  | nil => exact ⟨_, rfl, rfl⟩
  | cons text rest =>
      obtain ⟨joining, found, ranges⟩ := joinFrom_placeFrom (.begin ⟨0, text⟩) .start rest
      refine ⟨joining.inOrder, ?_, ?_⟩
      · rw [placeFrom_cons, join?]
        exact congrArg (Option.map Joining.inOrder) found
      · rw [layOut, sentencesOf, List.map_map]
        exact ranges

/-- The walk over the segments of a faithful segmenter finds its sentences. -/
theorem join?_segmenter {segmenter : Segmenter} (faithful : segmenter.IsFaithful)
    (text : List Char) :
    ∃ joining, join? (segmenter text) = some joining ∧
      joining.ranges = layOut (sentencesOf ((segmenter text).map (·.text))) := by
  have placed := eq_placeFrom (by
    intro front segment back split
    rw [(faithful text).placed front segment back split, Nat.zero_add])
  rw [placed, map_text_placeFrom]
  exact join?_placeFrom _

theorem sentenceRangesBy_eq {segmenter : Segmenter} (faithful : segmenter.IsFaithful)
    (text : List Char) :
    sentenceRangesBy segmenter text = layOut (sentencesOf ((segmenter text).map (·.text))) := by
  obtain ⟨joining, found, ranges⟩ := join?_segmenter faithful text
  rw [sentenceRangesBy, found, ← ranges]

/-- The ranges of a text are those of its sentences. -/
theorem sentenceRanges_eq (text : List Char) : sentenceRanges text = layOut (sentences text) := by
  rw [sentenceRanges, sentenceRangesBy_eq Segmenter.unicode_isFaithful, Segmenter.unicode,
    map_text_placeFrom, sentences]

/-! ## 3. Ends of sentences -/

theorem stop_layOut_sentencesOf_iff_isCut {texts : List (List Char)} {position : Nat} :
    (∃ range ∈ layOut (sentencesOf texts), range.stop = position) ↔
      ∃ front back, IsCut (texts.splitBy suppressesBreak) front back ∧ front ≠ [] ∧
        position = byteLength front.flatten := by
  rw [stop_layOut_iff]
  constructor
  · rintro ⟨left, right, split, filled, rfl⟩
    obtain ⟨first, second, groups, rfl, rfl⟩ := List.map_eq_append_iff.1 split
    refine ⟨first.flatten, second.flatten, ⟨first, second, groups, rfl, rfl⟩, ?_, ?_⟩
    · obtain ⟨group, others, rfl⟩ : ∃ group others, first = group :: others :=
        List.exists_cons_of_ne_nil fun none => filled (by rw [none]; rfl)
      have present : group ∈ texts.splitBy suppressesBreak := by simp [groups]
      intro empty
      exact List.ne_nil_of_mem_splitBy present (List.append_eq_nil_iff.1 empty).1
    · rw [List.flatten_flatten]
  · rintro ⟨_, _, ⟨left, right, groups, rfl, rfl⟩, filled, rfl⟩
    refine ⟨left.map List.flatten, right.map List.flatten, ?_, ?_, ?_⟩
    · rw [sentencesOf, groups, List.map_append]
    · rw [Ne, List.map_eq_nil_iff]
      rintro rfl
      exact filled rfl
    · rw [List.flatten_flatten]

theorem stop_layOut_sentencesOf_iff {texts : List (List Char)} {position : Nat} :
    (∃ range ∈ layOut (sentencesOf texts), range.stop = position) ↔
      (texts ≠ [] ∧ position = byteLength texts.flatten) ∨
        ∃ front segment next back, texts = front ++ segment :: next :: back ∧
          suppressesBreak segment next = false ∧
          position = byteLength (front.flatten ++ segment) := by
  rw [stop_layOut_sentencesOf_iff_isCut]
  constructor
  · rintro ⟨front, back, cut, filled, rfl⟩
    have whole := cut.flatten_eq
    rw [List.flatten_splitBy] at whole
    subst whole
    -- A cut with nothing behind it is the end of the text, any other one is between two segments.
    cases back with
    | nil =>
        rw [List.append_nil]
        exact .inl ⟨filled, rfl⟩
    | cons next later =>
        obtain ⟨earlier, segment, rfl⟩ := exists_concat filled
        rw [List.append_assoc] at cut
        refine .inr ⟨earlier, segment, next, later, List.append_assoc .., ?_, by simp⟩
        exact (isCut_splitBy_iff suppressesBreak earlier segment next later).1 cut
  · rintro (⟨filled, rfl⟩ | ⟨front, segment, next, back, rfl, kept, rfl⟩)
    · refine ⟨texts, [], ⟨texts.splitBy suppressesBreak, [], ?_, ?_, rfl⟩, filled, rfl⟩
      · rw [List.append_nil]
      · exact List.flatten_splitBy suppressesBreak texts
    · have cut := (isCut_splitBy_iff suppressesBreak front segment next back).2 kept
      exact ⟨front ++ [segment], next :: back, cut, by simp, by simp⟩

/-! ## 4. The ranges of a text -/

theorem flatten_sentencesOf (texts : List (List Char)) :
    (sentencesOf texts).flatten = texts.flatten := by
  rw [sentencesOf, ← List.flatten_flatten, List.flatten_splitBy]

theorem nil_notMem_sentencesOf {texts : List (List Char)} (filled : [] ∉ texts) :
    [] ∉ sentencesOf texts := by
  intro member
  obtain ⟨group, present, empty⟩ := List.mem_map.1 member
  obtain ⟨text, others, rfl⟩ := List.exists_cons_of_ne_nil (List.ne_nil_of_mem_splitBy present)
  apply filled
  rw [← (List.append_eq_nil_iff.1 empty).1, ← List.flatten_splitBy suppressesBreak texts]
  exact List.mem_flatten_of_mem present List.mem_cons_self

theorem covers_sentenceRangesBy {segmenter : Segmenter} (faithful : segmenter.IsFaithful)
    (text : List Char) : Covers text (sentenceRangesBy segmenter text) := by
  have filled : [] ∉ (segmenter text).map (·.text) := by
    intro member
    obtain ⟨segment, present, empty⟩ := List.mem_map.1 member
    exact (faithful text).nonempty segment present empty
  have covers := covers_layOut (nil_notMem_sentencesOf filled)
  rwa [← sentenceRangesBy_eq faithful, flatten_sentencesOf, ← List.flatMap_def,
    (faithful text).whole] at covers

theorem BoundaryProvider.english_isLawful : BoundaryProvider.english.IsLawful :=
  covers_sentenceRangesBy Segmenter.unicode_isFaithful

theorem IsSegmentation.nil_iff {text : List Char} {raw : List RawSegment}
    (made : IsSegmentation text raw) : raw = [] ↔ text = [] := by
  constructor
  · rintro rfl
    exact made.whole.symm
  · rintro rfl
    cases raw with
    | nil => rfl
    | cons segment rest =>
        have empty := (List.append_eq_nil_iff.1 made.whole).1
        exact absurd empty (made.nonempty segment List.mem_cons_self)

/-- A segment ends where the next one starts: behind the text of both it and those before it. -/
theorem IsSegmentation.meets {text : List Char} {raw front back : List RawSegment}
    {segment next : RawSegment} (made : IsSegmentation text raw)
    (split : raw = front ++ segment :: next :: back) :
    byteLength ((front.map (·.text)).flatten ++ segment.text) = segment.stop ∧
      segment.stop = next.start := by
  have here := made.placed front segment (next :: back) split
  have there := made.placed (front ++ [segment]) next back (by rw [split]; simp)
  rw [List.flatMap_append, List.flatMap_singleton, byteLength_append, ← here] at there
  rw [← List.flatMap_def, byteLength_append, ← here]
  exact ⟨rfl, there.symm⟩

theorem stop_sentenceRangesBy_iff {segmenter : Segmenter} (faithful : segmenter.IsFaithful)
    (text : List Char) (position : Nat) :
    (∃ range ∈ sentenceRangesBy segmenter text, range.stop = position) ↔
      (text ≠ [] ∧ position = byteLength text) ∨
        ∃ front segment next back, segmenter text = front ++ segment :: next :: back ∧
          suppressesBreak segment.text next.text = false ∧
          position = segment.stop ∧ position = next.start := by
  have made := faithful text
  rw [sentenceRangesBy_eq faithful, stop_layOut_sentencesOf_iff, ← List.flatMap_def, made.whole,
    Ne, List.map_eq_nil_iff, made.nil_iff]
  refine or_congr_right ⟨?_, ?_⟩
  · rintro ⟨_, _, _, _, texts, kept, rfl⟩
    obtain ⟨front, others, split, rfl, tail⟩ := List.map_eq_append_iff.1 texts
    obtain ⟨segment, rest, rfl, rfl, others⟩ := List.map_eq_cons_iff.1 tail
    obtain ⟨next, back, rfl, rfl, _⟩ := List.map_eq_cons_iff.1 others
    obtain ⟨stop, start⟩ := made.meets split
    exact ⟨front, segment, next, back, split, kept, stop, stop.trans start⟩
  · rintro ⟨front, segment, next, back, split, kept, rfl, _⟩
    refine ⟨front.map (·.text), segment.text, next.text, back.map (·.text), ?_, kept, ?_⟩
    · rw [split, List.map_append]
      rfl
    · rw [(made.meets split).1]

/-- The walk has an answer for every text.  Its ranges end at the end of the text and at the cuts
that neither of the two raw segments around them gives a reason to remove, and nowhere else; so
they cover the text. -/
theorem sentenceRangesBy_coarsens {segmenter : Segmenter} (faithful : segmenter.IsFaithful)
    (text : List Char) :
    (∃ joining, join? (segmenter text) = some joining ∧
        sentenceRangesBy segmenter text = joining.ranges) ∧
      (∀ position, (∃ range ∈ sentenceRangesBy segmenter text, range.stop = position) ↔
        (text ≠ [] ∧ position = byteLength text) ∨
          ∃ front segment next back, segmenter text = front ++ segment :: next :: back ∧
            suppressesBreak segment.text next.text = false ∧
            position = segment.stop ∧ position = next.start) ∧
      Covers text (sentenceRangesBy segmenter text) := by
  obtain ⟨joining, found, ranges⟩ := join?_segmenter faithful text
  refine ⟨⟨joining, found, ?_⟩, stop_sentenceRangesBy_iff faithful text,
    covers_sentenceRangesBy faithful text⟩
  rw [sentenceRangesBy_eq faithful, ranges]

/-- Three false cuts in a row, then one that is kept. -/
theorem sentenceRangesBy_coarsens_initials :
    Segmenter.unicode.IsFaithful ∧
      (Segmenter.unicode "Ask Dr. J. R. Doe. Fine.".toList).map (·.start) = [0, 8, 11, 14, 19] ∧
      sentenceRangesBy .unicode "Ask Dr. J. R. Doe. Fine.".toList = [⟨0, 19⟩, ⟨19, 24⟩] ∧
      (∀ position,
        (∃ range ∈ sentenceRangesBy .unicode "Ask Dr. J. R. Doe. Fine.".toList,
          range.stop = position) ↔
        ("Ask Dr. J. R. Doe. Fine.".toList ≠ [] ∧
            position = byteLength "Ask Dr. J. R. Doe. Fine.".toList) ∨
          ∃ front segment next back,
            Segmenter.unicode "Ask Dr. J. R. Doe. Fine.".toList =
              front ++ segment :: next :: back ∧
            suppressesBreak segment.text next.text = false ∧
            position = segment.stop ∧ position = next.start) :=
  ⟨Segmenter.unicode_isFaithful, by decide +kernel, by decide +kernel,
    (sentenceRangesBy_coarsens Segmenter.unicode_isFaithful
      "Ask Dr. J. R. Doe. Fine.".toList).2.1⟩

end SentenceSpans
