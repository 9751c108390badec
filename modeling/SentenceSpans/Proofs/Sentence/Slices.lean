import Mathlib.Data.List.TakeWhile
import SentenceSpans.Proofs.Sentence.Boundaries

/-!
# Segmenting a part of a text again

The rules look at what stands before a place and at what stands behind it, in both directions
without a bound.  But they do not look past a cut: an end mark that the rules remember is behind the
cut before it, and a small letter that they look out for is before the cut that follows.  So a run
of raw segments, taken for a text of its own, is cut as before.  Whether two neighbours are one
sentence depends on these two alone, and so the same is true of a run of sentences.

Results:
1. `cutBetween_behind_cut` and `cutBetween_before_cut`: the rules do not look past a cut.
2. `unattached_of_unattached`: nor is a character attached across one.
3. `segments_of_run`: neighbouring segments of a text are the segments of their own text.
4. `sentenceRanges_slice`: neighbouring sentences are the sentences of their own text.
-/

namespace SentenceSpans

open Unicode

/-! ## Definitions -/

def textBetween (text : List Char) (range : ByteRange) : List Char :=
  (textBefore text range.stop).drop (textBefore text range.start).length

/-- A range, counted from a later byte position. -/
def ByteRange.countedFrom (position : Nat) (range : ByteRange) : ByteRange :=
  ⟨range.start - position, range.stop - position⟩

/-- No character of the back is attached to the front. -/
def Unattached (front back : List Char) : Prop :=
  clusters (front ++ back) = clusters front ++ clusters back

/-! ## 1. Rules -/

/-- The rules in their order. -/
theorem cutBetween_cons_cons (previous next : SentenceBreak) (earlier later : List SentenceBreak) :
    cutBetween (previous :: earlier) (next :: later) =
      if previous = .cr ∧ next = .lf then false
      else if previous.isParagraphEnd then true
      else if previous = .aTerm ∧ next = .numeric then false
      else if previous = .aTerm ∧ next = .upper ∧
          (earlier.head? = some .upper ∨ earlier.head? = some .lower) then false
      else if neverStarts previous next then false
      else
        match endMark? (previous :: earlier) with
        | none => false
        | some mark => !(mark = .aTerm && goesOnInLowerCase (next :: later)) :=
  rfl

/-- A cut is behind a paragraph end, or an end mark comes before it. -/
theorem of_cutBetween {previous next : SentenceBreak} {earlier later : List SentenceBreak}
    (cut : cutBetween (previous :: earlier) (next :: later) = true) :
    previous.isParagraphEnd = true ∨
      neverStarts previous next = false ∧ ∃ mark, endMark? (previous :: earlier) = some mark := by
  rw [cutBetween_cons_cons] at cut
  split at cut
  · cases cut
  split at cut
  · next ends => exact .inl ends
  split at cut
  · cases cut
  split at cut
  · cases cut
  split at cut
  · cases cut
  · next starts =>
      refine .inr ⟨Bool.eq_false_iff.2 starts, ?_⟩
      cases found : endMark? (previous :: earlier) with
      | none =>
          rw [found] at cut
          cases cut
      | some mark => exact ⟨mark, rfl⟩

/-- No end mark is found where something else stands nearest. -/
theorem endMark?_cons_eq_none {kind : SentenceBreak} (blank : kind ≠ .sp) (closing : kind ≠ .close)
    (ends : kind.isSentenceEnd = false) (earlier : List SentenceBreak) :
    endMark? (kind :: earlier) = none := by
  simp [endMark?, blank, closing, ends]

/-- The end mark before a place is among the nearest classes, unless these are closing marks and
then blanks only. -/
theorem endMark?_append_cases (next : SentenceBreak) (more outer : List SentenceBreak) :
    (endMark? ((next :: more).reverse ++ outer) = endMark? (next :: more).reverse ∧
        ∀ mark, endMark? (next :: more).reverse = some mark → mark ∈ next :: more) ∨
      (endMark? (next :: more).reverse = none ∧
        (next = .sp ∧ endMark? ((next :: more).reverse ++ outer) = endMark? outer ∨
          next = .close ∧ ∀ kind earlier, outer = kind :: earlier → kind ≠ .close →
            kind.isSentenceEnd = false → endMark? ((next :: more).reverse ++ outer) = none)) := by
  have farthest : (next :: more).reverse.getLast? = some next := by simp
  have member : ∀ kind ∈ (next :: more).reverse, kind ∈ next :: more := fun _ => List.mem_reverse.1
  generalize (next :: more).reverse = near at farthest member
  unfold endMark?
  rw [List.dropWhile_append]
  cases blanks : near.dropWhile (· = .sp) with
  | nil =>
      have blank := List.dropWhile_eq_nil_iff.1 blanks next (List.mem_of_getLast? farthest)
      exact .inr ⟨rfl, .inl ⟨of_decide_eq_true blank, rfl⟩⟩
  | cons kind rest =>
      rw [← List.takeWhile_append_dropWhile (p := (· = .sp)) (l := near), blanks] at farthest member
      rw [List.getLast?_append_of_ne_nil _ (List.cons_ne_nil kind rest)] at farthest
      rw [List.isEmpty_cons, if_neg (by decide), List.dropWhile_append]
      cases closing : (kind :: rest).dropWhile (· = .close) with
      | nil =>
          have closes := List.dropWhile_eq_nil_iff.1 closing next (List.mem_of_getLast? farthest)
          refine .inr ⟨rfl, .inr ⟨of_decide_eq_true closes, ?_⟩⟩
          rintro first earlier rfl other ends
          simp [other, ends]
      | cons first others =>
          refine .inl ⟨rfl, ?_⟩
          intro mark found
          have inside : first ∈ (kind :: rest).dropWhile (· = .close) := by simp [closing]
          have present := member first (List.mem_append_right _
            ((List.dropWhile_suffix _).subset inside))
          simp only at found
          split at found
          · cases found
            exact present
          · cases found

/-- A paragraph end is no mark that the rules look past, and ends no sentence by itself. -/
theorem parts_of_paragraphEnd {kind : SentenceBreak} (ends : kind.isParagraphEnd = true) :
    kind ≠ .sp ∧ kind ≠ .close ∧ kind.isSentenceEnd = false := by
  revert ends
  cases kind <;> decide

/-- Behind a cut, the end mark before a place is looked for no farther than the cut. -/
theorem endMark?_behind_cut {outer more later : List SentenceBreak} {next : SentenceBreak}
    (cut : cutBetween outer (next :: later) = true) :
    endMark? ((next :: more).reverse ++ outer) = endMark? (next :: more).reverse := by
  cases outer with
  | nil => cases cut
  | cons previous earlier =>
      have bounds := of_cutBetween cut
      rcases endMark?_append_cases next more (previous :: earlier) with
        ⟨same, _⟩ | ⟨unmarked, ⟨rfl, reached⟩ | ⟨rfl, reached⟩⟩
      · exact same
      · -- A blank is cut off from a paragraph end only.
        rw [unmarked, reached]
        rcases bounds with ends | ⟨starts, _⟩
        · obtain ⟨blank, closing, mark⟩ := parts_of_paragraphEnd ends
          exact endMark?_cons_eq_none blank closing mark earlier
        · cases previous <;> cases starts
      · -- A closing mark is cut off from a paragraph end or a blank.
        rw [unmarked]
        rcases bounds with ends | ⟨starts, _⟩
        · obtain ⟨_, closing, mark⟩ := parts_of_paragraphEnd ends
          exact reached previous earlier rfl closing mark
        · have blank : previous = .sp := by
            revert starts
            cases previous <;> decide
          exact reached previous earlier rfl (by rw [blank]; decide) (by rw [blank]; rfl)

/-- What stands before a cut does not matter for the cuts behind it. -/
theorem cutBetween_behind_cut {outer more back : List SentenceBreak} {next : SentenceBreak}
    (cut : cutBetween outer (next :: (more ++ back)) = true) :
    cutBetween ((next :: more).reverse ++ outer) back = cutBetween (next :: more).reverse back := by
  have mark : endMark? ((next :: more).reverse ++ outer) = endMark? (next :: more).reverse :=
    endMark?_behind_cut cut
  have farthest : (next :: more).reverse.getLast? = some next := by simp
  obtain ⟨previous, earlier, near⟩ := List.exists_cons_of_ne_nil
    (List.reverse_ne_nil_iff.2 (List.cons_ne_nil next more))
  rw [near] at mark farthest ⊢
  cases back with
  | nil => rfl
  | cons follower later =>
      -- Only the rule for a letter with a full stop could look at one more class before the cut.
      have letter :
          (previous = .aTerm ∧ follower = .upper ∧
            ((earlier ++ outer).head? = some .upper ∨ (earlier ++ outer).head? = some .lower)) ↔
          (previous = .aTerm ∧ follower = .upper ∧
            (earlier.head? = some .upper ∨ earlier.head? = some .lower)) := by
        cases earlier with
        | cons first rest => rfl
        | nil =>
            cases farthest
            constructor
            · rintro ⟨rfl, _, found⟩
              cases outer with
              | nil => cases cut
              | cons kind others =>
                  have starts : neverStarts kind .aTerm = true := rfl
                  rcases of_cutBetween cut with ends | ⟨free, _⟩
                  · rcases found with found | found <;> cases found <;> cases ends
                  · exact absurd (starts.symm.trans free) (by decide)
            · rintro ⟨_, _, found | found⟩ <;> cases found
      rw [List.cons_append, cutBetween_cons_cons, cutBetween_cons_cons, ← List.cons_append, mark]
      simp only [letter]

theorem isSentenceEnd_of_endMark? {before : List SentenceBreak} {mark : SentenceBreak}
    (found : endMark? before = some mark) : mark.isSentenceEnd = true := by
  unfold endMark? at found
  split at found
  · split at found
    · next ends =>
        cases found
        exact ends
    · cases found
  · cases found

/-- Every end of a sentence or of a paragraph settles the case. -/
theorem settlesCase_of_end {kind : SentenceBreak}
    (ends : kind.isParagraphEnd = true ∨ kind.isSentenceEnd = true) : settlesCase kind = true := by
  revert ends
  cases kind <;> decide

/-- A sentence that goes on in lower case does so before a class that settles the case. -/
theorem goesOnInLowerCase_append {back : List SentenceBreak} (rest : List SentenceBreak)
    {kind : SentenceBreak} (present : kind ∈ back) (settles : settlesCase kind = true) :
    goesOnInLowerCase (back ++ rest) = goesOnInLowerCase back := by
  obtain ⟨first, found⟩ := Option.isSome_iff_exists.1 (List.find?_isSome.2 ⟨kind, present, settles⟩)
  rw [goesOnInLowerCase, goesOnInLowerCase, List.find?_append, found]
  rfl

/-- Where nothing before a cut settles the case, the cut has an end mark. -/
theorem exists_endMark?_of_unsettled {next : SentenceBreak} {more outer rest : List SentenceBreak}
    (unsettled : ¬ ∃ kind ∈ next :: more, settlesCase kind = true)
    (cut : cutBetween ((next :: more).reverse ++ outer) rest = true) :
    ∃ mark, endMark? ((next :: more).reverse ++ outer) = some mark := by
  obtain ⟨last, others, near⟩ := List.exists_cons_of_ne_nil
    (List.reverse_ne_nil_iff.2 (List.cons_ne_nil next more))
  have present : last ∈ next :: more := List.mem_reverse.1 (by rw [near]; exact List.mem_cons_self)
  rw [near] at cut ⊢
  cases rest with
  | nil => cases cut
  | cons follower later =>
      rcases of_cutBetween cut with ends | ⟨_, marked⟩
      · exact absurd ⟨last, present, settlesCase_of_end (.inl ends)⟩ unsettled
      · exact marked

/-- What stands behind a cut does not matter for the cuts before it. -/
theorem cutBetween_before_cut {front more rest : List SentenceBreak} {next : SentenceBreak}
    (cut : cutBetween ((next :: more).reverse ++ front) rest = true) :
    cutBetween front (next :: more ++ rest) = cutBetween front (next :: more) := by
  cases front with
  | nil => rfl
  | cons previous earlier =>
      by_cases settled : ∃ kind ∈ next :: more, settlesCase kind = true
      · obtain ⟨kind, present, settles⟩ := settled
        rw [List.cons_append, cutBetween_cons_cons, cutBetween_cons_cons, ← List.cons_append,
          goesOnInLowerCase_append rest present settles]
      · -- Then the end mark of the cut stands before all these classes, and nothing is cut off it.
        have attached : neverStarts previous next = true := by
          obtain ⟨mark, found⟩ := exists_endMark?_of_unsettled settled cut
          rcases endMark?_append_cases next more (previous :: earlier) with
            ⟨same, inside⟩ | ⟨_, ⟨rfl, _⟩ | ⟨rfl, reached⟩⟩
          · rw [same] at found
            exact absurd ⟨mark, inside mark found,
              settlesCase_of_end (.inr (isSentenceEnd_of_endMark? found))⟩ settled
          · simp [neverStarts]
          · by_cases blank : previous = .sp
            · have none := reached previous earlier rfl (by rw [blank]; decide) (by rw [blank]; rfl)
              rw [none] at found
              cases found
            · simp [neverStarts, blank]
        rw [List.cons_append, cutBetween_cons_cons, cutBetween_cons_cons, attached]
        rfl

/-! ## 2. Clusters -/

/-- Of two places to which nothing is attached, neither matters for the other. -/
theorem unattached_of_unattached {lead front back : List Char} (filled : front ≠ [])
    (first : Unattached lead (front ++ back)) (second : Unattached (lead ++ front) back) :
    Unattached lead front ∧ Unattached front back := by
  have whole : clusters lead ++ clusters (front ++ back) =
      clusters (lead ++ front) ++ clusters back := by
    rw [← first, ← second, List.append_assoc]
  rcases List.append_eq_append_iff.1 whole with ⟨middle, longer, split⟩ | ⟨middle, shorter, _⟩
  · -- The clusters between the two places are those of the text there.
    have spelled := congrArg (List.flatMap Cluster.chars) longer
    rw [List.flatMap_append, chars_clusters, chars_clusters] at spelled
    have alone := clusters_front split
    rw [← List.append_cancel_left spelled] at alone
    exact ⟨by rw [Unattached, longer, alone], by rw [Unattached, split, alone]⟩
  · have spelled := congrArg (List.flatMap Cluster.chars) shorter
    rw [List.flatMap_append, chars_clusters, chars_clusters, List.append_assoc] at spelled
    have none := List.append_right_eq_self.1 spelled.symm
    exact absurd (List.append_eq_nil_iff.1 none).1 filled

/-- A place behind an unattached one, seen with the whole text. -/
theorem unattached_append_of_front {lead front back : List Char}
    (first : Unattached lead (front ++ back)) (second : Unattached front back) :
    Unattached lead front ∧ Unattached (lead ++ front) back := by
  have whole : clusters (lead ++ (front ++ back)) =
      (clusters lead ++ clusters front) ++ clusters back := by
    rw [first, second, List.append_assoc]
  have alone := clusters_front whole
  rw [List.flatMap_append, chars_clusters, chars_clusters] at alone
  exact ⟨alone, by rw [Unattached, List.append_assoc, whole, alone]⟩

/-- A place before an unattached one, seen with the whole text. -/
theorem unattached_append_of_back {front back rest : List Char}
    (first : Unattached (front ++ back) rest) (second : Unattached front back) :
    Unattached back rest ∧ Unattached front (back ++ rest) := by
  have whole : clusters (front ++ (back ++ rest)) =
      clusters front ++ (clusters back ++ clusters rest) := by
    rw [← List.append_assoc, first, second, List.append_assoc]
  have alone := clusters_back whole
  rw [List.flatMap_append, chars_clusters, chars_clusters] at alone
  exact ⟨alone, by rw [Unattached, whole, alone]⟩

theorem Unattached.kinds_append {front back : List Char} (apart : Unattached front back) :
    kinds (front ++ back) = kinds front ++ kinds back := by
  rw [kinds, apart, List.map_append]
  rfl

theorem kinds_ne_nil {text : List Char} (filled : text ≠ []) : kinds text ≠ [] := by
  intro none
  apply filled
  rw [← chars_clusters text, List.map_eq_nil_iff.1 none]
  rfl

/-! ## 3. Raw segments -/

/-- A text without what stands before one of its cuts has its other cuts where they were. -/
theorem isCut_segments_behind_cut {lead front back : List Char} (leadFilled : lead ≠ [])
    (before : front ≠ []) (after : back ≠ [])
    (cut : IsCut (segments (lead ++ (front ++ back))) lead (front ++ back)) :
    IsCut (segments (lead ++ (front ++ back))) (lead ++ front) back ↔
      IsCut (segments (front ++ back)) front back := by
  have filled : front ++ back ≠ [] := by simp [before]
  obtain ⟨first, answer⟩ := (isCut_segments_iff leadFilled filled).1 cut
  have longer : lead ++ front ≠ [] := by simp [before]
  rw [isCut_segments_iff before after, ← List.append_assoc, isCut_segments_iff longer after]
  -- Once the clusters are apart, the two answers are those of one rule on both sides of the cut.
  have rule : Unattached lead front → Unattached front back →
      cutBetween (kinds (lead ++ front)).reverse (kinds back) =
        cutBetween (kinds front).reverse (kinds back) := by
    intro apart inside
    obtain ⟨next, more, seen⟩ := List.exists_cons_of_ne_nil (kinds_ne_nil before)
    rw [inside.kinds_append, seen] at answer
    rw [apart.kinds_append, List.reverse_append, seen]
    exact cutBetween_behind_cut answer
  constructor
  · rintro ⟨second, cuts⟩
    obtain ⟨apart, inside⟩ := unattached_of_unattached before first second
    exact ⟨inside, (rule apart inside).symm.trans cuts⟩
  · rintro ⟨inside, cuts⟩
    obtain ⟨apart, second⟩ := unattached_append_of_front first inside
    exact ⟨second, (rule apart inside).trans cuts⟩

/-- A text without what stands behind one of its cuts has its other cuts where they were. -/
theorem isCut_segments_before_cut {front back rest : List Char} (before : front ≠ [])
    (after : back ≠ []) (restFilled : rest ≠ [])
    (cut : IsCut (segments (front ++ back ++ rest)) (front ++ back) rest) :
    IsCut (segments (front ++ back ++ rest)) front (back ++ rest) ↔
      IsCut (segments (front ++ back)) front back := by
  have filled : front ++ back ≠ [] := by simp [before]
  obtain ⟨first, answer⟩ := (isCut_segments_iff filled restFilled).1 cut
  have longer : back ++ rest ≠ [] := by simp [after]
  rw [isCut_segments_iff before after, List.append_assoc, isCut_segments_iff before longer]
  have rule : Unattached back rest → Unattached front back →
      cutBetween (kinds front).reverse (kinds (back ++ rest)) =
        cutBetween (kinds front).reverse (kinds back) := by
    intro apart inside
    obtain ⟨next, more, seen⟩ := List.exists_cons_of_ne_nil (kinds_ne_nil after)
    rw [inside.kinds_append, List.reverse_append, seen] at answer
    rw [apart.kinds_append, seen]
    exact cutBetween_before_cut answer
  constructor
  · rintro ⟨second, cuts⟩
    obtain ⟨inside, apart⟩ := unattached_of_unattached after second first
    exact ⟨inside, (rule apart inside).symm.trans cuts⟩
  · rintro ⟨inside, cuts⟩
    obtain ⟨apart, second⟩ := unattached_append_of_back first inside
    exact ⟨second, (rule apart inside).trans cuts⟩

/-- The last segments of a text are those of their own text. -/
theorem segments_of_append_left {text : List Char} {left pieces : List (List Char)}
    (split : segments text = left ++ pieces) : segments pieces.flatten = pieces := by
  have whole : left.flatten ++ pieces.flatten = text := by
    rw [← List.flatten_append, ← split, flatten_segments]
  have filled : [] ∉ left ++ pieces := split ▸ nil_notMem_segments text
  rw [List.mem_append, not_or] at filled
  cases left with
  | nil =>
      rw [List.flatten_nil, List.nil_append] at whole
      rw [whole, split, List.nil_append]
  | cons first more =>
      have leadFilled : (first :: more).flatten ≠ [] := by
        intro none
        have empty : first = [] := (List.append_eq_nil_iff.1 none).1
        exact filled.1 (by simp [empty])
      apply eq_of_isCut_iff (nil_notMem_segments _) filled.2 (flatten_segments _)
      intro front back before after same
      rw [flatten_segments] at same
      rw [same] at whole ⊢
      have cut : IsCut (segments ((first :: more).flatten ++ (front ++ back)))
          (first :: more).flatten (front ++ back) :=
        ⟨first :: more, pieces, by rw [whole, split], rfl, same⟩
      rw [← isCut_segments_behind_cut leadFilled before after cut, whole, split]
      exact isCut_append_left_iff before

/-- The first segments of a text are those of their own text. -/
theorem segments_of_append_right {text : List Char} {pieces right : List (List Char)}
    (split : segments text = pieces ++ right) : segments pieces.flatten = pieces := by
  have whole : pieces.flatten ++ right.flatten = text := by
    rw [← List.flatten_append, ← split, flatten_segments]
  have filled : [] ∉ pieces ++ right := split ▸ nil_notMem_segments text
  rw [List.mem_append, not_or] at filled
  cases right with
  | nil =>
      rw [List.flatten_nil, List.append_nil] at whole
      rw [whole, split, List.append_nil]
  | cons first more =>
      have restFilled : (first :: more).flatten ≠ [] := by
        intro none
        have empty : first = [] := (List.append_eq_nil_iff.1 none).1
        exact filled.2 (by simp [empty])
      apply eq_of_isCut_iff (nil_notMem_segments _) filled.1 (flatten_segments _)
      intro front back before after same
      rw [flatten_segments] at same
      rw [same] at whole ⊢
      have cut : IsCut (segments (front ++ back ++ (first :: more).flatten)) (front ++ back)
          (first :: more).flatten :=
        ⟨pieces, first :: more, by rw [whole, split], same, rfl⟩
      rw [← isCut_segments_before_cut before after restFilled cut, whole, split]
      exact isCut_append_right_iff after

/-- Neighbouring segments of a text are the segments of their own text. -/
theorem segments_of_run {text : List Char} {left middle right : List (List Char)}
    (split : segments text = left ++ middle ++ right) : segments middle.flatten = middle :=
  segments_of_append_left (segments_of_append_right split)

/-! ## 4. Sentences -/

/-- Neighbouring sentences of a text are the sentences of their own text. -/
theorem sentences_of_run {text : List Char} {left middle right : List (List Char)}
    (split : sentences text = left ++ middle ++ right) : sentences middle.flatten = middle := by
  obtain ⟨front, third, groups, frontOf, rfl⟩ := List.map_eq_append_iff.1 split
  obtain ⟨first, second, rfl, rfl, rfl⟩ := List.map_eq_append_iff.1 frontOf
  have raw : segments text = first.flatten ++ second.flatten ++ third.flatten := by
    rw [← List.flatten_append, ← List.flatten_append, ← groups, List.flatten_splitBy]
  have alone := segments_of_run raw
  rw [List.flatten_flatten] at alone
  rw [sentences, alone, sentencesOf, splitBy_flatten_of_run groups]

/-- The first ranges of parts are those of the first parts, and the others start behind these. -/
theorem exists_parts_of_layFrom {start : Nat} {parts : List (List Char)}
    {front back : List ByteRange} (laid : layFrom start [] (parts.map byteLength) = front ++ back) :
    ∃ before after, parts = before ++ after ∧
      front = layFrom start [] (before.map byteLength) ∧
      back = layFrom (start + byteLength before.flatten) [] (after.map byteLength) := by
  cases back with
  | nil => exact ⟨parts, [], by simp, by rw [laid, List.append_nil], rfl⟩
  | cons range rest =>
      obtain ⟨before, part, after, rfl, rfl, rfl, rfl⟩ := layFrom_eq_append_cons laid
      exact ⟨before, part :: after, rfl, rfl, by rw [List.map_cons, layFrom_cons]⟩

/-- Ranges counted from their own start are laid out from the start of a text. -/
theorem map_countedFrom_layFrom (start position : Nat) (sizes : List Nat) :
    (layFrom (start + position) [] sizes).map (ByteRange.countedFrom start) =
      layFrom position [] sizes := by
  induction sizes generalizing position with
  | nil => rfl
  | cons size rest ih =>
      rw [layFrom_cons, layFrom_cons, List.map_cons, Nat.add_assoc, ih, ByteRange.countedFrom,
        Nat.add_sub_cancel_left, Nat.add_sub_cancel_left]

/-- Between the ends of a part of a text there is the part. -/
theorem textBetween_append (front middle back : List Char) :
    textBetween (front ++ (middle ++ back))
      ⟨byteLength front, byteLength front + byteLength middle⟩ = middle := by
  rw [textBetween, textBefore_append, ← byteLength_append, ← List.append_assoc, textBefore_append,
    List.drop_left]

/-- The ranges of neighbouring sentences, from the sentences themselves. -/
theorem exists_run_of_ranges {text : List Char} {left ranges right : List ByteRange}
    {first last : ByteRange} (split : sentenceRanges text = left ++ ranges ++ right)
    (starts : ranges.head? = some first) (ends : ranges.getLast? = some last) :
    ∃ front middle back : List (List Char), sentences text = front ++ middle ++ back ∧
      ranges = layFrom first.start [] (middle.map byteLength) ∧
      first.start = byteLength front.flatten ∧
      last.stop = byteLength front.flatten + byteLength middle.flatten := by
  rw [sentenceRanges_eq, layOut, List.append_assoc] at split
  obtain ⟨front, others, whole, _, laid⟩ := exists_parts_of_layFrom split
  obtain ⟨middle, back, rfl, rfl, _⟩ := exists_parts_of_layFrom laid.symm
  rw [Nat.zero_add] at starts ends ⊢
  have filled : middle ≠ [] := by
    rintro rfl
    cases starts
  have start : first.start = byteLength front.flatten := by
    obtain ⟨part, rest, rfl⟩ := List.exists_cons_of_ne_nil filled
    rw [List.map_cons, layFrom_cons] at starts
    cases starts
    rfl
  have stop : last.stop = byteLength front.flatten + byteLength middle.flatten := by
    obtain ⟨rest, part, rfl⟩ := exists_concat filled
    rw [layFrom_append, List.map_singleton, layFrom_cons, layFrom, List.reverse_nil,
      List.getLast?_concat] at ends
    cases ends
    rw [List.flatten_append, List.flatten_singleton, byteLength_append, Nat.add_assoc]
  exact ⟨front, middle, back, by rw [whole, List.append_assoc], by rw [start], start, stop⟩

theorem sentenceRanges_of_run {text : List Char} {left ranges right : List ByteRange}
    {first last : ByteRange} (split : sentenceRanges text = left ++ ranges ++ right)
    (starts : ranges.head? = some first) (ends : ranges.getLast? = some last) :
    sentenceRanges (textBetween text ⟨first.start, last.stop⟩) =
      ranges.map (ByteRange.countedFrom first.start) := by
  obtain ⟨front, middle, back, whole, laid, start, stop⟩ := exists_run_of_ranges split starts ends
  have spelled : text = front.flatten ++ (middle.flatten ++ back.flatten) := by
    rw [← flatten_segments text, ← flatten_sentencesOf, ← sentences, whole]
    simp
  have part : textBetween text ⟨first.start, last.stop⟩ = middle.flatten := by
    rw [start, stop, spelled, textBetween_append]
  rw [part, sentenceRanges_eq, sentences_of_run whole, laid, layOut]
  exact (map_countedFrom_layFrom first.start 0 _).symm

/-- The text of neighbouring sentences, taken alone, has these sentences again, at the same places
counted from its start.  So every sentence, taken alone, is one sentence. -/
theorem sentenceRanges_slice (text : List Char) :
    (∀ left ranges right first last, sentenceRanges text = left ++ ranges ++ right →
        ranges.head? = some first → ranges.getLast? = some last →
        sentenceRanges (textBetween text ⟨first.start, last.stop⟩) =
          ranges.map (ByteRange.countedFrom first.start)) ∧
      ∀ range ∈ sentenceRanges text,
        sentenceRanges (textBetween text range) = [⟨0, range.stop - range.start⟩] := by
  refine ⟨fun _ _ _ _ _ split starts ends => sentenceRanges_of_run split starts ends, ?_⟩
  intro range member
  obtain ⟨left, right, split⟩ := List.append_of_mem member
  have alone : sentenceRanges text = left ++ [range] ++ right := by
    rw [split, List.append_assoc, List.singleton_append]
  have run : sentenceRanges (textBetween text ⟨range.start, range.stop⟩) =
      [range].map (ByteRange.countedFrom range.start) := sentenceRanges_of_run alone rfl rfl
  rwa [List.map_singleton, ByteRange.countedFrom, Nat.sub_self] at run

/-- Two sentences in the middle of a text, with two false cuts, and a closing mark and blanks at the
ends. -/
theorem sentenceRanges_slice_initials :
    sentenceRanges "Go. Ask Dr. J. R. Doe. (Fine?) 3 do.".toList =
        [⟨0, 4⟩] ++ [⟨4, 23⟩, ⟨23, 31⟩] ++ [⟨31, 36⟩] ∧
      textBetween "Go. Ask Dr. J. R. Doe. (Fine?) 3 do.".toList ⟨4, 31⟩ =
        "Ask Dr. J. R. Doe. (Fine?) ".toList ∧
      sentenceRanges (textBetween "Go. Ask Dr. J. R. Doe. (Fine?) 3 do.".toList ⟨4, 31⟩) =
        [⟨0, 19⟩, ⟨19, 27⟩] := by
  have split : sentenceRanges "Go. Ask Dr. J. R. Doe. (Fine?) 3 do.".toList =
      [⟨0, 4⟩] ++ [⟨4, 23⟩, ⟨23, 31⟩] ++ [⟨31, 36⟩] := by
    decide +kernel
  have run := (sentenceRanges_slice "Go. Ask Dr. J. R. Doe. (Fine?) 3 do.".toList).1
    [⟨0, 4⟩] [⟨4, 23⟩, ⟨23, 31⟩] [⟨31, 36⟩] ⟨4, 23⟩ ⟨23, 31⟩ split rfl rfl
  exact ⟨split, by decide +kernel, run⟩

end SentenceSpans
