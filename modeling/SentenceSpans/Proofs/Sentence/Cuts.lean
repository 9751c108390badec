import SentenceSpans.Proofs.Offset.Covers
import SentenceSpans.Sentence.Segments

/-!
# Where the sentence rules cut

The raw segments of a text come out of a chain of lists: characters, clusters, marked clusters,
groups of them.  This file leads from the end of the chain back to its start: whether a text is cut
at a place is what the rules say of the classes of the text in front and of the text behind.

Results:
1. `clusters_front` and `clusters_back`: both halves of a clustered text are clustered as if they
   stood alone.
2. `isCut_segments_iff`: a text is cut at a place exactly when no character is attached across it
   and the rules cut there.
3. `Segmenter.unicode_isFaithful`: raw segments neither lose nor misplace a part of a text.
-/

namespace SentenceSpans

open Unicode

/-! ## 1. Clusters of a part of a text -/

namespace Clustering

theorem ofText_cons (c : Char) (rest : List Char) : ofText (c :: rest) = cons c (ofText rest) := rfl

theorem cons_of_attached {c : Char} (waits : SentenceBreak.ofChar c = .attached)
    (rest : Clustering) : cons c rest = ⟨c :: rest.attached, rest.clusters⟩ :=
  if_pos waits

theorem cons_of_paragraphEnd {c : Char} (ends : (SentenceBreak.ofChar c).isParagraphEnd = true)
    (rest : Clustering) : cons c rest = ⟨[], ⟨SentenceBreak.ofChar c, c, []⟩ :: rest.close⟩ := by
  have base : SentenceBreak.ofChar c ≠ .attached := by
    intro waits
    rw [waits] at ends
    cases ends
  exact (if_neg base).trans (if_pos ends)

theorem cons_of_inside {c : Char} (base : SentenceBreak.ofChar c ≠ .attached)
    (inside : (SentenceBreak.ofChar c).isParagraphEnd ≠ true) (rest : Clustering) :
    cons c rest = ⟨[], ⟨SentenceBreak.ofChar c, c, rest.attached⟩ :: rest.clusters⟩ :=
  (if_neg base).trans (if_neg inside)

/-- A base character starts a cluster. -/
theorem cons_of_base {c : Char} (base : SentenceBreak.ofChar c ≠ .attached) (rest : Clustering) :
    ∃ attached later, cons c rest = ⟨[], ⟨SentenceBreak.ofChar c, c, attached⟩ :: later⟩ := by
  by_cases ends : (SentenceBreak.ofChar c).isParagraphEnd = true
  · exact ⟨_, _, cons_of_paragraphEnd ends rest⟩
  · exact ⟨_, _, cons_of_inside base ends rest⟩

end Clustering

open Clustering

/-- The classes that the rules see in a text. -/
def kinds (text : List Char) : List SentenceBreak := (clusters text).map (·.kind)

theorem clusters_eq (text : List Char) :
    clusters text = Cluster.ofAttached (ofText text).attached ++ (ofText text).clusters :=
  rfl

/-- Clusters that start with waiting characters are those of their own characters, once this is so
for those after the waiting ones. -/
theorem clusters_of_ofAttached {waiting : List Char} {after front back : List Cluster}
    (later : ∀ front back, after = front ++ back →
      ofText (waiting ++ front.flatMap Cluster.chars) = ⟨waiting, front⟩)
    (split : Cluster.ofAttached waiting ++ after = front ++ back) :
    clusters (front.flatMap Cluster.chars) = front := by
  cases waiting with
  | nil =>
      have alone := later front back split
      rw [List.nil_append] at alone
      rw [clusters_eq, alone]
      rfl
  | cons c waiting =>
      cases front with
      | nil => rfl
      | cons first front =>
          obtain ⟨rfl, others⟩ := List.cons.inj split
          have alone := later front back others
          rw [List.flatMap_cons, Cluster.chars, clusters_eq, alone]
          rfl

theorem ofText_front (text : List Char) {front back : List Cluster}
    (split : (ofText text).clusters = front ++ back) :
    ofText ((ofText text).attached ++ front.flatMap Cluster.chars) =
      ⟨(ofText text).attached, front⟩ := by
  induction text generalizing front back with
  | nil =>
      obtain ⟨rfl, rfl⟩ := List.append_eq_nil_iff.1 split.symm
      rfl
  | cons c rest ih =>
      rw [ofText_cons] at split ⊢
      by_cases waits : SentenceBreak.ofChar c = .attached
      · -- The character waits with those that wait already.
        rw [cons_of_attached waits] at split ⊢
        rw [List.cons_append, ofText_cons, ih split, cons_of_attached waits]
      · by_cases ends : (SentenceBreak.ofChar c).isParagraphEnd = true
        · -- Nothing is attached to a paragraph end, so what waits is a cluster of its own.
          rw [cons_of_paragraphEnd ends] at split ⊢
          cases front with
          | nil => rfl
          | cons first front =>
              obtain ⟨rfl, others⟩ := List.cons.inj split
              have alone := clusters_of_ofAttached (fun _ _ => ih) others
              rw [clusters] at alone
              rw [List.nil_append, List.flatMap_cons, Cluster.chars, List.cons_append,
                List.nil_append, ofText_cons, cons_of_paragraphEnd ends, alone]
        · -- What waits is attached to the character.
          rw [cons_of_inside waits ends] at split ⊢
          cases front with
          | nil => rfl
          | cons first front =>
              obtain ⟨rfl, others⟩ := List.cons.inj split
              rw [List.nil_append, List.flatMap_cons, Cluster.chars, List.cons_append,
                ofText_cons, ih others, cons_of_inside waits ends]

/-- The first clusters of a text are those of their own characters. -/
theorem clusters_front {text : List Char} {front back : List Cluster}
    (split : clusters text = front ++ back) : clusters (front.flatMap Cluster.chars) = front :=
  clusters_of_ofAttached (fun _ _ => ofText_front text) split

/-- Every cluster after the first one of a text is a cluster of the text without its first
character. -/
theorem tail_clusters_cons (c : Char) (rest : List Char) :
    (clusters (c :: rest)).tail <:+ clusters rest := by
  rw [clusters_eq, clusters_eq, ofText_cons]
  by_cases waits : SentenceBreak.ofChar c = .attached
  · rw [cons_of_attached waits]
    exact List.suffix_append _ _
  · by_cases ends : (SentenceBreak.ofChar c).isParagraphEnd = true
    · rw [cons_of_paragraphEnd ends]
      exact List.suffix_rfl
    · rw [cons_of_inside waits ends]
      exact List.suffix_append _ _

/-- The last clusters of a text are those of their own characters. -/
theorem clusters_back {text : List Char} {front back : List Cluster}
    (split : clusters text = front ++ back) : clusters (back.flatMap Cluster.chars) = back := by
  induction text generalizing front back with
  | nil =>
      obtain ⟨rfl, rfl⟩ := List.append_eq_nil_iff.1 split.symm
      rfl
  | cons c rest ih =>
      cases front with
      | nil =>
          rw [List.nil_append] at split
          rw [← split, chars_clusters]
      | cons first front =>
          obtain ⟨before, longer⟩ := tail_clusters_cons c rest
          rw [split, List.cons_append, List.tail_cons, ← List.append_assoc] at longer
          exact ih longer.symm

/-- Clusters that are complete stay as they are behind any further text. -/
theorem foldr_cons_append (front : List Char) (later : List Cluster) :
    front.foldr cons ⟨[], later⟩ = ⟨(ofText front).attached, (ofText front).clusters ++ later⟩ := by
  induction front with
  | nil => rfl
  | cons c front ih =>
      rw [List.foldr_cons, ih, ofText_cons]
      by_cases waits : SentenceBreak.ofChar c = .attached
      · rw [cons_of_attached waits, cons_of_attached waits]
      · by_cases ends : (SentenceBreak.ofChar c).isParagraphEnd = true
        · rw [cons_of_paragraphEnd ends, cons_of_paragraphEnd ends, Clustering.close,
            Clustering.close, List.cons_append, List.append_assoc]
        · rw [cons_of_inside waits ends, cons_of_inside waits ends, List.cons_append]

/-- A base character starts a cluster, whatever stands before it. -/
theorem clusters_append_of_base {c : Char} (base : SentenceBreak.ofChar c ≠ .attached)
    (front back : List Char) :
    clusters (front ++ c :: back) = clusters front ++ clusters (c :: back) := by
  obtain ⟨attached, later, first⟩ := cons_of_base base (ofText back)
  have whole : ofText (front ++ c :: back) =
      ⟨(ofText front).attached,
        (ofText front).clusters ++ ⟨SentenceBreak.ofChar c, c, attached⟩ :: later⟩ := by
    rw [← foldr_cons_append, ← first]
    exact List.foldr_append
  rw [clusters_eq, whole, clusters_eq front, clusters_eq (c :: back), ofText_cons, first,
    List.append_assoc]
  rfl

theorem kinds_of_base {c : Char} (base : SentenceBreak.ofChar c ≠ .attached) :
    kinds [c] = [SentenceBreak.ofChar c] := by
  rw [kinds, clusters_eq, ofText_cons]
  by_cases ends : (SentenceBreak.ofChar c).isParagraphEnd = true
  · rw [cons_of_paragraphEnd ends]
    rfl
  · rw [cons_of_inside base ends]
    rfl

/-- Base characters behind a text are seen one by one. -/
theorem kinds_append_of_bases (front : List Char) {bases : List Char}
    (all : ∀ c ∈ bases, SentenceBreak.ofChar c ≠ .attached) :
    kinds (front ++ bases) = kinds front ++ bases.map SentenceBreak.ofChar := by
  induction bases generalizing front with
  | nil => rw [List.append_nil, List.map_nil, List.append_nil]
  | cons c rest ih =>
      have base : SentenceBreak.ofChar c ≠ .attached := all c List.mem_cons_self
      have here : kinds (front ++ [c]) = kinds front ++ [SentenceBreak.ofChar c] := by
        rw [← kinds_of_base base, kinds, kinds, kinds, clusters_append_of_base base,
          List.map_append]
      have later := ih (front ++ [c]) fun d member => all d (List.mem_cons_of_mem c member)
      rw [here, List.append_assoc, List.append_assoc] at later
      exact later

/-- A base character in front of a text is seen first. -/
theorem kinds_cons_of_base {c : Char} (base : SentenceBreak.ofChar c ≠ .attached)
    (rest : List Char) : ∃ later, kinds (c :: rest) = SentenceBreak.ofChar c :: later := by
  obtain ⟨attached, later, first⟩ := cons_of_base base (ofText rest)
  rw [kinds, clusters_eq, ofText_cons, first]
  exact ⟨_, rfl⟩

/-! ## 2. Cuts -/

/-- The clusters of a text, each with the answer whether the text is cut before it. -/
def marked (text : List Char) : List (Cluster × Bool) := (clusters text).zip (cuts (kinds text))

theorem segments_eq (text : List Char) :
    segments text = ((marked text).splitBy fun _ next => !next.2).map fun group =>
      group.flatMap (·.1.chars) :=
  rfl

theorem map_fst_marked (text : List Char) : (marked text).map (·.1) = clusters text := by
  apply List.map_fst_zip
  rw [length_cuts, kinds, List.length_map]

/-- Groups of marked clusters are cut where the rules cut between the classes of their clusters. -/
theorem isCut_marked_iff {text : List Char} {left right : List (Cluster × Bool)}
    (whole : marked text = left ++ right) (before : left ≠ []) (after : right ≠ []) :
    IsCut ((marked text).splitBy fun _ next => !next.2) left right ↔
      cutBetween (left.map (·.1.kind)).reverse (right.map (·.1.kind)) = true := by
  have classes : kinds text = left.map (·.1.kind) ++ right.map (·.1.kind) := by
    rw [kinds, ← map_fst_marked, whole, List.map_append, List.map_append, List.map_map,
      List.map_map]
    rfl
  obtain ⟨next, later, rfl⟩ := List.exists_cons_of_ne_nil after
  have inside : left.length < (kinds text).length := by
    rw [classes, List.length_append, List.length_map, List.length_map, List.length_cons]
    omega
  -- The mark of the cluster behind the place is the answer of the rules there.
  have mark : (cuts (kinds text))[left.length]? = some next.2 := by
    have found : (marked text)[left.length]? = some next := by
      rw [whole, List.getElem?_append_right (Nat.le_refl _), Nat.sub_self]
      rfl
    exact (List.getElem?_zip_eq_some.1 found).2
  have answer := getElem?_cuts (kinds text) left.length inside
  rw [mark, classes, ← List.length_map fun entry : Cluster × Bool => entry.1.kind,
    List.take_left, List.drop_left] at answer
  obtain ⟨earlier, last, rfl⟩ := exists_concat before
  rw [whole, List.append_assoc, List.singleton_append, isCut_splitBy_iff,
    ← Option.some.inj answer, Bool.not_eq_false']

/-- A text is cut at a place exactly when the clusters of its two halves are those of the text and
the rules cut between their classes. -/
theorem isCut_segments_iff {front back : List Char} (before : front ≠ []) (after : back ≠ []) :
    IsCut (segments (front ++ back)) front back ↔
      clusters (front ++ back) = clusters front ++ clusters back ∧
        cutBetween (kinds front).reverse (kinds back) = true := by
  have filled : ∀ text : List Char, text ≠ [] → clusters text ≠ [] := by
    rintro text nonempty none
    apply nonempty
    rw [← chars_clusters text, none]
    rfl
  rw [segments_eq, isCut_map_flatMap_iff]
  constructor
  · rintro ⟨left, right, cut, rfl, rfl⟩
    -- The characters on both sides of a cut determine the clusters there.
    have whole := cut.flatten_eq
    rw [List.flatten_splitBy] at whole
    have split := congrArg (List.map (·.1)) whole
    rw [map_fst_marked, List.map_append] at split
    have first := clusters_front split
    have second := clusters_back split
    rw [List.flatMap_map] at first second
    refine ⟨by rw [split, first, second], ?_⟩
    rw [kinds, kinds, first, second, List.map_map, List.map_map]
    refine (isCut_marked_iff whole ?_ ?_).1 cut
    · rintro rfl
      exact before rfl
    · rintro rfl
      exact after rfl
  · rintro ⟨split, cut⟩
    obtain ⟨left, right, whole, first, second⟩ :=
      List.map_eq_append_iff.1 ((map_fst_marked (front ++ back)).trans split)
    refine ⟨left, right, ?_, ?_, ?_⟩
    · rw [isCut_marked_iff whole]
      · rwa [kinds, kinds, ← first, ← second, List.map_map, List.map_map] at cut
      · rintro rfl
        exact filled front before first.symm
      · rintro rfl
        exact filled back after second.symm
    · rw [← chars_clusters front, ← first, List.flatMap_map]
    · rw [← chars_clusters back, ← second, List.flatMap_map]

/-! ## 3. Raw segments make up the text -/

theorem flatten_segments (text : List Char) : (segments text).flatten = text := by
  have spelled := chars_clusters text
  rw [← map_fst_marked, List.flatMap_map] at spelled
  rw [segments_eq, flatten_map_flatMap, List.flatten_splitBy, spelled]

theorem nil_notMem_segments (text : List Char) : [] ∉ segments text := by
  rw [segments_eq]
  intro member
  obtain ⟨group, present, empty⟩ := List.mem_map.1 member
  cases group with
  | nil => exact List.nil_notMem_splitBy _ _ present
  | cons entry rest => cases empty

theorem placeFrom_eq_append (start : Nat) (done : List RawSegment) (texts : List (List Char)) :
    placeFrom start done texts = done.reverse ++ placeFrom start [] texts := by
  induction texts generalizing start done with
  | nil => simp [placeFrom]
  | cons text rest ih =>
      rw [placeFrom, placeFrom, ih, ih _ [_]]
      simp

theorem placeFrom_cons (start : Nat) (text : List Char) (rest : List (List Char)) :
    placeFrom start [] (text :: rest) =
      ⟨start, text⟩ :: placeFrom (start + byteLength text) [] rest := by
  rw [placeFrom, placeFrom_eq_append]
  rfl

/-- Placing texts keeps them. -/
theorem map_text_placeFrom (start : Nat) (texts : List (List Char)) :
    (placeFrom start [] texts).map (·.text) = texts := by
  induction texts generalizing start with
  | nil => rfl
  | cons text rest ih => rw [placeFrom_cons, List.map_cons, ih]

theorem start_of_placeFrom {start : Nat} {texts : List (List Char)}
    {front back : List RawSegment} {segment : RawSegment}
    (placed : placeFrom start [] texts = front ++ segment :: back) :
    segment.start = start + byteLength (front.flatMap (·.text)) := by
  induction texts generalizing start front with
  | nil => cases front <;> cases placed
  | cons text rest ih =>
      rw [placeFrom_cons] at placed
      cases front with
      | nil =>
          obtain ⟨rfl, _⟩ := List.cons.inj placed
          rfl
      | cons first front =>
          obtain ⟨rfl, others⟩ := List.cons.inj placed
          rw [ih others, List.flatMap_cons, byteLength_append, Nat.add_assoc]

theorem Segmenter.unicode_isFaithful : Segmenter.unicode.IsFaithful := by
  intro text
  refine ⟨?_, ?_, ?_⟩
  · intro segment member empty
    apply nil_notMem_segments text
    rw [← map_text_placeFrom 0 (segments text)]
    exact empty ▸ List.mem_map_of_mem member
  · rw [List.flatMap_def, Segmenter.unicode, map_text_placeFrom, flatten_segments]
  · intro front segment back split
    rw [start_of_placeFrom split, Nat.zero_add]

end SentenceSpans
