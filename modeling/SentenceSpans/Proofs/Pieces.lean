import Mathlib.Data.List.SplitBy

/-!
# Pieces of a list

A list that is taken to pieces is cut at some of its places.  Which places these are says all about
the pieces, as long as none of them is empty.

Results:
1. `isCut_splitBy_iff`: splitting by a relation cuts exactly between neighbours that the relation
   does not join.
2. `isCut_map_flatMap_iff`: putting each piece together differently keeps the cuts.
3. `eq_of_isCut_iff`: pieces with the same cuts are the same.
4. `splitBy_flatten_of_run`: neighbouring pieces, put together and split again, are the same pieces.
-/

namespace SentenceSpans

variable {α β : Type}

/-- A list that is not empty has a last member. -/
theorem exists_concat {list : List α} (filled : list ≠ []) :
    ∃ front last, list = front ++ [last] :=
  ⟨list.dropLast, list.getLast filled, (List.dropLast_concat_getLast filled).symm⟩

/-- The pieces of a list are cut between its front and its back: the first pieces make up the
front, the others the back. -/
def IsCut (pieces : List (List α)) (front back : List α) : Prop :=
  ∃ left right, pieces = left ++ right ∧ left.flatten = front ∧ right.flatten = back

/-- A cut leaves nothing out. -/
theorem IsCut.flatten_eq {pieces : List (List α)} {front back : List α}
    (cut : IsCut pieces front back) : pieces.flatten = front ++ back := by
  obtain ⟨left, right, rfl, rfl, rfl⟩ := cut
  exact List.flatten_append

theorem isCut_splitBy_iff (joins : α → α → Bool) (front : List α) (a b : α) (back : List α) :
    IsCut ((front ++ a :: b :: back).splitBy joins) (front ++ [a]) (b :: back) ↔
      joins a b = false := by
  constructor
  · rintro ⟨left, right, pieces, first, second⟩
    have leftFilled : left ≠ [] := by
      rintro rfl
      exact absurd first (by simp)
    obtain ⟨before, piece, rfl⟩ := exists_concat leftFilled
    cases right with
    | nil => cases second
    | cons next after =>
        -- The two pieces around the cut are neighbours, and their ends are `a` and `b`.
        have chain := List.isChain_getLast_head_splitBy joins (front ++ a :: b :: back)
        rw [pieces, List.append_assoc] at chain
        obtain ⟨filled, nextFilled, apart⟩ :=
          (List.isChain_cons_cons.1 (List.IsChain.right_of_append chain)).1
        have lastOf : piece.getLast filled = a := by
          have ends := congrArg List.getLast? first
          rw [List.flatten_append, List.flatten_singleton, List.getLast?_append_of_ne_nil _ filled,
            List.getLast?_concat, List.getLast?_eq_some_getLast filled] at ends
          exact Option.some.inj ends
        have headOf : next.head nextFilled = b := by
          have starts := congrArg List.head? second
          rw [List.flatten_cons, List.head?_append_of_ne_nil _ nextFilled,
            List.head?_eq_some_head nextFilled] at starts
          exact Option.some.inj starts
        rwa [lastOf, headOf] at apart
  · intro apart
    have ends : ∀ last ∈ (front ++ [a]).getLast?, joins last b = false := by
      intro last found
      rw [List.getLast?_concat] at found
      cases found
      exact apart
    refine ⟨(front ++ [a]).splitBy joins, (b :: back).splitBy joins, ?_, ?_, ?_⟩
    · rw [← List.splitBy_append_cons back ends, List.append_assoc]
      rfl
    · exact List.flatten_splitBy joins _
    · exact List.flatten_splitBy joins _

theorem flatten_map_flatMap (spell : α → List β) (pieces : List (List α)) :
    (pieces.map fun piece => piece.flatMap spell).flatten = pieces.flatten.flatMap spell := by
  induction pieces with
  | nil => rfl
  | cons piece rest ih =>
      rw [List.map_cons, List.flatten_cons, ih, List.flatten_cons, List.flatMap_append]

theorem isCut_map_flatMap_iff {spell : α → List β} {pieces : List (List α)} {front back : List β} :
    IsCut (pieces.map fun piece => piece.flatMap spell) front back ↔
      ∃ left right, IsCut pieces left right ∧ left.flatMap spell = front ∧
        right.flatMap spell = back := by
  constructor
  · rintro ⟨first, second, split, rfl, rfl⟩
    obtain ⟨left, right, rfl, rfl, rfl⟩ := List.map_eq_append_iff.1 split
    exact ⟨left.flatten, right.flatten, ⟨left, right, rfl, rfl, rfl⟩,
      (flatten_map_flatMap spell left).symm, (flatten_map_flatMap spell right).symm⟩
  · rintro ⟨_, _, ⟨left, right, rfl, rfl, rfl⟩, rfl, rfl⟩
    exact ⟨_, _, List.map_append, flatten_map_flatMap spell left, flatten_map_flatMap spell right⟩

/-! ## Runs of pieces -/

/-- Pieces in front of others do not matter for the cuts among the others. -/
theorem isCut_append_left_iff {left pieces : List (List α)} {front back : List α}
    (before : front ≠ []) :
    IsCut (left ++ pieces) (left.flatten ++ front) back ↔ IsCut pieces front back := by
  constructor
  · rintro ⟨first, second, split, reached, rfl⟩
    rcases List.append_eq_append_iff.1 split with ⟨more, rfl, rfl⟩ | ⟨more, rfl, rfl⟩
    · rw [List.flatten_append] at reached
      exact ⟨more, second, rfl, List.append_cancel_left reached, rfl⟩
    · -- The cut would be among the pieces in front, which do not reach so far.
      rw [List.flatten_append, List.append_assoc] at reached
      have none : more.flatten ++ front = [] := List.append_right_eq_self.1 reached.symm
      exact absurd (List.append_eq_nil_iff.1 none).2 before
  · rintro ⟨first, second, rfl, rfl, rfl⟩
    exact ⟨left ++ first, second, by simp, by simp, rfl⟩

theorem isCut_cons_iff {piece : List α} {pieces : List (List α)} {front back : List α}
    (before : front ≠ []) :
    IsCut (piece :: pieces) (piece ++ front) back ↔ IsCut pieces front back := by
  have one : IsCut ([piece] ++ pieces) ([piece].flatten ++ front) back ↔ IsCut pieces front back :=
    isCut_append_left_iff before
  rwa [List.flatten_singleton] at one

/-- Nor do pieces behind them. -/
theorem isCut_append_right_iff {pieces right : List (List α)} {front back : List α}
    (after : back ≠ []) :
    IsCut (pieces ++ right) front (back ++ right.flatten) ↔ IsCut pieces front back := by
  constructor
  · rintro ⟨first, second, split, rfl, reached⟩
    rcases List.append_eq_append_iff.1 split with ⟨more, rfl, rfl⟩ | ⟨more, rfl, rfl⟩
    · rw [List.flatten_append, ← List.append_assoc] at reached
      have none : back ++ more.flatten = [] := List.append_left_eq_self.1 reached.symm
      exact absurd (List.append_eq_nil_iff.1 none).1 after
    · rw [List.flatten_append] at reached
      exact ⟨first, more, rfl, rfl, List.append_cancel_right reached⟩
  · rintro ⟨first, second, rfl, rfl, rfl⟩
    exact ⟨first, second ++ right, by simp, rfl, by simp⟩

/-- Of two ways to take a list to pieces, the one with more cuts has the shorter first piece. -/
theorem prefix_of_isCut {piece other : List α} {rest more : List (List α)} (filled : piece ≠ [])
    (same : (piece :: rest).flatten = (other :: more).flatten)
    (cuts : ∀ front back, front ≠ [] → back ≠ [] → (piece :: rest).flatten = front ++ back →
      IsCut (piece :: rest) front back → IsCut (other :: more) front back) :
    other <+: piece := by
  by_cases ends : rest.flatten = []
  · rw [List.flatten_cons, List.flatten_cons, ends, List.append_nil] at same
    exact ⟨more.flatten, same.symm⟩
  · obtain ⟨first, second, split, reached, _⟩ :=
      cuts piece rest.flatten filled ends rfl ⟨[piece], rest, rfl, by simp, rfl⟩
    cases first with
    | nil => exact absurd reached.symm filled
    | cons head tail =>
        obtain ⟨rfl, _⟩ := List.cons.inj split
        exact ⟨tail.flatten, reached⟩

/-- Pieces are determined by where they are cut. -/
theorem eq_of_isCut_iff {pieces others : List (List α)} (filled : [] ∉ pieces)
    (othersFilled : [] ∉ others) (same : pieces.flatten = others.flatten)
    (cuts : ∀ front back, front ≠ [] → back ≠ [] → pieces.flatten = front ++ back →
      (IsCut pieces front back ↔ IsCut others front back)) : pieces = others := by
  induction pieces generalizing others with
  | nil =>
      cases others with
      | nil => rfl
      | cons other more =>
          have empty := (List.append_eq_nil_iff.1 same.symm).1
          exact absurd (by rw [empty]; exact List.mem_cons_self) othersFilled
  | cons piece rest ih =>
      rw [List.mem_cons, not_or] at filled
      cases others with
      | nil => exact absurd (List.append_eq_nil_iff.1 same).1 (Ne.symm filled.1)
      | cons other more =>
          rw [List.mem_cons, not_or] at othersFilled
          have shorter := prefix_of_isCut (Ne.symm filled.1) same
            fun front back before after whole => (cuts front back before after whole).1
          have longer := prefix_of_isCut (Ne.symm othersFilled.1) same.symm
            fun front back before after whole => (cuts front back before after (same.trans whole)).2
          have equal : piece = other := longer.eq_of_length_le shorter.length_le
          subst equal
          rw [List.flatten_cons, List.flatten_cons] at same
          rw [ih filled.2 othersFilled.2 (List.append_cancel_left same)]
          intro front back before after whole
          have behind := cuts (piece ++ front) back (by simp [before]) after
            (by rw [List.flatten_cons, whole, List.append_assoc])
          rwa [isCut_cons_iff before, isCut_cons_iff before] at behind

/-- Splitting some of the pieces that splitting has made gives these pieces again. -/
theorem splitBy_flatten_of_run {joins : α → α → Bool} {list : List α}
    {left middle right : List (List α)} (split : list.splitBy joins = left ++ middle ++ right) :
    middle.flatten.splitBy joins = middle := by
  obtain ⟨_, filled, joined, apart⟩ := List.splitBy_eq_iff.1 split
  refine List.splitBy_flatten ?_ ?_ ?_
  · intro member
    exact filled (by simp [member])
  · intro piece member
    exact joined piece (by simp [member])
  · exact (List.isChain_append.1 (List.isChain_append.1 apart).1).2.1

end SentenceSpans
