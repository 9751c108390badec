/-!
# Sets of code points

A Unicode property is a finite set of code points, listed as ranges in increasing order.  Many
properties alternate (an upper-case letter, its lower-case partner, the next upper-case letter,
...), so a range carries a step and holds every `step`-th code point from its first one.

A table is a balanced tree over such ranges, together with the proof of their order.  The order is
what lets a search leave out one side of the tree at each range.

## Results

  * `RangeTree.ranges_ofRanges`: the tree over a list of ranges holds them, each once and in order.
  * `CodeTable.contains_eq_any`: searching a table answers whether some range of it holds the code
    point.
-/

namespace SentenceSpans.Unicode

/-! ## Ranges -/

/-- The code points `first`, `first + step`, ... up to `last`. -/
structure CodeRange where
  first : Nat
  last : Nat
  step : Nat
deriving DecidableEq, Repr

namespace CodeRange

/-- A range holds the code points between its ends that stand a whole number of steps after the
first. -/
def contains (range : CodeRange) (code : Nat) : Bool :=
  decide (range.first ≤ code) && decide (code ≤ range.last) &&
    (code - range.first) % range.step == 0

/-- Ranges are in order when each is non-empty and ends before the next one starts. -/
def inOrder : List CodeRange → Bool
  | [] => true
  | [range] => decide (range.first ≤ range.last)
  | range :: next :: rest =>
      decide (range.first ≤ range.last) && decide (range.last < next.first) &&
        inOrder (next :: rest)

end CodeRange

/-! ## Search trees -/

inductive RangeTree where
  | leaf
  | node (left : RangeTree) (range : CodeRange) (right : RangeTree)
deriving Repr

namespace RangeTree

def ranges : RangeTree → List CodeRange
  | leaf => []
  | node left range right => left.ranges ++ range :: right.ranges

/-- Searching goes left of a range that starts too late and right of one that ends too early. -/
def contains : RangeTree → Nat → Bool
  | leaf, _ => false
  | node left range right, code =>
      if code < range.first then left.contains code
      else if range.last < code then right.contains code
      else (code - range.first) % range.step == 0

/-- A tree of at most the given height over as many of the leading ranges as it can hold, and the
ranges left over. -/
def build : Nat → List CodeRange → RangeTree × List CodeRange
  | 0, ranges => (leaf, ranges)
  | height + 1, ranges =>
      match build height ranges with
      | (left, []) => (left, [])
      | (left, range :: rest) =>
          match build height rest with
          | (right, others) => (node left range right, others)

def ofRanges (listed : List CodeRange) : RangeTree :=
  (build (listed.length.log2 + 1) listed).1

/-! ### What a tree holds -/

theorem ranges_build (height : Nat) (listed : List CodeRange) :
    (build height listed).1.ranges ++ (build height listed).2 = listed := by
  induction height generalizing listed with
  | zero => rfl
  | succ height ih =>
      rw [build]
      have left := ih listed
      generalize build height listed = built at left
      obtain ⟨leftTree, rest⟩ := built
      cases rest with
      | nil => exact left
      | cons range rest =>
          have right := ih rest
          simp only [ranges] at left ⊢
          rw [← left, List.append_assoc, List.cons_append, right]

/-- A tree of height `height` takes every range when there are fewer than `2 ^ height`. -/
theorem length_rest_build (height : Nat) (listed : List CodeRange) :
    (build height listed).2.length ≤ listed.length - (Nat.pow 2 height - 1) := by
  induction height generalizing listed with
  | zero => simp [build]
  | succ height ih =>
      rw [build]
      have left := ih listed
      generalize build height listed = built at left
      obtain ⟨leftTree, rest⟩ := built
      cases rest with
      | nil => simp
      | cons range rest =>
          have right := ih rest
          simp only [List.length_cons] at left
          have power : Nat.pow 2 (height + 1) = Nat.pow 2 height * 2 := rfl
          have positive : 0 < Nat.pow 2 height := Nat.two_pow_pos height
          simp only
          omega

theorem ranges_ofRanges (listed : List CodeRange) : (ofRanges listed).ranges = listed := by
  have all := ranges_build (listed.length.log2 + 1) listed
  have bound := length_rest_build (listed.length.log2 + 1) listed
  have small : listed.length < Nat.pow 2 (listed.length.log2 + 1) := Nat.lt_log2_self
  have none : (build (listed.length.log2 + 1) listed).2 = [] :=
    List.eq_nil_of_length_eq_zero (by omega)
  rw [none, List.append_nil] at all
  exact all

end RangeTree

/-! ## Searching in order -/

namespace CodeRange

theorem inOrder_cons {range : CodeRange} {rest : List CodeRange}
    (ordered : inOrder (range :: rest) = true) :
    range.first ≤ range.last ∧ (∀ other ∈ rest, range.last < other.first) ∧
      inOrder rest = true := by
  induction rest generalizing range with
  | nil => simpa [inOrder] using ordered
  | cons next rest ih =>
      simp only [inOrder, Bool.and_eq_true, decide_eq_true_eq] at ordered
      obtain ⟨⟨nonempty, before⟩, tail⟩ := ordered
      obtain ⟨nextNonempty, nextBefore, _⟩ := ih tail
      refine ⟨nonempty, ?_, tail⟩
      intro other member
      rcases List.mem_cons.1 member with same | later
      · rw [same]; exact before
      · have := nextBefore other later
        omega

theorem inOrder_append {front back : List CodeRange} {range : CodeRange}
    (ordered : inOrder (front ++ range :: back) = true) :
    inOrder front = true ∧ inOrder (range :: back) = true ∧
      ∀ other ∈ front, other.last < range.first := by
  induction front with
  | nil => exact ⟨rfl, ordered, by simp⟩
  | cons first front ih =>
      obtain ⟨nonempty, before, tail⟩ := inOrder_cons ordered
      obtain ⟨frontOrdered, backOrdered, frontBefore⟩ := ih tail
      refine ⟨?_, backOrdered, ?_⟩
      · cases front with
        | nil => simpa [inOrder] using nonempty
        | cons next front =>
            simp only [inOrder, Bool.and_eq_true, decide_eq_true_eq]
            exact ⟨⟨nonempty, before next (by simp)⟩, frontOrdered⟩
      · intro other member
        rcases List.mem_cons.1 member with same | later
        · rw [same]; exact before range (by simp)
        · exact frontBefore other later

theorem not_contains_of_lt {range : CodeRange} {code : Nat} (before : code < range.first) :
    range.contains code = false := by
  simp [contains, Nat.not_le.2 before]

theorem not_contains_of_gt {range : CodeRange} {code : Nat} (after : range.last < code) :
    range.contains code = false := by
  simp [contains, Nat.not_le.2 after]

end CodeRange

namespace RangeTree

open CodeRange

theorem contains_eq_any (tree : RangeTree) (code : Nat)
    (ordered : inOrder tree.ranges = true) :
    tree.contains code = tree.ranges.any (·.contains code) := by
  induction tree with
  | leaf => rfl
  | node left range right leftHolds rightHolds =>
      rw [ranges] at ordered
      obtain ⟨leftOrdered, rest, leftBefore⟩ := inOrder_append ordered
      obtain ⟨nonempty, rightAfter, rightOrdered⟩ := inOrder_cons rest
      -- The order keeps each side free of the code points beyond the range in the middle.
      have leftNone (reached : range.first ≤ code) :
          left.ranges.any (·.contains code) = false :=
        List.any_eq_false.2 fun other member => by
          have := leftBefore other member
          simp [not_contains_of_gt (show other.last < code by omega)]
      have rightNone (reached : code ≤ range.last) :
          right.ranges.any (·.contains code) = false :=
        List.any_eq_false.2 fun other member => by
          have := rightAfter other member
          simp [not_contains_of_lt (show code < other.first by omega)]
      rw [contains, ranges, List.any_append, List.any_cons]
      split
      · next before =>
          rw [leftHolds leftOrdered, not_contains_of_lt before, rightNone (by omega)]
          simp
      · next notBefore =>
          rw [leftNone (by omega)]
          split
          · next after =>
              rw [rightHolds rightOrdered, not_contains_of_gt after]
              simp
          · next notAfter =>
              rw [rightNone (by omega)]
              simp [CodeRange.contains, Nat.not_lt.1 notBefore, Nat.not_lt.1 notAfter]

end RangeTree

/-! ## Tables -/

/-- A set of code points, as a tree whose ranges are in order. -/
structure CodeTable where
  tree : RangeTree
  inOrder : CodeRange.inOrder tree.ranges = true

namespace CodeTable

def ofRanges (listed : List CodeRange) (ordered : CodeRange.inOrder listed = true) : CodeTable :=
  ⟨.ofRanges listed, by rw [RangeTree.ranges_ofRanges, ordered]⟩

def contains (table : CodeTable) (code : Nat) : Bool := table.tree.contains code

theorem contains_eq_any (table : CodeTable) (code : Nat) :
    table.contains code = table.tree.ranges.any (·.contains code) :=
  table.tree.contains_eq_any code table.inOrder

end CodeTable

end SentenceSpans.Unicode
