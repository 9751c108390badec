import SentenceSpans.Proofs.Sentence.Initials

/-!
# Places where no sentence ends

Whatever stands around them, some places are inside a sentence: a decimal point, a row of end marks,
a full stop before a small letter, and an end mark with the closing marks and blanks that belong to
it.  The sentence rules do not cut there, and abbreviations only remove cuts.

Results:
1. `IsEndMark.ofChar` and `IsClosingMark.ofChar`: what the rules see of the marks.
2. `cutBetween_numeric`, `cutBetween_lower` and `not_isCut_of_neverStarts`: the rules at these
   places.
3. `not_stop_of_heldTogether`: no sentence ends there.
-/

namespace SentenceSpans

open Unicode

/-! ## Definitions -/

/-- Full stops, question marks and exclamation marks. -/
def IsEndMark (c : Char) : Prop := c = '.' ∨ c = '?' ∨ c = '!'

/-- Quotation marks and brackets that close. -/
def IsClosingMark (c : Char) : Prop := c = '"' ∨ c = '\'' ∨ c = ')' ∨ c = ']'

/-- Two parts of a text between which no sentence ends. -/
inductive HeldTogether : List Char → List Char → Prop
  /-- A full stop before a digit. -/
  | decimal (lead : List Char) {digit : Char} (rest : List Char) (digital : digit.isDigit = true) :
      HeldTogether (lead ++ ['.']) (digit :: rest)
  /-- Two end marks next to each other. -/
  | marks (lead : List Char) {mark next : Char} (rest : List Char) (ends : IsEndMark mark)
      (goesOn : IsEndMark next) : HeldTogether (lead ++ [mark]) (next :: rest)
  /-- A full stop and a small letter, with any spaces on both sides of the place. -/
  | lowerCase (lead : List Char) (before after : Nat) {letter : Char} (rest : List Char)
      (small : letter.isLower = true) :
      HeldTogether (lead ++ '.' :: List.replicate before ' ')
        (List.replicate after ' ' ++ letter :: rest)
  /-- An end mark with any closing marks, before another closing mark or a space. -/
  | closing (lead : List Char) {mark : Char} {closers : List Char} {next : Char} (rest : List Char)
      (ends : IsEndMark mark) (closes : ∀ c ∈ closers, IsClosingMark c)
      (belongs : IsClosingMark next ∨ next = ' ') :
      HeldTogether (lead ++ mark :: closers) (next :: rest)

/-! ## 1. Classes of marks -/

theorem IsEndMark.ofChar {c : Char} (ends : IsEndMark c) :
    SentenceBreak.ofChar c = .aTerm ∨ SentenceBreak.ofChar c = .sTerm := by
  rcases ends with rfl | rfl | rfl
  · exact .inl ofChar_dot
  · exact .inr (by decide +kernel)
  · exact .inr (by decide +kernel)

theorem IsClosingMark.ofChar {c : Char} (closes : IsClosingMark c) :
    SentenceBreak.ofChar c = .close := by
  rcases closes with rfl | rfl | rfl | rfl <;> decide +kernel

theorem ne_blank_of_mark {c : Char} (mark : IsEndMark c ∨ IsClosingMark c) :
    SentenceBreak.ofChar c ≠ .sp := by
  rcases mark with ends | closes
  · rcases ends.ofChar with kind | kind <;> simp [kind]
  · simp [closes.ofChar]

/-- The rules see every one of these characters, and none of them ends a paragraph. -/
theorem inside_of_mark {c : Char} (mark : IsEndMark c ∨ IsClosingMark c ∨ c = ' ') :
    SentenceBreak.ofChar c ≠ .attached ∧ (SentenceBreak.ofChar c).isParagraphEnd = false := by
  rcases mark with ends | closes | rfl
  · rcases ends.ofChar with kind | kind <;> simp [kind, SentenceBreak.isParagraphEnd]
  · simp [closes.ofChar, SentenceBreak.isParagraphEnd]
  · simp [ofChar_space, SentenceBreak.isParagraphEnd]

/-! ## 2. The rules at the places -/

/-- SB6: no cut between a full stop and a digit. -/
theorem cutBetween_numeric (earlier later : List SentenceBreak) :
    cutBetween (.aTerm :: earlier) (.numeric :: later) = false := by
  simp [cutBetween, SentenceBreak.isParagraphEnd]

/-- SB8: no cut between a full stop with blanks behind it and a small letter. -/
theorem cutBetween_lower (count : Nat) (earlier later : List SentenceBreak) :
    cutBetween (List.replicate count .sp ++ .aTerm :: earlier) (.lower :: later) = false := by
  have mark := endMark?_replicate_sp count earlier
  have goesOn : goesOnInLowerCase (.lower :: later) = true := rfl
  cases count with
  | zero =>
      rw [List.replicate_zero, List.nil_append] at mark ⊢
      simp [cutBetween, SentenceBreak.isParagraphEnd, mark, goesOn]
  | succ count =>
      rw [List.replicate_succ, List.cons_append] at mark ⊢
      simp [cutBetween, SentenceBreak.isParagraphEnd, mark, goesOn]

/-! ## 3. The places -/

/-- No cut behind marks and spaces in front of a character that the rules never separate from any of
them. -/
theorem not_isCut_of_neverStarts {marks : List Char} {next : Char} (nonempty : marks ≠ [])
    (marked : ∀ c ∈ marks, IsEndMark c ∨ IsClosingMark c ∨ c = ' ')
    (never : ∀ c ∈ marks,
      neverStarts (SentenceBreak.ofChar c) (SentenceBreak.ofChar next) = true)
    (lead rest : List Char) :
    ¬ IsCut (segments (lead ++ marks ++ next :: rest)) (lead ++ marks) (next :: rest) := by
  have base : SentenceBreak.ofChar next ≠ .attached := by
    intro waits
    obtain ⟨c, _, rfl⟩ := List.exists_cons_of_ne_nil nonempty
    have first := never c List.mem_cons_self
    rw [waits] at first
    simp [neverStarts, SentenceBreak.isSentenceEnd, SentenceBreak.isParagraphEnd] at first
  refine not_isCut_of_uncut nonempty ?_ base ?_ lead rest
  · intro c member
    exact (inside_of_mark (marked c member)).1
  · intro earlier later
    obtain ⟨fewer, last, rfl⟩ := exists_concat nonempty
    have member : last ∈ fewer ++ [last] := by simp
    rw [List.map_append, List.reverse_append]
    exact cutBetween_of_neverStarts (inside_of_mark (marked last member)).2 (never last member) _
      later

namespace HeldTogether

variable {front back : List Char}

theorem back_ne_nil (held : HeldTogether front back) : back ≠ [] := by
  cases held <;> simp

theorem not_isCut (held : HeldTogether front back) :
    ¬ IsCut (segments (front ++ back)) front back := by
  cases held with
  | decimal lead rest digital =>
      have numeric := ofChar_of_isDigit digital
      refine not_isCut_of_uncut (by simp) (ne_attached_of_fullStop 0) ?_ ?_ lead rest
      · rw [numeric]
        decide
      · intro earlier later
        rw [numeric, map_ofChar_fullStop 0]
        exact cutBetween_numeric earlier later
  | marks lead rest ends goesOn =>
      refine not_isCut_of_neverStarts (by simp) ?_ ?_ lead rest
      · simp [ends]
      · rcases goesOn.ofChar with kind | kind <;>
          simp [neverStarts, kind, SentenceBreak.isSentenceEnd]
  | lowerCase lead before after rest small =>
      cases after with
      | zero =>
          have lower := ofChar_of_isLower small
          refine not_isCut_of_uncut (by simp) (ne_attached_of_fullStop before) ?_ ?_ lead rest
          · rw [lower]
            decide
          · intro earlier later
            rw [lower, map_ofChar_fullStop, List.reverse_cons, List.reverse_replicate,
              List.append_assoc]
            exact cutBetween_lower before earlier later
      | succ after =>
          -- Another space belongs to what is in front of it.
          refine not_isCut_of_neverStarts (by simp) ?_ ?_ lead _
          · intro c member
            rcases List.mem_cons.1 member with rfl | blank
            · exact .inl (.inl rfl)
            · exact .inr (.inr (List.eq_of_mem_replicate blank))
          · simp [neverStarts, ofChar_space]
  | closing lead rest ends closes belongs =>
      have marked : ∀ c ∈ _ :: _, IsEndMark c ∨ IsClosingMark c :=
        List.forall_mem_cons.2 ⟨.inl ends, fun c member => .inr (closes c member)⟩
      refine not_isCut_of_neverStarts (by simp) ?_ ?_ lead rest
      · intro c member
        exact (marked c member).imp_right .inl
      · intro c member
        rcases belongs with closing | rfl
        · simp [neverStarts, closing.ofChar, ne_blank_of_mark (marked c member)]
        · simp [neverStarts, ofChar_space]

end HeldTogether

/-- Whatever stands around them, no sentence ends at a decimal point, within a row of end marks,
between a full stop and a small letter, nor in front of the closing marks and the space behind an
end mark: the rules do not cut there, and removing cuts adds none. -/
theorem not_stop_of_heldTogether {front back : List Char} (held : HeldTogether front back) :
    ¬ IsCut (segments (front ++ back)) front back ∧
      ∀ range ∈ sentenceRanges (front ++ back), range.stop ≠ byteLength front := by
  refine ⟨held.not_isCut, ?_⟩
  intro range member stop
  have stops : StopsBetween front back := ⟨range, member, stop⟩
  exact held.not_isCut (stops.isCut held.back_ne_nil)

/-- A decimal point, a row of end marks, a small letter and a closing mark behind it, in a text. -/
theorem not_stop_of_heldTogether_ellipsis :
    HeldTogether "(3.".toList "5... or so...)".toList ∧
      HeldTogether "(3.5..".toList ". or so...)".toList ∧
      HeldTogether "(3.5... ".toList "or so...)".toList ∧
      HeldTogether "(3.5... or so...".toList ")".toList ∧
      ∀ range ∈ sentenceRanges "(3.5... or so...)".toList,
        range.stop ≠ 3 ∧ range.stop ≠ 6 ∧ range.stop ≠ 8 ∧ range.stop ≠ 16 := by
  have point : HeldTogether "(3.".toList "5... or so...)".toList :=
    .decimal "(3".toList "... or so...)".toList (by decide)
  have row : HeldTogether "(3.5..".toList ". or so...)".toList :=
    .marks "(3.5.".toList " or so...)".toList (.inl rfl) (.inl rfl)
  have small : HeldTogether "(3.5... ".toList "or so...)".toList :=
    .lowerCase "(3.5..".toList 1 0 "r so...)".toList (by decide)
  have bracket : HeldTogether "(3.5... or so...".toList ")".toList :=
    .closing "(3.5... or so..".toList [] (.inl rfl) nofun (.inl (.inr (.inr (.inl rfl))))
  refine ⟨point, row, small, bracket, ?_⟩
  intro range member
  exact ⟨(not_stop_of_heldTogether point).2 range member,
    (not_stop_of_heldTogether row).2 range member, (not_stop_of_heldTogether small).2 range member,
    (not_stop_of_heldTogether bracket).2 range member⟩

end SentenceSpans
