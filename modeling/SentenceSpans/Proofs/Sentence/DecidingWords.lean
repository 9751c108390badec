import SentenceSpans.Proofs.Sentence.Abbreviations

/-!
# The words that decide about a cut

Abbreviations are judged by two words, the last one of the segment in front of a cut and the first
one of the segment behind it.  So it makes no difference what else the two segments hold: blanks
around the cut, the sentence that was merged so far, the text behind the next word.  Nor does
opening punctuation in front of the two words, since it is taken off.

Results:
1. `suppressesBreak_blanks`, `suppressesBreak_merged` and `suppressesBreak_longer`: texts around the
   two words.
2. `finalDottedWord_opening`, `leadingWord_opening`: opening punctuation.
3. `suppressesBreak_of_ne_dot`: segments that do not end in a full stop.
4. `suppressesBreak_of_words`: all of this for any two segments.
-/

namespace SentenceSpans

open Unicode

variable {segment next : List Char}

/-! ## 1. Texts around the words -/

theorem suppressesBreak_blanks {blanks : List Char} (white : ∀ c ∈ blanks, isWhiteSpace c = true)
    (segment next : List Char) :
    suppressesBreak (segment ++ blanks) next = suppressesBreak segment next ∧
      suppressesBreak segment (blanks ++ next) = suppressesBreak segment next :=
  ⟨suppressesBreak_eq (Words.last_append_of_whiteSpace white segment) rfl,
    suppressesBreak_eq rfl (Words.first_append_of_whiteSpace white next)⟩

/-- A segment decides alone for the sentence that it is merged into, when white space stands in
front of it. -/
theorem suppressesBreak_merged {earlier : List Char}
    (visible : ∃ c ∈ segment, Words.isWordChar c = true)
    (opened : ∀ c ∈ earlier.getLast?, isWhiteSpace c = true) (next : List Char) :
    suppressesBreak (earlier ++ segment) next = suppressesBreak segment next :=
  suppressesBreak_eq (Words.last_append_of_opened visible opened) rfl

theorem suppressesBreak_longer {later : List Char}
    (visible : ∃ c ∈ next, Words.isWordChar c = true)
    (closed : ∀ c ∈ later.head?, isWhiteSpace c = true) (segment : List Char) :
    suppressesBreak segment (next ++ later) = suppressesBreak segment next :=
  suppressesBreak_eq rfl (Words.first_append_of_closed visible closed)

/-! ## 2. Opening punctuation -/

section Opening

variable {opening : List Char} (opens : ∀ c ∈ opening, isOpeningPunctuation c = true)
include opens

/-- Opening punctuation ends no word with a full stop. -/
theorem getLast?_ne_dot_of_opens : opening.getLast? ≠ some '.' := by
  intro dot
  have sign := opens '.' (List.mem_of_getLast? dot)
  revert sign
  decide

theorem isWordChar_of_opens : ∀ c ∈ opening, Words.isWordChar c = true := by
  intro c member
  exact isWordChar_of_isOpeningPunctuation (opens c member)

theorem finalDottedWord_opening (whole : ∀ c ∈ segment, Words.isWordChar c = true) :
    finalDottedWord (opening ++ segment) = finalDottedWord segment := by
  have both : ∀ c ∈ opening ++ segment, Words.isWordChar c = true :=
    List.forall_mem_append.2 ⟨isWordChar_of_opens opens, whole⟩
  simp only [finalDottedWord, Words.last_of_visible both, Words.last_of_visible whole,
    stripOpening_append_of_opens opens]
  by_cases empty : segment = []
  · simp [empty, getLast?_ne_dot_of_opens opens]
  · rw [List.getLast?_append_of_ne_nil _ empty]

theorem leadingWord_opening (starts : ∀ c ∈ next.head?, Words.isWordChar c = true) :
    leadingWord (opening ++ next) = leadingWord next := by
  rw [leadingWord, Words.first_append_of_visible (isWordChar_of_opens opens) starts,
    stripOpening_append_of_opens opens, leadingWord]

end Opening

/-! ## 3. Segments without a full stop at their end -/

/-- Only segments that end in a full stop and blanks are joined to the next one. -/
theorem suppressesBreak_of_ne_dot
    (undotted : segment.reverse.find? Words.isWordChar ≠ some '.') (next : List Char) :
    suppressesBreak segment next = false := by
  rw [← Words.getLast?_last] at undotted
  rw [suppressesBreak, finalDottedWord]
  simp [undotted]

/-! ## 4. Any two segments -/

/-- Whether a cut is removed depends on the last word of the segment in front of it and on the first
word of the one behind it.  In particular, the answer stays the same

  * with blanks around the cut;
  * with the sentence merged so far in front of the segment, where white space is between them;
  * with more text behind the next segment, where white space is between them;
  * with opening punctuation in front of a segment that is one word, and in front of a next segment
    that does not start with white space.

A segment whose last character, white space apart, is no full stop is never joined. -/
theorem suppressesBreak_of_words (segment next : List Char) :
    (∀ other follower, Words.last segment = Words.last other →
        Words.first next = Words.first follower →
        suppressesBreak segment next = suppressesBreak other follower) ∧
      (∀ blanks, (∀ c ∈ blanks, isWhiteSpace c = true) →
        suppressesBreak (segment ++ blanks) next = suppressesBreak segment next ∧
          suppressesBreak segment (blanks ++ next) = suppressesBreak segment next) ∧
      (∀ earlier, (∃ c ∈ segment, Words.isWordChar c = true) →
        (∀ c ∈ earlier.getLast?, isWhiteSpace c = true) →
        suppressesBreak (earlier ++ segment) next = suppressesBreak segment next) ∧
      (∀ later, (∃ c ∈ next, Words.isWordChar c = true) →
        (∀ c ∈ later.head?, isWhiteSpace c = true) →
        suppressesBreak segment (next ++ later) = suppressesBreak segment next) ∧
      (∀ opening, (∀ c ∈ opening, isOpeningPunctuation c = true) →
        ((∀ c ∈ segment, Words.isWordChar c = true) →
            suppressesBreak (opening ++ segment) next = suppressesBreak segment next) ∧
          ((∀ c ∈ next.head?, Words.isWordChar c = true) →
            suppressesBreak segment (opening ++ next) = suppressesBreak segment next)) ∧
      (segment.reverse.find? Words.isWordChar ≠ some '.' →
        suppressesBreak segment next = false) := by
  refine ⟨?_, ?_, ?_, ?_, ?_, ?_⟩
  · intro other follower sameLast sameFirst
    exact suppressesBreak_eq sameLast sameFirst
  · intro blanks white
    exact suppressesBreak_blanks white segment next
  · intro earlier visible opened
    exact suppressesBreak_merged visible opened next
  · intro later visible closed
    exact suppressesBreak_longer visible closed segment
  · intro opening opens
    refine ⟨fun whole => ?_, fun starts => ?_⟩
    · rw [suppressesBreak, suppressesBreak, finalDottedWord_opening opens whole]
    · rw [suppressesBreak, suppressesBreak, leadingWord_opening opens starts]
  · intro undotted
    exact suppressesBreak_of_ne_dot undotted next

/-- An initial and a name, in a longer text, with blanks, in quotation marks, and with a bracket
behind the initial. -/
theorem suppressesBreak_of_words_initial :
    Words.last "J.".toList = Words.last "by J.".toList ∧
      Words.first "Roe".toList = Words.first "Roe left.".toList ∧
      (∀ c ∈ "\u2028 ".toList, isWhiteSpace c = true) ∧
      (∀ c ∈ "J.".toList, Words.isWordChar c = true) ∧
      (∀ c ∈ "Roe".toList, Words.isWordChar c = true) ∧
      (∀ c ∈ "(\u201C".toList, isOpeningPunctuation c = true) ∧
      "J.)".toList.reverse.find? Words.isWordChar ≠ some '.' ∧
      suppressesBreak "by J.".toList "Roe left.".toList = true ∧
      suppressesBreak ("J.".toList ++ "\u2028 ".toList) "Roe".toList = true ∧
      suppressesBreak "J.".toList ("\u2028 ".toList ++ "Roe".toList) = true ∧
      suppressesBreak ("\u2028 ".toList ++ "J.".toList) "Roe".toList = true ∧
      suppressesBreak "J.".toList ("Roe".toList ++ "\u2028 ".toList) = true ∧
      suppressesBreak ("(\u201C".toList ++ "J.".toList) "Roe".toList = true ∧
      suppressesBreak "J.".toList ("(\u201C".toList ++ "Roe".toList) = true ∧
      suppressesBreak "J.)".toList "Roe".toList = false := by
  have sameLast : Words.last "J.".toList = Words.last "by J.".toList := by decide +kernel
  have sameFirst : Words.first "Roe".toList = Words.first "Roe left.".toList := by decide +kernel
  have white : ∀ c ∈ "\u2028 ".toList, isWhiteSpace c = true :=
    List.all_eq_true.1 (by decide +kernel)
  have segmentWord : ∀ c ∈ "J.".toList, Words.isWordChar c = true :=
    List.all_eq_true.1 (by decide +kernel)
  have nextWord : ∀ c ∈ "Roe".toList, Words.isWordChar c = true :=
    List.all_eq_true.1 (by decide +kernel)
  have opens : ∀ c ∈ "(\u201C".toList, isOpeningPunctuation c = true :=
    List.all_eq_true.1 (by decide)
  have undotted : "J.)".toList.reverse.find? Words.isWordChar ≠ some '.' := by decide +kernel
  have joined : suppressesBreak "J.".toList "Roe".toList = true := by decide +kernel
  obtain ⟨same, spaced, merged, longer, opened, _⟩ :=
    suppressesBreak_of_words "J.".toList "Roe".toList
  obtain ⟨_, _, _, _, _, kept⟩ := suppressesBreak_of_words "J.)".toList "Roe".toList
  refine ⟨sameLast, sameFirst, white, segmentWord, nextWord, opens, undotted, ?_⟩
  refine ⟨(same _ _ sameLast sameFirst).symm.trans joined, (spaced _ white).1.trans joined,
    (spaced _ white).2.trans joined, ?_, ?_, ((opened _ opens).1 segmentWord).trans joined, ?_,
    kept undotted⟩
  · refine (merged _ ⟨'J', by decide, segmentWord 'J' (by decide)⟩ ?_).trans joined
    exact fun c last => white c (List.mem_of_getLast? last)
  · refine (longer _ ⟨'R', by decide, nextWord 'R' (by decide)⟩ ?_).trans joined
    exact fun c first => white c (List.mem_of_head? first)
  · exact ((opened _ opens).2 fun c head => nextWord c (List.mem_of_head? head)).trans joined

end SentenceSpans
