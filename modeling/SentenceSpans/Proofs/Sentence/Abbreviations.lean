import SentenceSpans.Proofs.Sentence.Letters
import SentenceSpans.Proofs.Sentence.Unbroken

/-!
# Abbreviations inside a record

An abbreviation is made of letters and full stops.  The sentence rules leave such a word together:
they never cut behind a letter, and a full stop inside the word has a letter before and after it.
Behind the last full stop they cut after the blanks, if at all.  The segment that ends there has the
abbreviation as its last word, since the only cuts before are those outside the word; so the cut is
removed.

Results:
1. `cutBetween_of_cased`, `cutBetween_fullStop`, `cutBetween_blank`: three places where the rules
   do not cut.
2. `isDotted_of_isUnconditional`: what every unconditional abbreviation looks like.
3. `isUnbroken_append`: no cut is inside an abbreviation or the blanks after it.
4. `finalDottedWord_append`: the word that decides about a cut, behind white space and opening
   punctuation; `suppressesBreak_of_isDotted`: the cut after the blanks is a false one.
5. `not_stop_of_isUnconditional`: no sentence ends in any of these places.
-/

namespace SentenceSpans

open Unicode

/-! ## Definitions -/

/-- Two or more capitals from A to Z, each with a full stop after it. -/
def IsCapitalInitialism (word : List Char) : Prop :=
  ∃ letters : List Char, 2 ≤ letters.length ∧ (∀ c ∈ letters, 'A' ≤ c ∧ c ≤ 'Z') ∧
    word = letters.flatMap fun c => [c, '.']

/-- The abbreviations that never end a sentence, whatever follows. -/
def IsUnconditional (word : List Char) : Prop :=
  word ∈ titleAbbreviations ∨ word ∈ nonTerminalAbbreviations ∨ IsCapitalInitialism word

def isCased (c : Char) : Bool :=
  SentenceBreak.ofChar c = .upper || SentenceBreak.ofChar c = .lower

/-- Letters with case and full stops, each full stop between two letters, but for a last one. -/
structure IsDotted (word : List Char) : Prop where
  spelled : ∀ c ∈ word, isCased c = true ∨ SentenceBreak.ofChar c = .aTerm
  first : ∀ c ∈ word.head?, isCased c = true
  apart : word.IsChain fun c next => isCased c = true ∨ isCased next = true
  last : word.getLast? = some '.'

theorem isCased_iff {c : Char} :
    isCased c = true ↔ SentenceBreak.ofChar c = .upper ∨ SentenceBreak.ofChar c = .lower := by
  rw [isCased, Bool.or_eq_true, decide_eq_true_eq, decide_eq_true_eq]

/-! ## 1. Places without a cut -/

/-- No rule cuts behind a letter. -/
theorem cutBetween_of_cased {c : Char} (cased : isCased c = true)
    (earlier after : List SentenceBreak) :
    cutBetween (SentenceBreak.ofChar c :: earlier) after = false := by
  cases after with
  | nil => rfl
  | cons next later =>
      rcases isCased_iff.1 cased with upper | lower
      · rw [upper]
        simp [cutBetween, SentenceBreak.isParagraphEnd, endMark?, SentenceBreak.isSentenceEnd]
      · rw [lower]
        simp [cutBetween, SentenceBreak.isParagraphEnd, endMark?, SentenceBreak.isSentenceEnd]

/-- A full stop between two letters is inside a word: before a capital by SB7, before a small letter
by SB8. -/
theorem cutBetween_fullStop {before after : Char} (cased : isCased before = true)
    (casedAfter : isCased after = true) (earlier later : List SentenceBreak) :
    cutBetween (.aTerm :: SentenceBreak.ofChar before :: earlier)
      (SentenceBreak.ofChar after :: later) = false := by
  rcases isCased_iff.1 casedAfter with upper | lower
  · rw [upper]
    simp [cutBetween, SentenceBreak.isParagraphEnd, isCased_iff.1 cased]
  · rw [lower]
    simp [cutBetween, SentenceBreak.isParagraphEnd, neverStarts, SentenceBreak.isSentenceEnd,
      endMark?, goesOnInLowerCase, settlesCase]

/-- No rule cuts before a blank, unless a paragraph ends there. -/
theorem cutBetween_blank {previous : SentenceBreak} (inside : previous.isParagraphEnd = false)
    (earlier later : List SentenceBreak) :
    cutBetween (previous :: earlier) (.sp :: later) = false := by
  simp [cutBetween, inside, neverStarts]

/-! ## 2. What abbreviations look like -/

theorem capital_parts {c : Char} (bounds : 'A' ≤ c ∧ c ≤ 'Z') :
    isCased c = true ∧ isUppercaseLetter c = true := by
  have capital : c.isUpper = true := decide_eq_true bounds
  obtain ⟨kind, letter, _⟩ := upper_parts capital
  exact ⟨isCased_iff.2 (.inl kind), letter⟩

theorem isDotted_of_mem {word : List Char}
    (listed : word ∈ titleAbbreviations ++ nonTerminalAbbreviations ++ numericAbbreviations) :
    IsDotted word := by
  have all : ∀ word ∈ titleAbbreviations ++ nonTerminalAbbreviations ++ numericAbbreviations,
      (word.all fun c => isCased c || SentenceBreak.ofChar c = .aTerm) = true ∧
        word.head?.all isCased = true ∧
        (word.IsChain fun c next => isCased c = true ∨ isCased next = true) ∧
        word.getLast? = some '.' := by
    decide +kernel
  obtain ⟨spelled, first, apart, last⟩ := all word listed
  refine ⟨?_, (Option.all_eq_true _ _).1 first, apart, last⟩
  intro c member
  have kind := List.all_eq_true.1 spelled c member
  rwa [Bool.or_eq_true, decide_eq_true_eq] at kind

theorem isDotted_of_capitals {letters : List Char} (nonempty : letters ≠ [])
    (capitals : ∀ c ∈ letters, 'A' ≤ c ∧ c ≤ 'Z') :
    IsDotted (letters.flatMap fun c => [c, '.']) where
  spelled c member := by
    obtain ⟨letter, present, place⟩ := List.mem_flatMap.1 member
    rcases List.mem_cons.1 place with rfl | stop
    · exact .inl (capital_parts (capitals c present)).1
    · rw [List.mem_singleton.1 stop]
      exact .inr (by decide +kernel)
  first c found := by
    cases letters with
    | nil => cases found
    | cons letter rest =>
        cases found
        exact (capital_parts (capitals c List.mem_cons_self)).1
  apart := by
    induction letters with
    | nil => exact List.isChain_nil
    | cons letter rest ih =>
        have cased := (capital_parts (capitals letter List.mem_cons_self)).1
        rw [List.flatMap_cons, List.cons_append, List.singleton_append]
        refine List.isChain_cons_cons.2 ⟨.inl cased, ?_⟩
        cases rest with
        | nil => exact List.isChain_singleton '.'
        | cons next rest =>
            have nextCased := (capital_parts (capitals next (by simp))).1
            have later := ih (by simp) fun c member =>
              capitals c (List.mem_cons_of_mem letter member)
            exact List.isChain_cons_cons.2 ⟨.inr nextCased, later⟩
  last := by
    obtain ⟨front, letter, rfl⟩ := exists_concat nonempty
    rw [List.flatMap_append, List.flatMap_singleton, List.getLast?_append_of_ne_nil _ (by simp)]
    rfl

theorem isInitialism_of_capitals {letters : List Char} (several : 2 ≤ letters.length)
    (capitals : ∀ c ∈ letters, 'A' ≤ c ∧ c ≤ 'Z') :
    isInitialism (letters.flatMap fun c => [c, '.']) = true := by
  have dotted : isDottedCapitals (letters.flatMap fun c => [c, '.']) = true := by
    clear several
    induction letters with
    | nil => rfl
    | cons letter rest ih =>
        have upper := (capital_parts (capitals letter List.mem_cons_self)).2
        have later := ih fun c member => capitals c (List.mem_cons_of_mem letter member)
        rw [List.flatMap_cons, List.cons_append, List.singleton_append, isDottedCapitals, upper,
          later]
        rfl
  have size : (letters.flatMap fun c => [c, '.']).length = 2 * letters.length := by
    simp [List.length_flatMap, Nat.mul_comm]
  rw [isInitialism, dotted, size, Bool.true_and, decide_eq_true_eq]
  omega

theorem isDotted_of_isUnconditional {word : List Char} (known : IsUnconditional word) :
    IsDotted word := by
  rcases known with title | other | ⟨letters, several, capitals, rfl⟩
  · exact isDotted_of_mem (List.mem_append_left _ (List.mem_append_left _ title))
  · exact isDotted_of_mem (List.mem_append_left _ (List.mem_append_right _ other))
  · refine isDotted_of_capitals ?_ capitals
    rintro rfl
    exact absurd several (by decide)

theorem isAbbreviation_of_isUnconditional {word : List Char} (known : IsUnconditional word) :
    isAbbreviation word = true := by
  rw [isAbbreviation, Bool.or_eq_true, Bool.or_eq_true, isTitleAbbreviation,
    List.contains_iff_mem, List.contains_iff_mem]
  rcases known with title | other | ⟨letters, several, capitals, rfl⟩
  · exact .inl (.inl title)
  · exact .inl (.inr other)
  · exact .inr (isInitialism_of_capitals several capitals)

/-! ## 3. No cut inside an abbreviation -/

section Inside

variable {word blanks : List Char}

theorem ofChar_inside (dotted : IsDotted word)
    (blank : ∀ c ∈ blanks, SentenceBreak.ofChar c = .sp) {c : Char} (member : c ∈ word ++ blanks) :
    SentenceBreak.ofChar c = .upper ∨ SentenceBreak.ofChar c = .lower ∨
      SentenceBreak.ofChar c = .aTerm ∨ SentenceBreak.ofChar c = .sp := by
  rcases List.mem_append.1 member with inWord | inBlanks
  · rcases dotted.spelled c inWord with cased | stop
    · exact (isCased_iff.1 cased).elim .inl fun lower => .inr (.inl lower)
    · exact .inr (.inr (.inl stop))
  · exact .inr (.inr (.inr (blank c inBlanks)))

theorem ne_attached_inside (dotted : IsDotted word)
    (blank : ∀ c ∈ blanks, SentenceBreak.ofChar c = .sp) {c : Char} (member : c ∈ word ++ blanks) :
    SentenceBreak.ofChar c ≠ .attached := by
  rcases ofChar_inside dotted blank member with kind | kind | kind | kind <;> rw [kind] <;> decide

/-- Two neighbours in a word with blanks after it: the second one is a blank, or both belong to the
word. -/
theorem mem_or_inside {front back : List Char} {a b : Char}
    (split : word ++ blanks = front ++ a :: b :: back) :
    b ∈ blanks ∨ ∃ others, word = front ++ a :: b :: others := by
  have regrouped : word ++ blanks = (front ++ [a]) ++ (b :: back) := by simp [split]
  rcases List.append_eq_append_iff.1 regrouped with ⟨middle, _, tail⟩ | ⟨middle, longer, tail⟩
  · exact .inl (by simp [tail])
  · cases middle with
    | nil =>
        rw [List.nil_append] at tail
        exact .inl (by simp [← tail])
    | cons c others =>
        obtain ⟨rfl, _⟩ := List.cons.inj tail
        exact .inr ⟨others, by simp [longer]⟩

theorem cutBetween_inside (dotted : IsDotted word)
    (blank : ∀ c ∈ blanks, SentenceBreak.ofChar c = .sp) {front back : List Char} {a b : Char}
    (split : word ++ blanks = front ++ a :: b :: back) (earlier later : List SentenceBreak) :
    cutBetween (SentenceBreak.ofChar a :: ((front.map SentenceBreak.ofChar).reverse ++ earlier))
      (SentenceBreak.ofChar b :: later) = false := by
  rcases mem_or_inside split with inBlanks | ⟨others, inside⟩
  · rw [blank b inBlanks]
    apply cutBetween_blank
    have member : a ∈ word ++ blanks := by simp [split]
    rcases ofChar_inside dotted blank member with kind | kind | kind | kind <;> rw [kind] <;> rfl
  · have chain := dotted.apart
    rw [inside] at chain
    by_cases cased : isCased a = true
    · exact cutBetween_of_cased cased _ _
    · -- Two neighbours are not both full stops, and the first character is none.
      have stop : SentenceBreak.ofChar a = .aTerm :=
        (dotted.spelled a (by simp [inside])).resolve_left cased
      have casedAfter : isCased b = true :=
        (List.isChain_cons_cons.1 (List.IsChain.right_of_append chain)).1.resolve_left cased
      rcases List.eq_nil_or_concat front with rfl | ⟨fewer, letter, rfl⟩
      · exact absurd (dotted.first a (by simp [inside])) cased
      · rw [List.concat_eq_append, List.append_assoc] at chain
        have casedBefore : isCased letter = true :=
          (List.isChain_cons_cons.1 (List.IsChain.right_of_append chain)).1.resolve_right cased
        rw [stop, List.concat_eq_append, List.map_append, List.reverse_append]
        exact cutBetween_fullStop casedBefore casedAfter _ _

theorem isUnbroken_append (dotted : IsDotted word)
    (blank : ∀ c ∈ blanks, SentenceBreak.ofChar c = .sp) : IsUnbroken (word ++ blanks) := by
  apply isUnbroken_of_uncut
  · intro c member
    exact ne_attached_inside dotted blank member
  · intro front a b back split
    exact cutBetween_inside dotted blank split

/-- The same in byte positions: every cut is before the word or behind the blanks. -/
theorem byteLength_le_of_isCut (dotted : IsDotted word)
    (blank : ∀ c ∈ blanks, SentenceBreak.ofChar c = .sp) {lead rest front back : List Char}
    (cut : IsCut (segments (lead ++ (word ++ blanks) ++ rest)) front back) :
    byteLength front ≤ byteLength lead ∨
      byteLength (lead ++ (word ++ blanks)) ≤ byteLength front :=
  (isUnbroken_append dotted blank).le_or_le_of_isCut cut

end Inside

/-! ## 4. The cut after an abbreviation -/

theorem isCased_of_isOpeningPunctuation {c : Char} (opens : isOpeningPunctuation c = true) :
    isCased c = false ∧ isWhiteSpace c = false := by
  have kind := ofChar_of_isOpeningPunctuation opens
  constructor
  · rw [isCased, kind]
    rfl
  · rw [Bool.eq_false_iff]
    intro white
    rcases ofChar_of_isWhiteSpace white with other | other | other | other <;>
      rw [other] at kind <;> cases kind

theorem IsDotted.isWordChar {word : List Char} (dotted : IsDotted word) {c : Char}
    (member : c ∈ word) : Words.isWordChar c = true := by
  rw [Words.isWordChar, Bool.not_eq_true', Bool.eq_false_iff]
  intro white
  have kind := dotted.spelled c member
  rw [isCased_iff] at kind
  rcases ofChar_of_isWhiteSpace white with other | other | other | other <;>
    rw [other] at kind <;> revert kind <;> decide

theorem IsDotted.ne_opening {word : List Char} (dotted : IsDotted word) :
    ∀ c ∈ word.head?, isOpeningPunctuation c = false := by
  intro c found
  rw [Bool.eq_false_iff]
  intro opens
  have cased := dotted.first c found
  rw [(isCased_of_isOpeningPunctuation opens).1] at cased
  cases cased

/-- Opening punctuation belongs to words, like what stands behind it. -/
theorem isWordChar_of_isOpeningPunctuation {c : Char} (opens : isOpeningPunctuation c = true) :
    Words.isWordChar c = true := by
  rw [Words.isWordChar, (isCased_of_isOpeningPunctuation opens).2]
  rfl

theorem stripOpening_append_of_opens {opening : List Char}
    (opens : ∀ c ∈ opening, isOpeningPunctuation c = true) (word : List Char) :
    stripOpening (opening ++ word) = stripOpening word :=
  List.dropWhile_append_of_pos opens

/-- Opening punctuation in front of a word is taken off again. -/
theorem stripOpening_append {opening word : List Char}
    (opens : ∀ c ∈ opening, isOpeningPunctuation c = true)
    (closed : ∀ c ∈ word.head?, isOpeningPunctuation c = false) :
    stripOpening (opening ++ word) = word := by
  rw [stripOpening_append_of_opens opens]
  cases word with
  | nil => rfl
  | cons c rest =>
      rw [stripOpening, List.dropWhile_cons, closed c rfl]
      rfl

/-- The word in front of a cut is the last one before the blanks, without opening punctuation. -/
theorem finalDottedWord_append {front opening word blanks : List Char}
    (opened : ∀ c, front.getLast? = some c → isWhiteSpace c = true)
    (opens : ∀ c ∈ opening, isOpeningPunctuation c = true)
    (visible : ∀ c ∈ word, Words.isWordChar c = true)
    (closed : ∀ c ∈ word.head?, isOpeningPunctuation c = false)
    (dot : word.getLast? = some '.') (blank : ∀ c ∈ blanks, isWhiteSpace c = true) :
    finalDottedWord (front ++ (opening ++ word) ++ blanks) = some word := by
  have nonempty : word ≠ [] := by
    rintro rfl
    cases dot
  have whole : ∀ c ∈ opening ++ word, Words.isWordChar c = true := by
    intro c member
    rcases List.mem_append.1 member with inOpening | inWord
    · exact isWordChar_of_isOpeningPunctuation (opens c inOpening)
    · exact visible c inWord
  have last : Words.last (front ++ (opening ++ word) ++ blanks) = opening ++ word := by
    rw [Words.last_append_of_whiteSpace blank]
    exact Words.last_append_of_word (by simp [nonempty]) whole opened
  have lastDot : (opening ++ word).getLast? = some '.' := by
    rw [List.getLast?_append_of_ne_nil _ nonempty, dot]
  rw [finalDottedWord, last]
  simp only [lastDot, if_true, stripOpening_append opens closed]

theorem suppressesBreak_of_isDotted {word : List Char} (dotted : IsDotted word)
    (known : isAbbreviation word = true) {front opening blanks : List Char}
    (opened : ∀ c, front.getLast? = some c → isWhiteSpace c = true)
    (opens : ∀ c ∈ opening, isOpeningPunctuation c = true)
    (blank : ∀ c ∈ blanks, isWhiteSpace c = true) (next : List Char) :
    suppressesBreak (front ++ (opening ++ word) ++ blanks) next = true := by
  have final := finalDottedWord_append opened opens (fun _ => dotted.isWordChar) dotted.ne_opening
    dotted.last blank
  rw [suppressesBreak, final]
  exact if_pos known

/-! ## 5. No sentence ends there -/

/-- What stands behind an early place of `pre ++ opening` is opening punctuation behind nothing or
behind white space. -/
theorem exists_opened {pre opening front back : List Char}
    (bounded : ∀ c, pre.getLast? = some c → isWhiteSpace c = true)
    (opens : ∀ c ∈ opening, isOpeningPunctuation c = true)
    (split : pre ++ opening = front ++ back) :
    ∃ before signs, back = before ++ signs ∧
      (∀ c, before.getLast? = some c → isWhiteSpace c = true) ∧
      ∀ c ∈ signs, isOpeningPunctuation c = true := by
  rcases List.append_eq_append_iff.1 split with ⟨middle, _, rfl⟩ | ⟨middle, rfl, rfl⟩
  · refine ⟨[], back, rfl, ?_, ?_⟩
    · intro c found
      cases found
    · intro c member
      exact opens c (List.mem_append_right _ member)
  · refine ⟨middle, opening, rfl, ?_, opens⟩
    intro c found
    obtain ⟨fewer, rfl⟩ := List.getLast?_eq_some_iff.1 found
    apply bounded
    rw [← List.append_assoc]
    exact List.getLast?_concat

/-- The segment that ends behind the blanks ends in the word and the blanks, since it starts before
the word; at most opening punctuation stands between the last white space in it and the word. -/
theorem IsUnbroken.exists_opened {pre opening word blanks rest segment : List Char}
    {front back : List (List Char)} (unbroken : IsUnbroken (word ++ blanks))
    (bounded : ∀ c, pre.getLast? = some c → isWhiteSpace c = true)
    (opens : ∀ c ∈ opening, isOpeningPunctuation c = true)
    (split : segments (pre ++ opening ++ (word ++ blanks) ++ rest) = front ++ segment :: back)
    (ends : front.flatten ++ segment = pre ++ opening ++ (word ++ blanks)) :
    ∃ before signs, segment = before ++ (signs ++ word) ++ blanks ∧
      (∀ c, before.getLast? = some c → isWhiteSpace c = true) ∧
      ∀ c ∈ signs, isOpeningPunctuation c = true := by
  obtain ⟨middle, opened, rfl⟩ := unbroken.exists_lead split ends
  obtain ⟨before, signs, rfl, clear, marks⟩ := SentenceSpans.exists_opened bounded opens opened
  refine ⟨before, signs, ?_, clear, marks⟩
  simp only [List.append_assoc]

theorem exists_opened_segment {pre opening word blanks rest segment : List Char}
    {front back : List (List Char)} (dotted : IsDotted word)
    (blank : ∀ c ∈ blanks, SentenceBreak.ofChar c = .sp)
    (bounded : ∀ c, pre.getLast? = some c → isWhiteSpace c = true)
    (opens : ∀ c ∈ opening, isOpeningPunctuation c = true)
    (split : segments (pre ++ opening ++ (word ++ blanks) ++ rest) = front ++ segment :: back)
    (ends : front.flatten ++ segment = pre ++ opening ++ (word ++ blanks)) :
    ∃ before signs, segment = before ++ (signs ++ word) ++ blanks ∧
      (∀ c, before.getLast? = some c → isWhiteSpace c = true) ∧
      ∀ c ∈ signs, isOpeningPunctuation c = true :=
  (isUnbroken_append dotted blank).exists_opened bounded opens split ends

theorem ofChar_blank {c : Char} (blank : c = ' ' ∨ c = '\t') :
    SentenceBreak.ofChar c = .sp ∧ isWhiteSpace c = true := by
  rcases blank with rfl | rfl <;> decide +kernel

/-- When more text follows, no sentence ends inside an unconditional abbreviation that starts a
word, behind it, or in the blanks after it. -/
theorem not_stop_of_isUnconditional {pre opening word blanks rest : List Char}
    (bounded : ∀ c ∈ pre.getLast?, isWhiteSpace c = true)
    (opens : ∀ c ∈ opening, isOpeningPunctuation c = true) (known : IsUnconditional word)
    (blank : ∀ c ∈ blanks, c = ' ' ∨ c = '\t') (more : rest ≠ []) :
    ∀ range ∈ sentenceRanges (pre ++ opening ++ word ++ blanks ++ rest),
      ¬ (byteLength (pre ++ opening) < range.stop ∧
        range.stop ≤ byteLength (pre ++ opening ++ word ++ blanks)) := by
  have dotted : IsDotted word := isDotted_of_isUnconditional known
  have spaces : ∀ c ∈ blanks, SentenceBreak.ofChar c = .sp := fun c member =>
    (ofChar_blank (blank c member)).1
  have white : ∀ c ∈ blanks, isWhiteSpace c = true := fun c member =>
    (ofChar_blank (blank c member)).2
  rw [List.append_assoc _ word blanks]
  rintro range member ⟨behind, upTo⟩
  rw [sentenceRanges_eq] at member
  have ends := stop_layOut_sentencesOf_iff.1 ⟨range, member, rfl⟩
  have flat := flatten_segments (pre ++ opening ++ (word ++ blanks) ++ rest)
  rcases ends with ⟨_, whole⟩ | ⟨front, segment, next, back, split, kept, stop⟩
  · -- The end of the text lies behind the blanks.
    have size : 0 < byteLength rest := byteLength_pos more
    rw [flat, byteLength_append _ rest] at whole
    omega
  · have cut : IsCut (segments (pre ++ opening ++ (word ++ blanks) ++ rest))
        (front.flatten ++ segment) (next :: back).flatten :=
      ⟨front ++ [segment], next :: back, by rw [split, List.append_assoc]; rfl, by simp, rfl⟩
    -- The cut is not inside the word or the blanks, so it is behind both.
    have reaches := (byteLength_le_of_isCut dotted spaces cut).resolve_left (by omega)
    rw [cut.flatten_eq] at flat
    obtain ⟨same, _⟩ := front_eq_of_byteLength_eq flat (by omega)
    obtain ⟨before, signs, rfl, clear, marks⟩ :=
      exists_opened_segment dotted spaces bounded opens split same
    rw [suppressesBreak_of_isDotted dotted (isAbbreviation_of_isUnconditional known) clear marks
      white next] at kept
    cases kept

/-- An initialism in quotation marks behind a line separator; the rules cut after the blanks. -/
theorem not_stop_of_isUnconditional_quoted :
    (∀ c ∈ "He left.\u2028".toList.getLast?, isWhiteSpace c = true) ∧
      (∀ c ∈ "(\u201C".toList, isOpeningPunctuation c = true) ∧ IsUnconditional "U.S.".toList ∧
      (∀ c ∈ " \t".toList, c = ' ' ∨ c = '\t') ∧ "Then rest. Ok.".toList ≠ [] ∧
      suppressedBreaks ("He left.\u2028".toList ++ "(\u201C".toList ++ "U.S.".toList ++
        " \t".toList ++ "Then rest. Ok.".toList) = [21] ∧
      ∀ range ∈ sentenceRanges ("He left.\u2028".toList ++ "(\u201C".toList ++ "U.S.".toList ++
          " \t".toList ++ "Then rest. Ok.".toList),
        ¬ (byteLength ("He left.\u2028".toList ++ "(\u201C".toList) < range.stop ∧
          range.stop ≤ byteLength ("He left.\u2028".toList ++ "(\u201C".toList ++ "U.S.".toList ++
            " \t".toList)) := by
  have bounded : ∀ c ∈ "He left.\u2028".toList.getLast?, isWhiteSpace c = true := by
    have last : "He left.\u2028".toList.getLast? = some '\u2028' := by decide
    rw [last]
    rintro c ⟨⟩
    decide +kernel
  have opens : ∀ c ∈ "(\u201C".toList, isOpeningPunctuation c = true :=
    List.all_eq_true.1 (by decide)
  have known : IsUnconditional "U.S.".toList :=
    .inr (.inr ⟨['U', 'S'], by decide, by simp, by decide⟩)
  have blank : ∀ c ∈ " \t".toList, c = ' ' ∨ c = '\t' := by
    intro c member
    have listed : c ∈ [' ', '\t'] := member
    simpa using listed
  have more : "Then rest. Ok.".toList ≠ [] := by decide
  exact ⟨bounded, opens, known, blank, more, by decide +kernel,
    not_stop_of_isUnconditional bounded opens known blank more⟩

end SentenceSpans
