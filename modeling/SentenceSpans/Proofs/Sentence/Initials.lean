import SentenceSpans.Proofs.Sentence.Abbreviations

/-!
# Initials and number abbreviations

A single initial and "No." end a sentence in one text and not in another.  With blanks behind
them, the sentence rules always cut before a capital, and what becomes of the cut hangs on the word
that starts there.  Before a digit they may or may not cut, but there a cut is false in any case.

Results:
1. `isCut_before_capital`: the rules cut between a full stop with blanks and a capital.
2. `IsDecisive.stopsBetween_iff`: the word in front of the blanks decides, with the first word of
   the segment behind them.
3. `continuesWith_initial` and `continuesWith_number`: what the two kinds of words decide.
4. `leadingWord_of_unbroken`: what the first word of a segment starts with.
5. `stopsBetween_contextual`: all of this for whole texts.
-/

namespace SentenceSpans

open Unicode

/-! ## Definitions -/

/-- Letters from A to Z in either case, the first one a capital. -/
def IsCapitalized (word : List Char) : Prop :=
  (∃ c ∈ word.head?, c.isUpper = true) ∧ ∀ c ∈ word, c.isAlpha = true

/-- A word that decides about a cut behind the blanks after it: it ends in a full stop, it has no
opening punctuation in front, and the rules leave it together with the blanks. -/
structure IsDecisive (word blanks : List Char) : Prop where
  visible : ∀ c ∈ word, Words.isWordChar c = true
  closed : ∀ c ∈ word.head?, isOpeningPunctuation c = false
  dot : word.getLast? = some '.'
  unbroken : IsUnbroken (word ++ blanks)

/-! ## 1. Cuts behind blanks -/

theorem cutBetween_of_neverStarts {previous next : SentenceBreak}
    (inside : previous.isParagraphEnd = false) (never : neverStarts previous next = true)
    (earlier later : List SentenceBreak) :
    cutBetween (previous :: earlier) (next :: later) = false := by
  simp [cutBetween, inside, never]

/-- Blanks stay together with the character before them. -/
theorem isChain_cons_replicate {c : Char} (inside : (SentenceBreak.ofChar c).isParagraphEnd = false)
    (count : Nat) :
    (c :: List.replicate count ' ').IsChain fun a b => ∀ earlier later,
      cutBetween (SentenceBreak.ofChar a :: earlier) (SentenceBreak.ofChar b :: later) = false := by
  have apart : ∀ {a : Char}, (SentenceBreak.ofChar a).isParagraphEnd = false →
      ∀ earlier later,
        cutBetween (SentenceBreak.ofChar a :: earlier) (SentenceBreak.ofChar ' ' :: later) =
          false := by
    intro a between earlier later
    rw [ofChar_space]
    exact cutBetween_of_neverStarts between (by simp [neverStarts]) earlier later
  cases count with
  | zero => exact List.isChain_singleton c
  | succ count =>
      refine List.isChain_cons_cons.2 ⟨apart inside, ?_⟩
      exact List.isChain_replicate_of_rel (count + 1) (apart (by rw [ofChar_space]; rfl))

theorem dropWhile_replicate_sp (count : Nat) (rest : List SentenceBreak) :
    (List.replicate count SentenceBreak.sp ++ .aTerm :: rest).dropWhile (· = .sp) =
      .aTerm :: rest := by
  rw [List.dropWhile_append_of_pos]
  · rfl
  · intro kind member
    rw [List.eq_of_mem_replicate member]
    rfl

/-- A full stop is seen through the blanks behind it. -/
theorem endMark?_replicate_sp (count : Nat) (earlier : List SentenceBreak) :
    endMark? (List.replicate count .sp ++ .aTerm :: earlier) = some .aTerm := by
  rw [endMark?, dropWhile_replicate_sp]
  rfl

/-- SB11: a full stop with blanks behind it ends a sentence before a capital. -/
theorem cutBetween_capital (count : Nat) (earlier later : List SentenceBreak) :
    cutBetween (List.replicate (count + 1) .sp ++ .aTerm :: earlier) (.upper :: later) = true := by
  have mark := endMark?_replicate_sp (count + 1) earlier
  rw [List.replicate_succ, List.cons_append] at mark ⊢
  rw [cutBetween, mark]
  rfl

/-- The rules see a full stop with spaces behind it as it is spelled. -/
theorem map_ofChar_fullStop (count : Nat) :
    ('.' :: List.replicate count ' ').map SentenceBreak.ofChar =
      .aTerm :: List.replicate count .sp := by
  rw [List.map_cons, List.map_replicate, ofChar_dot, ofChar_space]

theorem ne_attached_of_fullStop (count : Nat) :
    ∀ c ∈ '.' :: List.replicate count ' ', SentenceBreak.ofChar c ≠ .attached := by
  intro c member
  rcases List.mem_cons.1 member with rfl | blank
  · rw [ofChar_dot]
    decide
  · rw [List.eq_of_mem_replicate blank, ofChar_space]
    decide

theorem isCut_before_capital {c : Char} (capital : SentenceBreak.ofChar c = .upper)
    (lead : List Char) (count : Nat) (rest : List Char) :
    IsCut (segments (lead ++ '.' :: List.replicate (count + 1) ' ' ++ c :: rest))
      (lead ++ '.' :: List.replicate (count + 1) ' ') (c :: rest) := by
  have base : SentenceBreak.ofChar c ≠ .attached := by
    rw [capital]
    decide
  obtain ⟨later, seen⟩ := kinds_cons_of_base base rest
  refine (isCut_segments_iff (by simp) (by simp)).2 ⟨clusters_append_of_base base _ rest, ?_⟩
  rw [kinds_append_of_bases lead (ne_attached_of_fullStop _), seen, capital, map_ofChar_fullStop,
    List.reverse_append, List.reverse_cons, List.reverse_replicate, List.append_assoc]
  exact cutBetween_capital count (kinds lead).reverse later

/-! ## 2. Words that decide -/

namespace IsDecisive

variable {pre opening word blanks rest : List Char}

/-- The segment in front of a place behind the blanks has the word as its last one, so that only the
first word of the segment behind the place is open. -/
theorem stopsBetween_iff (decisive : IsDecisive word blanks)
    (bounded : ∀ c ∈ pre.getLast?, isWhiteSpace c = true)
    (opens : ∀ c ∈ opening, isOpeningPunctuation c = true)
    (white : ∀ c ∈ blanks, isWhiteSpace c = true) (more : rest ≠ []) :
    StopsBetween (pre ++ opening ++ word ++ blanks) rest ↔
      ∃ left next right,
        segments (pre ++ opening ++ word ++ blanks ++ rest) = left ++ next :: right ∧
        left.flatten = pre ++ opening ++ word ++ blanks ∧
        continuesWith word (leadingWord next) = false := by
  have grouped : pre ++ opening ++ word ++ blanks = pre ++ opening ++ (word ++ blanks) :=
    List.append_assoc _ _ _
  have judged : ∀ {left segment right next},
      segments (pre ++ opening ++ (word ++ blanks) ++ rest) = left ++ segment :: next :: right →
      left.flatten ++ segment = pre ++ opening ++ (word ++ blanks) →
      suppressesBreak segment next = continuesWith word (leadingWord next) := by
    intro left segment right next split same
    obtain ⟨before, signs, rfl, clear, marks⟩ :=
      decisive.unbroken.exists_opened bounded opens split same
    rw [suppressesBreak, finalDottedWord_append clear marks decisive.visible decisive.closed
      decisive.dot white]
  rw [SentenceSpans.stopsBetween_iff more, grouped]
  constructor
  · rintro ⟨left, segment, next, right, split, same, _, kept⟩
    refine ⟨left ++ [segment], next, right, ?_, ?_, ?_⟩
    · rw [split, List.append_assoc]
      rfl
    · rw [List.flatten_append, List.flatten_singleton, same]
    · rwa [← judged split same]
  · rintro ⟨left, next, right, split, same, kept⟩
    have nonempty : word ≠ [] := by
      rintro rfl
      cases decisive.dot
    have filled : left ≠ [] := by
      rintro rfl
      exact absurd same.symm (by simp [nonempty])
    obtain ⟨earlier, segment, rfl⟩ := exists_concat filled
    rw [List.append_assoc earlier, List.singleton_append] at split
    rw [List.flatten_append, List.flatten_singleton] at same
    have flat := flatten_segments (pre ++ opening ++ (word ++ blanks) ++ rest)
    rw [split, List.flatten_append, List.flatten_cons, ← List.append_assoc, same] at flat
    exact ⟨earlier, segment, next, right, split, same, List.append_cancel_left flat,
      (judged split same).trans kept⟩

/-- A word of letters with a full stop at its end. -/
theorem of_isDotted (dotted : IsDotted word) (count : Nat) :
    IsDecisive word (List.replicate count ' ') where
  visible _ := dotted.isWordChar
  closed := dotted.ne_opening
  dot := dotted.last
  unbroken := by
    apply isUnbroken_append dotted
    intro c member
    rw [List.eq_of_mem_replicate member, ofChar_space]

/-- A single initial: the full stop stays with any letter. -/
theorem of_initial {initial : Char} (capital : isUppercase initial = true) (count : Nat) :
    IsDecisive [initial, '.'] (List.replicate count ' ') where
  visible c member := by
    rcases List.mem_cons.1 member with rfl | stop
    · exact (inWord_of_isUppercase capital).1
    · rw [List.mem_singleton.1 stop]
      decide +kernel
  closed c found := by
    cases found
    exact (inWord_of_isUppercase capital).2
  dot := rfl
  unbroken := by
    have kind := ofChar_of_isUppercase capital
    apply isUnbroken_of_isChain
    · intro c member
      rcases List.mem_cons.1 member with rfl | later
      · rcases kind with kind | kind <;> rw [kind] <;> decide
      · rcases List.mem_cons.1 later with rfl | blank
        · rw [ofChar_dot]
          decide
        · rw [List.eq_of_mem_replicate blank, ofChar_space]
          decide
    · refine List.isChain_cons_cons.2 ⟨?_, isChain_cons_replicate (by rw [ofChar_dot]; rfl) count⟩
      intro earlier later
      rw [ofChar_dot]
      rcases kind with kind | kind <;> rw [kind] <;>
        exact cutBetween_of_neverStarts rfl (by simp [neverStarts, SentenceBreak.isSentenceEnd])
          earlier later

end IsDecisive

/-! ## 3. What they decide -/

theorem leadingWord_cons {c : Char}
    (inWord : Words.isWordChar c = true ∧ isOpeningPunctuation c = false) (rest : List Char) :
    leadingWord (c :: rest) = c :: rest.takeWhile Words.isWordChar := by
  obtain ⟨visible, closed⟩ := inWord
  have noWhite : isWhiteSpace c = false := by
    rwa [Words.isWordChar, Bool.not_eq_true'] at visible
  rw [leadingWord, Words.first, List.dropWhile_cons, noWhite, if_neg (by decide),
    List.takeWhile_cons, visible, if_pos rfl, stripOpening, List.dropWhile_cons, closed,
    if_neg (by decide)]

theorem isAbbreviation_initial {initial : Char} (capital : isUppercaseLetter initial = true) :
    isAbbreviation [initial, '.'] = false := by
  have all : ∀ word ∈ titleAbbreviations ++ nonTerminalAbbreviations, word.length = 2 →
      word.head?.all isUppercaseLetter = false := by
    decide +kernel
  have unlisted : [initial, '.'] ∉ titleAbbreviations ++ nonTerminalAbbreviations := by
    intro listed
    have small := all _ listed rfl
    rw [List.head?_cons, Option.all_some, capital] at small
    cases small
  rw [List.mem_append, not_or] at unlisted
  rw [isAbbreviation, isTitleAbbreviation, isInitialism, Bool.or_eq_false_iff,
    Bool.or_eq_false_iff, ← Bool.not_eq_true, ← Bool.not_eq_true, List.contains_iff_mem,
    List.contains_iff_mem]
  exact ⟨unlisted, by simp⟩

/-- A single initial joins the word behind it when that is an initial, too, or a name, unless it is
the pronoun "I" and a name follows. -/
theorem continuesWith_initial {initial : Char} (capital : isUppercaseLetter initial = true)
    (next : List Char) :
    continuesWith [initial, '.'] next =
      (startsLikeInitial next || (initial != 'I' && isNameLike next)) := by
  have noNumber : numericAbbreviations.contains [initial, '.'] = false := by
    have all : ∀ word ∈ numericAbbreviations, word.length ≠ 2 := by decide
    rw [← Bool.not_eq_true, List.contains_iff_mem]
    exact fun listed => all _ listed rfl
  have single : isSingleInitial [initial, '.'] = true := by
    simp [isSingleInitial, isDottedCapitals, capital]
  have pronoun : ([initial, '.'] != ['I', '.']) = (initial != 'I') := by
    simp [bne, List.cons_beq_cons]
  unfold continuesWith
  rw [isAbbreviation_initial capital, noNumber, single, pronoun]
  rfl

theorem continuesWith_number {word : List Char} (number : word ∈ numericAbbreviations) (c : Char)
    (rest : List Char) : continuesWith word (c :: rest) = c.isDigit := by
  have all : ∀ word ∈ numericAbbreviations, isAbbreviation word = false := by decide +kernel
  rw [continuesWith, all word number, if_neg (by decide), List.contains_iff_mem.2 number]
  rfl

/-- Before a capitalized word a single initial ends a sentence when it is the pronoun, or when the
word usually starts a sentence. -/
theorem continuesWith_initial_eq_false_iff {initial : Char}
    (capital : isUppercaseLetter initial = true) {word : List Char}
    (capitalized : IsCapitalized word) :
    continuesWith [initial, '.'] word = false ↔ initial = 'I' ∨ word ∈ sentenceStarters := by
  obtain ⟨⟨c, found, upper⟩, letters⟩ := capitalized
  obtain ⟨rest, rfl⟩ := List.head?_eq_some_iff.1 found
  have noInitial : startsLikeInitial (c :: rest) = false := by
    cases rest with
    | nil => rfl
    | cons d others =>
        have noDot : d ≠ '.' := (letter_parts (letters d (by simp))).2.2
        unfold startsLikeInitial
        split
        · next other same =>
            simp only [List.cons.injEq] at same
            exact absurd same.2.1 noDot
        · rfl
  -- The last character is a letter, so that nothing is taken off at the end.
  have core : wordCore (c :: rest) = c :: rest := by
    have kept : ∀ d ∈ (c :: rest).reverse, isAlphanumeric d = true := by
      intro d member
      exact (letter_parts (letters d (List.mem_reverse.1 member))).2.1
    rw [wordCore]
    cases reversed : (c :: rest).reverse with
    | nil => simp at reversed
    | cons last others =>
        have letter : isAlphanumeric last = true :=
          kept last (by rw [reversed]; exact List.mem_cons_self)
        rw [List.dropWhile_cons, letter, Bool.not_true, if_neg (by decide), ← reversed,
          List.reverse_reverse]
  have name : isNameLike (c :: rest) = !sentenceStarters.contains (c :: rest) := by
    rw [isNameLike, core]
    simp only [isUppercase_of_isUppercaseLetter (upper_parts upper).2.1, Bool.true_and]
  rw [continuesWith_initial capital, noInitial, name, Bool.false_or, Bool.and_eq_false_iff,
    Bool.not_eq_false', List.contains_iff_mem, bne_eq_false_iff_eq]

/-! ## 4. The word behind a place -/

/-- A text that the rules leave together starts the first word of the segment it starts. -/
theorem leadingWord_of_unbroken {lead word rest next : List Char} {left right : List (List Char)}
    (unbroken : IsUnbroken word) (nonempty : word ≠ [])
    (visible : ∀ c ∈ word, Words.isWordChar c = true)
    (closed : ∀ c ∈ word.head?, isOpeningPunctuation c = false)
    (split : segments (lead ++ (word ++ rest)) = left ++ next :: right)
    (starts : left.flatten = lead) :
    ∃ more, more ++ right.flatten = rest ∧
      leadingWord next = word ++ more.takeWhile Words.isWordChar := by
  rw [← List.append_assoc] at split
  obtain ⟨more, rfl⟩ := unbroken.exists_rest split starts
  refine ⟨more, ?_, ?_⟩
  · have flat := flatten_segments (lead ++ word ++ rest)
    rw [split, List.flatten_append, starts, List.flatten_cons, List.append_assoc,
      List.append_assoc] at flat
    exact List.append_cancel_left (List.append_cancel_left flat)
  · obtain ⟨c, others, rfl⟩ := List.exists_cons_of_ne_nil nonempty
    rw [List.cons_append, leadingWord_cons ⟨visible c List.mem_cons_self, closed c rfl⟩,
      List.takeWhile_append_of_pos fun d member => visible d (List.mem_cons_of_mem c member)]
    rfl

/-- A capitalized word that is closed by white space or by the end of the text is all of it. -/
theorem leadingWord_of_isCapitalized {lead word tail next : List Char}
    {left right : List (List Char)} (capitalized : IsCapitalized word)
    (closed : ∀ c ∈ tail.head?, isWhiteSpace c = true)
    (split : segments (lead ++ (word ++ tail)) = left ++ next :: right)
    (starts : left.flatten = lead) : leadingWord next = word := by
  obtain ⟨⟨c, found, _⟩, letters⟩ := capitalized
  have nonempty : word ≠ [] := by
    rintro rfl
    cases found
  have cased : ∀ d ∈ word, isCased d = true := by
    intro d member
    exact isCased_iff.2 (letter_parts (letters d member)).1
  have inWord : ∀ d ∈ word, Words.isWordChar d = true ∧ isOpeningPunctuation d = false := by
    intro d member
    exact inWord_of_ofChar ((letter_parts (letters d member)).1.imp_right .inl)
  have unbroken : IsUnbroken word := by
    apply isUnbroken_of_isChain
    · intro d member
      rcases isCased_iff.1 (cased d member) with kind | kind <;> rw [kind] <;> decide
    · apply List.Pairwise.isChain
      apply List.pairwise_of_forall_mem_list
      intro a member b _ earlier later
      exact cutBetween_of_cased (cased a member) earlier _
  obtain ⟨more, behind, first⟩ := leadingWord_of_unbroken unbroken nonempty
    (fun d member => (inWord d member).1) (fun d head => (inWord d (List.mem_of_head? head)).2)
    split starts
  have ended : more.takeWhile Words.isWordChar = [] := by
    cases more with
    | nil => rfl
    | cons d others =>
        have white : isWhiteSpace d = true := closed d (by rw [← behind]; rfl)
        rw [List.takeWhile_cons, Words.isWordChar, white]
        rfl
  rw [first, ended, List.append_nil]

/-- A single character of a word is its first one. -/
theorem leadingWord_of_inWord {lead rest next : List Char} {c : Char}
    {left right : List (List Char)}
    (inWord : Words.isWordChar c = true ∧ isOpeningPunctuation c = false)
    (split : segments (lead ++ c :: rest) = left ++ next :: right) (starts : left.flatten = lead) :
    ∃ others, leadingWord next = c :: others := by
  obtain ⟨visible, closed⟩ := inWord
  obtain ⟨more, _, first⟩ := leadingWord_of_unbroken (isUnbroken_singleton c)
    (List.cons_ne_nil c []) (fun d member => List.mem_singleton.1 member ▸ visible)
    (fun d head => Option.some.inj head ▸ closed) split starts
  exact ⟨_, first⟩

/-- An initial, too, is left together with its full stop. -/
theorem leadingWord_of_capital {lead rest next : List Char} {c : Char}
    {left right : List (List Char)} (capital : c.isUpper = true)
    (split : segments (lead ++ c :: '.' :: rest) = left ++ next :: right)
    (starts : left.flatten = lead) : ∃ others, leadingWord next = c :: '.' :: others := by
  have dotted : IsDotted [c, '.'] :=
    isDotted_of_capitals (List.cons_ne_nil c []) fun d member =>
      of_decide_eq_true (List.mem_singleton.1 member ▸ capital)
  have unbroken := isUnbroken_append dotted (List.forall_mem_nil _)
  rw [List.append_nil] at unbroken
  obtain ⟨more, _, first⟩ := leadingWord_of_unbroken unbroken (List.cons_ne_nil c ['.'])
    (fun d => dotted.isWordChar) dotted.ne_opening split starts
  exact ⟨_, first⟩

/-! ## 5. Whole texts -/

theorem white_of_replicate {count : Nat} :
    ∀ c ∈ List.replicate count ' ', isWhiteSpace c = true := by
  intro c member
  rw [List.eq_of_mem_replicate member]
  exact isWhiteSpace_space

section Contextual

variable {pre opening : List Char} {count : Nat}
  (bounded : ∀ c ∈ pre.getLast?, isWhiteSpace c = true)
  (opens : ∀ c ∈ opening, isOpeningPunctuation c = true)
include bounded opens

/-- Spaces behind a decisive word: the rules cut before a capital, so that the first word of the
segment there settles whether a sentence ends. -/
theorem stopsBetween_before_capital {word : List Char} {c : Char} {rest : List Char}
    (decisive : IsDecisive word (List.replicate (count + 1) ' ')) (capital : c.isUpper = true)
    {answer : Bool}
    (settled : ∀ left next right,
      segments (pre ++ opening ++ word ++ List.replicate (count + 1) ' ' ++ c :: rest) =
        left ++ next :: right →
      left.flatten = pre ++ opening ++ word ++ List.replicate (count + 1) ' ' →
      continuesWith word (leadingWord next) = answer) :
    StopsBetween (pre ++ opening ++ word ++ List.replicate (count + 1) ' ') (c :: rest) ↔
      answer = false := by
  rw [decisive.stopsBetween_iff bounded opens white_of_replicate (by simp)]
  constructor
  · rintro ⟨left, next, right, split, starts, kept⟩
    rw [← settled left next right split starts, kept]
  · intro apart
    obtain ⟨front, same⟩ := List.getLast?_eq_some_iff.1 decisive.dot
    have cut := isCut_before_capital (upper_parts capital).1 (pre ++ opening ++ front) count rest
    rw [← List.singleton_append, ← List.append_assoc, List.append_assoc _ front, ← same] at cut
    obtain ⟨left, segment, next, right, split, starts, _⟩ :=
      cut.exists_neighbours (by simp) (by simp)
    have regrouped : left ++ segment :: next :: right = (left ++ [segment]) ++ next :: right := by
      rw [List.append_assoc, List.singleton_append]
    have ends : (left ++ [segment]).flatten =
        pre ++ opening ++ word ++ List.replicate (count + 1) ' ' := by
      rw [List.flatten_append, List.flatten_singleton, starts]
    rw [regrouped] at split
    exact ⟨left ++ [segment], next, right, split, ends,
      (settled _ next right split ends).trans apart⟩

theorem not_stopsBetween_initials {initial c : Char} (capital : isUppercaseLetter initial = true)
    (upper : c.isUpper = true) (rest : List Char) :
    ¬ StopsBetween (pre ++ opening ++ [initial, '.'] ++ List.replicate (count + 1) ' ')
      (c :: '.' :: rest) := by
  intro stops
  have decisive := IsDecisive.of_initial (isUppercase_of_isUppercaseLetter capital) (count + 1)
  obtain ⟨left, next, right, split, starts, kept⟩ :=
    (decisive.stopsBetween_iff bounded opens white_of_replicate (by simp)).1 stops
  obtain ⟨others, first⟩ := leadingWord_of_capital upper split starts
  rw [first, continuesWith_initial capital, startsLikeInitial,
    isUppercase_of_isUppercaseLetter (upper_parts upper).2.1, Bool.true_or] at kept
  cases kept

theorem stopsBetween_initial_iff {initial : Char} (capital : isUppercaseLetter initial = true)
    {word tail : List Char} (capitalized : IsCapitalized word)
    (closed : ∀ c ∈ tail.head?, isWhiteSpace c = true) :
    StopsBetween (pre ++ opening ++ [initial, '.'] ++ List.replicate (count + 1) ' ')
        (word ++ tail) ↔
      initial = 'I' ∨ word ∈ sentenceStarters := by
  have decisive := IsDecisive.of_initial (isUppercase_of_isUppercaseLetter capital) (count + 1)
  have ⟨⟨c, found, upper⟩, _⟩ := capitalized
  obtain ⟨rest, rfl⟩ := List.head?_eq_some_iff.1 found
  rw [← continuesWith_initial_eq_false_iff capital capitalized]
  apply stopsBetween_before_capital bounded opens decisive upper
  intro left next right split starts
  rw [leadingWord_of_isCapitalized capitalized closed split starts]

theorem stopsBetween_number {number : List Char} (listed : number ∈ numericAbbreviations) (c : Char)
    (rest : List Char) :
    (c.isDigit = true →
        ¬ StopsBetween (pre ++ opening ++ number ++ List.replicate (count + 1) ' ') (c :: rest)) ∧
      (c.isUpper = true →
        StopsBetween (pre ++ opening ++ number ++ List.replicate (count + 1) ' ') (c :: rest)) := by
  have decisive : IsDecisive number (List.replicate (count + 1) ' ') :=
    .of_isDotted (isDotted_of_mem (List.mem_append_right _ listed)) (count + 1)
  constructor
  · intro digit stops
    obtain ⟨left, next, right, split, starts, kept⟩ :=
      (decisive.stopsBetween_iff bounded opens white_of_replicate (by simp)).1 stops
    have inWord := inWord_of_ofChar (.inr (.inr (.inr (ofChar_of_isDigit digit))))
    obtain ⟨others, first⟩ := leadingWord_of_inWord inWord split starts
    rw [first, continuesWith_number listed, digit] at kept
    cases kept
  · intro upper
    refine (stopsBetween_before_capital bounded opens decisive upper ?_).2 rfl
    intro left next right split starts
    have inWord := inWord_of_ofChar (.inl (upper_parts upper).1)
    obtain ⟨others, first⟩ := leadingWord_of_inWord inWord split starts
    rw [first, continuesWith_number listed, (upper_parts upper).2.2]

end Contextual

/-- Behind a single initial or a number abbreviation with spaces after it, what follows settles
whether a sentence ends:

  * before another initial none does;
  * before a capitalized word one does exactly when the initial is the pronoun, or when the word
    usually starts a sentence;
  * behind a number abbreviation none does before a digit, and one does before a capital. -/
theorem stopsBetween_contextual {pre opening blanks : List Char}
    (bounded : ∀ c ∈ pre.getLast?, isWhiteSpace c = true)
    (opens : ∀ c ∈ opening, isOpeningPunctuation c = true)
    (spaced : blanks ≠ []) (spaces : ∀ c ∈ blanks, c = ' ') :
    (∀ initial c rest, isUppercaseLetter initial = true → c.isUpper = true →
        ¬ StopsBetween (pre ++ opening ++ [initial, '.'] ++ blanks) (c :: '.' :: rest)) ∧
      (∀ initial word tail, isUppercaseLetter initial = true → IsCapitalized word →
        (∀ c ∈ tail.head?, isWhiteSpace c = true) →
        (StopsBetween (pre ++ opening ++ [initial, '.'] ++ blanks) (word ++ tail) ↔
          initial = 'I' ∨ word ∈ sentenceStarters)) ∧
      ∀ number ∈ numericAbbreviations, ∀ c rest,
        (c.isDigit = true →
            ¬ StopsBetween (pre ++ opening ++ number ++ blanks) (c :: rest)) ∧
          (c.isUpper = true →
            StopsBetween (pre ++ opening ++ number ++ blanks) (c :: rest)) := by
  obtain ⟨count, rfl⟩ : ∃ count, blanks = List.replicate (count + 1) ' ' := by
    obtain ⟨first, others, rfl⟩ := List.exists_cons_of_ne_nil spaced
    exact ⟨others.length, List.eq_replicate_of_mem spaces⟩
  refine ⟨?_, ?_, ?_⟩
  · intro initial c rest capital upper
    exact not_stopsBetween_initials bounded opens capital upper rest
  · intro initial word tail capital capitalized closed
    exact stopsBetween_initial_iff bounded opens capital capitalized closed
  · intro number listed c rest
    exact stopsBetween_number bounded opens listed c rest

/-- An initial in quotation marks behind a line separator, before another initial, a name and a word
that starts sentences, and a number abbreviation there before a digit and before a capital. -/
theorem stopsBetween_contextual_quoted :
    (∀ c ∈ "He met\u2028".toList.getLast?, isWhiteSpace c = true) ∧
      (∀ c ∈ "(\u201C".toList, isOpeningPunctuation c = true) ∧ "  ".toList ≠ [] ∧
      (∀ c ∈ "  ".toList, c = ' ') ∧ isUppercaseLetter 'É' = true ∧
      IsCapitalized "Smith".toList ∧ IsCapitalized "Then".toList ∧
      (∀ c ∈ "\tleft.".toList.head?, isWhiteSpace c = true) ∧
      "No.".toList ∈ numericAbbreviations ∧
      ¬ StopsBetween ("He met\u2028".toList ++ "(\u201C".toList ++ ['É', '.'] ++ "  ".toList)
        ('R' :: '.' :: " Roe.".toList) ∧
      ¬ StopsBetween ("He met\u2028".toList ++ "(\u201C".toList ++ ['É', '.'] ++ "  ".toList)
        ("Smith".toList ++ "\tleft.".toList) ∧
      StopsBetween ("He met\u2028".toList ++ "(\u201C".toList ++ ['É', '.'] ++ "  ".toList)
        ("Then".toList ++ "\tleft.".toList) ∧
      ¬ StopsBetween ("He met\u2028".toList ++ "(\u201C".toList ++ "No.".toList ++ "  ".toList)
        ('5' :: "th.".toList) ∧
      StopsBetween ("He met\u2028".toList ++ "(\u201C".toList ++ "No.".toList ++ "  ".toList)
        ('I' :: " won't.".toList) := by
  have bounded : ∀ c ∈ "He met\u2028".toList.getLast?, isWhiteSpace c = true := by
    have last : "He met\u2028".toList.getLast? = some '\u2028' := by decide
    rw [last]
    rintro c ⟨⟩
    decide +kernel
  have opens : ∀ c ∈ "(\u201C".toList, isOpeningPunctuation c = true :=
    List.all_eq_true.1 (by decide)
  have spaced : "  ".toList ≠ [] := by decide
  have spaces : ∀ c ∈ "  ".toList, c = ' ' := by
    have two : "  ".toList = List.replicate 2 ' ' := by decide
    rw [two]
    exact fun c member => List.eq_of_mem_replicate member
  have capital : isUppercaseLetter 'É' = true := by decide +kernel
  have name : IsCapitalized "Smith".toList :=
    ⟨⟨'S', by decide, by decide⟩, List.all_eq_true.1 (by decide)⟩
  have starter : IsCapitalized "Then".toList :=
    ⟨⟨'T', by decide, by decide⟩, List.all_eq_true.1 (by decide)⟩
  have closed : ∀ c ∈ "\tleft.".toList.head?, isWhiteSpace c = true := by
    have first : "\tleft.".toList.head? = some '\t' := by decide
    rw [first]
    rintro c ⟨⟩
    decide +kernel
  have number : "No.".toList ∈ numericAbbreviations := by decide
  obtain ⟨initials, words, numbers⟩ := stopsBetween_contextual bounded opens spaced spaces
  refine ⟨bounded, opens, spaced, spaces, capital, name, starter, closed, number,
    initials 'É' 'R' _ capital (by decide), ?_, ?_, (numbers _ number '5' _).1 (by decide),
    (numbers _ number 'I' _).2 (by decide)⟩
  · rw [words 'É' _ _ capital name closed]
    decide
  · rw [words 'É' _ _ capital starter closed]
    decide

end SentenceSpans
