import SentenceSpans.Unicode.WhiteSpace

/-!
# First and last words

A word is a run of characters without white space that no such character extends.  Deciding
whether a full stop ends a sentence looks at two words only: the last one before the break and the
first one after it.

Text before or behind a word does not change it, as long as white space keeps the two apart.
-/

namespace SentenceSpans.Words

open Unicode

def isWordChar (c : Char) : Bool := !isWhiteSpace c

/-- The first word of a text; empty when the text holds no word. -/
def first (text : List Char) : List Char :=
  (text.dropWhile isWhiteSpace).takeWhile isWordChar

/-- The last word of a text; empty when the text holds no word. -/
def last (text : List Char) : List Char :=
  (first text.reverse).reverse

/-- White space before the first word does not matter. -/
theorem first_append_of_whiteSpace {blank : List Char}
    (blanks : ∀ c ∈ blank, isWhiteSpace c = true) (text : List Char) :
    first (blank ++ text) = first text := by
  rw [first, List.dropWhile_append_of_pos blanks, first]

/-- White space after the last word does not matter. -/
theorem last_append_of_whiteSpace {blank : List Char}
    (blanks : ∀ c ∈ blank, isWhiteSpace c = true) (text : List Char) :
    last (text ++ blank) = last text := by
  have reversed : ∀ c ∈ blank.reverse, isWhiteSpace c = true := by
    intro c member
    exact blanks c (List.mem_reverse.1 member)
  rw [last, List.reverse_append, first_append_of_whiteSpace reversed, last]

/-- A text that starts with a word is scanned from its start. -/
theorem first_of_visible {text : List Char} (starts : ∀ c ∈ text.head?, isWordChar c = true) :
    first text = text.takeWhile isWordChar := by
  cases text with
  | nil => rfl
  | cons c rest =>
      have visible : isWhiteSpace c = false := by
        simpa [isWordChar] using starts c rfl
      rw [first, List.dropWhile_cons, visible, if_neg (by decide)]

/-- Characters of a word in front of a text without white space there belong to its first word. -/
theorem first_append_of_visible {front text : List Char}
    (whole : ∀ c ∈ front, isWordChar c = true) (starts : ∀ c ∈ text.head?, isWordChar c = true) :
    first (front ++ text) = front ++ first text := by
  have starting : ∀ c ∈ (front ++ text).head?, isWordChar c = true := by
    cases front with
    | nil => exact starts
    | cons d rest => simpa using whole d List.mem_cons_self
  rw [first_of_visible starting, List.takeWhile_append_of_pos whole, first_of_visible starts]

/-- A word that white space or the end of the text closes is the first one. -/
theorem first_append_of_word {word back : List Char} (nonempty : word ≠ [])
    (whole : ∀ c ∈ word, isWordChar c = true)
    (closed : ∀ c, back.head? = some c → isWhiteSpace c = true) : first (word ++ back) = word := by
  obtain ⟨c, rest, rfl⟩ := List.exists_cons_of_ne_nil nonempty
  have ends : back.takeWhile isWordChar = [] := by
    cases back with
    | nil => rfl
    | cons d others =>
        rw [List.takeWhile_cons, isWordChar, closed d rfl]
        rfl
  rw [first_of_visible, List.takeWhile_append_of_pos whole, ends, List.append_nil]
  simpa using whole c List.mem_cons_self

/-- A word that white space or the start of the text opens is the last one. -/
theorem last_append_of_word {front word : List Char} (nonempty : word ≠ [])
    (whole : ∀ c ∈ word, isWordChar c = true)
    (opened : ∀ c, front.getLast? = some c → isWhiteSpace c = true) :
    last (front ++ word) = word := by
  rw [last, List.reverse_append, first_append_of_word, List.reverse_reverse]
  · rwa [Ne, List.reverse_eq_nil_iff]
  · intro c member
    exact whole c (List.mem_reverse.1 member)
  · intro c found
    rw [List.head?_reverse] at found
    exact opened c found

/-- A text that is one word is its own last word. -/
theorem last_of_visible {text : List Char} (whole : ∀ c ∈ text, isWordChar c = true) :
    last text = text := by
  by_cases empty : text = []
  · rw [empty]
    rfl
  · have alone : last ([] ++ text) = text := last_append_of_word empty whole nofun
    exact alone

/-- The first character that is not white space starts the first word. -/
theorem head?_first (text : List Char) : (first text).head? = text.find? isWordChar := by
  induction text with
  | nil => rfl
  | cons c rest ih =>
      cases white : isWhiteSpace c with
      | true =>
          have later : first (c :: rest) = first rest := by
            rw [first, List.dropWhile_cons, white, if_pos rfl, first]
          rw [later, ih, List.find?_cons_of_neg (by simp [isWordChar, white])]
      | false =>
          have visible : isWordChar c = true := by simp [isWordChar, white]
          rw [first_of_visible (by simp [visible]), List.takeWhile_cons_of_pos visible,
            List.find?_cons_of_pos visible, List.head?_cons]

/-- The first word of a text that is not blank lies between white space and white space, or the end
of the text. -/
theorem exists_first {text : List Char} (visible : ∃ c ∈ text, isWordChar c = true) :
    ∃ blank word back, text = blank ++ (word ++ back) ∧ first text = word ∧ word ≠ [] ∧
      (∀ c ∈ blank, isWhiteSpace c = true) ∧ (∀ c ∈ word, isWordChar c = true) ∧
      ∀ c ∈ back.head?, isWhiteSpace c = true := by
  refine ⟨text.takeWhile isWhiteSpace, first text,
    (text.dropWhile isWhiteSpace).dropWhile isWordChar, ?_, rfl, ?_, ?_, ?_, ?_⟩
  · rw [first, List.takeWhile_append_dropWhile, List.takeWhile_append_dropWhile]
  · intro empty
    have none := head?_first text
    rw [empty, List.head?_nil, eq_comm, List.find?_eq_none] at none
    obtain ⟨c, member, seen⟩ := visible
    exact none c member seen
  · exact List.all_eq_true.1 List.all_takeWhile
  · exact List.all_eq_true.1 List.all_takeWhile
  · intro c found
    have stopped := List.head?_dropWhile_not isWordChar (text.dropWhile isWhiteSpace)
    rw [Option.mem_def.1 found] at stopped
    simpa [isWordChar] using stopped

/-- White space behind the first word keeps the rest of a text away from it. -/
theorem first_append_of_closed {text back : List Char} (visible : ∃ c ∈ text, isWordChar c = true)
    (closed : ∀ c ∈ back.head?, isWhiteSpace c = true) : first (text ++ back) = first text := by
  obtain ⟨blank, word, more, split, found, nonempty, blanks, whole, ended⟩ := exists_first visible
  have behind : ∀ c ∈ (more ++ back).head?, isWhiteSpace c = true := by
    cases more with
    | nil => exact closed
    | cons d rest => exact ended
  rw [found, split, List.append_assoc, first_append_of_whiteSpace blanks, List.append_assoc]
  exact first_append_of_word nonempty whole behind

/-- White space in front of the last word keeps the rest of a text away from it. -/
theorem last_append_of_opened {front text : List Char} (visible : ∃ c ∈ text, isWordChar c = true)
    (opened : ∀ c ∈ front.getLast?, isWhiteSpace c = true) : last (front ++ text) = last text := by
  rw [last, List.reverse_append, first_append_of_closed, last]
  · simpa using visible
  · rwa [List.head?_reverse]

/-- The last character that is not white space ends the last word. -/
theorem getLast?_last (text : List Char) :
    (last text).getLast? = text.reverse.find? isWordChar := by
  rw [last, List.getLast?_reverse, head?_first]

end SentenceSpans.Words
