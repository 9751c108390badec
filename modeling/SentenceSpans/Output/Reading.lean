import SentenceSpans.Output.Line

/-!
# Reading output back

The output of a run is a sequence of lines, each a sequence of spans, and every line and every span
is ended by its own mark.  So a text is read by taking it apart at the line feeds, each line at the
semicolons and each span at its comma.  A number has no needless zero in front, so every sequence
of lines has one text only.

## Main statements

  * `Marked.parts?_join`: parts that are joined by a mark and do not hold it are found again.
  * `Marked.join_of_parts?`: a text is its parts, joined by the mark.
-/

namespace SentenceSpans

/-! ## Marked parts -/

namespace Marked

/-- Parts of a text, the mark after each of them. -/
def join (mark : Char) (parts : List (List Char)) : List Char :=
  parts.flatMap fun part => part ++ [mark]

/-- Put one character before the parts that follow it.  Nothing can follow the last mark. -/
def consPart? (mark c : Char) (parts : List (List Char)) : Option (List (List Char)) :=
  if c = mark then some ([] :: parts)
  else
    match parts with
    | [] => none
    | part :: rest => some ((c :: part) :: rest)

/-- The parts of a text, or none when no mark ends the last one. -/
def parts? (mark : Char) : List Char → Option (List (List Char))
  | [] => some []
  | c :: rest => (parts? mark rest).bind (consPart? mark c)

theorem join_nil (mark : Char) : join mark [] = [] := rfl

theorem join_cons (mark : Char) (part : List Char) (rest : List (List Char)) :
    join mark (part :: rest) = part ++ mark :: join mark rest := by
  simp [join]

theorem join_of_consPart? {mark c : Char} {parts longer : List (List Char)}
    (added : consPart? mark c parts = some longer) : join mark longer = c :: join mark parts := by
  unfold consPart? at added
  split at added
  · next same =>
      cases added
      rw [join_cons, same]
      rfl
  · cases parts with
    | nil => cases added
    | cons part rest =>
        cases added
        rw [join_cons, join_cons]
        rfl

theorem join_of_parts? {mark : Char} {text : List Char} {parts : List (List Char)}
    (found : parts? mark text = some parts) : join mark parts = text := by
  induction text generalizing parts with
  | nil =>
      cases found
      exact join_nil mark
  | cons c rest ih =>
      rw [parts?] at found
      obtain ⟨others, earlier, added⟩ := Option.bind_eq_some_iff.1 found
      rw [join_of_consPart? added, ih earlier]

theorem parts?_append {mark : Char} {part text : List Char} {parts : List (List Char)}
    (unmarked : mark ∉ part) (found : parts? mark text = some parts) :
    parts? mark (part ++ mark :: text) = some (part :: parts) := by
  induction part with
  | nil =>
      rw [List.nil_append, parts?, found]
      exact if_pos rfl
  | cons c rest ih =>
      have different : c ≠ mark := by
        intro same
        exact unmarked (by simp [same])
      have later : mark ∉ rest := by
        intro member
        exact unmarked (List.mem_cons_of_mem c member)
      rw [List.cons_append, parts?, ih later]
      exact if_neg different

theorem parts?_join {mark : Char} {parts : List (List Char)}
    (unmarked : ∀ part ∈ parts, mark ∉ part) : parts? mark (join mark parts) = some parts := by
  induction parts with
  | nil => rfl
  | cons part rest ih =>
      rw [join_cons]
      apply parts?_append (unmarked part List.mem_cons_self)
      exact ih fun other member => unmarked other (List.mem_cons_of_mem part member)

end Marked

/-! ## Numbers, spans and lines -/

/-- The number that decimal digits stand for.  Only the number zero starts with a zero. -/
def readNumber? (digits : List Char) : Option Nat :=
  match digits with
  | [] => none
  | ['0'] => some 0
  | '0' :: _ => none
  | c :: rest =>
      if (c :: rest).all Char.isDigit then some (Nat.ofDigitChars 10 (c :: rest) 0) else none

/-- The span that a text without its semicolon stands for: two numbers around a comma. -/
def Span.read? (text : List Char) : Option Span :=
  match text.dropWhile (· ≠ ',') with
  | [] => none
  | _ :: stop =>
      match readNumber? (text.takeWhile (· ≠ ',')), readNumber? stop with
      | some start, some stop => some ⟨start, stop⟩
      | _, _ => none

def readLine? (line : List Char) : Option (List Span) :=
  (Marked.parts? ';' line).bind fun parts => parts.mapM Span.read?

def readOutput? (text : List Char) : Option (List (List Span)) :=
  (Marked.parts? '\n' text).bind fun parts => parts.mapM readLine?

def renderOutput (lines : List (List Span)) : String :=
  String.join (lines.map renderLine)

example : readOutput? "0,3;4,12;\n\n7,7;\n".toList = some [[⟨0, 3⟩, ⟨4, 12⟩], [], [⟨7, 7⟩]] := by
  decide +kernel
example : readOutput? "0,03;\n".toList = none := by decide +kernel
example : readOutput? "0,3;".toList = none := by decide +kernel

end SentenceSpans
