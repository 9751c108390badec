import SentenceSpans.Unicode.Alphabetic
import SentenceSpans.Text.Words

/-!
# Abbreviations

The sentence rules cut after "Dr. " before a capital.  Whether such a cut is false depends on the
last word before it and the first word after it, each without the opening punctuation in front:

  * an abbreviation, of a title or of another word, never ends a sentence;
  * a dotted initialism ("U.S.") never ends a sentence;
  * "No." and "Nos." do not end a sentence before a digit;
  * a single initial ("J.") does not end a sentence before another initial, nor before a name.
    The pronoun "I." only joins further initials.

## Main statements

`suppressesBreak_eq` says that the answer depends on these two words alone.
-/

namespace SentenceSpans

open Unicode

/-! ## Word lists -/

/-- Abbreviations that stand before or after a name. -/
def titleAbbreviations : List (List Char) :=
  ["Mr.", "Mrs.", "Ms.", "Mx.", "Dr.", "Prof.", "Sr.", "Jr.", "St.", "Mt.", "Rev.", "Hon.",
    "Gen.", "Col.", "Capt.", "Lt.", "Sgt.", "Cmdr.", "Adm.", "Gov.", "Sen.", "Rep.", "Pres.",
    "Messrs.", "Mme.", "Mlle."].map String.toList

def nonTerminalAbbreviations : List (List Char) :=
  ["e.g.", "i.e.", "vs.", "cf.", "viz.", "approx.", "ca.", "Fig.", "Figs.", "Vol.", "Vols.",
    "Eq.", "Ch.", "Sec.", "Art.", "pp.", "p.", "Dept.", "Univ.", "Assn.", "Bros.", "Ave.",
    "Blvd.", "Rd."].map String.toList

/-- Abbreviations that a number follows; "No." is also an answer. -/
def numericAbbreviations : List (List Char) :=
  ["No.", "Nos."].map String.toList

/-- Words that start a sentence more often than they are a name. -/
def sentenceStarters : List (List Char) :=
  ["A", "An", "The", "I", "It", "Its", "He", "She", "We", "They", "You", "This", "That",
    "These", "Those", "There", "Here", "Then", "Now", "But", "And", "Or", "So", "Yet", "If",
    "When", "What", "Why", "How", "Who", "Where", "In", "On", "At", "As", "For", "My", "His",
    "Her", "Our", "Their", "Yes", "No", "Not", "After", "Before"].map String.toList

/-! ## Words around a break -/

/-- Quotation marks and brackets that open a quotation or an aside. -/
def isOpeningPunctuation (c : Char) : Bool :=
  c = '"' || c = '\'' || c = '(' || c = '[' || c = '\x7b' || c = '\u201C' || c = '\u2018' ||
    c = '\u00AB'

def stripOpening (word : List Char) : List Char :=
  word.dropWhile isOpeningPunctuation

/-- The last word of a segment, if it ends in a full stop, without opening punctuation. -/
def finalDottedWord (segment : List Char) : Option (List Char) :=
  let word := Words.last segment
  if word.getLast? = some '.' then some (stripOpening word) else none

/-- The first word of a segment without opening punctuation; empty when there is none. -/
def leadingWord (segment : List Char) : List Char :=
  stripOpening (Words.first segment)

/-! ## Kinds of words -/

/-- Upper-case letters, each with a full stop after it. -/
def isDottedCapitals : List Char → Bool
  | [] => true
  | c :: '.' :: rest => isUppercaseLetter c && isDottedCapitals rest
  | _ => false

/-- Two or more upper-case letters, each with a full stop after it. -/
def isInitialism (word : List Char) : Bool :=
  isDottedCapitals word && decide (4 ≤ word.length)

def isSingleInitial (word : List Char) : Bool :=
  isDottedCapitals word && word.length = 2

def isTitleAbbreviation (word : List Char) : Bool :=
  titleAbbreviations.contains word

/-- A word whose full stop never ends a sentence. -/
def isAbbreviation (word : List Char) : Bool :=
  isTitleAbbreviation word || nonTerminalAbbreviations.contains word || isInitialism word

/-- A word that starts like an initial: with a capital and a full stop. -/
def startsLikeInitial : List Char → Bool
  | c :: '.' :: _ => isUppercase c
  | _ => false

/-- A word without what follows its last letter or number. -/
def wordCore (word : List Char) : List Char :=
  (word.reverse.dropWhile fun c => !isAlphanumeric c).reverse

/-- A word that may be a name: it has a capital first and does not usually start a sentence. -/
def isNameLike (word : List Char) : Bool :=
  match wordCore word with
  | [] => false
  | c :: rest => isUppercase c && !sentenceStarters.contains (c :: rest)

/-! ## The decision -/

/-- Whether a sentence that reaches `word` goes on with `next`, the first word after it. -/
def continuesWith (word next : List Char) : Bool :=
  if isAbbreviation word then true
  else if numericAbbreviations.contains word then
    match next with
    | [] => false
    | c :: _ => c.isDigit
  else if isSingleInitial word then
    startsLikeInitial next || (word != ['I', '.'] && isNameLike next)
  else false

/-- Whether the cut between two adjacent segments is false, because the first one ends in an
abbreviation that the second one continues. -/
def suppressesBreak (segment next : List Char) : Bool :=
  match finalDottedWord segment with
  | none => false
  | some word => continuesWith word (leadingWord next)

/-- Only the last word of a segment and the first word of the next one count. -/
theorem suppressesBreak_eq {segment other next follower : List Char}
    (sameLast : Words.last segment = Words.last other)
    (sameFirst : Words.first next = Words.first follower) :
    suppressesBreak segment next = suppressesBreak other follower := by
  simp only [suppressesBreak, finalDottedWord, leadingWord, sameLast, sameFirst]

end SentenceSpans
