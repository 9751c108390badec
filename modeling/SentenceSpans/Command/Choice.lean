import SentenceSpans.Sentence.Detector

/-!
# Choices

A locale and an offset unit are chosen by name.  A name is taken as it is written, or without
regard to the case of its ASCII letters.
-/

namespace SentenceSpans

/-- The names for a locale; regions of the English language do not differ. -/
def Locale.names : List (String × Locale) :=
  [("en", .english), ("english", .english), ("en-US", .english), ("en-GB", .english)]

def OffsetUnit.names : List (String × OffsetUnit) :=
  [("char", .char), ("utf16", .utf16), ("byte", .byte)]

namespace Choice

def sameIgnoringCase (left right : String) : Bool :=
  left.map Char.toLower = right.map Char.toLower

/-- The choice that a name stands for, or the reason why it stands for none. -/
def ofName (names : List (String × α)) (ignoreCase : Bool) (name : String) : Except String α :=
  match names.find? fun entry =>
      if ignoreCase then sameIgnoringCase entry.1 name else entry.1 = name with
  | some entry => .ok entry.2
  | none => .error ("invalid variant: " ++ name)

end Choice

end SentenceSpans
