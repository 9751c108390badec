import SentenceSpans.Unicode.Hidden

/-!
# Inspected text

A text in quotation marks, for a reader of the log who has to see which characters it holds.
Quotation marks and backslashes are escaped, and every character that does not show by itself
stands as its code; four controls have a letter or digit of their own.
-/

namespace SentenceSpans.Inspected

open Unicode

/-- The code of a character, hexadecimal in lower case. -/
def code (c : Char) : List Char :=
  ['\\', 'u', '\x7b'] ++ Nat.toDigits 16 c.toNat ++ ['\x7d']

def escape (c : Char) : List Char :=
  if c = '\x00' then ['\\', '0']
  else if c = '\t' then ['\\', 't']
  else if c = '\n' then ['\\', 'n']
  else if c = '\r' then ['\\', 'r']
  else if c = '"' || c = '\'' || c = '\\' then ['\\', c]
  else if isHidden c then code c
  else [c]

def inspect (text : String) : String :=
  "\"" ++ String.ofList (text.toList.flatMap escape) ++ "\""

example : inspect "d'\t\u0301\u00a0z" = "\"d\\'\\t\\u\x7b301\x7d\\u\x7ba0\x7dz\"" := by
  decide +kernel

end SentenceSpans.Inspected
