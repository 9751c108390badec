/-!
# Quoted text

A text in quotation marks, for a JSON document.  The quotation mark, the backslash and the control
characters below U+0020 are escaped, five of these by a letter and the others by their code; every
other character stands for itself.
-/

namespace SentenceSpans.Quoted

/-- The last two digits of a four-digit code, hexadecimal in lower case. -/
def hexPair (n : Nat) : List Char :=
  [Nat.digitChar (n / 16 % 16), Nat.digitChar (n % 16)]

def escape (c : Char) : List Char :=
  if c = '"' then ['\\', '"']
  else if c = '\\' then ['\\', '\\']
  else if c = '\n' then ['\\', 'n']
  else if c = '\r' then ['\\', 'r']
  else if c = '\t' then ['\\', 't']
  else if c = '\x08' then ['\\', 'b']
  else if c = '\x0c' then ['\\', 'f']
  else if c.toNat < 0x20 then ['\\', 'u', '0', '0'] ++ hexPair c.toNat
  else [c]

def quote (text : String) : String :=
  "\"" ++ String.ofList (text.toList.flatMap escape) ++ "\""

example : quote "a\"b\\c/\u001b\x7f" = "\"a\\\"b\\\\c/\\u001b\x7f\"" := by decide +kernel

end SentenceSpans.Quoted
