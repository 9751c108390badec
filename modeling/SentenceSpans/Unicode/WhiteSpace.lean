import SentenceSpans.Unicode.CodeRange

/-!
# White space

The characters with the property White_Space: the blanks and line breaks that separate words.
-/

namespace SentenceSpans.Unicode

/-- The code points with the property White_Space. -/
def whiteSpace : CodeTable := .ofRanges [
  ⟨0x0009, 0x000D, 1⟩, ⟨0x0020, 0x0020, 1⟩, ⟨0x0085, 0x0085, 1⟩, ⟨0x00A0, 0x00A0, 1⟩,
  ⟨0x1680, 0x1680, 1⟩, ⟨0x2000, 0x200A, 1⟩, ⟨0x2028, 0x2029, 1⟩, ⟨0x202F, 0x202F, 1⟩,
  ⟨0x205F, 0x205F, 1⟩, ⟨0x3000, 0x3000, 1⟩]
  (by decide +kernel)

def isWhiteSpace (c : Char) : Bool := whiteSpace.contains c.toNat

theorem isWhiteSpace_space : isWhiteSpace ' ' = true := by decide +kernel

end SentenceSpans.Unicode
