/-!
# Progress

How far a run has come in its input, in bytes.  When the length of the input is known, a run that
ends well has reached it.
-/

namespace SentenceSpans

/-- The byte position of a run and, where it is shown, the length of the input. -/
structure Progress where
  position : Nat
  total : Option Nat
deriving DecidableEq, Repr

namespace Progress

/-- Progress that nobody sees; the length of the input is not asked for. -/
def hidden : Progress := ⟨0, none⟩

def new (total : Nat) : Progress := ⟨0, some total⟩

def advance (progress : Progress) (rawLength : Nat) : Progress :=
  ⟨progress.position + rawLength, progress.total⟩

def finish (progress : Progress) : Progress :=
  ⟨progress.total.getD progress.position, progress.total⟩

end Progress

end SentenceSpans
