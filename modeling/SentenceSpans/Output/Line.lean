import SentenceSpans.Offset.Boundary

/-!
# Output lines

Each record becomes one line: every span as `start,end;`, then a line feed.  A record without
sentences becomes an empty line.

## Main statement

`LineBuffer.fill_eq`: filling a reused buffer gives the line of the spans and their number, whatever
the buffer held before.
-/

namespace SentenceSpans

def Span.render (span : Span) : String :=
  Nat.repr span.start ++ "," ++ Nat.repr span.stop ++ ";"

/-- The output line of a record with the given spans, its line feed included. -/
def renderLine (spans : List Span) : String :=
  String.join (spans.map Span.render) ++ "\n"

/-- A buffer that holds one output line at a time. -/
structure LineBuffer where
  content : String
deriving DecidableEq, Repr

namespace LineBuffer

def clear (_ : LineBuffer) : LineBuffer := ⟨""⟩

def push (buffer : LineBuffer) (text : String) : LineBuffer := ⟨buffer.content ++ text⟩

def pushSpans (buffer : LineBuffer) (count : Nat) (spans : List Span) : LineBuffer × Nat :=
  spans.foldl (fun (state : LineBuffer × Nat) span => (state.1.push span.render, state.2 + 1))
    (buffer, count)

def fill (buffer : LineBuffer) (spans : List Span) : LineBuffer × Nat :=
  let written := buffer.clear.pushSpans 0 spans
  (written.1.push "\n", written.2)

theorem pushSpans_eq (buffer : LineBuffer) (count : Nat) (spans : List Span) :
    buffer.pushSpans count spans =
      (buffer.push (String.join (spans.map Span.render)), count + spans.length) := by
  induction spans generalizing buffer count with
  | nil => simp [pushSpans, push]
  | cons span rest ih =>
      have step := ih (buffer.push span.render) (count + 1)
      simp only [pushSpans, List.foldl_cons] at step ⊢
      rw [step]
      simp [push, String.append_assoc, Nat.add_assoc, Nat.add_comm 1]

theorem fill_eq (buffer : LineBuffer) (spans : List Span) :
    buffer.fill spans = (⟨renderLine spans⟩, spans.length) := by
  rw [fill, pushSpans_eq]
  simp [clear, push, renderLine]

end LineBuffer

end SentenceSpans
