import SentenceSpans.Input.Record

/-!
# Lines of a byte list

A physical line reaches up to and including a line feed, or up to the end of the input.  Nothing
else ends a line.

## Main statements

  * `flatten_physicalLines`: the lines, in order, are the input.
  * `physicalLines_ne_nil`: no line is empty.
-/

namespace SentenceSpans.Input

/-- Put one byte before the lines that follow it.  Only a line feed starts no longer line than
itself. -/
def consByte (byte : UInt8) (lines : List (List UInt8)) : List (List UInt8) :=
  if byte = lineFeed then [byte] :: lines
  else
    match lines with
    | [] => [[byte]]
    | line :: rest => (byte :: line) :: rest

/-- The physical lines of an input, terminators included. -/
def physicalLines (bytes : List UInt8) : List (List UInt8) :=
  bytes.foldr consByte []

/-- The items of an input that is held in memory as a whole. -/
def mappedItems (bytes : List UInt8) : List Item :=
  Item.ofLines 1 (physicalLines bytes)

theorem physicalLines_cons (byte : UInt8) (bytes : List UInt8) :
    physicalLines (byte :: bytes) = consByte byte (physicalLines bytes) := rfl

theorem consByte_lineFeed (lines : List (List UInt8)) :
    consByte lineFeed lines = [lineFeed] :: lines := rfl

theorem consByte_nil (byte : UInt8) : consByte byte [] = [[byte]] := by
  unfold consByte
  split <;> rfl

theorem consByte_cons {byte : UInt8} (other : byte ≠ lineFeed) (line : List UInt8)
    (rest : List (List UInt8)) : consByte byte (line :: rest) = (byte :: line) :: rest :=
  if_neg other

theorem flatten_consByte (byte : UInt8) (lines : List (List UInt8)) :
    (consByte byte lines).flatten = byte :: lines.flatten := by
  unfold consByte
  split
  · rfl
  · cases lines with
    | nil => rfl
    | cons line rest => rfl

theorem flatten_physicalLines (bytes : List UInt8) : (physicalLines bytes).flatten = bytes := by
  induction bytes with
  | nil => rfl
  | cons byte rest ih => rw [physicalLines_cons, flatten_consByte, ih]

theorem physicalLines_ne_nil {bytes line : List UInt8} (present : line ∈ physicalLines bytes) :
    line ≠ [] := by
  induction bytes generalizing line with
  | nil => cases present
  | cons byte rest ih =>
      rw [physicalLines_cons] at present
      unfold consByte at present
      split at present
      · rcases List.mem_cons.1 present with same | later
        · simp [same]
        · exact ih later
      · split at present
        · simp at present
          simp [present]
        · next first others found =>
            rcases List.mem_cons.1 present with same | later
            · simp [same]
            · exact ih (by simp [found, later])

end SentenceSpans.Input
