import SentenceSpans.Failure

/-!
# Records

A record is one line of the input, decoded and without its terminator.  A line that is not UTF-8
stands among the records as a failure.
-/

namespace SentenceSpans

/-- One decoded line. -/
structure Record where
  /-- The number of the line, counted from one. -/
  line : Nat
  text : List Char
  /-- The bytes the line takes in the input, its terminator included. -/
  rawLength : Nat
deriving DecidableEq, Repr

/-- What a line source yields for each line: a record or the reason why there is none. -/
abbrev Item := Except Failure Record

namespace Input

def lineFeed : UInt8 := 0x0A
def carriageReturn : UInt8 := 0x0D

def dropFinal (byte : UInt8) (bytes : List UInt8) : List UInt8 :=
  if bytes.getLast? = some byte then bytes.dropLast else bytes

/-- A line without the line feed at its end, and then without the carriage return at its end. -/
def stripTerminator (line : List UInt8) : List UInt8 :=
  dropFinal carriageReturn (dropFinal lineFeed line)

end Input

namespace Item

/-- The item for the bytes of a line, its terminator included. -/
def ofLine (line : Nat) (bytes : List UInt8) : Item :=
  match Utf8.decode (Input.stripTerminator bytes) with
  | .ok text => .ok ⟨line, text, bytes.length⟩
  | .error malformed => .error (.invalidInput line bytes.length malformed)

/-- The items of lines; the first line has the given number. -/
def ofLines (number : Nat) (lines : List (List UInt8)) : List Item :=
  (lines.zipIdx number).map fun entry => ofLine entry.2 entry.1

theorem ofLines_nil (number : Nat) : ofLines number [] = [] :=
  rfl

theorem ofLines_cons (number : Nat) (line : List UInt8) (lines : List (List UInt8)) :
    ofLines number (line :: lines) = ofLine number line :: ofLines (number + 1) lines :=
  rfl

theorem length_ofLines (number : Nat) (lines : List (List UInt8)) :
    (ofLines number lines).length = lines.length := by
  rw [ofLines, List.length_map, List.length_zipIdx]

theorem getElem?_ofLines (number : Nat) (lines : List (List UInt8)) (n : Nat) :
    (ofLines number lines)[n]? = lines[n]?.map (ofLine (number + n)) := by
  rw [ofLines, List.getElem?_map, List.getElem?_zipIdx, Option.map_map]
  rfl

end Item

end SentenceSpans
