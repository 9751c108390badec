import SentenceSpans.Text.Utf8

/-!
# Failures

A failure is the reason why input, output or the report of a run is not as it should be.  Each has
a message for the user and may have a cause, which is reported after it.

Only an undecodable line is recoverable: the lines after it can still be read.
-/

namespace SentenceSpans

/-! ## Paths and system errors -/

/-- A file path, as the bytes the file system uses. -/
structure Path where
  bytes : List UInt8
deriving DecidableEq, Repr

namespace Path

def ofString (text : String) : Path := ⟨Utf8.encode text⟩

/-- A path as a text, with a replacement mark for each part that is not UTF-8. -/
def display (path : Path) : String := String.ofList (Utf8.decodeLossy path.bytes)

end Path

structure IoFailure where
  message : String
deriving DecidableEq, Repr

namespace IoFailure

def ofSystem (text : String) (number : Nat) : IoFailure :=
  ⟨text ++ " (os error " ++ Nat.repr number ++ ")"⟩

def notFound : IoFailure := ofSystem "No such file or directory" 2
def noSuchDevice : IoFailure := ofSystem "No such device" 19
def notADirectory : IoFailure := ofSystem "Not a directory" 20
def isADirectory : IoFailure := ofSystem "Is a directory" 21
def nameTooLong : IoFailure := ofSystem "File name too long" 36

/-- A path with a zero byte never reaches the operating system. -/
def zeroByteInPath : IoFailure := ⟨"file name contained an unexpected NUL byte"⟩

end IoFailure

/-! ## Failures of a run -/

inductive Failure where
  /-- The input cannot be measured, opened or mapped. -/
  | inputUnavailable (path : Path) (cause : IoFailure)
  /-- A line is not UTF-8.  `rawLength` counts its bytes, the terminator included. -/
  | invalidInput (line rawLength : Nat) (cause : Utf8.Malformed)
  /-- Reading fails after the input was opened. -/
  | inputRead (line : Nat) (cause : IoFailure)
  /-- The output takes no more text. -/
  | outputWrite (cause : IoFailure)
  /-- The report of the run cannot be written. -/
  | reportWrite (path : Path) (message : String)
deriving DecidableEq, Repr

namespace Failure

def message : Failure → String
  | inputUnavailable path cause => "input unavailable: " ++ path.display ++ ": " ++ cause.message
  | invalidInput line _ cause =>
      "invalid input at line " ++ Nat.repr line ++ ": " ++ cause.message
  | inputRead line cause =>
      "failed to read input at line " ++ Nat.repr line ++ ": " ++ cause.message
  | outputWrite cause => "failed to write output: " ++ cause.message
  | reportWrite path message =>
      "failed to write run stats to " ++ path.display ++ ": " ++ message

def cause? : Failure → Option String
  | inputUnavailable _ cause => some cause.message
  | invalidInput _ _ cause => some cause.message
  | inputRead _ cause => some cause.message
  | outputWrite cause => some cause.message
  | reportWrite _ _ => none

/-- The message of a failure and that of its cause, if there is one. -/
def chain (failure : Failure) : List String := failure.message :: failure.cause?.toList

/-- The bytes of the line that a recoverable failure makes unusable. -/
def skippedLength? : Failure → Option Nat
  | invalidInput _ rawLength _ => some rawLength
  | _ => none

/-- Whether the input can be read on after the failure. -/
def isRecoverable : Failure → Bool
  | invalidInput _ _ _ => true
  | _ => false

/-- Exactly the recoverable failures belong to one line of the input. -/
theorem isSome_skippedLength? (failure : Failure) :
    failure.skippedLength?.isSome = failure.isRecoverable := by
  cases failure <;> rfl

end Failure

/-! ## Error texts -/

namespace ErrorText

/-- A text whose further lines are indented below its first one. -/
def indent (width : Nat) (text : String) : String :=
  String.ofList (text.toList.flatMap fun c =>
    if c = '\n' then '\n' :: List.replicate width ' ' else [c])

/-- The number in front of a cause, in a column of five characters. -/
def label (number : Nat) : String :=
  String.ofList ((Nat.toDigits 10 number).leftpad 5 ' ') ++ ": "

/-- An error with its causes, each of them the cause of the one before.  A single cause stands
there alone; several are numbered from zero. -/
def lines (message : String) : List String → List String
  | [] => ["Error: " ++ message]
  | [cause] => ["Error: " ++ message, "", "Caused by:", "    " ++ indent 4 cause]
  | first :: second :: rest =>
      ["Error: " ++ message, "", "Caused by:"] ++
        (first :: second :: rest).zipIdx.map fun entry => label entry.2 ++ indent 7 entry.1

def render (message : String) (causes : List String) : String :=
  String.join ((lines message causes).map (· ++ "\n"))

theorem render_nil (message : String) : render message [] = "Error: " ++ message ++ "\n" := by
  rw [render, lines, List.map_singleton, String.join_cons, String.join_nil, String.append_empty]

theorem render_pair (message first second : String) :
    render message [first, second] =
      "Error: " ++ message ++ "\n\nCaused by:\n    0: " ++ indent 7 first ++ "\n    1: " ++
        indent 7 second ++ "\n" := by
  have zero : label 0 = "    0: " := by decide
  have one : label 1 = "    1: " := by decide
  -- The texts on the right run over the ends of lines.
  have head : "\n\nCaused by:\n    0: " = "\n" ++ "\n" ++ "Caused by:" ++ "\n" ++ "    0: " := rfl
  have next : "\n    1: " = "\n" ++ "    1: " := rfl
  simp only [render, lines, List.zipIdx_cons, List.zipIdx_nil, List.map_cons, List.map_nil,
    List.cons_append, List.nil_append, Nat.zero_add, zero, one, head, next, String.join_cons,
    String.join_nil, String.append_empty, String.empty_append, String.append_assoc]

end ErrorText

end SentenceSpans
