import SentenceSpans.Output.Line
import SentenceSpans.Output.Sink

/-!
# Output writers

A writer gathers lines in a buffer of 8192 bytes and hands them to a sink in large chunks.  A line
that does not fit makes it hand over the buffer first; a line as large as the buffer goes to the
sink directly.  When the sink refuses, the buffer is kept and the line at hand is dropped, so that
the accepted text followed by the buffer always holds whole lines in their order.

The line of a record is put together in a line buffer, which serves one record after another.
-/

namespace SentenceSpans

/-- A sink with a buffer in front of it. -/
structure Writer where
  sink : Sink
  buffered : String
  /-- Where the line of a record is put together; it keeps the line written last. -/
  line : LineBuffer

namespace Writer

/-- The size of the buffer in bytes. -/
def capacity : Nat := 8192

def new (rule : SinkRule) : Writer := ⟨Sink.new rule, "", ⟨""⟩⟩

/-- The accepted text followed by the buffered text. -/
def content (writer : Writer) : String := writer.sink.accepted ++ writer.buffered

/-- Hand the buffer to the sink in one chunk.  An empty buffer is not handed over, and a refused
one is kept. -/
def handOver (writer : Writer) : Option IoFailure × Writer :=
  if writer.buffered.isEmpty then (none, writer)
  else
    match writer.sink.offer (.write writer.buffered) with
    | (none, sink) => (none, { writer with sink := sink, buffered := "" })
    | (some refusal, sink) => (some refusal, { writer with sink := sink })

/-- Put a text into the buffer, or straight into the sink when it is as large as the buffer. -/
def append (writer : Writer) (text : String) : Option IoFailure × Writer :=
  if text.utf8ByteSize < capacity then (none, { writer with buffered := writer.buffered ++ text })
  else
    match writer.sink.offer (.write text) with
    | (refusal, sink) => (refusal, { writer with sink := sink })

/-- Write a text: the buffer is handed over first when the text does not fit behind it. -/
def write (writer : Writer) (text : String) : Option IoFailure × Writer :=
  if text.utf8ByteSize ≤ capacity - writer.buffered.utf8ByteSize then writer.append text
  else
    match writer.handOver with
    | (none, emptied) => emptied.append text
    | (some refusal, kept) => (some refusal, kept)

/-- The result of an operation on the output: a refusal is a failure of the run. -/
def result (refusal : Option IoFailure) (value : α) : Except Failure α :=
  match refusal with
  | none => .ok value
  | some cause => .error (.outputWrite cause)

/-- Write the line of one record; the result is the number of its spans. -/
def writeSpans (writer : Writer) (spans : List Span) : Except Failure Nat × Writer :=
  match writer.line.fill spans with
  | (line, count) =>
      match { writer with line := line }.write line.content with
      | (refusal, after) => (result refusal count, after)

def writeEmptyLine (writer : Writer) : Except Failure Unit × Writer :=
  match writer.write "\n" with
  | (refusal, after) => (result refusal (), after)

/-- Hand over the buffer and ask the sink to pass on what it holds. -/
def flush (writer : Writer) : Except Failure Unit × Writer :=
  match writer.handOver with
  | (some refusal, kept) => (result (some refusal) (), kept)
  | (none, emptied) =>
      match emptied.sink.offer .flush with
      | (refusal, sink) => (result refusal (), { emptied with sink := sink })

/-- End the writer: the buffer is handed over, but the sink is not flushed. -/
def finish (writer : Writer) : Except Failure Unit × Sink :=
  match writer.handOver with
  | (refusal, after) => (result refusal (), after.sink)

end Writer

/-! ## Calls -/

inductive WriterCall where
  | spans (sentences : List Span)
  | emptyLine
  | flush
deriving DecidableEq, Repr

/-- Make a call; the result is the number of spans where the call counts them. -/
def Writer.call (writer : Writer) : WriterCall → Except Failure (Option Nat) × Writer
  | .spans sentences =>
      match writer.writeSpans sentences with
      | (result, after) => (result.map some, after)
  | .emptyLine =>
      match writer.writeEmptyLine with
      | (result, after) => (result.map fun _ => none, after)
  | .flush =>
      match writer.flush with
      | (result, after) => (result.map fun _ => none, after)

end SentenceSpans
