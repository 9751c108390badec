import SentenceSpans.Decimal.Shortest
import SentenceSpans.Failure
import SentenceSpans.Sentence.Detector
import SentenceSpans.Text.Quoted

/-!
# Run statistics

The numbers of a run and how it ended, written as one JSON document for whoever started the run.
-/

namespace SentenceSpans

/-! ## Time -/

/-- The time a run took: whole seconds and the nanoseconds beyond them. -/
structure Elapsed where
  seconds : Nat
  nanoseconds : Nat
deriving DecidableEq, Repr

namespace Elapsed

/-- Whole milliseconds, in a 64-bit word. -/
def milliseconds (elapsed : Elapsed) : Nat :=
  (elapsed.seconds * 1000 + elapsed.nanoseconds / 1000000) % UInt64.size

/-- The time in seconds: the nanoseconds are turned into seconds first, and each step rounds. -/
def toSeconds (elapsed : Elapsed) : Binary64 :=
  (Binary64.ofNat elapsed.seconds).add
    ((Binary64.ofNat elapsed.nanoseconds).divide (Binary64.ofNat 1000000000))

/-- Bytes per second; none when no time has passed. -/
def throughput (elapsed : Elapsed) (bytes : Nat) : Binary64 :=
  let seconds := elapsed.toSeconds
  if seconds.significand = 0 then Binary64.zero else (Binary64.ofNat bytes).divide seconds

end Elapsed

/-! ## Statistics -/

inductive RunOutcome where
  | success
  | failed (message : String)
deriving DecidableEq, Repr

structure RunStats where
  /-- The path of the input. -/
  path : String
  locale : Locale
  unit : OffsetUnit
  /-- Records read, those skipped included. -/
  recordsRead : Nat
  /-- Records replaced by an empty line. -/
  recordsSkipped : Nat
  /-- Spans written. -/
  sentencesDetected : Nat
  /-- Bytes of input consumed, terminators included. -/
  bytesRead : Nat
  milliseconds : Nat
  bytesPerSecond : Binary64
  outcome : RunOutcome
deriving DecidableEq, Repr

namespace RunStats

/-- The statistics of a run that has not started; nothing has failed yet. -/
def new (path : Path) (locale : Locale) (unit : OffsetUnit) : RunStats :=
  ⟨path.display, locale, unit, 0, 0, 0, 0, 0, Binary64.zero, .success⟩

def countRecord (stats : RunStats) (sentences rawLength : Nat) : RunStats :=
  { stats with
    recordsRead := stats.recordsRead + 1
    sentencesDetected := stats.sentencesDetected + sentences
    bytesRead := stats.bytesRead + rawLength }

def countSkipped (stats : RunStats) (rawLength : Nat) : RunStats :=
  { stats with
    recordsRead := stats.recordsRead + 1
    recordsSkipped := stats.recordsSkipped + 1
    bytesRead := stats.bytesRead + rawLength }

def finish (stats : RunStats) (elapsed : Elapsed) : RunStats :=
  { stats with
    milliseconds := elapsed.milliseconds
    bytesPerSecond := elapsed.throughput stats.bytesRead }

def fail (stats : RunStats) (failure : Failure) : RunStats :=
  { stats with outcome := .failed failure.message }

end RunStats

/-! ## The document -/

inductive ReportValue where
  | text (content : String)
  | number (n : Nat)
  | decimal (value : Binary64)
  | null
deriving DecidableEq, Repr

/-- Numbers are written without an exponent from 0.00001 up to, but not including, 10^16. -/
def ReportValue.numberFormat : NumberFormat := ⟨-5, 16⟩

def ReportValue.render : ReportValue → String
  | .text content => Quoted.quote content
  | .number n => Nat.repr n
  | .decimal value => numberFormat.render (Decimal.shortest value)
  | .null => "null"

namespace RunStats

def status (stats : RunStats) : String :=
  match stats.outcome with
  | .success => "success"
  | .failed _ => "failed"

def error? (stats : RunStats) : Option String :=
  match stats.outcome with
  | .success => none
  | .failed message => some message

/-- The fields that do not depend on the clock. -/
def counters (stats : RunStats) : List (String × ReportValue) :=
  [("path", .text stats.path), ("locale", .text stats.locale.name),
    ("offset_unit", .text stats.unit.name), ("records_read", .number stats.recordsRead),
    ("records_skipped", .number stats.recordsSkipped),
    ("sentences_detected", .number stats.sentencesDetected),
    ("bytes_read", .number stats.bytesRead)]

def timing (stats : RunStats) : List (String × ReportValue) :=
  [("processing_time_ms", .number stats.milliseconds),
    ("bytes_per_sec", .decimal stats.bytesPerSecond)]

def ending (stats : RunStats) : List (String × ReportValue) :=
  [("status", .text stats.status),
    ("error", match stats.error? with
      | some message => .text message
      | none => .null)]

def fields (stats : RunStats) : List (String × ReportValue) :=
  stats.counters ++ stats.timing ++ stats.ending

/-- The document: one field a line. -/
def render (stats : RunStats) : String :=
  let lines := stats.fields.map fun field =>
    "  " ++ Quoted.quote field.1 ++ ": " ++ field.2.render
  "\x7b\n" ++ String.intercalate ",\n" lines ++ "\n\x7d\n"

end RunStats

end SentenceSpans
