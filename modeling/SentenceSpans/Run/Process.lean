import SentenceSpans.Input.Record
import SentenceSpans.Output.Writer
import SentenceSpans.Run.Log
import SentenceSpans.Run.Progress
import SentenceSpans.Run.Stats

/-!
# Runs

A run reads the items of an input in order and writes one line for each.  A line that is not UTF-8
ends the run, unless such lines are skipped: then an empty line stands for it, so that line N of
the output belongs to line N of the input.  Every other failure ends the run.

The statistics count a record after its line was written.
-/

namespace SentenceSpans

structure RunConfig where
  detector : Detector
  /-- Whether an empty line stands for a line that is not UTF-8. -/
  skipInvalid : Bool

/-- Whether a failure in place of a record ends the run. -/
def RunConfig.isFatal (config : RunConfig) (failure : Failure) : Bool :=
  !(config.skipInvalid && failure.isRecoverable)

/-! ## Events -/

namespace LogEvent

def breakRemoved (position : Nat) : LogEvent :=
  ⟨.trace, "suppressed abbreviation break", [("offset", .number position)]⟩

def recordTaken (line sentences : Nat) : LogEvent :=
  ⟨.debug, "Record segmented", [("line", .number line), ("sentences", .number sentences)]⟩

def lineSkipped (failure : Failure) : LogEvent :=
  ⟨.warn, "Skipping record: " ++ failure.message, []⟩

/-- A run that ended well tells its counts; the time it took is not among them. -/
def completed (stats : RunStats) : LogEvent :=
  ⟨.info, "Processing completed",
    [("records", .number stats.recordsRead), ("sentences", .number stats.sentencesDetected),
      ("skipped", .number stats.recordsSkipped), ("bytes", .number stats.bytesRead)]⟩

end LogEvent

structure RunState where
  writer : Writer
  stats : RunStats
  progress : Progress
  log : Log

namespace RunState

def new (rule : SinkRule) (stats : RunStats) (progress : Progress) (log : Log) : RunState :=
  ⟨Writer.new rule, stats, progress, log⟩

def note (run : RunState) (event : LogEvent) : RunState :=
  { run with log := run.log.note event }

/-! ## Single items -/

/-- Note every break that the provider removed from a record. -/
def noteRemoved (run : RunState) (provider : BoundaryProvider) (text : List Char) : RunState :=
  { run with
    log := run.log.noteEach .trace (fun _ => provider.removed text) .breakRemoved }

def takeRecord (detector : Detector) (run : RunState) (record : Record) :
    Except Failure Unit × RunState :=
  let noted := run.noteRemoved detector.provider record.text
  match noted.writer.writeSpans (detector.spans record.text) with
  | (.error failure, writer) => (.error failure, { noted with writer := writer })
  | (.ok sentences, writer) =>
      (.ok (), ⟨writer, noted.stats.countRecord sentences record.rawLength,
        noted.progress.advance record.rawLength,
        noted.log.note (.recordTaken record.line sentences)⟩)

/-- Write an empty line for a line that cannot be decoded. -/
def skipLine (run : RunState) (failure : Failure) : Except Failure Unit × RunState :=
  let noted := run.note (.lineSkipped failure)
  let rawLength := failure.skippedLength?.getD 0
  match noted.writer.writeEmptyLine with
  | (.error refusal, writer) => (.error refusal, { noted with writer := writer })
  | (.ok (), writer) =>
      (.ok (), ⟨writer, noted.stats.countSkipped rawLength, noted.progress.advance rawLength,
        noted.log⟩)

def take (config : RunConfig) (run : RunState) : Item → Except Failure Unit × RunState
  | .ok record => run.takeRecord config.detector record
  | .error failure =>
      if config.isFatal failure then (.error failure, run) else run.skipLine failure

/-! ## All items -/

def flush (run : RunState) : Except Failure Unit × RunState :=
  match run.writer.flush with
  | (result, writer) => (result, { run with writer := writer })

/-- Deal with the items in order, up to the first failure that ends the run. -/
def consume (config : RunConfig) (run : RunState) : List Item → Except Failure Unit × RunState
  | [] => run.flush
  | item :: rest =>
      match run.take config item with
      | (.error failure, after) => (.error failure, after)
      | (.ok (), after) => consume config after rest

def complete (run : RunState) : RunState :=
  { run with
    progress := run.progress.finish
    log := run.log.note (.completed run.stats) }

def abort (run : RunState) (failure : Failure) : RunState :=
  { run with stats := run.stats.fail failure }

/-- Note how long the run took and how it ended. -/
def conclude (elapsed : Elapsed) (result : Except Failure Unit) (run : RunState) : RunState :=
  let timed := { run with stats := run.stats.finish elapsed }
  match result with
  | .ok () => timed.complete
  | .error failure => timed.abort failure

def process (config : RunConfig) (elapsed : Elapsed) (run : RunState) (items : List Item) :
    Except Failure Unit × RunState :=
  match run.consume config items with
  | (result, after) => (result, after.conclude elapsed result)

end RunState

end SentenceSpans
