import SentenceSpans.Command.Arguments
import SentenceSpans.Command.Help
import SentenceSpans.Input.Host
import SentenceSpans.Run.Process

/-!
# Executions

The program as a function of its arguments, of what the file system and standard output answer,
and of the time the run takes.

An execution opens its input, processes the items and then reports: in the log, on standard error,
in the statistics document if one was asked for, and by its exit code.  A run whose input cannot
be opened has processed nothing, so its statistics hold no failure.  When both the run and the
storing of the statistics fail, the run's failure is the one reported at the end.
-/

namespace SentenceSpans

/-! ## The parts of an execution -/

structure Surroundings where
  host : Host
  /-- How standard output answers. -/
  output : SinkRule
  verbosity : Verbosity

/-- The number of bytes that an input which is not mapped is read in. -/
def defaultBufferSize : Nat := 8192

namespace LogEvent

def argumentsParsed (arguments : Arguments) : LogEvent :=
  ⟨.debug, "Parsed CLI arguments", [("args", .text arguments.describe)]⟩

def inputMapped (path : Path) (length : Nat) : LogEvent :=
  ⟨.info, "Mapped " ++ path.display ++ ": " ++ Nat.repr length ++ " bytes", []⟩

def inputOpened (path : Path) (bufferSize : Nat) : LogEvent :=
  ⟨.debug, "Opened " ++ path.display ++ " with " ++ Nat.repr bufferSize ++ " byte buffer", []⟩

def aborted (failure : Failure) : LogEvent :=
  ⟨.error, "Processing aborted", [("error", .text failure.message)]⟩

def statsStored (path : Path) : LogEvent :=
  ⟨.info, "Run stats written to " ++ path.display, []⟩

/-- Statistics that are lost after a failed run are told of in the log alone. -/
def statsLost (failure : Failure) : LogEvent :=
  ⟨.error, "Run stats not written", [("error", .text failure.message)]⟩

end LogEvent

namespace Arguments

def inputPath (arguments : Arguments) : Path := .ofString arguments.input

def config (arguments : Arguments) : RunConfig :=
  ⟨⟨arguments.unit, .ofLocale arguments.locale⟩, arguments.skipInvalid⟩

/-- The run before it starts.  Its progress through the input is not known yet. -/
def start (arguments : Arguments) (surroundings : Surroundings) : RunState :=
  let log := (Log.new surroundings.verbosity).note (.argumentsParsed arguments)
  .new surroundings.output
    (.new arguments.inputPath arguments.locale arguments.unit) .hidden log

end Arguments

/-- How far an execution came with its input. -/
inductive Attempt where
  /-- The input gave no access; nothing was processed. -/
  | refused (failure : Failure) (run : RunState)
  /-- The items were processed, up to the failure that ended the run, if any. -/
  | processed (result : Except Failure Unit) (run : RunState)

namespace Attempt

def ofItems (arguments : Arguments) (run : RunState) (items : List Item) : Attempt :=
  match run.consume arguments.config items with
  | (result, after) => .processed result after

def ofInput (arguments : Arguments) (host : Host) (run : RunState) : Attempt :=
  let path := arguments.inputPath
  if arguments.useMmap then
    match host.mappedBytes path with
    | .error failure => .refused failure run
    | .ok bytes =>
        ofItems arguments (run.note (.inputMapped path bytes.length)) (Input.mappedItems bytes)
  else
    match host.bufferedItems defaultBufferSize path with
    | .error failure => .refused failure run
    | .ok items => ofItems arguments (run.note (.inputOpened path defaultBufferSize)) items

/-- Work through the input.  Its size is asked for first where progress is shown. -/
def make (arguments : Arguments) (surroundings : Surroundings) : Attempt :=
  let run := arguments.start surroundings
  if arguments.noProgress then ofInput arguments surroundings.host run
  else
    match surroundings.host.inputSize arguments.inputPath with
    | .error failure => .refused failure run
    | .ok size => ofInput arguments surroundings.host { run with progress := .new size }

/-- The result of the run and its final state, given the time it took. -/
def conclude (attempt : Attempt) (elapsed : Elapsed) : Except Failure Unit × RunState :=
  match attempt with
  | refused failure run => (.error failure, run)
  | processed result run => (result, run.conclude elapsed result)

end Attempt

/-! ## Reporting -/

namespace Log

def noteAbort (log : Log) : Except Failure Unit → Log
  | .ok () => log
  | .error failure => log.note (.aborted failure)

def noteStored (log : Log) : Option (Path × RunStats) → Log
  | none => log
  | some (path, _) => log.note (.statsStored path)

end Log

/-- What an execution leaves behind. -/
structure Execution where
  exitCode : Nat
  /-- The text on standard output. -/
  stdout : String
  /-- The events in the log. -/
  events : List LogEvent
  /-- The text on standard error, without the log. -/
  stderr : String
  /-- The statistics that were stored, and where. -/
  stored : Option (Path × RunStats)

namespace Execution

def printing (exitCode : Nat) (stdout stderr : String) : Execution :=
  ⟨exitCode, stdout, [], stderr, none⟩

/-- The text for the failure of a run. -/
def processingReport (input : String) (failure : Failure) : String :=
  ErrorText.render ("Failed to process " ++ input) failure.chain

/-- The text for statistics that are lost after a run that ended well. -/
def lossReport (lost : Failure) : String := ErrorText.render lost.message lost.cause?.toList

def storeStats (arguments : Arguments) (host : Host) (run : RunState) :
    Except Failure (Option (Path × RunStats)) :=
  match arguments.statsOut with
  | none => .ok none
  | some name =>
      match host.store (.ofString name) with
      | .ok () => .ok (some (.ofString name, run.stats))
      | .error failure => .error failure

/-- Report a run.  The text still in the buffer reaches standard output in any case. -/
def report (arguments : Arguments) (host : Host) (result : Except Failure Unit)
    (run : RunState) : Execution :=
  let stdout := run.writer.finish.2.accepted
  let log := run.log.noteAbort result
  match result, storeStats arguments host run with
  | .ok (), .ok stored => ⟨0, stdout, (log.noteStored stored).events, "", stored⟩
  | .ok (), .error lost => ⟨1, stdout, log.events, lossReport lost, none⟩
  | .error failure, .ok stored =>
      ⟨1, stdout, (log.noteStored stored).events,
        processingReport arguments.inputPath.display failure, stored⟩
  | .error failure, .error lost =>
      ⟨1, stdout, (log.note (.statsLost lost)).events,
        processingReport arguments.inputPath.display failure, none⟩

def ofArguments (arguments : Arguments) (surroundings : Surroundings) (elapsed : Elapsed) :
    Execution :=
  match (Attempt.make arguments surroundings).conclude elapsed with
  | (result, run) => report arguments surroundings.host result run

def ofInquiry : Inquiry → Execution
  | .briefHelp => printing 0 Help.brief ""
  | .fullHelp => printing 0 Help.full ""
  | .version => printing 0 Help.versionLine ""
  | .misuse => printing 2 "" Help.misuse

def ofCommandLine (arguments : List String) (surroundings : Surroundings) (elapsed : Elapsed) :
    Execution :=
  match Arguments.parse arguments with
  | .ok arguments => ofArguments arguments surroundings elapsed
  | .error inquiry => ofInquiry inquiry

end Execution

end SentenceSpans
