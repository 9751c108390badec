import SentenceSpans.Command.Execution
import SentenceSpans.Proofs.Run.Agreement

/-!
# Access to the input

An execution asks the file system for the size of its input, opens it and maps it, as its arguments
want it.  The first refusal ends it before anything is processed.  Otherwise all depends on the
items that the input gives, and not on the way to them.

Results:
1. `isStarted_start` and `IsStarted.agrees`: what a run is before its first item.
2. `make_started`: what an execution comes to, from the access that its input gives.
3. `conclude_agrees`: executions with the same refusal, or with the same items, agree.
-/

namespace SentenceSpans

/-! ## Definitions -/

/-- Why an input cannot be opened, or mapped where that is wanted. -/
def Host.openingRefusal? (host : Host) (useMmap : Bool) (path : Path) : Option IoFailure :=
  match host.openInput path with
  | .error cause => some cause
  | .ok file =>
      match useMmap, file.mappedBytes with
      | true, .error cause => some cause
      | _, _ => none

namespace Arguments

/-- The first refusal of the file system on the way to the input, whose size is asked for first
where progress is shown. -/
def denial? (arguments : Arguments) (host : Host) : Option IoFailure :=
  match arguments.noProgress, host.measure arguments.inputPath with
  | false, .error cause => some cause
  | _, _ => host.openingRefusal? arguments.useMmap arguments.inputPath

/-- The statistics of a run with the given arguments that has not started. -/
def freshStats (arguments : Arguments) : RunStats :=
  .new arguments.inputPath arguments.locale arguments.unit

def itemsOf (arguments : Arguments) (file : InputFile) : List Item :=
  if arguments.useMmap then Input.mappedItems (file.mappedBytes.toOption.getD [])
  else file.bufferedItems defaultBufferSize

/-- The items of the input, none where the way to it is refused. -/
def items (arguments : Arguments) (host : Host) : List Item :=
  match arguments.denial? host, host.openInput arguments.inputPath with
  | none, .ok file => arguments.itemsOf file
  | _, _ => []

def result (arguments : Arguments) (surroundings : Surroundings) (elapsed : Elapsed) :
    Except Failure Unit :=
  ((Attempt.make arguments surroundings).conclude elapsed).1

/-- Arguments that ask for the same run.  The way to the input, the progress on the screen and the
place for the statistics may differ. -/
structure SameRun (arguments other : Arguments) : Prop where
  input : arguments.input = other.input
  locale : arguments.locale = other.locale
  unit : arguments.unit = other.unit
  skipInvalid : arguments.skipInvalid = other.skipInvalid

end Arguments

/-- A run that has done nothing yet.  It may know the size of its input, and its log may tell of
its arguments and of the input. -/
structure RunState.IsStarted (arguments : Arguments) (surroundings : Surroundings)
    (run : RunState) : Prop where
  writer : run.writer = .new surroundings.output
  stats : run.stats = arguments.freshStats
  log : run.log.Agrees surroundings.verbosity (.new surroundings.verbosity)

/-- What an execution comes to: the refusal on the way to its input, or the items of its input. -/
def Attempt.ofAccess (arguments : Arguments) (host : Host) (run : RunState) : Attempt :=
  match arguments.denial? host with
  | some cause => .refused (.inputUnavailable arguments.inputPath cause) run
  | none => .ofItems arguments run (arguments.items host)

/-! ## 1. The start of a run -/

theorem isStarted_start (arguments : Arguments) (surroundings : Surroundings)
    (progress : Progress) :
    RunState.IsStarted arguments surroundings
      { arguments.start surroundings with progress := progress } where
  writer := rfl
  stats := rfl
  log := (Log.Agrees.refl (.new surroundings.verbosity)).note_left rfl

namespace RunState.IsStarted

variable {arguments other : Arguments} {surroundings : Surroundings} {run run' : RunState}

/-- That the input was opened may be noted in the log. -/
theorem note (started : run.IsStarted arguments surroundings) {event : LogEvent}
    (calm : event.isUrgent = false) : (run.note event).IsStarted arguments surroundings where
  writer := started.writer
  stats := started.stats
  log := started.log.note_left calm

theorem agrees (started : run.IsStarted arguments surroundings) (same : arguments.SameRun other)
    (started' : run'.IsStarted other surroundings) : run.Agrees surroundings.verbosity run' where
  writer := started.writer.trans started'.writer.symm
  stats := by
    rw [started.stats, started'.stats, Arguments.freshStats, Arguments.freshStats,
      Arguments.inputPath, Arguments.inputPath, same.input, same.locale, same.unit]
  log := started.log.trans started'.log.symm

end RunState.IsStarted

/-! ## 2. From access to attempt -/

namespace Attempt

variable {arguments : Arguments} {surroundings : Surroundings} {run : RunState}

theorem ofInput_started (started : run.IsStarted arguments surroundings)
    (measured : arguments.denial? surroundings.host =
      surroundings.host.openingRefusal? arguments.useMmap arguments.inputPath) :
    ∃ after, after.IsStarted arguments surroundings ∧
      ofInput arguments surroundings.host run =
        ofAccess arguments surroundings.host after := by
  unfold ofInput ofAccess Arguments.items
  rw [measured]
  dsimp only [Host.openingRefusal?, Host.mappedBytes, Host.bufferedItems]
  cases surroundings.host.openInput arguments.inputPath with
  | error cause =>
      refine ⟨run, started, ?_⟩
      split <;> rfl
  | ok file =>
      dsimp only [Host.unavailable]
      -- Either way the opening is noted, with an event that is not urgent.
      cases wanted : arguments.useMmap with
      | false =>
          have items : file.bufferedItems defaultBufferSize = arguments.itemsOf file := by
            rw [Arguments.itemsOf, wanted]
            rfl
          rw [items]
          exact ⟨_, started.note rfl, rfl⟩
      | true =>
          cases mapped : file.mappedBytes with
          | error cause => exact ⟨run, started, rfl⟩
          | ok bytes =>
              have items : Input.mappedItems bytes = arguments.itemsOf file := by
                rw [Arguments.itemsOf, wanted, mapped]
                rfl
              dsimp only
              rw [items]
              exact ⟨_, started.note rfl, rfl⟩

/-- Whatever is asked of the file system and noted in the log on the way, an execution comes to what
its access says. -/
theorem make_started (arguments : Arguments) (surroundings : Surroundings) :
    ∃ run, run.IsStarted arguments surroundings ∧
      make arguments surroundings = ofAccess arguments surroundings.host run := by
  cases hidden : arguments.noProgress with
  | true =>
      have made : make arguments surroundings =
          ofInput arguments surroundings.host (arguments.start surroundings) := by
        rw [make, hidden]
        rfl
      rw [made]
      apply ofInput_started (isStarted_start arguments surroundings .hidden)
      rw [Arguments.denial?, hidden]
  | false =>
      cases measured : surroundings.host.measure arguments.inputPath with
      | error cause =>
          have denied : arguments.denial? surroundings.host = some cause := by
            rw [Arguments.denial?, hidden, measured]
          refine ⟨_, isStarted_start arguments surroundings .hidden, ?_⟩
          rw [ofAccess, denied, make, hidden, Host.inputSize, measured]
          rfl
      | ok size =>
          have made : make arguments surroundings = ofInput arguments surroundings.host
              { arguments.start surroundings with progress := .new size } := by
            rw [make, hidden, Host.inputSize, measured]
            rfl
          rw [made]
          apply ofInput_started (isStarted_start arguments surroundings (.new size))
          rw [Arguments.denial?, hidden, measured]

/-! ## 3. Agreement -/

/-- Two executions for the same run agree if their inputs give the same: the same refusal, or the
same items. -/
theorem conclude_agrees {arguments other : Arguments} (same : arguments.SameRun other)
    (surroundings : Surroundings)
    (denial : arguments.denial? surroundings.host = other.denial? surroundings.host)
    (items : arguments.items surroundings.host = other.items surroundings.host)
    (elapsed later : Elapsed) :
    ((make arguments surroundings).conclude elapsed).1 =
        ((make other surroundings).conclude later).1 ∧
      ((make arguments surroundings).conclude elapsed).2.Agrees surroundings.verbosity
        ((make other surroundings).conclude later).2 := by
  obtain ⟨run, started, made⟩ := make_started arguments surroundings
  obtain ⟨run', started', made'⟩ := make_started other surroundings
  have agrees := started.agrees same started'
  have path : arguments.inputPath = other.inputPath := congrArg Path.ofString same.input
  have config : arguments.config = other.config := by
    rw [Arguments.config, Arguments.config, same.locale, same.unit, same.skipInvalid]
  rw [made, made', ofAccess, ofAccess, denial, items, path]
  cases other.denial? surroundings.host with
  | some cause => exact ⟨rfl, agrees⟩
  | none =>
      obtain ⟨result, after⟩ := agrees.consume other.config (other.items surroundings.host)
      dsimp only [ofItems]
      rw [config]
      rcases consumed : run.consume other.config (other.items surroundings.host) with
        ⟨ended, next⟩
      rcases consumed' : run'.consume other.config (other.items surroundings.host) with
        ⟨ended', next'⟩
      rw [consumed, consumed'] at result after
      cases result
      exact ⟨rfl, after.conclude elapsed later ended⟩

end Attempt

end SentenceSpans
