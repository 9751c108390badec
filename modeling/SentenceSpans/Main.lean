import SentenceSpans.Command.Execution

/-!
# The command line

Reads the input and the clock, executes the program, and writes what it leaves behind.
-/

namespace SentenceSpans.Main

def failureOf : IO.Error → IoFailure
  | .alreadyExists _ number text => .ofSystem text number.toNat
  | .otherError number text => .ofSystem text number.toNat
  | .resourceBusy number text => .ofSystem text number.toNat
  | .resourceVanished number text => .ofSystem text number.toNat
  | .unsupportedOperation number text => .ofSystem text number.toNat
  | .hardwareFault number text => .ofSystem text number.toNat
  | .unsatisfiedConstraints number text => .ofSystem text number.toNat
  | .illegalOperation number text => .ofSystem text number.toNat
  | .protocolError number text => .ofSystem text number.toNat
  | .timeExpired number text => .ofSystem text number.toNat
  | .interrupted _ number text => .ofSystem text number.toNat
  | .noFileOrDirectory _ number text => .ofSystem text number.toNat
  | .invalidArgument _ number text => .ofSystem text number.toNat
  | .permissionDenied _ number text => .ofSystem text number.toNat
  | .resourceExhausted _ number text => .ofSystem text number.toNat
  | .inappropriateType _ number text => .ofSystem text number.toNat
  | .noSuchThing _ number text => .ofSystem text number.toNat
  | .unexpectedEof => ⟨"unexpected end of file"⟩
  | .userError message => ⟨message⟩

def attempt (action : IO α) : IO (Except IoFailure α) := do
  match ← action.toBaseIO with
  | .ok value => return .ok value
  | .error error => return .error (failureOf error)

def openFile (name : String) : IO (Except IoFailure InputFile) := do
  match ← attempt (IO.FS.Handle.mk name .read) with
  | .error cause => return .error cause
  | .ok handle =>
      match ← attempt handle.readBinToEnd with
      | .ok content => return .ok (.ofBytes content.toList)
      | .error cause =>
          return .ok ⟨InputFile.directory.size, [.failure cause], .error .noSuchDevice⟩

def hostOf (file : Except IoFailure InputFile) (refusal : Option IoFailure) : Host where
  measure := fun _ => file.map (·.size)
  openInput := fun _ => file
  storeRefusal := fun _ => refusal

/-- Store the statistics of a run; the result is the refusal of the file system, if any. -/
def storeStats (arguments : Arguments) (run : RunState) : IO (Option IoFailure) := do
  match arguments.statsOut with
  | none => return none
  | some name =>
      match ← attempt (IO.FS.writeFile name run.stats.render) with
      | .ok () => return none
      | .error cause => return some cause

def elapsedSince (start : Nat) : IO Elapsed := do
  let now ← IO.monoNanosNow
  return ⟨(now - start) / 1000000000, (now - start) % 1000000000⟩

def runArguments (arguments : Arguments) : IO Execution := do
  let verbosity ← IO.getEnv "RUST_LOG"
  let file ← openFile arguments.input
  let start ← IO.monoNanosNow
  let made ← IO.lazyPure fun _ =>
    Attempt.make arguments ⟨hostOf file none, .unlimited, .ofRequest verbosity⟩
  let elapsed ← elapsedSince start
  match made.conclude elapsed with
  | (result, run) =>
      let refusal ← storeStats arguments run
      return Execution.report arguments (hostOf file refusal) result run

def deliver (execution : Execution) : IO UInt32 := do
  let output ← IO.getStdout
  output.putStr execution.stdout
  output.flush
  for event in execution.events do
    IO.eprint event.render
  IO.eprint execution.stderr
  return execution.exitCode.toUInt32

def run (arguments : List String) : IO UInt32 := do
  match Arguments.parse arguments with
  | .ok arguments => deliver (← runArguments arguments)
  | .error inquiry => deliver (Execution.ofInquiry inquiry)

end SentenceSpans.Main

def main (arguments : List String) : IO UInt32 := SentenceSpans.Main.run arguments
