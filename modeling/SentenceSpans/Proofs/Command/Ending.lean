import SentenceSpans.Proofs.Command.Causes
import SentenceSpans.Proofs.Command.Report
import SentenceSpans.Proofs.Command.Statistics
import SentenceSpans.Proofs.Run.Output

/-!
# How executions end

Two things can fail in an execution: the run, and the storing of its statistics, which is tried
however the run ended.  The failure of the run is the one that is reported.  The other one is
reported where it is alone; otherwise it is an event in the log and nothing else.  What was written
before the failure is on standard output in any case.

Results:
1. `conclude_of_accepting`: the output of a run, from the items of its input.
2. `ends_ofCommandLine`: the end of an execution.
-/

namespace SentenceSpans

/-! ## Definitions -/

/-- How an execution with the given arguments ends, given the result of its run and the execution
`bare` that wants no statistics. -/
structure Execution.Ends (arguments : Arguments) (surroundings : Surroundings)
    (result : Except Failure Unit) (bare execution : Execution) : Prop where
  /-- It succeeds where the run does and its statistics, if they are wanted, are stored. -/
  success : execution.exitCode = 0 ↔
    result = .ok () ∧ (arguments.statsOut = none ∨ execution.stored.isSome)
  /-- They are stored where the file system does not refuse, however the run ended. -/
  stored : execution.stored.isSome ↔
    ∃ name, arguments.statsOut = some name ∧ surroundings.host.storeRefusal (.ofString name) = none
  /-- The failure of the run is reported, with its cause, whether the statistics are stored or
  not. -/
  failed : ∀ failure, result = .error failure → ∃ cause, failure.cause? = some cause ∧
    execution.stderr = "Error: Failed to process " ++ arguments.inputPath.display ++
      "\n\nCaused by:\n    0: " ++ ErrorText.indent 7 failure.message ++
      "\n    1: " ++ ErrorText.indent 7 cause ++ "\n"
  /-- The loss of the statistics is reported where nothing else failed. -/
  lost : result = .ok () → ∀ lost, arguments.loss? surroundings.host = some lost →
    execution.stderr = "Error: " ++ lost.message ++ "\n"
  /-- Where the run failed, too, the loss is one more event in the log. -/
  events : execution.urgent.events = bare.urgent.events ++
    lossEvents surroundings.verbosity result (arguments.loss? surroundings.host)
  stdout : execution.stdout = bare.stdout
  /-- The output has the lines of the items before the first fatal one, which ends the run.  Where
  the run ended well these are all items. -/
  output : (∀ history request, surroundings.output history request = none) →
    execution.stdout =
        String.join (arguments.config.expectedLines (arguments.items surroundings.host)) ∧
      (arguments.denial? surroundings.host = none →
        result = arguments.config.expectedResult (arguments.items surroundings.host)) ∧
      (result = .ok () → arguments.config.answered (arguments.items surroundings.host) =
        arguments.items surroundings.host)

/-! ## 1. Output -/

/-- Into a sink that refuses nothing, a run writes the lines that its input has to give, and only
its input can end it. -/
theorem Attempt.conclude_of_accepting (arguments : Arguments) (surroundings : Surroundings)
    (accepting : ∀ history request, surroundings.output history request = none)
    (elapsed : Elapsed) :
    ((make arguments surroundings).conclude elapsed).2.writer.finish.2.accepted =
        String.join (arguments.config.expectedLines (arguments.items surroundings.host)) ∧
      (arguments.denial? surroundings.host = none →
        arguments.result surroundings elapsed =
          arguments.config.expectedResult (arguments.items surroundings.host)) ∧
      (arguments.result surroundings elapsed = .ok () →
        arguments.denial? surroundings.host = none) := by
  obtain ⟨run, started, made⟩ := make_started arguments surroundings
  rw [Arguments.result, made, ofAccess]
  cases denied : arguments.denial? surroundings.host with
  | some cause =>
      have empty : arguments.items surroundings.host = [] := by
        rw [Arguments.items, denied]
      rw [empty]
      dsimp only [conclude]
      rw [started.writer]
      refine ⟨rfl, fun granted => ?_, fun ended => ?_⟩
      · cases granted
      · cases ended
  | none =>
      -- A run that has not started has an empty writer, so that only the expected lines follow.
      have fresh : run = .new surroundings.output run.stats run.progress run.log := by
        rw [RunState.new, ← started.writer]
      have delivered : run.deliver arguments.config elapsed (arguments.items surroundings.host) =
          (arguments.config.expectedResult (arguments.items surroundings.host), .ok (),
            String.join (arguments.config.expectedLines (arguments.items surroundings.host))) := by
        rw [fresh]
        exact deliver_eq accepting elapsed _ _ _ _
      unfold RunState.deliver RunState.process at delivered
      dsimp only [ofItems] at delivered ⊢
      rcases consumed : run.consume arguments.config (arguments.items surroundings.host) with
        ⟨result, after⟩
      rw [consumed] at delivered
      dsimp only [conclude] at delivered ⊢
      have expected := congrArg (fun ended => ended.1) delivered
      have accepted := congrArg (fun ended => ended.2.2) delivered
      exact ⟨accepted, fun _ => expected, fun _ => rfl⟩

/-! ## 2. Executions -/

namespace Execution

/-- Whatever the run comes to and wherever its statistics are to be stored, an execution ends as it
should. -/
theorem ends_ofCommandLine {line : List String} {arguments : Arguments}
    (parsed : Arguments.parse line = .ok arguments) (surroundings : Surroundings)
    (elapsed later : Elapsed) :
    Ends arguments surroundings (arguments.result surroundings elapsed)
      (ofArguments { arguments with statsOut := none } surroundings later)
      (ofCommandLine line surroundings elapsed) := by
  have same : arguments.SameRun { arguments with statsOut := none } := ⟨rfl, rfl, rfl, rfl⟩
  obtain ⟨alike, agrees⟩ := Attempt.conclude_agrees same surroundings rfl rfl elapsed later
  rw [ofCommandLine, parsed, Arguments.result]
  dsimp only [ofArguments]
  rw [← alike]
  refine
    { success := success_iff arguments surroundings.host _ _
      stored := stored_iff arguments surroundings.host _ _
      failed := ?failed
      lost := ?lost
      events := urgent_report arguments rfl surroundings.host agrees _
      stdout := ?stdout
      output := ?output }
  case failed =>
    intro failure failed
    obtain ⟨cause, found⟩ := Arguments.exists_cause_of_failed failed
    refine ⟨cause, found, ?_⟩
    rw [report_eq, failed]
    exact processingReport_of_cause arguments.inputPath.display found
  case lost =>
    intro ended lost loss
    rw [report_eq, ended, loss]
    exact lossReport_of_loss loss
  case stdout =>
    rw [report_eq, report_eq]
    dsimp only
    rw [agrees.writer]
  case output =>
    intro accepting
    obtain ⟨accepted, expected, granted⟩ :=
      Attempt.conclude_of_accepting arguments surroundings accepting elapsed
    rw [report_eq]
    refine ⟨accepted, expected, fun ended => ?_⟩
    have passed := expected (granted ended)
    rw [Arguments.result, ended] at passed
    exact answered_of_ok passed.symm

/-- A line that is not UTF-8, and statistics that are to be stored in place of a directory.  Only
the line is reported, the log tells of both, and the output has the line before it. -/
theorem ends_ofCommandLine_undecodable :
    Arguments.parse ["in.txt", "--stats-out", "."] =
        .ok ⟨"in.txt", .english, .char, false, false, false, some "."⟩ ∧
      (ofCommandLine ["in.txt", "--stats-out", "."] undecodable ⟨0, 0⟩).exitCode ≠ 0 ∧
      (ofCommandLine ["in.txt", "--stats-out", "."] undecodable ⟨0, 0⟩).stderr =
        "Error: Failed to process in.txt\n\nCaused by:\n" ++
          "    0: invalid input at line 2: invalid utf-8 sequence of 1 bytes from index 0\n" ++
          "    1: invalid utf-8 sequence of 1 bytes from index 0\n" ∧
      (ofCommandLine ["in.txt", "--stats-out", "."] undecodable ⟨0, 0⟩).urgent.events =
        [⟨.error, "Processing aborted", [("error", .text
            "invalid input at line 2: invalid utf-8 sequence of 1 bytes from index 0")]⟩,
          ⟨.error, "Run stats not written", [("error", .text
            "failed to write run stats to .: Is a directory (os error 21)")]⟩] ∧
      (ofCommandLine ["in.txt", "--stats-out", "."] undecodable ⟨0, 0⟩).stdout = "0,3;\n" := by
  have parsed : Arguments.parse ["in.txt", "--stats-out", "."] =
      .ok ⟨"in.txt", .english, .char, false, false, false, some "."⟩ := by
    decide +kernel
  have failed : Arguments.result ⟨"in.txt", .english, .char, false, false, false, some "."⟩
      undecodable ⟨0, 0⟩ = .error (.invalidInput 2 2 ⟨0, some 1⟩) := by
    decide +kernel
  have lines : String.join (RunConfig.expectedLines
      (Arguments.config ⟨"in.txt", .english, .char, false, false, false, some "."⟩)
      (Arguments.items ⟨"in.txt", .english, .char, false, false, false, some "."⟩
        undecodable.host)) = "0,3;\n" := by
    decide +kernel
  have aborted : (ofArguments ⟨"in.txt", .english, .char, false, false, false, none⟩ undecodable
      ⟨0, 0⟩).urgent.events = [⟨.error, "Processing aborted", [("error", .text
        "invalid input at line 2: invalid utf-8 sequence of 1 bytes from index 0")]⟩] := by
    decide +kernel
  have lost : Arguments.loss? ⟨"in.txt", .english, .char, false, false, false, some "."⟩
      undecodable.host = some (.reportWrite (.ofString ".") "Is a directory (os error 21)") := by
    decide +kernel
  have ends := ends_ofCommandLine parsed undecodable ⟨0, 0⟩ ⟨0, 0⟩
  obtain ⟨cause, found, reported⟩ := ends.failed _ failed
  cases found
  refine ⟨parsed, ?_, reported.trans (by decide +kernel), ?_,
    (ends.output fun _ _ => rfl).1.trans lines⟩
  · rw [Ne, ends.success, failed]
    rintro ⟨⟨⟩, _⟩
  · rw [ends.events, aborted, failed, lost]
    decide +kernel

end Execution

end SentenceSpans
