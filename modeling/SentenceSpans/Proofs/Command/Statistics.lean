import SentenceSpans.Input.WorkingDirectory
import SentenceSpans.Proofs.Command.Access
import SentenceSpans.Proofs.Run.Accounting

/-!
# What stored statistics tell

Statistics are stored however the run ended, so that whoever asked for them can learn it from them
alone.  They tell how a run ended once its items were processed, whatever failed then.  A run whose
input gives no access fails before that: its statistics are those of a run that has not started,
and tell of a success.

Results:
1. `make_cases`: what an execution does, from the access that its input gives.
2. `stored_report`: which statistics are stored.
3. `stored_tells_iff`: whether they tell how the run ended.
4. `stored_missing_untold`: a missing input, whose statistics do not.
-/

namespace SentenceSpans

/-! ## 1. Access to the input -/

namespace Attempt

/-- Without access nothing is processed, and with it all items are. -/
theorem make_cases (arguments : Arguments) (surroundings : Surroundings) :
    (∃ cause run, arguments.denial? surroundings.host = some cause ∧
        make arguments surroundings =
          .refused (.inputUnavailable arguments.inputPath cause) run ∧
        run.stats = arguments.freshStats) ∨
      (arguments.denial? surroundings.host = none ∧
        ∃ run items, make arguments surroundings = ofItems arguments run items ∧
          run.stats = arguments.freshStats) := by
  obtain ⟨run, started, made⟩ := make_started arguments surroundings
  rw [made, ofAccess]
  cases arguments.denial? surroundings.host with
  | some cause => exact .inl ⟨cause, run, rfl, rfl, started.stats⟩
  | none => exact .inr ⟨rfl, run, _, rfl, started.stats⟩

end Attempt

/-! ## 2. Stored statistics -/

namespace Execution

/-- Only the statistics of the run itself are stored, and only where the arguments ask for it. -/
theorem stored_report {arguments : Arguments} {host : Host} {result : Except Failure Unit}
    {run : RunState} {path : Path} {stats : RunStats}
    (stored : (report arguments host result run).stored = some (path, stats)) :
    arguments.statsOut.map .ofString = some path ∧ stats = run.stats := by
  have kept : storeStats arguments host run = .ok (some (path, stats)) := by
    unfold report at stored
    cases found : storeStats arguments host run with
    | error lost =>
        rw [found] at stored
        cases result <;> cases stored
    | ok held =>
        rw [found] at stored
        cases result with
        | error failure => exact congrArg Except.ok stored
        | ok done => exact congrArg Except.ok stored
  unfold storeStats at kept
  split at kept
  · cases kept
  · next name wanted =>
      rw [wanted]
      split at kept
      · cases kept
        exact ⟨rfl, rfl⟩
      · cases kept

/-! ## 3. What they tell -/

theorem tells_conclude_ofItems (arguments : Arguments) {run : RunState}
    (fresh : run.stats = arguments.freshStats) (items : List Item) (elapsed : Elapsed) :
    ((Attempt.ofItems arguments run items).conclude elapsed).2.stats.Tells
      ((Attempt.ofItems arguments run items).conclude elapsed).1 := by
  have untold : run.stats.outcome = .success := by
    rw [fresh]
    rfl
  have told := RunState.tells_consume arguments.config untold items elapsed
  unfold Attempt.ofItems
  rcases consumed : run.consume arguments.config items with ⟨result, after⟩
  rw [consumed] at told
  exact told

/-- A command line whose statistics are stored is one for a run, and the statistics tell how the run
ended exactly when its input gave access.  Otherwise the run has failed with the refusal, and the
statistics are those of a run that has not started. -/
theorem stored_tells_iff {line : List String} {surroundings : Surroundings} {elapsed : Elapsed}
    {path : Path} {stats : RunStats}
    (stored : (ofCommandLine line surroundings elapsed).stored = some (path, stats)) :
    ∃ arguments, Arguments.parse line = .ok arguments ∧
      arguments.statsOut.map .ofString = some path ∧
      (stats.Tells (arguments.result surroundings elapsed) ↔
        arguments.denial? surroundings.host = none) ∧
      ∀ cause, arguments.denial? surroundings.host = some cause →
        arguments.result surroundings elapsed =
            .error (.inputUnavailable arguments.inputPath cause) ∧
          stats = arguments.freshStats := by
  unfold ofCommandLine at stored
  cases parsed : Arguments.parse line with
  | error inquiry =>
      rw [parsed] at stored
      cases inquiry <;> cases stored
  | ok arguments =>
      rw [parsed] at stored
      dsimp only [ofArguments] at stored
      obtain ⟨wanted, same⟩ := stored_report stored
      refine ⟨arguments, rfl, wanted, ?_⟩
      rw [same, Arguments.result]
      rcases Attempt.make_cases arguments surroundings with
        ⟨cause, run, denied, attempt, fresh⟩ | ⟨granted, run, items, attempt, fresh⟩
      · -- Nothing was processed, so that nobody has noted the failure.
        rw [attempt, denied]
        refine ⟨⟨?_, nofun⟩, ?_⟩
        · rintro ⟨failed, _⟩
          change run.stats.status = "failed" at failed
          rw [fresh] at failed
          change "success" = "failed" at failed
          exact absurd failed (by decide)
        · rintro _ ⟨⟩
          exact ⟨rfl, fresh⟩
      · rw [attempt, granted]
        exact ⟨⟨fun _ => rfl, fun _ => tells_conclude_ofItems arguments fresh items elapsed⟩, nofun⟩

/-- A working directory with one file, whose second line is not UTF-8. -/
def undecodable : Surroundings :=
  ⟨(WorkingDirectory.mk [(.ofString "in.txt", [0x48, 0x69, 0x2E, 0x0A, 0xFF, 0x0A])]).host,
    .unlimited, .standard⟩

def missing : Surroundings := ⟨(WorkingDirectory.mk []).host, .unlimited, .standard⟩

/-- A line that is not UTF-8 ends the run after one record, and the statistics say so. -/
theorem stored_tells_iff_undecodable :
    ∃ path stats, ∃ arguments : Arguments,
      (ofCommandLine ["in.txt", "--stats-out", "s.json"] undecodable ⟨0, 0⟩).stored =
          some (path, stats) ∧
        arguments.denial? undecodable.host = none ∧
        stats.Tells (arguments.result undecodable ⟨0, 0⟩) ∧
        stats.error? =
          some "invalid input at line 2: invalid utf-8 sequence of 1 bytes from index 0" := by
  have shown : (ofCommandLine ["in.txt", "--stats-out", "s.json"] undecodable ⟨0, 0⟩).stored.map
      (fun entry => entry.2.error?) =
        some (some "invalid input at line 2: invalid utf-8 sequence of 1 bytes from index 0") := by
    decide +kernel
  obtain ⟨⟨path, stats⟩, stored, message⟩ := Option.map_eq_some_iff.1 shown
  obtain ⟨arguments, parsed, _, tells, _⟩ := stored_tells_iff stored
  have granted : arguments.denial? undecodable.host = none := by
    have known : (Arguments.parse ["in.txt", "--stats-out", "s.json"]).toOption =
        some ⟨"in.txt", .english, .char, false, false, false, some "s.json"⟩ := by
      decide +kernel
    rw [parsed] at known
    cases known
    decide +kernel
  exact ⟨path, stats, arguments, stored, granted, tells.2 granted, message⟩

/-- The run fails when its input is missing, and its statistics tell of a success. -/
theorem stored_missing_untold :
    ¬ ∀ (line : List String) (surroundings : Surroundings) (elapsed : Elapsed) (path : Path)
        (stats : RunStats) (arguments : Arguments),
      (ofCommandLine line surroundings elapsed).stored = some (path, stats) →
        Arguments.parse line = .ok arguments →
          stats.Tells (arguments.result surroundings elapsed) := by
  intro all
  have shown : (ofCommandLine ["missing.txt", "--stats-out", "s.json"] missing ⟨0, 0⟩).stored.map
      (fun entry => entry.2.status) = some "success" := by
    decide +kernel
  obtain ⟨⟨path, stats⟩, stored, success⟩ := Option.map_eq_some_iff.1 shown
  have known : (Arguments.parse ["missing.txt", "--stats-out", "s.json"]).toOption =
      some ⟨"missing.txt", .english, .char, false, false, false, some "s.json"⟩ := by
    decide +kernel
  cases parsed : Arguments.parse ["missing.txt", "--stats-out", "s.json"] with
  | error inquiry =>
      rw [parsed] at known
      cases known
  | ok arguments =>
      have told := all _ missing ⟨0, 0⟩ path stats arguments stored parsed
      rw [parsed] at known
      cases known
      rcases Attempt.make_cases
          ⟨"missing.txt", .english, .char, false, false, false, some "s.json"⟩ missing with
        ⟨cause, run, denied, attempt, _⟩ | ⟨granted, _⟩
      · rw [Arguments.result, attempt] at told
        have failed : stats.status = "failed" := told.1
        change stats.status = "success" at success
        rw [success] at failed
        exact absurd failed (by decide)
      · exact absurd granted (by decide +kernel)

end Execution

end SentenceSpans
