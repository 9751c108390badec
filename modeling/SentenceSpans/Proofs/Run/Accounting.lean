import SentenceSpans.Proofs.Output.WholeLines
import SentenceSpans.Proofs.Run.Output

/-!
# The accounts of a run

A run may end at any item: the item may be fatal, the sink may refuse its line, or a buffer handed
over for it, and after the last item the sink may refuse the flush.  The statistics, the progress
and the output still tell the same story, since a record is counted exactly when the writer has
taken its line.

Results:
1. `Accounts.take`: a single item is accounted for, or the sink refused and no account changes.
2. `Accounts.consume`: so are the first few of all items.
3. `tells_consume`: the statistics tell how the items ended the run.
4. `process_consistent`: the accounts of a whole run, however it ends.
-/

namespace SentenceSpans

/-! ## Definitions -/

namespace RunStats

/-- Statistics tell how a run ended: that it succeeded, or that it failed and why. -/
def Tells (stats : RunStats) : Except Failure Unit → Prop
  | .ok () => stats.status = "success" ∧ stats.error? = none
  | .error failure => stats.status = "failed" ∧ stats.error? = some failure.message

/-- Count an item whose line was written. -/
def countItem (detector : Detector) (stats : RunStats) : Item → RunStats
  | .ok record => stats.countRecord (detector.spans record.text).length record.rawLength
  | .error failure => stats.countSkipped (failure.skippedLength?.getD 0)

end RunStats

namespace RunState

/-- A run that has taken the lines of the given items and has counted them. -/
structure Accounts (config : RunConfig) (rule : SinkRule) (done : List Item) (run : RunState) :
    Prop where
  lines : run.writer.Holds rule (done.map config.lineOf)
  read : run.stats.recordsRead = done.length
  skipped : run.stats.recordsSkipped = done.countP Item.isFailure
  sentences : run.stats.sentencesDetected =
    Item.total (fun item => (item.spans config.detector).length) done
  bytes : run.stats.bytesRead = Item.total Item.rawLength done
  position : run.progress = ⟨run.stats.bytesRead, none⟩

/-- The sink refused its latest request, and the refusal is what ends the run. -/
def IsRefused (rule : SinkRule) (result : Except Failure Unit) (run : RunState) : Prop :=
  ∃ cause, run.writer.sink.HasRefused rule cause ∧ result = .error (.outputWrite cause)

/-- The output and the accounts of a run over some items, from the number of records it has read:
the writer has taken the lines of that many items, the sink holds the first few of these lines, and
each account is that of these items.  All items that get a line are read unless the sink refuses,
and after a success nothing is left to do. -/
structure Consistent (config : RunConfig) (rule : SinkRule) (items : List Item)
    (result : Except Failure Unit) (run : RunState) : Prop where
  bounded : run.stats.recordsRead ≤ (config.answered items).length
  content : run.writer.content =
    String.join ((config.expectedLines items).take run.stats.recordsRead)
  whole : ∃ count ≤ run.stats.recordsRead, run.writer.sink.accepted =
    String.join ((config.expectedLines items).take count)
  skipped : run.stats.recordsSkipped =
    ((config.answered items).take run.stats.recordsRead).countP Item.isFailure
  sentences : run.stats.sentencesDetected =
    Item.total (fun item => (item.spans config.detector).length)
      ((config.answered items).take run.stats.recordsRead)
  bytes : run.stats.bytesRead =
    Item.total Item.rawLength ((config.answered items).take run.stats.recordsRead)
  position : run.progress.position = run.stats.bytesRead
  outcome : run.stats.Tells result
  ending : IsRefused rule result run ∨
    result = config.expectedResult items ∧
      run.stats.recordsRead = (config.answered items).length
  complete : result = .ok () → config.answered items = items ∧
    run.stats.recordsRead = items.length ∧
    run.writer.sink.accepted = String.join (config.expectedLines items) ∧ run.writer.IsFlushed

namespace Accounts

variable {config : RunConfig} {rule : SinkRule} {done : List Item} {run : RunState}

/-! ## 1. Single items -/

/-- Before the first item. -/
theorem new (config : RunConfig) (rule : SinkRule) (path : Path) (locale : Locale)
    (unit : OffsetUnit) (log : Log) :
    Accounts config rule [] (.new rule (.new path locale unit) .hidden log) where
  lines := .new rule
  read := rfl
  skipped := rfl
  sentences := rfl
  bytes := rfl
  position := rfl

/-- An item is accounted for once its line was taken and it was counted. -/
theorem counted (accounts : Accounts config rule done run) (item : Item) {after : RunState}
    (lines : after.writer.Holds rule (done.map config.lineOf ++ [config.lineOf item]))
    (stats : after.stats = run.stats.countItem config.detector item)
    (progress : after.progress = run.progress.advance item.rawLength) :
    Accounts config rule (done ++ [item]) after where
  lines := by
    rw [List.map_append]
    exact lines
  read := by
    rw [stats, List.length_append, ← accounts.read]
    cases item <;> rfl
  skipped := by
    rw [stats, List.countP_append, ← accounts.skipped]
    cases item <;> rfl
  sentences := by
    rw [stats, Item.total_concat, ← accounts.sentences]
    cases item <;> rfl
  bytes := by
    rw [stats, Item.total_concat, ← accounts.bytes]
    cases item <;> rfl
  position := by
    rw [progress, stats, accounts.position]
    cases item <;> rfl

/-- A refused line changes no account. -/
theorem refused (accounts : Accounts config rule done run) {writer : Writer}
    (lines : writer.Holds rule (done.map config.lineOf)) (log : Log) :
    Accounts config rule done { run with writer := writer, log := log } where
  lines := lines
  read := accounts.read
  skipped := accounts.skipped
  sentences := accounts.sentences
  bytes := accounts.bytes
  position := accounts.position

theorem takeRecord (accounts : Accounts config rule done run) (record : Record) :
    ((run.takeRecord config.detector record).1 = .ok () ∧
        Accounts config rule (done ++ [.ok record]) (run.takeRecord config.detector record).2) ∨
      (IsRefused rule (run.takeRecord config.detector record).1
          (run.takeRecord config.detector record).2 ∧
        Accounts config rule done (run.takeRecord config.detector record).2) := by
  have lines := Writer.holds_writeSpans accounts.lines (config.detector.spans record.text)
  unfold RunState.takeRecord
  rcases written : run.writer.writeSpans (config.detector.spans record.text) with ⟨outcome, writer⟩
  rw [written] at lines
  simp only [RunState.noteRemoved, written]
  rcases lines with ⟨rfl, lines⟩ | ⟨cause, refuses, rfl, lines⟩
  · exact .inl ⟨rfl, accounts.counted (.ok record) lines rfl rfl⟩
  · exact .inr ⟨⟨cause, refuses, rfl⟩, accounts.refused lines _⟩

theorem skipLine (accounts : Accounts config rule done run) (failure : Failure) :
    ((run.skipLine failure).1 = .ok () ∧
        Accounts config rule (done ++ [.error failure]) (run.skipLine failure).2) ∨
      (IsRefused rule (run.skipLine failure).1 (run.skipLine failure).2 ∧
        Accounts config rule done (run.skipLine failure).2) := by
  have lines := Writer.holds_writeEmptyLine accounts.lines
  unfold RunState.skipLine
  rcases written : run.writer.writeEmptyLine with ⟨outcome, writer⟩
  rw [written] at lines
  simp only [RunState.note, written]
  rcases lines with ⟨rfl, lines⟩ | ⟨cause, refuses, rfl, lines⟩
  · exact .inl ⟨rfl, accounts.counted (.error failure) lines rfl rfl⟩
  · exact .inr ⟨⟨cause, refuses, rfl⟩, accounts.refused lines _⟩

/-- An item that is not fatal is accounted for, or the sink has refused its line. -/
theorem take (accounts : Accounts config rule done run) {item : Item}
    (passed : config.fatal? item = none) :
    ((run.take config item).1 = .ok () ∧
        Accounts config rule (done ++ [item]) (run.take config item).2) ∨
      (IsRefused rule (run.take config item).1 (run.take config item).2 ∧
        Accounts config rule done (run.take config item).2) := by
  cases item with
  | ok record => exact accounts.takeRecord record
  | error failure =>
      rw [take_of_skipped passed]
      exact accounts.skipLine failure

/-! ## 2. All items -/

theorem flush (accounts : Accounts config rule done run) :
    Accounts config rule done run.flush.2 ∧
      ((run.flush.1 = .ok () ∧ run.flush.2.writer.IsFlushed) ∨
        IsRefused rule run.flush.1 run.flush.2) := by
  obtain ⟨lines, ending⟩ := Writer.holds_flush accounts.lines
  unfold RunState.flush
  rcases flushed : run.writer.flush with ⟨outcome, writer⟩
  rw [flushed] at lines ending
  exact ⟨accounts.refused lines _, ending⟩

/-- The items that are accounted for in the end come one after another.  Only a refusal by the sink
leaves out one that should get a line. -/
theorem consume (accounts : Accounts config rule done run) (items : List Item) :
    ∃ more, more <+: config.answered items ∧
      Accounts config rule (done ++ more) (run.consume config items).2 ∧
      (IsRefused rule (run.consume config items).1 (run.consume config items).2 ∨
        (run.consume config items).1 = config.expectedResult items ∧
          more = config.answered items) ∧
      ((run.consume config items).1 = .ok () → (run.consume config items).2.writer.IsFlushed) := by
  -- The items done grow at the back, by the one that is taken off the others in front.
  induction items generalizing run done with
  | nil =>
      rw [RunState.consume]
      obtain ⟨after, flushed | refusal⟩ := accounts.flush
      · refine ⟨[], List.prefix_refl _, ?_, .inr ⟨flushed.1, rfl⟩, fun _ => flushed.2⟩
        rwa [List.append_nil]
      · refine ⟨[], List.prefix_refl _, ?_, .inl refusal, ?_⟩
        · rwa [List.append_nil]
        · obtain ⟨cause, _, failed⟩ := refusal
          intro succeeded
          rw [failed] at succeeded
          cases succeeded
  | cons item rest ih =>
      rw [RunState.consume]
      cases found : config.fatal? item with
      | some failure =>
          rw [take_of_fatal found]
          refine ⟨[], List.nil_prefix, ?_, .inr ⟨?_, ?_⟩, ?_⟩
          · rwa [List.append_nil]
          · exact (RunConfig.expected_cons_of_fatal found rest).2.symm
          · rw [RunConfig.answered_cons, found]
            rfl
          · intro succeeded
            cases succeeded
      | none =>
          have step := accounts.take found
          rcases taken : run.take config item with ⟨outcome, next⟩
          rw [taken] at step
          rw [RunConfig.answered_cons, found, (RunConfig.expected_cons found rest).2]
          rcases step with ⟨passed, accounts⟩ | ⟨⟨cause, refuses, failed⟩, accounts⟩
          · cases passed
            obtain ⟨more, short, accounts, ending, flushed⟩ := ih accounts
            refine ⟨item :: more, List.cons_prefix_cons.2 ⟨rfl, short⟩, ?_, ?_, flushed⟩
            · rwa [List.append_assoc] at accounts
            · exact ending.imp_right (And.imp_right (congrArg (item :: ·)))
          · cases failed
            refine ⟨[], List.nil_prefix, ?_, .inl ⟨cause, refuses, rfl⟩, ?_⟩
            · rwa [List.append_nil]
            · intro succeeded
              cases succeeded

end Accounts

/-! ## 3. How a run ended -/

theorem outcome_take (config : RunConfig) (run : RunState) (item : Item) :
    (run.take config item).2.stats.outcome = run.stats.outcome := by
  cases item with
  | ok record =>
      rw [RunState.take, RunState.takeRecord]
      split <;> rfl
  | error failure =>
      rw [RunState.take]
      split
      · rfl
      · rw [RunState.skipLine]
        split <;> rfl

/-- No item settles how the run ends. -/
theorem outcome_consume (config : RunConfig) (run : RunState) (items : List Item) :
    (run.consume config items).2.stats.outcome = run.stats.outcome := by
  induction items generalizing run with
  | nil => rfl
  | cons item rest ih =>
      have step := outcome_take config run item
      rw [RunState.consume]
      rcases taken : run.take config item with ⟨_ | ⟨⟩, next⟩
      all_goals rw [taken] at step
      · exact step
      · exact (ih next).trans step

/-- A run that starts without a failure tells in the end how its items ended it. -/
theorem tells_consume (config : RunConfig) {run : RunState}
    (fresh : run.stats.outcome = .success) (items : List Item) (elapsed : Elapsed) :
    ((run.consume config items).2.conclude elapsed (run.consume config items).1).stats.Tells
      (run.consume config items).1 := by
  have kept := (outcome_consume config run items).trans fresh
  rcases consumed : run.consume config items with ⟨failure | ⟨⟩, after⟩
  · exact ⟨rfl, rfl⟩
  · rw [consumed] at kept
    have same : (after.conclude elapsed (.ok ())).stats.outcome = .success := kept
    simp [RunStats.Tells, RunStats.status, RunStats.error?, same]

/-! ## 4. Whole runs -/

/-- The end of a run changes none of its accounts. -/
theorem Accounts.conclude {config : RunConfig} {rule : SinkRule} {done : List Item}
    {run : RunState} (accounts : Accounts config rule done run) (elapsed : Elapsed)
    (result : Except Failure Unit) :
    Accounts config rule done (run.conclude elapsed result) := by
  obtain ⟨lines, read, skipped, sentences, bytes, position⟩ := accounts
  cases result with
  | ok done =>
      refine ⟨lines, read, skipped, sentences, bytes, ?_⟩
      change run.progress.finish = ⟨run.stats.bytesRead, none⟩
      rw [position]
      rfl
  | error failure => exact ⟨lines, read, skipped, sentences, bytes, position⟩

/-- What is left to show once the items are dealt with: the accounts are those of the items that
came first. -/
theorem Accounts.consistent {config : RunConfig} {rule : SinkRule} {items more : List Item}
    {result : Except Failure Unit} {run : RunState} (accounts : Accounts config rule more run)
    (short : more <+: config.answered items) (outcome : run.stats.Tells result)
    (ending : IsRefused rule result run ∨
      result = config.expectedResult items ∧ more = config.answered items)
    (flushed : result = .ok () → run.writer.IsFlushed) :
    Consistent config rule items result run := by
  obtain ⟨lines, read, skipped, sentences, bytes, position⟩ := accounts
  have taken : (config.answered items).take more.length = more :=
    (List.prefix_iff_eq_take.1 short).symm
  have written : (config.expectedLines items).take more.length = more.map config.lineOf := by
    rw [RunConfig.expectedLines, ← List.map_take, taken]
  constructor
  case bounded =>
    rw [read]
    exact short.length_le
  case content =>
    rw [read, written]
    exact lines.content
  case whole =>
    obtain ⟨count, le, accepted⟩ := lines.whole
    rw [List.length_map] at le
    refine ⟨count, read ▸ le, ?_⟩
    rw [accepted, ← written, List.take_take, Nat.min_eq_left le]
  case skipped => rw [read, taken, skipped]
  case sentences => rw [read, taken, sentences]
  case bytes => rw [read, taken, bytes]
  case position => rw [position]
  case outcome => exact outcome
  case ending =>
    rw [read]
    exact ending.imp_right (And.imp_right (congrArg List.length))
  case complete =>
    intro succeeded
    obtain ⟨empty, last⟩ := flushed succeeded
    rcases ending with ⟨cause, _, failed⟩ | ⟨expected, all⟩
    · rw [failed] at succeeded
      cases succeeded
    · have whole : config.answered items = items := answered_of_ok (expected.symm.trans succeeded)
      refine ⟨whole, ?_, ?_, empty, last⟩
      · rw [read, all, whole]
      · rw [← Writer.content_of_buffered empty, lines.content, all]
        rfl

/-- However a run ends and whatever the sink refuses, output and accounts are those of the records
read.  The lines are the first ones of those that a sink which refuses nothing receives. -/
theorem process_consistent (config : RunConfig) (rule : SinkRule) (path : Path) (locale : Locale)
    (unit : OffsetUnit) (log : Log) (elapsed : Elapsed) (items : List Item) :
    ((new .unlimited (.new path locale unit) .hidden log).deliver config elapsed items).2.2 =
        String.join (config.expectedLines items) ∧
      Consistent config rule items
        ((new rule (.new path locale unit) .hidden log).process config elapsed items).1
        ((new rule (.new path locale unit) .hidden log).process config elapsed items).2 := by
  have accepting : ∀ history request, SinkRule.unlimited history request = none := fun _ _ => rfl
  refine ⟨by rw [deliver_eq accepting], ?_⟩
  obtain ⟨more, short, accounts, ending, flushed⟩ :=
    (Accounts.new config rule path locale unit log).consume items
  have fresh : (new rule (.new path locale unit) .hidden log).stats.outcome = .success := rfl
  have told := tells_consume config fresh items elapsed
  unfold process
  rcases consumed : (new rule (.new path locale unit) .hidden log).consume config items with
    ⟨result, run⟩
  rw [consumed] at accounts ending flushed told
  refine (accounts.conclude elapsed result).consistent short told ?_ ?_
  · rwa [IsRefused, writer_conclude]
  · rwa [writer_conclude]

end RunState

end SentenceSpans
