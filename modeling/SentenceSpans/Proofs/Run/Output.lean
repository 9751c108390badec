import SentenceSpans.Input.Lines
import SentenceSpans.Output.Reading
import SentenceSpans.Proofs.Output.Writing
import SentenceSpans.Proofs.Sentence.Boundaries
import SentenceSpans.Run.Expected

/-!
# The output of a run

A run adds one line for each item to what its writer has taken, and it stops at the first fatal
item.  Into a sink that refuses nothing, it therefore writes the expected lines, and its result is
the expected one.  When undecodable lines are skipped, no line of an input is fatal, so that the
lines of the output stand for those of the input, one by one.

Results:
1. `take_of_fatal` and `take_of_answered`: what a single item does, from what a record
   (`takeRecord_spec`) and a skipped line (`skipLine_spec`) do.
2. `consume_of_accepting`: what all items do.
3. `deliver_eq`: what the sink holds in the end.
4. `parts?_expectedLines_mappedItems`: the output of an input, line by line.
5. `deliver_aligned`: all of this for detectors with a lawful provider.
-/

namespace SentenceSpans

/-! ## Definitions -/

/-- A whole run and the end of its writer: how either ends, and the text in the sink then. -/
def RunState.deliver (config : RunConfig) (elapsed : Elapsed) (run : RunState)
    (items : List Item) : Except Failure Unit × Except Failure Unit × String :=
  match run.process config elapsed items with
  | (result, after) =>
      match after.writer.finish with
      | (ended, sink) => (result, ended, sink.accepted)

/-- The output line for the bytes of an input line, without its line feed. -/
def lineBody (detector : Detector) (line : List UInt8) : List Char :=
  match Utf8.decode (Input.stripTerminator line) with
  | .ok text => (String.join ((detector.spans text).map Span.render)).toList
  | .error _ => []

/-! ## 1. Single items -/

theorem fatal?_error (config : RunConfig) (failure : Failure) :
    config.fatal? (.error failure) = if config.isFatal failure then some failure else none := by
  cases failure <;> cases skips : config.skipInvalid <;>
    simp [RunConfig.isFatal, RunConfig.fatal?, Failure.isRecoverable, skips]

/-- A fatal item ends the run and leaves it as it was. -/
theorem take_of_fatal {config : RunConfig} {item : Item} {failure : Failure}
    (fatal : config.fatal? item = some failure) (run : RunState) :
    run.take config item = (.error failure, run) := by
  cases item with
  | ok record => cases fatal
  | error cause =>
      rw [fatal?_error] at fatal
      split at fatal
      · next ends =>
          cases fatal
          exact if_pos ends
      · cases fatal

/-- A failure that does not end the run is skipped. -/
theorem take_of_skipped {config : RunConfig} {failure : Failure}
    (passed : config.fatal? (.error failure) = none) (run : RunState) :
    run.take config (.error failure) = run.skipLine failure := by
  have recovers : ¬ config.isFatal failure = true := by
    intro ends
    rw [fatal?_error, if_pos ends] at passed
    cases passed
  rw [RunState.take, if_neg recovers]

theorem takeRecord_spec (detector : Detector) (run : RunState) (record : Record) :
    ∃ refusal, (run.takeRecord detector record).1 = Writer.result refusal () ∧
      Writes run.writer (renderLine (detector.spans record.text)) refusal
        (run.takeRecord detector record).2.writer := by
  obtain ⟨refusal, result, writes⟩ :=
    Writer.writeSpans_spec run.writer (detector.spans record.text)
  refine ⟨refusal, ?_⟩
  unfold RunState.takeRecord
  rcases written : run.writer.writeSpans (detector.spans record.text) with ⟨outcome, writer⟩
  rw [written] at result writes
  simp only [RunState.noteRemoved, written]
  cases refusal with
  | none =>
      cases result
      exact ⟨rfl, writes⟩
  | some cause =>
      cases result
      exact ⟨rfl, writes⟩

theorem skipLine_spec (run : RunState) (failure : Failure) :
    ∃ refusal, (run.skipLine failure).1 = Writer.result refusal () ∧
      Writes run.writer "\n" refusal (run.skipLine failure).2.writer := by
  obtain ⟨refusal, result, writes⟩ := Writer.writeEmptyLine_spec run.writer
  refine ⟨refusal, ?_⟩
  unfold RunState.skipLine
  rcases written : run.writer.writeEmptyLine with ⟨outcome, writer⟩
  rw [written] at result writes
  simp only [RunState.note, written]
  cases refusal with
  | none =>
      cases result
      exact ⟨rfl, writes⟩
  | some cause =>
      cases result
      exact ⟨rfl, writes⟩

/-- Any other item adds its line to what the writer has taken.  Only a refusal by the sink fails. -/
theorem take_of_answered {config : RunConfig} {item : Item} (passed : config.fatal? item = none)
    (run : RunState) :
    ∃ refusal, (run.take config item).1 = Writer.result refusal () ∧
      Writes run.writer (config.lineOf item) refusal (run.take config item).2.writer := by
  cases item with
  | ok record => exact takeRecord_spec config.detector run record
  | error failure =>
      rw [take_of_skipped passed]
      exact skipLine_spec run failure

/-! ## 2. All items -/

theorem consume_of_accepting (config : RunConfig) (items : List Item) {run : RunState}
    (accepting : ∀ history request, run.writer.sink.rule history request = none) :
    ∃ after, run.consume config items = (config.expectedResult items, after) ∧
      after.writer.content = run.writer.content ++ String.join (config.expectedLines items) ∧
      after.writer.sink.rule = run.writer.sink.rule := by
  induction items generalizing run with
  | nil =>
      obtain ⟨refusal, result, writes⟩ := Writer.flush_spec run.writer
      cases writes.accepted accepting
      rw [RunState.consume]
      unfold RunState.flush
      rcases flushed : run.writer.flush with ⟨outcome, writer⟩
      rw [flushed] at result writes
      cases result
      exact ⟨_, rfl, writes.added rfl, writes.rule⟩
  | cons item rest ih =>
      rw [RunState.consume]
      cases found : config.fatal? item with
      | some failure =>
          obtain ⟨lines, result⟩ := RunConfig.expected_cons_of_fatal found rest
          rw [take_of_fatal found, lines, result]
          exact ⟨run, rfl, String.append_empty.symm, rfl⟩
      | none =>
          -- The step adds the line of the item, and the sink is as willing as before.
          obtain ⟨refusal, answer, writes⟩ := take_of_answered found run
          cases writes.accepted accepting
          rcases taken : run.take config item with ⟨outcome, next⟩
          rw [taken] at answer writes
          cases answer
          obtain ⟨lines, result⟩ := RunConfig.expected_cons found rest
          have accepts : ∀ history request, next.writer.sink.rule history request = none := by
            rwa [writes.rule]
          obtain ⟨after, consumed, content, rule⟩ := ih accepts
          rw [lines, result]
          refine ⟨after, consumed, ?_, rule.trans writes.rule⟩
          rw [content, writes.added rfl, String.join_cons, String.append_assoc]

/-! ## 3. The end of a run -/

/-- Concluding a run leaves its writer alone. -/
theorem writer_conclude (run : RunState) (elapsed : Elapsed) (result : Except Failure Unit) :
    (run.conclude elapsed result).writer = run.writer := by
  cases result <;> rfl

/-- A run into a sink that refuses nothing leaves the expected lines in it. -/
theorem deliver_eq {config : RunConfig} {rule : SinkRule}
    (accepting : ∀ history request, rule history request = none) (elapsed : Elapsed)
    (stats : RunStats) (progress : Progress) (log : Log) (items : List Item) :
    (RunState.new rule stats progress log).deliver config elapsed items =
      (config.expectedResult items, .ok (), String.join (config.expectedLines items)) := by
  have accepts : ∀ history request,
      (RunState.new rule stats progress log).writer.sink.rule history request = none := accepting
  obtain ⟨after, consumed, content, kept⟩ := consume_of_accepting config items accepts
  obtain ⟨refusal, final, ended, writes, accepted⟩ := Writer.finish_spec after.writer
  cases writes.accepted (by rwa [kept])
  unfold RunState.deliver RunState.process
  simp only [consumed, writer_conclude, ended, accepted rfl, content]
  rfl

/-! ## 4. Line by line -/

theorem newline_notMem_render (span : Span) : '\n' ∉ span.render.toList := by
  have unmarked : ∀ n : Nat, '\n' ∉ Nat.toDigits 10 n := by
    intro n member
    have digit := Nat.isDigit_of_mem_toDigits (by decide) (by decide) member
    exact absurd digit (by decide)
  rw [Span.render]
  simp [unmarked]

theorem newline_notMem_lineBody (detector : Detector) (line : List UInt8) :
    '\n' ∉ lineBody detector line := by
  unfold lineBody
  split
  · rw [String.toList_join, List.mem_flatMap]
    rintro ⟨piece, member, marked⟩
    obtain ⟨span, _, rfl⟩ := List.mem_map.1 member
    exact newline_notMem_render span marked
  · exact List.not_mem_nil

/-- The number of a line plays no part in its output. -/
theorem toList_lineOf_ofLine (config : RunConfig) (number : Nat) (line : List UInt8) :
    (config.lineOf (Item.ofLine number line)).toList =
      lineBody config.detector line ++ ['\n'] := by
  unfold Item.ofLine lineBody
  cases Utf8.decode (Input.stripTerminator line) with
  | ok text =>
      simp only [RunConfig.lineOf, renderLine]
      rw [String.toList_append]
      rfl
  | error malformed =>
      show "\n".toList = [] ++ ['\n']
      decide

theorem fatal?_ofLine {config : RunConfig} (skips : config.skipInvalid = true) (number : Nat)
    (line : List UInt8) : config.fatal? (Item.ofLine number line) = none := by
  unfold Item.ofLine
  cases Utf8.decode (Input.stripTerminator line) with
  | ok text => rfl
  | error malformed =>
      rw [fatal?_error, RunConfig.isFatal, skips]
      rfl

theorem firstFatal?_mappedItems {config : RunConfig} (skips : config.skipInvalid = true)
    (bytes : List UInt8) : config.firstFatal? (Input.mappedItems bytes) = none := by
  rw [RunConfig.firstFatal?, List.findSome?_eq_none_iff]
  intro item member
  obtain ⟨entry, _, rfl⟩ := List.mem_map.1 member
  exact fatal?_ofLine skips entry.2 entry.1

theorem toList_join_expectedLines {config : RunConfig} (skips : config.skipInvalid = true)
    (bytes : List UInt8) :
    (String.join (config.expectedLines (Input.mappedItems bytes))).toList =
      Marked.join '\n' ((Input.physicalLines bytes).map (lineBody config.detector)) := by
  have all := RunConfig.answered_eq_self_iff.2 (firstFatal?_mappedItems skips bytes)
  rw [RunConfig.expectedLines, all, Input.mappedItems, Item.ofLines, String.toList_join,
    List.flatMap_map, List.flatMap_map, Marked.join, List.flatMap_map]
  simp only [toList_lineOf_ofLine]
  rw [← List.flatMap_map (f := Prod.fst) (g := fun line => lineBody config.detector line ++ ['\n']),
    List.zipIdx_map_fst]

/-- The output of an input has one line for each of its lines, which depends on that line alone. -/
theorem parts?_expectedLines_mappedItems {config : RunConfig} (skips : config.skipInvalid = true)
    (bytes : List UInt8) :
    Marked.parts? '\n' (String.join (config.expectedLines (Input.mappedItems bytes))).toList =
      some ((Input.physicalLines bytes).map (lineBody config.detector)) := by
  rw [toList_join_expectedLines skips]
  apply Marked.parts?_join
  intro part member
  obtain ⟨line, _, rfl⟩ := List.mem_map.1 member
  exact newline_notMem_lineBody config.detector line

/-! ## 5. Lawful providers -/

/-- A run into a sink that refuses nothing leaves one line in it for each item before the first
fatal one, and ends as that item says.  When undecodable lines are skipped, the lines of the output
stand for the lines of the input, one by one. -/
theorem deliver_aligned {config : RunConfig} (lawful : config.detector.provider.IsLawful)
    {rule : SinkRule} (accepting : ∀ history request, rule history request = none)
    (elapsed : Elapsed) (stats : RunStats) (progress : Progress) (log : Log) :
    (∀ text, ∃ boundaries, config.detector.boundaries? text = some boundaries ∧
        config.detector.spans text = boundaries.map Boundary.toSpan) ∧
      (∀ items, (RunState.new rule stats progress log).deliver config elapsed items =
        (config.expectedResult items, .ok (), String.join (config.expectedLines items))) ∧
      (config.skipInvalid = true → ∀ bytes, ∃ output,
        (RunState.new rule stats progress log).deliver config elapsed (Input.mappedItems bytes) =
          (.ok (), .ok (), output) ∧
        Marked.parts? '\n' output.toList =
          some ((Input.physicalLines bytes).map (lineBody config.detector))) := by
  refine ⟨?_, deliver_eq accepting elapsed stats progress log, ?_⟩
  · intro text
    have found := Detector.boundaries?_eq lawful text
    refine ⟨_, found, ?_⟩
    rw [Detector.spans, Detector.boundaries, found]
    rfl
  · intro skips bytes
    refine ⟨_, ?_, parts?_expectedLines_mappedItems skips bytes⟩
    rw [deliver_eq accepting, RunConfig.expectedResult, firstFatal?_mappedItems skips]

/-- Two sentences, a line that is not UTF-8, and a last line without a line feed. -/
theorem deliver_aligned_undecodable :
    BoundaryProvider.english.IsLawful ∧
      (∀ history request, SinkRule.unlimited history request = none) ∧
      RunState.deliver ⟨⟨.char, .english⟩, true⟩ ⟨0, 0⟩
          (.new .unlimited (.new (.ofString "in.txt") .english .char) .hidden (.new .standard))
          (Input.mappedItems
            [0x48, 0x69, 0x2E, 0x20, 0x59, 0x6F, 0x2E, 0x0A, 0xFF, 0x0A, 0x4F, 0x6B]) =
        (.ok (), .ok (), "0,3;4,7;\n\n0,2;\n") := by
  have lawful : (RunConfig.mk ⟨.char, .english⟩ true).detector.provider.IsLawful :=
    BoundaryProvider.english_isLawful
  have accepting : ∀ history request, SinkRule.unlimited history request = none := fun _ _ => rfl
  refine ⟨lawful, accepting, ?_⟩
  rw [(deliver_aligned lawful accepting ⟨0, 0⟩ (.new (.ofString "in.txt") .english .char) .hidden
    (.new .standard)).2.1]
  decide +kernel

end SentenceSpans
