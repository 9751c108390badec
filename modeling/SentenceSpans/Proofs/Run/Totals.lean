import SentenceSpans.Proofs.Input.CompleteLines
import SentenceSpans.Proofs.Run.Accounting
import SentenceSpans.Proofs.Run.Agreement

/-!
# The totals of a run

A source that has its input at hand gives one item for each line, decodable or not.  The items are
numbered from one on, and the lengths that they carry are those of the lines, so that together they
are the length of the input.  A run that ends well has counted every item.  Its totals are then the
number of lines and the length of the input, and neither its progress nor its log plays a part.

Results:
1. `carries_ofLine` and `exists_slice`: the items of an input, and its lines.
2. `totals_of_ok`: what a run has counted when it ends well.
3. `process_of_accepting` and `expectedResult_mappedItems_iff`: when it does.
4. `mappedItems_partition`: all of this for an input.
-/

namespace SentenceSpans

open Input

/-! ## Definitions -/

/-- An item that carries the given line number and length, as a record or as the failure of a line
that is not UTF-8. -/
def Item.Carries (item : Item) (line rawLength : Nat) : Prop :=
  (∃ text, item = .ok ⟨line, text, rawLength⟩) ∨
    ∃ malformed, item = .error (.invalidInput line rawLength malformed)

/-! ## 1. Items and lines -/

theorem carries_ofLine (number : Nat) (line : List UInt8) :
    (Item.ofLine number line).Carries number line.length := by
  unfold Item.ofLine
  cases Utf8.decode (stripTerminator line) with
  | ok text => exact .inl ⟨text, rfl⟩
  | error malformed => exact .inr ⟨malformed, rfl⟩

theorem exists_slice {bytes : List UInt8} {n : Nat} {item : Item}
    (present : (mappedItems bytes)[n]? = some item) :
    ∃ slice, (physicalLines bytes)[n]? = some slice ∧ item.Carries (n + 1) slice.length := by
  rw [getElem?_mappedItems] at present
  obtain ⟨slice, found, rfl⟩ := Option.map_eq_some_iff.1 present
  exact ⟨slice, found, carries_ofLine (n + 1) slice⟩

/-! ## 2. Runs that end well -/

namespace RunState

/-- A run that starts with hidden progress and ends well accounts for all items. -/
theorem Accounts.of_ok {config : RunConfig} {rule : SinkRule} {run : RunState} {items : List Item}
    (accounts : Accounts config rule [] run) (ended : (run.consume config items).1 = .ok ()) :
    Accounts config rule items (run.consume config items).2 := by
  obtain ⟨more, _, after, ⟨cause, _, failed⟩ | ⟨expected, rfl⟩, _⟩ := accounts.consume items
  · rw [failed] at ended
    cases ended
  · rwa [List.nil_append, answered_of_ok (expected.symm.trans ended)] at after

/-- Into whatever sink and with whatever progress and log, a run that ends well has counted each
item, with the bytes it stands for. -/
theorem totals_of_ok {config : RunConfig} {rule : SinkRule} {path : Path} {locale : Locale}
    {unit : OffsetUnit} {progress : Progress} {log : Log} {elapsed : Elapsed} {items : List Item}
    {after : RunState}
    (ended : (new rule (.new path locale unit) progress log).process config elapsed items =
      (.ok (), after)) :
    after.stats.recordsRead = items.length ∧
      after.stats.bytesRead = Item.total Item.rawLength items := by
  -- The run with hidden progress counts the same, and its accounts are known.
  have agrees : (new rule (.new path locale unit) progress log).Agrees log.verbosity
      (new rule (.new path locale unit) .hidden log) := ⟨rfl, rfl, .refl log⟩
  obtain ⟨same, alike⟩ := agrees.consume config items
  obtain ⟨result, rfl⟩ := Prod.mk.inj ended
  rw [result] at same ⊢
  have accounts := ((Accounts.new config rule path locale unit log).of_ok same.symm).conclude
    elapsed (.ok ())
  have counted := (alike.conclude elapsed elapsed (.ok ())).stats
  have read := congrArg RunStats.recordsRead counted
  have bytes := congrArg RunStats.bytesRead counted
  exact ⟨read.trans accounts.read, bytes.trans accounts.bytes⟩

/-- Into a sink that refuses nothing, a run ends as its items say. -/
theorem process_of_accepting (config : RunConfig) {rule : SinkRule}
    (accepting : ∀ history request, rule history request = none) (stats : RunStats)
    (progress : Progress) (log : Log) (elapsed : Elapsed) (items : List Item) :
    ((new rule stats progress log).process config elapsed items).1 =
      config.expectedResult items := by
  have accepts : ∀ history request,
      (new rule stats progress log).writer.sink.rule history request = none := accepting
  obtain ⟨after, consumed, _, _⟩ := consume_of_accepting config items accepts
  rw [process, consumed]

end RunState

/-! ## 3. Inputs that a run reads to the end -/

theorem expectedResult_eq_ok_iff {config : RunConfig} {items : List Item} :
    config.expectedResult items = .ok () ↔ ∀ item ∈ items, config.fatal? item = none := by
  unfold RunConfig.expectedResult RunConfig.firstFatal?
  rw [← List.findSome?_eq_none_iff]
  cases items.findSome? config.fatal? <;> simp

/-- No line of an input is fatal exactly when undecodable lines are skipped, or when there are
none. -/
theorem expectedResult_mappedItems_iff (config : RunConfig) (bytes : List UInt8) :
    config.expectedResult (mappedItems bytes) = .ok () ↔
      config.skipInvalid = true ∨ Utf8.IsUtf8 bytes := by
  have lines : LinesDecode (mappedItems bytes) bytes := decode_lines 1 bytes
  rw [expectedResult_eq_ok_iff]
  constructor
  · intro passed
    rcases lines with ⟨valid, _⟩ | ⟨earlier, later, line, rawLength, malformed, _, split, _⟩
    · exact .inr valid
    · have present : .error (.invalidInput line rawLength malformed) ∈ mappedItems bytes := by
        rw [split]
        simp
      have skipped := passed _ present
      rw [RunConfig.fatal?] at skipped
      split at skipped
      · next skips => exact .inl skips
      · cases skipped
  · rintro (skips | valid) item member
    · obtain ⟨entry, _, rfl⟩ := List.mem_map.1 member
      exact fatal?_ofLine skips entry.2 entry.1
    · rcases lines with ⟨_, texts⟩ | ⟨_, _, _, _, _, whole, _, _, stopped, _⟩
      · have text := texts item member
        cases item with
        | ok record => rfl
        | error failure => cases text
      · exact absurd valid (Utf8.not_isUtf8_iff.2 ⟨whole, stopped⟩)

/-! ## 4. Inputs and runs -/

/-- The items of an input are numbered from one on, and the lengths that they carry cut the input
into its lines, so that there are as many as line feeds, and one more where the last line has none.
After them the source has nothing to give.

A run over the items that ends well has read that many records and all bytes.  With a sink that
refuses nothing it ends well when undecodable lines are skipped, or when there are none. -/
theorem mappedItems_partition (bytes : List UInt8) :
    (∀ n, answer MappedLines.next (.new bytes) n = (mappedItems bytes)[n]?) ∧
      IsLineCut bytes (physicalLines bytes) ∧
      (∀ (n : Nat) (item : Item), (mappedItems bytes)[n]? = some item →
        ∃ slice, (physicalLines bytes)[n]? = some slice ∧ item.Carries (n + 1) slice.length) ∧
      (mappedItems bytes).length = (physicalLines bytes).length ∧
      (physicalLines bytes).length = bytes.count lineFeed +
        (if bytes ≠ [] ∧ bytes.getLast? ≠ some lineFeed then 1 else 0) ∧
      ∀ config rule path locale unit progress log elapsed result run,
        (RunState.new rule (.new path locale unit) progress log).process config elapsed
            (mappedItems bytes) = (result, run) →
          ((∀ history request, rule history request = none) →
            (result = .ok () ↔ config.skipInvalid = true ∨ Utf8.IsUtf8 bytes)) ∧
          (result = .ok () → run.stats.recordsRead = (physicalLines bytes).length ∧
            run.stats.bytesRead = bytes.length) := by
  have count : (mappedItems bytes).length = (physicalLines bytes).length :=
    Item.length_ofLines 1 (physicalLines bytes)
  refine ⟨answer_mapped bytes, isLineCut_physicalLines bytes, fun _ _ => exists_slice, count,
    length_physicalLines bytes, ?_⟩
  intro config rule path locale unit progress log elapsed result run processed
  constructor
  · intro accepting
    have expected := RunState.process_of_accepting config accepting
      (.new path locale unit) progress log elapsed (mappedItems bytes)
    rw [processed] at expected
    rw [← expectedResult_mappedItems_iff, ← expected]
  · rintro rfl
    obtain ⟨read, counted⟩ := RunState.totals_of_ok processed
    refine ⟨read.trans count, counted.trans ?_⟩
    rw [mappedItems, Item.total_rawLength_ofLines, flatten_physicalLines]

/-- A line with a carriage return, an empty one, one that is not UTF-8 and is skipped, and a last
line without a line feed. -/
theorem mappedItems_partition_skipped :
    physicalLines [0x61, 0x0D, 0x0A, 0x0A, 0xFF, 0x0A, 0x62] =
        [[0x61, 0x0D, 0x0A], [0x0A], [0xFF, 0x0A], [0x62]] ∧
      (mappedItems [0x61, 0x0D, 0x0A, 0x0A, 0xFF, 0x0A, 0x62])[2]? =
        some (.error (.invalidInput 3 2 ⟨0, some 1⟩)) ∧
      Item.Carries (.error (.invalidInput 3 2 ⟨0, some 1⟩)) 3 2 ∧
      (∀ history request, SinkRule.unlimited history request = none) ∧
      ∃ run, (RunState.new .unlimited (.new (.ofString "in.txt") .english .char) (.new 7)
            (.new .standard)).process ⟨⟨.char, .english⟩, true⟩ ⟨0, 0⟩
            (mappedItems [0x61, 0x0D, 0x0A, 0x0A, 0xFF, 0x0A, 0x62]) = (.ok (), run) ∧
        run.stats.recordsRead = 4 ∧ run.stats.bytesRead = 7 := by
  have lines : physicalLines [0x61, 0x0D, 0x0A, 0x0A, 0xFF, 0x0A, 0x62] =
      [[0x61, 0x0D, 0x0A], [0x0A], [0xFF, 0x0A], [0x62]] := rfl
  have third : (mappedItems [0x61, 0x0D, 0x0A, 0x0A, 0xFF, 0x0A, 0x62])[2]? =
      some (.error (.invalidInput 3 2 ⟨0, some 1⟩)) := rfl
  have accepting : ∀ history request, SinkRule.unlimited history request = none := fun _ _ => rfl
  obtain ⟨_, _, items, _, _, runs⟩ :=
    mappedItems_partition [0x61, 0x0D, 0x0A, 0x0A, 0xFF, 0x0A, 0x62]
  obtain ⟨slice, found, carries⟩ := items 2 _ third
  cases found
  rcases processed : (RunState.new .unlimited (.new (.ofString "in.txt") .english .char) (.new 7)
    (.new .standard)).process ⟨⟨.char, .english⟩, true⟩ ⟨0, 0⟩
    (mappedItems [0x61, 0x0D, 0x0A, 0x0A, 0xFF, 0x0A, 0x62]) with ⟨result, run⟩
  obtain ⟨ends, totals⟩ := runs _ _ _ _ _ _ _ _ _ _ processed
  obtain rfl := (ends accepting).2 (.inl rfl)
  exact ⟨lines, third, carries, accepting, run, rfl, totals rfl⟩

end SentenceSpans
