import SentenceSpans.Proofs.Command.Access
import SentenceSpans.Proofs.Run.Output

/-!
# Causes

A failure that ends a run comes from the input or from the output, and so from an error beneath it,
which can be reported as its cause.  Only the loss of statistics has none, and it ends no run.

Results:
1. `hasCause_itemsOf`: the failures among the items of a file.
2. `hasCause_consume`: the failure that ends the items.
3. `exists_cause_of_failed`: the failure of a run.
-/

namespace SentenceSpans

/-! ## Definitions -/

/-- A result that is not a failure, or a failure that has a cause to report. -/
def HasCause : Except Failure α → Prop
  | .ok _ => True
  | .error failure => failure.cause?.isSome = true

/-! ## 1. Items -/

theorem Item.hasCause_ofLine (number : Nat) (line : List UInt8) :
    HasCause (ofLine number line) := by
  unfold ofLine
  cases Utf8.decode (Input.stripTerminator line) with
  | ok text => trivial
  | error malformed => rfl

theorem Item.hasCause_ofLines (number : Nat) (lines : List (List UInt8)) :
    ∀ item ∈ ofLines number lines, HasCause item := by
  intro item member
  obtain ⟨entry, _, rfl⟩ := List.mem_map.1 member
  exact hasCause_ofLine entry.2 entry.1

namespace Input.Assembly

variable {assembly : Assembly}

theorem hasCause_completeLine (found : ∀ item ∈ assembly.found, HasCause item) :
    ∀ item ∈ assembly.completeLine.found, HasCause item :=
  List.forall_mem_cons.2 ⟨Item.hasCause_ofLine _ _, found⟩

theorem hasCause_push (found : ∀ item ∈ assembly.found, HasCause item) (bytes : List UInt8) :
    ∀ item ∈ (bytes.foldl push assembly).found, HasCause item := by
  induction bytes generalizing assembly with
  | nil => exact found
  | cons byte rest ih =>
      apply ih
      rw [push]
      split
      · exact hasCause_completeLine found
      · exact found

theorem hasCause_close (found : ∀ item ∈ assembly.found, HasCause item) :
    ∀ item ∈ assembly.close, HasCause item := by
  intro item member
  rw [close] at member
  split at member
  · exact found item (List.mem_reverse.1 member)
  · exact hasCause_completeLine found item (List.mem_reverse.1 member)

/-- Whatever fills the buffer, a failure is a line that is not UTF-8 or a read that failed. -/
theorem hasCause_read (found : ∀ item ∈ assembly.found, HasCause item) (fills : List Fill) :
    ∀ item ∈ assembly.read fills, HasCause item := by
  induction fills generalizing assembly with
  | nil => exact hasCause_close found
  | cons fill rest ih =>
      cases fill with
      | chunk bytes => exact ih (hasCause_push found bytes)
      | endOfInput =>
          rw [read]
          split
          · exact hasCause_close found
          · exact ih (hasCause_completeLine found)
      | failure cause =>
          intro item member
          rw [read, List.mem_reverse] at member
          rcases List.mem_cons.1 member with rfl | earlier
          · rfl
          · exact found item earlier

end Input.Assembly

theorem Arguments.hasCause_itemsOf (arguments : Arguments) (file : InputFile) :
    ∀ item ∈ arguments.itemsOf file, HasCause item := by
  unfold itemsOf
  split
  · exact Item.hasCause_ofLines 1 _
  · have none : ∀ item ∈ Input.Assembly.empty.found, HasCause item := nofun
    exact Input.Assembly.hasCause_read none _

theorem Arguments.hasCause_items (arguments : Arguments) (host : Host) :
    ∀ item ∈ arguments.items host, HasCause item := by
  unfold items
  split
  · exact hasCause_itemsOf arguments _
  · exact nofun

/-! ## 2. Runs -/

/-- What the sink refuses is the cause of the failure. -/
theorem Writer.hasCause_of_result {answer : Except Failure α} {refusal : Option IoFailure}
    {value : α} (answered : answer = result refusal value) : HasCause answer := by
  rw [answered]
  cases refusal with
  | none => trivial
  | some cause => rfl

namespace RunState

theorem hasCause_take (config : RunConfig) (run : RunState) {item : Item} (here : HasCause item) :
    HasCause (run.take config item).1 := by
  cases item with
  | ok record =>
      obtain ⟨_, answered, _⟩ := takeRecord_spec config.detector run record
      exact Writer.hasCause_of_result answered
  | error failure =>
      rw [take]
      split
      · exact here
      · obtain ⟨_, answered, _⟩ := skipLine_spec run failure
        exact Writer.hasCause_of_result answered

theorem hasCause_consume (config : RunConfig) (run : RunState) {items : List Item}
    (all : ∀ item ∈ items, HasCause item) : HasCause (run.consume config items).1 := by
  induction items generalizing run with
  | nil =>
      obtain ⟨_, answered, _⟩ := Writer.flush_spec run.writer
      exact Writer.hasCause_of_result answered
  | cons item rest ih =>
      obtain ⟨here, later⟩ := List.forall_mem_cons.1 all
      have step := hasCause_take config run here
      rw [consume]
      rcases taken : run.take config item with ⟨failure | ⟨⟩, next⟩
      · rw [taken] at step
        exact step
      · exact ih next later

end RunState

/-! ## 3. Executions -/

/-- A run that fails has a failure whose cause can be reported. -/
theorem Arguments.exists_cause_of_failed {arguments : Arguments} {surroundings : Surroundings}
    {elapsed : Elapsed} {failure : Failure}
    (failed : arguments.result surroundings elapsed = .error failure) :
    ∃ cause, failure.cause? = some cause := by
  have explained : HasCause (arguments.result surroundings elapsed) := by
    obtain ⟨run, _, made⟩ := Attempt.make_started arguments surroundings
    rw [result, made, Attempt.ofAccess]
    cases arguments.denial? surroundings.host with
    | some cause => rfl
    | none =>
        exact run.hasCause_consume arguments.config (hasCause_items arguments surroundings.host)
  rw [failed] at explained
  exact Option.isSome_iff_exists.1 explained

end SentenceSpans
