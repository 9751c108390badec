import SentenceSpans.Proofs.Output.WholeLines

/-!
# Calls on one writer

A writer is called again and again, also after calls that failed.  Each call finds the writer as the
last one left it, with a buffer that the sink may just have refused.  Whatever the sizes of the
lines, and whenever the sink refuses, the writer has taken the lines of the calls that succeeded and
nothing else, and the sink never holds a part of one.

Results:
1. `throughout_write` and `throughout_flush`: what the sink holds at every moment of an operation.
2. `buffered_write_le` and `buffered_flush_le`: the buffer never outgrows its size.
3. `Keeps.call`: what one call preserves; `Keeps.callAll`: so do all calls, one after another.
4. `callAll_keeps`: the lines of a new writer.
-/

namespace SentenceSpans

/-! ## Definitions -/

/-- The line that a call leaves with the writer, once it is known how the call ended. -/
def WriterCall.taken : WriterCall → Except Failure (Option Nat) → List String
  | .flush, _ => []
  | _, .error _ => []
  | .spans sentences, .ok _ => [renderLine sentences]
  | .emptyLine, .ok _ => ["\n"]

namespace Writer

/-- Make calls one after another: each call with its result, and the writer after all of them. -/
def callAll (writer : Writer) :
    List WriterCall → List (WriterCall × Except Failure (Option Nat)) × Writer
  | [] => ([], writer)
  | call :: rest =>
      let made := writer.call call
      let others := made.2.callAll rest
      ((call, made.1) :: others.1, others.2)

def linesTaken (made : List (WriterCall × Except Failure (Option Nat))) : List String :=
  made.flatMap fun entry => entry.1.taken entry.2

/-- An operation asks the sink for something once, or not at all. -/
def AsksOnce (before after : Writer) : Prop :=
  after.sink.history = before.sink.history ∨
    ∃ event, after.sink.history = event :: before.sink.history

/-- At every moment up to the end of an operation the sink holds what it held at some moment before,
or all that the writer had taken before the operation, or all that it has taken after it. -/
def SettlesThroughout (before after : Writer) : Prop :=
  ∀ now, now <:+ after.sink.history →
    (∃ past, past <:+ before.sink.history ∧ acceptedText now = acceptedText past) ∨
      acceptedText now = before.content ∨ acceptedText now = after.content

/-- A writer that has taken the given lines.  At every moment so far the sink held the first few of
them. -/
structure Keeps (writer : Writer) (lines : List String) : Prop where
  content : writer.content = String.join lines
  whole : ∀ past, past <:+ writer.sink.history →
    ∃ count ≤ lines.length, acceptedText past = String.join (lines.take count)
  bounded : writer.buffered.utf8ByteSize ≤ capacity

/-! ## 1. What the sink holds -/

theorem asksOnce_handOver (writer : Writer) : AsksOnce writer writer.handOver.2 := by
  unfold handOver
  split
  · exact .inl rfl
  · split
    · next after offered => exact .inr ⟨_, (congrArg (·.2.history) offered).symm⟩
    · next after offered => exact .inr ⟨_, (congrArg (·.2.history) offered).symm⟩

theorem asksOnce_append (writer : Writer) (text : String) :
    AsksOnce writer (writer.append text).2 := by
  unfold append
  split
  · exact .inl rfl
  · exact .inr ⟨_, rfl⟩

/-- A single request settles throughout as soon as it settles in the end. -/
theorem AsksOnce.throughout {before after : Writer} (once : AsksOnce before after)
    (settles : Settles before after) : SettlesThroughout before after := by
  intro now moment
  have earlier : now <:+ before.sink.history ∨ now = after.sink.history := by
    rcases once with same | ⟨event, longer⟩
    · exact .inl (same ▸ moment)
    · rw [longer] at moment ⊢
      exact (List.suffix_cons_iff.1 moment).symm
  rcases earlier with past | rfl
  · exact .inl ⟨now, past, rfl⟩
  · rcases settles with same | all
    · exact .inl ⟨before.sink.history, List.suffix_rfl, same⟩
    · exact .inr all

/-- Two operations one after another; the first one only empties the buffer. -/
theorem SettlesThroughout.trans {before middle after : Writer}
    (first : SettlesThroughout before middle) (second : SettlesThroughout middle after)
    (same : middle.content = before.content) : SettlesThroughout before after := by
  intro now moment
  rcases second now moment with ⟨past, inside, held⟩ | held
  · rcases first past inside with ⟨older, known, kept⟩ | all | all
    · exact .inl ⟨older, known, held.trans kept⟩
    · exact .inr (.inl (held.trans all))
    · exact .inr (.inl (by rw [held, all, same]))
  · rw [same] at held
    exact .inr held

theorem throughout_handOver (writer : Writer) : SettlesThroughout writer writer.handOver.2 :=
  (asksOnce_handOver writer).throughout (settles_handOver writer)

theorem throughout_write (writer : Writer) (text : String) :
    SettlesThroughout writer (writer.write text).2 := by
  unfold write
  split
  · next fits =>
      exact (asksOnce_append writer text).throughout
        (settles_append writer text (buffered_of_fits fits))
  · obtain ⟨handed, emptied⟩ := writes_handOver writer
    have first := throughout_handOver writer
    split
    · next after found =>
        rw [found] at handed emptied first
        have second := (asksOnce_append after text).throughout
          (settles_append after text fun _ => emptied rfl)
        exact first.trans second (by rw [handed.added rfl, String.append_empty])
    · next cause after found =>
        rw [found] at first
        exact first

theorem throughout_flush (writer : Writer) : SettlesThroughout writer writer.flush.2 := by
  obtain ⟨handed, emptied⟩ := writes_handOver writer
  have first := throughout_handOver writer
  unfold flush
  split
  · next cause after found =>
      rw [found] at first
      exact first
  · next after found =>
      rw [found] at handed emptied first
      have second : SettlesThroughout after
          { after with sink := (after.sink.offer .flush).2 } :=
        AsksOnce.throughout (.inr ⟨_, rfl⟩) (settles_of_buffered (emptied rfl))
      exact first.trans second (by rw [handed.added rfl, String.append_empty])

/-! ## 2. The size of the buffer -/

theorem buffered_handOver (writer : Writer) :
    writer.handOver.2.buffered = "" ∨ writer.handOver.2.buffered = writer.buffered := by
  unfold handOver
  split
  · exact .inr rfl
  · split
    · exact .inl rfl
    · exact .inr rfl

theorem buffered_handOver_le {writer : Writer}
    (bounded : writer.buffered.utf8ByteSize ≤ capacity) :
    writer.handOver.2.buffered.utf8ByteSize ≤ capacity := by
  rcases buffered_handOver writer with empty | same
  · rw [empty]
    exact Nat.zero_le _
  · rw [same]
    exact bounded

/-- A text is appended to the buffer only where both fit. -/
theorem buffered_append_le {writer : Writer} {text : String}
    (bounded : writer.buffered.utf8ByteSize ≤ capacity)
    (fits : text.utf8ByteSize < capacity →
      writer.buffered.utf8ByteSize + text.utf8ByteSize ≤ capacity) :
    (writer.append text).2.buffered.utf8ByteSize ≤ capacity := by
  unfold append
  split
  · next small =>
      rw [String.utf8ByteSize_append]
      exact fits small
  · exact bounded

theorem buffered_write_le {writer : Writer} (text : String)
    (bounded : writer.buffered.utf8ByteSize ≤ capacity) :
    (writer.write text).2.buffered.utf8ByteSize ≤ capacity := by
  unfold write
  split
  · next fits => exact buffered_append_le bounded fun _ => by omega
  · have emptied := (writes_handOver writer).2
    have kept := buffered_handOver_le bounded
    split
    · next after found =>
        rw [found] at emptied
        have empty : after.buffered.utf8ByteSize = 0 :=
          String.utf8ByteSize_eq_zero_iff.2 (emptied rfl)
        exact buffered_append_le (by omega) fun small => by omega
    · next cause after found =>
        rw [found] at kept
        exact kept

theorem buffered_flush_le {writer : Writer} (bounded : writer.buffered.utf8ByteSize ≤ capacity) :
    writer.flush.2.buffered.utf8ByteSize ≤ capacity := by
  have kept := buffered_handOver_le bounded
  unfold flush
  split
  · next cause after found =>
      rw [found] at kept
      exact kept
  · next after found =>
      rw [found] at kept
      exact kept

/-! ## 3. Calls -/

namespace Keeps

variable {before after : Writer} {lines : List String}

theorem new (rule : SinkRule) : Keeps (.new rule) [] where
  content := rfl
  whole past moment := ⟨0, Nat.le_refl 0, by rw [List.suffix_nil.1 moment]; rfl⟩
  bounded := Nat.zero_le _

/-- Lines that were kept stay in front of the lines that follow. -/
theorem settled (keeps : Keeps before lines) (throughout : SettlesThroughout before after)
    (more : List String) (content : after.content = String.join (lines ++ more))
    (bounded : after.buffered.utf8ByteSize ≤ capacity) : Keeps after (lines ++ more) where
  content := content
  bounded := bounded
  whole now moment := by
    have longer : lines.length ≤ (lines ++ more).length := by simp
    rcases throughout now moment with ⟨past, inside, held⟩ | held | held
    · obtain ⟨count, le, accepted⟩ := keeps.whole past inside
      refine ⟨count, Nat.le_trans le longer, ?_⟩
      rw [held, accepted, List.take_append_of_le_length le]
    · exact ⟨lines.length, longer, by rw [held, keeps.content, List.take_left]⟩
    · exact ⟨_, Nat.le_refl _, by rw [held, content, List.take_length]⟩

/-- A line that was written is kept behind the others, and one that was refused is not. -/
theorem wrote (keeps : Keeps before lines) {text : String} {refusal : Option IoFailure}
    (writes : Writes before text refusal after) (throughout : SettlesThroughout before after)
    (bounded : after.buffered.utf8ByteSize ≤ capacity) :
    (refusal = none → Keeps after (lines ++ [text])) ∧ (refusal ≠ none → Keeps after lines) := by
  constructor
  · intro accepted
    apply keeps.settled throughout [text] _ bounded
    rw [writes.added accepted, keeps.content, String.join_append, String.join_cons,
      String.join_nil, String.append_empty]
  · intro refused
    rw [← List.append_nil lines]
    apply keeps.settled throughout [] _ bounded
    rw [writes.kept refused, keeps.content, List.append_nil]

theorem writeSpans (keeps : Keeps before lines) (spans : List Span) :
    Keeps (before.writeSpans spans).2
      (lines ++ (WriterCall.spans spans).taken ((before.writeSpans spans).1.map some)) := by
  obtain ⟨refusal, ended, writes⟩ := writeSpans_spec before spans
  let filled : Writer := { before with line := (before.line.fill spans).1 }
  have throughout : SettlesThroughout before (before.writeSpans spans).2 :=
    throughout_write filled _
  have room : filled.buffered.utf8ByteSize ≤ capacity := keeps.bounded
  have bounded : (before.writeSpans spans).2.buffered.utf8ByteSize ≤ capacity :=
    buffered_write_le _ room
  obtain ⟨added, kept⟩ := keeps.wrote writes throughout bounded
  rw [ended]
  cases refusal with
  | none => exact added rfl
  | some cause =>
      rw [result, Except.map, WriterCall.taken, List.append_nil]
      · exact kept nofun
      · nofun

theorem writeEmptyLine (keeps : Keeps before lines) :
    Keeps before.writeEmptyLine.2
      (lines ++ WriterCall.emptyLine.taken (before.writeEmptyLine.1.map fun _ => none)) := by
  obtain ⟨refusal, ended, writes⟩ := writeEmptyLine_spec before
  have throughout : SettlesThroughout before before.writeEmptyLine.2 := throughout_write before "\n"
  have bounded : before.writeEmptyLine.2.buffered.utf8ByteSize ≤ capacity :=
    buffered_write_le "\n" keeps.bounded
  obtain ⟨added, kept⟩ := keeps.wrote writes throughout bounded
  rw [ended]
  cases refusal with
  | none => exact added rfl
  | some cause =>
      rw [result, Except.map, WriterCall.taken, List.append_nil]
      · exact kept nofun
      · nofun

/-- A flush keeps the lines, whatever the sink answers. -/
theorem flush (keeps : Keeps before lines) : Keeps before.flush.2 lines := by
  obtain ⟨refusal, _, writes⟩ := flush_spec before
  rw [← List.append_nil lines]
  apply keeps.settled (throughout_flush before) [] _ (buffered_flush_le keeps.bounded)
  rw [List.append_nil, ← keeps.content]
  cases refusal with
  | none => rw [writes.added rfl, String.append_empty]
  | some cause => rw [writes.kept nofun]

/-- A call adds its line if it succeeds, and nothing otherwise. -/
theorem call (keeps : Keeps before lines) (call : WriterCall) :
    Keeps (before.call call).2 (lines ++ call.taken (before.call call).1) := by
  cases call with
  | spans sentences => exact keeps.writeSpans sentences
  | emptyLine => exact keeps.writeEmptyLine
  | flush =>
      rw [WriterCall.taken, List.append_nil]
      exact keeps.flush

theorem callAll (keeps : Keeps before lines) (calls : List WriterCall) :
    Keeps (before.callAll calls).2 (lines ++ linesTaken (before.callAll calls).1) := by
  induction calls generalizing before lines with
  | nil =>
      rw [Writer.callAll, linesTaken, List.flatMap_nil, List.append_nil]
      exact keeps
  | cons call rest ih =>
      rw [Writer.callAll, linesTaken, List.flatMap_cons, ← List.append_assoc]
      exact ih (keeps.call call)

end Keeps

/-! ## 4. The lines of a new writer -/

theorem map_fst_callAll (writer : Writer) (calls : List WriterCall) :
    (writer.callAll calls).1.map (·.1) = calls := by
  induction calls generalizing writer with
  | nil => rfl
  | cons call rest ih => rw [callAll, List.map_cons, ih]

/-- After any calls on a new writer, those that failed among them, the sink and the buffer together
hold the lines of the calls that succeeded, in their order.  The sink never held a part of a line,
the buffer has not outgrown its size, a flush that succeeds empties it, and an end that succeeds
leaves all lines in the sink. -/
theorem callAll_keeps (rule : SinkRule) (calls : List WriterCall) :
    ∃ made writer, (Writer.new rule).callAll calls = (made, writer) ∧
      made.map (·.1) = calls ∧
      writer.sink.accepted ++ writer.buffered = String.join (linesTaken made) ∧
      (∀ past, past <:+ writer.sink.history →
        ∃ count ≤ (linesTaken made).length,
          acceptedText past = String.join ((linesTaken made).take count)) ∧
      writer.buffered.utf8ByteSize ≤ 8192 ∧
      (writer.flush.1 = .ok () → writer.flush.2.buffered = "") ∧
      (writer.finish.1 = .ok () → writer.finish.2.accepted = String.join (linesTaken made)) := by
  have keeps := (Keeps.new rule).callAll calls
  rw [List.nil_append] at keeps
  refine ⟨_, _, rfl, map_fst_callAll _ calls, keeps.content, keeps.whole, keeps.bounded, ?_, ?_⟩
  · intro succeeded
    exact ((settles_flush _).2 succeeded).1
  · intro succeeded
    obtain ⟨refusal, after, ended, _, complete⟩ := finish_spec ((Writer.new rule).callAll calls).2
    rw [ended] at succeeded ⊢
    cases refusal with
    | none => exact (complete rfl).trans keeps.content
    | some cause => cases succeeded

end Writer

end SentenceSpans
