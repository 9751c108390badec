import SentenceSpans.Proofs.Output.Writing

/-!
# Whole lines in the sink

The sink behind a writer takes what the writer hands over, and that is always all the writer holds,
or a line too large for the buffer.  So the sink never holds a part of a line: whatever it refuses,
and whenever, it holds some of the lines that the writer has taken, from the first one on.

Results:
1. `settles_handOver`, `settles_append` and `settles_write`: what each operation leaves in the sink.
2. `Holds.write`: a line more, or the lines as before.
3. `holds_writeSpans` and `holds_writeEmptyLine`: the line of a record; `holds_flush`: without a
   refusal the sink holds all lines in the end.
-/

namespace SentenceSpans

/-! ## Definitions -/

namespace Writer

/-- Nothing is left in the buffer, and the sink was asked last, and agreed, to pass on what it
holds. -/
def IsFlushed (writer : Writer) : Prop :=
  writer.buffered = "" ∧ writer.sink.history.head? = some ⟨.flush, none⟩

/-- What an operation leaves in the sink: as much as before, or all that the writer had taken before
the operation, or all that it has taken after it. -/
def Settles (before after : Writer) : Prop :=
  after.sink.accepted = before.sink.accepted ∨ after.sink.accepted = before.content ∨
    after.sink.accepted = after.content

/-- A writer into a sink with the given rule that has taken the given lines, the first few of which
are in the sink. -/
structure Holds (rule : SinkRule) (writer : Writer) (lines : List String) : Prop where
  obeys : writer.sink.rule = rule
  content : writer.content = String.join lines
  whole : ∃ count ≤ lines.length, writer.sink.accepted = String.join (lines.take count)

/-! ## 1. What the sink holds -/

/-- With an empty buffer all is in the sink. -/
theorem settles_of_buffered {before after : Writer} (empty : after.buffered = "") :
    Settles before after :=
  .inr (.inr (content_of_buffered empty).symm)

/-- A refused request leaves the sink with what it held. -/
theorem accepted_of_refused {sink : Sink} {request : SinkRequest} {cause : IoFailure}
    (refused : (sink.offer request).1 = some cause) :
    (sink.offer request).2.accepted = sink.accepted := by
  rw [Sink.accepted_offer, refused]
  cases request <;> exact String.append_empty

theorem settles_handOver (writer : Writer) : Settles writer writer.handOver.2 := by
  have emptied := (writes_handOver writer).2
  unfold handOver at emptied ⊢
  split
  · exact .inl rfl
  · next filled =>
      rw [if_neg filled] at emptied
      split
      · exact settles_of_buffered rfl
      · next cause after offered =>
          have kept := accepted_of_refused (congrArg Prod.fst offered)
          rw [offered] at kept
          exact .inl kept

/-- A text as large as the buffer is appended to an empty buffer only. -/
theorem settles_append (writer : Writer) (text : String)
    (fits : capacity ≤ text.utf8ByteSize → writer.buffered = "") :
    Settles writer (writer.append text).2 := by
  unfold append
  split
  · exact .inl rfl
  · next large => exact settles_of_buffered (fits (Nat.le_of_not_lt large))

/-- Once the buffer was handed over, the sink holds all that the writer had taken. -/
theorem Settles.after_handOver {before middle after : Writer}
    (writes : Writes before "" none middle) (empty : middle.buffered = "")
    (settles : Settles middle after) : Settles before after := by
  have all : middle.content = before.content := by
    rw [writes.added rfl, String.append_empty]
  rcases settles with same | same | same
  · exact .inr (.inl (by rw [same, ← content_of_buffered empty, all]))
  · exact .inr (.inl (same.trans all))
  · exact .inr (.inr same)

theorem settles_write (writer : Writer) (text : String) : Settles writer (writer.write text).2 := by
  unfold write
  split
  · next fits => exact settles_append writer text (buffered_of_fits fits)
  · obtain ⟨handed, emptied⟩ := writes_handOver writer
    have settles := settles_handOver writer
    split
    · next after found =>
        rw [found] at handed emptied
        exact (settles_append after text fun _ => emptied rfl).after_handOver handed (emptied rfl)
    · next cause after found =>
        rw [found] at settles
        exact settles

/-- A flush that succeeds empties the buffer, and the sink has accepted it last. -/
theorem settles_flush (writer : Writer) :
    Settles writer writer.flush.2 ∧ (writer.flush.1 = .ok () → writer.flush.2.IsFlushed) := by
  obtain ⟨_, emptied⟩ := writes_handOver writer
  have settles := settles_handOver writer
  unfold flush
  split
  · next cause after found =>
      rw [found] at settles
      exact ⟨settles, nofun⟩
  · next after found =>
      rw [found] at emptied
      refine ⟨settles_of_buffered (emptied rfl), fun succeeded => ⟨emptied rfl, ?_⟩⟩
      change result (after.sink.offer .flush).1 () = .ok () at succeeded
      have accepted : (after.sink.offer .flush).1 = none := by
        cases refusal : (after.sink.offer .flush).1 with
        | none => rfl
        | some cause =>
            rw [refusal] at succeeded
            cases succeeded
      exact congrArg (fun refusal => some (SinkEvent.mk .flush refusal)) accepted

/-! ## 2. Lines -/

namespace Holds

variable {rule : SinkRule} {before after : Writer} {lines : List String} {text : String}
  {refusal : Option IoFailure}

theorem new (rule : SinkRule) : Holds rule (.new rule) [] where
  obeys := rfl
  content := rfl
  whole := ⟨0, Nat.le_refl 0, rfl⟩

/-- Lines in the sink stay in front of the lines that follow. -/
theorem settled (holds : Holds rule before lines) (writes : Writes before text refusal after)
    (settles : Settles before after) {more : List String}
    (content : after.content = String.join (lines ++ more)) : Holds rule after (lines ++ more) := by
  refine ⟨writes.rule.trans holds.obeys, content, ?_⟩
  rcases settles with same | same | same
  · obtain ⟨count, le, accepted⟩ := holds.whole
    refine ⟨count, ?_, ?_⟩
    · rw [List.length_append]
      omega
    · rw [same, accepted, List.take_append_of_le_length le]
  · refine ⟨lines.length, ?_, ?_⟩
    · rw [List.length_append]
      exact Nat.le_add_right _ _
    · rw [same, holds.content, List.take_left]
  · exact ⟨_, Nat.le_refl _, by rw [same, content, List.take_length]⟩

/-- An operation without a refusal adds its text as a line. -/
theorem added (holds : Holds rule before lines) (writes : Writes before text none after)
    (settles : Settles before after) : Holds rule after (lines ++ [text]) := by
  apply holds.settled writes settles
  rw [writes.added rfl, holds.content, String.join_append, String.join_cons, String.join_nil,
    String.append_empty]

/-- An operation with a refusal adds nothing. -/
theorem kept (holds : Holds rule before lines) {cause : IoFailure}
    (writes : Writes before text (some cause) after) (settles : Settles before after) :
    Holds rule after lines := by
  rw [← List.append_nil lines]
  apply holds.settled writes settles
  rw [writes.kept (by simp), holds.content, List.append_nil]

/-- An operation that has no text leaves the lines as they are. -/
theorem same (holds : Holds rule before lines) (writes : Writes before "" refusal after)
    (settles : Settles before after) : Holds rule after lines := by
  rw [← List.append_nil lines]
  apply holds.settled writes settles
  rw [List.append_nil, ← holds.content]
  cases refusal with
  | none => rw [writes.added rfl, String.append_empty]
  | some cause => rw [writes.kept (by simp)]

/-- Every refusal is one of the rule. -/
theorem hasRefused (holds : Holds rule before lines) {cause : IoFailure}
    (writes : Writes before text (some cause) after) : after.sink.HasRefused rule cause := by
  rw [← holds.obeys]
  exact writes.source cause rfl

end Holds

/-! ## 3. The lines of records -/

section Records

variable {rule : SinkRule} {writer : Writer} {lines : List String}

/-- The line of a record is taken as a whole, or refused and dropped. -/
theorem holds_writeSpans (holds : Holds rule writer lines) (spans : List Span) :
    ((writer.writeSpans spans).1 = .ok spans.length ∧
        Holds rule (writer.writeSpans spans).2 (lines ++ [renderLine spans])) ∨
      ∃ cause, (writer.writeSpans spans).2.sink.HasRefused rule cause ∧
        (writer.writeSpans spans).1 = .error (.outputWrite cause) ∧
        Holds rule (writer.writeSpans spans).2 lines := by
  obtain ⟨refusal, result, writes⟩ := writeSpans_spec writer spans
  have settles : Settles writer (writer.writeSpans spans).2 :=
    settles_write { writer with line := (writer.line.fill spans).1 } _
  cases refusal with
  | none => exact .inl ⟨result, holds.added writes settles⟩
  | some cause => exact .inr ⟨cause, holds.hasRefused writes, result, holds.kept writes settles⟩

theorem holds_writeEmptyLine (holds : Holds rule writer lines) :
    (writer.writeEmptyLine.1 = .ok () ∧ Holds rule writer.writeEmptyLine.2 (lines ++ ["\n"])) ∨
      ∃ cause, writer.writeEmptyLine.2.sink.HasRefused rule cause ∧
        writer.writeEmptyLine.1 = .error (.outputWrite cause) ∧
        Holds rule writer.writeEmptyLine.2 lines := by
  obtain ⟨refusal, result, writes⟩ := writeEmptyLine_spec writer
  have settles : Settles writer writer.writeEmptyLine.2 := settles_write writer "\n"
  cases refusal with
  | none => exact .inl ⟨result, holds.added writes settles⟩
  | some cause => exact .inr ⟨cause, holds.hasRefused writes, result, holds.kept writes settles⟩

/-- A flush leaves the lines as they are.  Without a refusal they are all in the sink. -/
theorem holds_flush (holds : Holds rule writer lines) :
    Holds rule writer.flush.2 lines ∧
      ((writer.flush.1 = .ok () ∧ writer.flush.2.IsFlushed) ∨
        ∃ cause, writer.flush.2.sink.HasRefused rule cause ∧
          writer.flush.1 = .error (.outputWrite cause)) := by
  obtain ⟨refusal, result, writes⟩ := flush_spec writer
  obtain ⟨settles, flushed⟩ := settles_flush writer
  refine ⟨holds.same writes settles, ?_⟩
  cases refusal with
  | none => exact .inl ⟨result, flushed result⟩
  | some cause => exact .inr ⟨cause, holds.hasRefused writes, result⟩

end Records

end Writer

end SentenceSpans
