import SentenceSpans.Output.Writer

/-!
# What the operations of a writer do

Each operation adds one text behind all that the writer has taken so far.  Where the text goes, into
the buffer or into the sink, does not show in the content; a refusal by the sink does: then nothing
is added.

Results:
1. `writes_handOver`, `writes_append` and `writes_write`: the text each operation adds.
2. `writeSpans_spec` and `writeEmptyLine_spec`: the line of a record, whatever the line buffer held.
3. `flush_spec` and `finish_spec`: at the end the sink holds the content.
-/

namespace SentenceSpans

/-- The latest request to a sink, and the refusal that the rule gave to it. -/
def Sink.HasRefused (sink : Sink) (rule : SinkRule) (cause : IoFailure) : Prop :=
  ∃ earlier request, sink.history = ⟨request, some cause⟩ :: earlier ∧
    rule earlier request = some cause

/-- An operation on a writer: with no refusal it has added a text to the content, with a refusal
nothing.  A refusal is the sink's answer to its latest request. -/
structure Writes (before : Writer) (text : String) (refusal : Option IoFailure)
    (after : Writer) : Prop where
  rule : after.sink.rule = before.sink.rule
  added : refusal = none → after.content = before.content ++ text
  kept : refusal ≠ none → after.content = before.content
  source : ∀ cause, refusal = some cause → after.sink.HasRefused before.sink.rule cause

namespace Writes

variable {before middle after : Writer} {text : String} {refusal : Option IoFailure}

/-- A sink that refuses nothing adds every text. -/
theorem accepted (writes : Writes before text refusal after)
    (accepting : ∀ history request, before.sink.rule history request = none) :
    refusal = none := by
  cases refusal with
  | none => rfl
  | some cause =>
      obtain ⟨earlier, request, _, refused⟩ := writes.source cause rfl
      rw [accepting] at refused
      cases refused

/-- An operation after one that added nothing. -/
theorem after_nothing (first : Writes before "" none middle)
    (second : Writes middle text refusal after) : Writes before text refusal after where
  rule := second.rule.trans first.rule
  added none := by rw [second.added none, first.added rfl, String.append_empty]
  kept some := by rw [second.kept some, first.added rfl, String.append_empty]
  source cause found := first.rule ▸ second.source cause found

/-- Only the sink and the buffer behind it are looked at. -/
theorem of_line {line : LineBuffer}
    (writes : Writes { before with line := line } text refusal after) :
    Writes before text refusal after where
  rule := writes.rule
  added := writes.added
  kept := writes.kept
  source := writes.source

end Writes

/-- What a request adds to an accepting sink. -/
def SinkRequest.text : SinkRequest → String
  | .write chunk => chunk
  | .flush => ""

namespace Writer

/-! ## 1. Texts -/

/-- Without a buffered text the content is what the sink has accepted. -/
theorem content_of_buffered {writer : Writer} (empty : writer.buffered = "") :
    writer.content = writer.sink.accepted := by
  rw [content, empty, String.append_empty]

/-- A request to the sink behind an empty buffer. -/
theorem writes_offer (sink : Sink) (request : SinkRequest) (line : LineBuffer) :
    Writes ⟨sink, "", line⟩ request.text (sink.offer request).1
      ⟨(sink.offer request).2, "", line⟩ := by
  refine ⟨rfl, ?_, ?_, ?_⟩
  · intro none
    rw [content_of_buffered rfl, content_of_buffered rfl, Sink.accepted_offer, none]
    cases request <;> rfl
  · intro refused
    obtain ⟨cause, found⟩ := Option.ne_none_iff_exists'.1 refused
    rw [content_of_buffered rfl, content_of_buffered rfl, Sink.accepted_offer, found]
    cases request <;> exact String.append_empty
  · intro cause found
    exact ⟨sink.history, request, congrArg (SinkEvent.mk request · :: sink.history) found, found⟩

/-- Handing over moves text from the buffer into the sink; without a refusal the buffer is empty
then. -/
theorem writes_handOver (writer : Writer) :
    Writes writer "" writer.handOver.1 writer.handOver.2 ∧
      (writer.handOver.1 = none → writer.handOver.2.buffered = "") := by
  unfold handOver
  split
  · next empty =>
      refine ⟨⟨rfl, fun _ => String.append_empty.symm, fun _ => rfl, ?_⟩, fun _ => ?_⟩
      · rintro cause ⟨⟩
      · exact String.isEmpty_iff.1 empty
  · split
    · next after offered =>
        have writes := writes_offer writer.sink (.write writer.buffered) writer.line
        rw [offered] at writes
        refine ⟨⟨writes.rule, fun none => ?_, fun some => absurd rfl some, ?_⟩, fun _ => rfl⟩
        · rw [String.append_empty]
          exact (writes.added none).trans (congrArg (· ++ writer.buffered) String.append_empty)
        · rintro cause ⟨⟩
    · next cause after offered =>
        have writes := writes_offer writer.sink (.write writer.buffered) writer.line
        rw [offered] at writes
        refine ⟨⟨writes.rule, ?_, fun some => ?_, writes.source⟩, ?_⟩
        · rintro ⟨⟩
        · have same := writes.kept some
          rw [content_of_buffered rfl, content_of_buffered rfl] at same
          exact congrArg (· ++ writer.buffered) same
        · rintro ⟨⟩

/-- A text as large as the buffer is appended to an empty buffer only. -/
theorem writes_append (writer : Writer) (text : String)
    (fits : capacity ≤ text.utf8ByteSize → writer.buffered = "") :
    Writes writer text (writer.append text).1 (writer.append text).2 := by
  unfold append
  split
  · refine ⟨rfl, fun _ => String.append_assoc.symm, fun some => absurd rfl some, ?_⟩
    rintro cause ⟨⟩
  · next large =>
      have empty := fits (Nat.le_of_not_lt large)
      obtain ⟨sink, buffered, line⟩ := writer
      subst empty
      exact writes_offer sink (.write text) line

/-- Nothing but an empty buffer leaves room for a text as large as the buffer. -/
theorem buffered_of_fits {writer : Writer} {text : String}
    (fits : text.utf8ByteSize ≤ capacity - writer.buffered.utf8ByteSize)
    (large : capacity ≤ text.utf8ByteSize) : writer.buffered = "" := by
  have none : writer.buffered.utf8ByteSize = 0 := by
    unfold capacity at fits large
    omega
  exact String.utf8ByteSize_eq_zero_iff.1 none

theorem writes_write (writer : Writer) (text : String) :
    Writes writer text (writer.write text).1 (writer.write text).2 := by
  unfold write
  split
  · next fits => exact writes_append writer text (buffered_of_fits fits)
  · obtain ⟨handed, emptied⟩ := writes_handOver writer
    split
    · next after found =>
        rw [found] at handed emptied
        exact handed.after_nothing (writes_append after text fun _ => emptied rfl)
    · next cause after found =>
        rw [found] at handed
        refine ⟨handed.rule, ?_, fun some => handed.kept some, handed.source⟩
        rintro ⟨⟩

/-! ## 2. Lines -/

theorem writeSpans_spec (writer : Writer) (spans : List Span) :
    ∃ refusal, (writer.writeSpans spans).1 = result refusal spans.length ∧
      Writes writer (renderLine spans) refusal (writer.writeSpans spans).2 := by
  unfold writeSpans
  rw [LineBuffer.fill_eq]
  exact ⟨_, rfl, (writes_write _ (renderLine spans)).of_line⟩

theorem writeEmptyLine_spec (writer : Writer) :
    ∃ refusal, writer.writeEmptyLine.1 = result refusal () ∧
      Writes writer "\n" refusal writer.writeEmptyLine.2 :=
  ⟨_, rfl, writes_write writer "\n"⟩

/-! ## 3. Ends -/

theorem flush_spec (writer : Writer) :
    ∃ refusal, writer.flush.1 = result refusal () ∧ Writes writer "" refusal writer.flush.2 := by
  unfold flush
  obtain ⟨handed, emptied⟩ := writes_handOver writer
  split
  · next cause after found =>
      rw [found] at handed
      exact ⟨_, rfl, handed⟩
  · next after found =>
      rw [found] at handed emptied
      refine ⟨_, rfl, handed.after_nothing ?_⟩
      obtain ⟨sink, buffered, line⟩ := after
      cases emptied rfl
      exact writes_offer sink .flush line

/-- A writer that ends without a refusal leaves its content in the sink. -/
theorem finish_spec (writer : Writer) :
    ∃ refusal after, writer.finish = (result refusal (), after.sink) ∧
      Writes writer "" refusal after ∧ (refusal = none → after.sink.accepted = writer.content) := by
  obtain ⟨handed, emptied⟩ := writes_handOver writer
  refine ⟨_, _, rfl, handed, fun none => ?_⟩
  have added := handed.added none
  rw [content_of_buffered (emptied none), String.append_empty] at added
  exact added

end Writer

end SentenceSpans
