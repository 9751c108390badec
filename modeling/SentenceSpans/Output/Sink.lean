import SentenceSpans.Failure

/-!
# Sinks

A sink takes text and may refuse it.  It accepts or refuses each request as a whole, by a rule
that may depend on everything that happened before.

## Main statement

`Sink.accepted_offer`: an accepted chunk stands after all that was accepted before it, and a
refused request leaves the accepted text as it was.
-/

namespace SentenceSpans

inductive SinkRequest where
  | write (chunk : String)
  | flush
deriving DecidableEq, Repr

/-- A request and the sink's answer to it: a refusal, or none when the request was accepted. -/
structure SinkEvent where
  request : SinkRequest
  refusal : Option IoFailure
deriving DecidableEq, Repr

/-- The text that reaches its destination through an event. -/
def SinkEvent.delivered (event : SinkEvent) : String :=
  match event.request, event.refusal with
  | .write chunk, none => chunk
  | _, _ => ""

/-- How a sink answers a request, given the events before it, latest first. -/
abbrev SinkRule := List SinkEvent → SinkRequest → Option IoFailure

/-- The text accepted in a history of events, given latest first. -/
def acceptedText (history : List SinkEvent) : String :=
  String.join (history.reverse.map (·.delivered))

def acceptedSize (history : List SinkEvent) : Nat :=
  history.foldr (fun event size => event.delivered.utf8ByteSize + size) 0

namespace SinkRule

def unlimited : SinkRule := fun _ _ => none

/-- A chunk that would take the accepted text above the limit is refused; `failFlush` makes every
flush fail. -/
def limited (limit : Option Nat) (failFlush : Bool) : SinkRule := fun history request =>
  match request with
  | .write chunk =>
      match limit with
      | some bytes =>
          if bytes < acceptedSize history + chunk.utf8ByteSize then some ⟨"pipe closed"⟩ else none
      | none => none
  | .flush => if failFlush then some ⟨"flush failed"⟩ else none

end SinkRule

/-- A sink with its rule and its history, latest event first. -/
structure Sink where
  rule : SinkRule
  history : List SinkEvent

namespace Sink

def new (rule : SinkRule) : Sink := ⟨rule, []⟩

def accepted (sink : Sink) : String := acceptedText sink.history

def size (sink : Sink) : Nat := acceptedSize sink.history

/-- Make a request: the refusal, if any, and the sink after it. -/
def offer (sink : Sink) (request : SinkRequest) : Option IoFailure × Sink :=
  let refusal := sink.rule sink.history request
  (refusal, ⟨sink.rule, ⟨request, refusal⟩ :: sink.history⟩)

theorem accepted_offer (sink : Sink) (request : SinkRequest) :
    (sink.offer request).2.accepted =
      sink.accepted ++ SinkEvent.delivered ⟨request, (sink.offer request).1⟩ := by
  simp [offer, accepted, acceptedText]

theorem size_offer (sink : Sink) (request : SinkRequest) :
    (sink.offer request).2.size =
      sink.size + (SinkEvent.delivered ⟨request, (sink.offer request).1⟩).utf8ByteSize := by
  simp [offer, size, acceptedSize, Nat.add_comm]

end Sink

end SentenceSpans
