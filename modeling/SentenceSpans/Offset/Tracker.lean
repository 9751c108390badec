import SentenceSpans.Offset.Unit

/-!
# Offset trackers

A tracker walks through a text once and turns byte positions, given in increasing order, into
offsets.  It refuses a position that is past the end of the text or inside a character, and then
stays where it was.  For a position it has already reached it answers its current offset.

`advance?` serves a user who gives up at the first refusal.  A tracker that may be asked again after
a refusal is changed in place, by `advanceTo`.
-/

namespace SentenceSpans

/-- A place in a text: its byte position, its offset and the text after it. -/
structure Tracker where
  unit : OffsetUnit
  position : Nat
  offset : Nat
  rest : List Char
deriving DecidableEq, Repr

namespace Tracker

def start (unit : OffsetUnit) (text : List Char) : Tracker :=
  ⟨unit, 0, 0, text⟩

/-- Walk from a place to a byte position.  Only a walk that lands exactly on the position
succeeds: stepping over it means that it lies inside a character. -/
def walk (unit : OffsetUnit) (target position offset : Nat) : List Char → Option Tracker
  | [] => if position = target then some ⟨unit, position, offset, []⟩ else none
  | c :: rest =>
      if position < target then
        walk unit target (position + c.utf8Size) (offset + unit.width c) rest
      else if position = target then some ⟨unit, position, offset, c :: rest⟩
      else none

/-- The tracker at a byte position, or `none` when there is no such place ahead. -/
def advance? (tracker : Tracker) (target : Nat) : Option Tracker :=
  if target ≤ tracker.position then some tracker
  else walk tracker.unit target tracker.position tracker.offset tracker.rest

/-- Split a text behind a number of bytes; `none` when it has fewer, or when they end inside a
character. -/
def splitBytes? : List Char → Nat → Option (List Char × List Char)
  | text, 0 => some ([], text)
  | [], _ + 1 => none
  | c :: rest, size + 1 =>
      if c.utf8Size ≤ size + 1 then
        (splitBytes? rest (size + 1 - c.utf8Size)).map fun parts => (c :: parts.1, parts.2)
      else none

/-- One request, step by step: split off the text up to the byte position, add its size to the
offset, then move on.  A refusal ends the request and does not undo the steps before it. -/
def advanceTo (target : Nat) : OptionT (StateM Tracker) Nat := do
  let reached ← get
  if reached.position < target then
    let some (passed, rest) := splitBytes? reached.rest (target - reached.position) | failure
    modify fun tracker => { tracker with offset := tracker.offset + tracker.unit.measure passed }
    modify fun tracker => { tracker with position := target, rest := rest }
  return (← get).offset

/-- Make a request: the answer, `none` for a refusal, and the tracker as the request leaves it. -/
def request (tracker : Tracker) (target : Nat) : Option Nat × Tracker :=
  (advanceTo target).run.run tracker

/-- The answers of one tracker to a sequence of requests, `none` for a refused one; `done` holds
the earlier answers, latest first. -/
def answersFrom (tracker : Tracker) (done : List (Option Nat)) : List Nat → List (Option Nat)
  | [] => done.reverse
  | target :: rest =>
      match tracker.request target with
      | (answer, after) => answersFrom after (answer :: done) rest

def answers (unit : OffsetUnit) (text : List Char) (targets : List Nat) : List (Option Nat) :=
  answersFrom (start unit text) [] targets

/-- For a position that it has reached, a tracker answers its offset and stays. -/
theorem request_of_le {tracker : Tracker} {target : Nat} (reached : target ≤ tracker.position) :
    tracker.request target = (some tracker.offset, tracker) := by
  change (ite (tracker.position < target) _ _ : OptionT (StateM Tracker) Nat) tracker = _
  rw [if_neg (Nat.not_lt.2 reached)]
  rfl

/-- For a position ahead, all depends on whether the rest of the text can be split there. -/
theorem request_of_lt {tracker : Tracker} {target : Nat} (ahead : tracker.position < target) :
    tracker.request target =
      match splitBytes? tracker.rest (target - tracker.position) with
      | none => (none, tracker)
      | some (passed, rest) =>
          (some (tracker.offset + tracker.unit.measure passed),
            ⟨tracker.unit, target, tracker.offset + tracker.unit.measure passed, rest⟩) := by
  change (ite (tracker.position < target) _ _ : OptionT (StateM Tracker) Nat) tracker = _
  rw [if_pos ahead]
  cases splitBytes? tracker.rest (target - tracker.position) with
  | none => rfl
  | some parts => rfl

/-- Walking over a whole text lands at its end. -/
theorem walk_append (unit : OffsetUnit) (position offset : Nat) (front back : List Char) :
    walk unit (position + byteLength front) position offset (front ++ back) =
      some ⟨unit, position + byteLength front, offset + unit.measure front, back⟩ := by
  induction front generalizing position offset with
  | nil =>
      cases back with
      | nil => simp [walk, OffsetUnit.measure_nil]
      | cons c rest => simp [walk, OffsetUnit.measure_nil]
  | cons c front ih =>
      have size := Char.utf8Size_pos c
      have next := ih (position + c.utf8Size) (offset + unit.width c)
      rw [List.cons_append, walk, byteLength_cons, OffsetUnit.measure_cons, if_pos (by omega)]
      simp only [Nat.add_assoc] at next ⊢
      exact next

end Tracker

end SentenceSpans
