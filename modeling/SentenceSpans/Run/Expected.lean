import SentenceSpans.Run.Process

/-!
# Expected output

What the output of a run has to be, said of its items alone: one line for each item before the
first one that ends the run, and the reason given by that one.  Neither the writer nor the sink
plays a part.
-/

namespace SentenceSpans

namespace Item

/-- The sentences that a detector finds in an item; there are none in a line without a text. -/
def spans (detector : Detector) : Item → List Span
  | .ok record => detector.spans record.text
  | .error _ => []

def rawLength : Item → Nat
  | .ok record => record.rawLength
  | .error failure => failure.skippedLength?.getD 0

def isFailure : Item → Bool
  | .ok _ => false
  | .error _ => true

def total (size : Item → Nat) (items : List Item) : Nat :=
  items.foldr (fun item sum => size item + sum) 0

theorem total_concat (size : Item → Nat) (items : List Item) (item : Item) :
    total size (items ++ [item]) = total size items + size item := by
  induction items with
  | nil => exact Nat.add_comm _ _
  | cons first rest ih =>
      change size first + total size (rest ++ [item]) = size first + total size rest + size item
      rw [ih, Nat.add_assoc]

end Item

namespace RunConfig

/-- The failure with which an item ends the run, if it does.  A line that is not UTF-8 does only
when such lines are not skipped, every other failure always. -/
def fatal? (config : RunConfig) : Item → Option Failure
  | .ok _ => none
  | .error (.invalidInput line rawLength cause) =>
      if config.skipInvalid then none else some (.invalidInput line rawLength cause)
  | .error failure => some failure

/-- The items that get a line: those before the first fatal one. -/
def answered (config : RunConfig) (items : List Item) : List Item :=
  items.takeWhile fun item => (config.fatal? item).isNone

def firstFatal? (config : RunConfig) (items : List Item) : Option Failure :=
  items.findSome? config.fatal?

/-- The output line of an item that is not fatal: that of its sentences, or an empty one. -/
def lineOf (config : RunConfig) : Item → String
  | .ok record => renderLine (config.detector.spans record.text)
  | .error _ => "\n"

/-- The lines that a run over the items writes when nothing is refused. -/
def expectedLines (config : RunConfig) (items : List Item) : List String :=
  (config.answered items).map config.lineOf

/-- How a run over the items ends when nothing is refused. -/
def expectedResult (config : RunConfig) (items : List Item) : Except Failure Unit :=
  match config.firstFatal? items with
  | none => .ok ()
  | some failure => .error failure

theorem answered_cons (config : RunConfig) (item : Item) (rest : List Item) :
    config.answered (item :: rest) =
      if (config.fatal? item).isNone then item :: config.answered rest else [] :=
  List.takeWhile_cons

/-- Nothing after a fatal item counts. -/
theorem expected_cons_of_fatal {config : RunConfig} {item : Item} {failure : Failure}
    (fatal : config.fatal? item = some failure) (rest : List Item) :
    config.expectedLines (item :: rest) = [] ∧
      config.expectedResult (item :: rest) = .error failure := by
  simp [expectedLines, answered, expectedResult, firstFatal?, fatal]

theorem expected_cons {config : RunConfig} {item : Item} (passed : config.fatal? item = none)
    (rest : List Item) :
    config.expectedLines (item :: rest) = config.lineOf item :: config.expectedLines rest ∧
      config.expectedResult (item :: rest) = config.expectedResult rest := by
  simp [expectedLines, answered, expectedResult, firstFatal?, passed]

/-- Every item is answered exactly when none is fatal. -/
theorem answered_eq_self_iff {config : RunConfig} {items : List Item} :
    config.answered items = items ↔ config.firstFatal? items = none := by
  induction items with
  | nil => simp [answered, firstFatal?]
  | cons item rest ih =>
      rw [answered, firstFatal?, List.takeWhile_cons, List.findSome?_cons]
      cases found : config.fatal? item with
      | none =>
          rw [answered, firstFatal?] at ih
          simp only [Option.isNone_none, if_true, List.cons.injEq, true_and]
          exact ih
      | some failure => simp

end RunConfig

/-- A run that ends well has dealt with all items. -/
theorem answered_of_ok {config : RunConfig} {items : List Item}
    (passed : config.expectedResult items = .ok ()) : config.answered items = items := by
  rw [RunConfig.answered_eq_self_iff]
  unfold RunConfig.expectedResult at passed
  cases found : config.firstFatal? items with
  | none => rfl
  | some failure =>
      rw [found] at passed
      cases passed

end SentenceSpans
