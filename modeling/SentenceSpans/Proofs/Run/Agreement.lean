import SentenceSpans.Run.Process

/-!
# Runs that cannot be told apart

A run carries its progress and its log along, adds to them and never looks at them.  So two runs
that start with the same writer deal with the same items in the same way, and all that is left of
them is the same, but for their progress, the time they took, and what their logs say beyond
warnings and errors.

Results:
1. `Log.Agrees.note` and `Log.Agrees.note_left`: events noted in both logs, or in one of them.
2. `RunState.Agrees.take`: what a single item preserves.
3. `RunState.Agrees.consume`: what all items preserve.
4. `RunState.Agrees.conclude`: the end of a run, whatever time it took.
-/

namespace SentenceSpans

/-! ## Definitions -/

def RunStats.untimed (stats : RunStats) : RunStats :=
  { stats with milliseconds := 0, bytesPerSecond := Binary64.zero }

/-- Warnings and errors are urgent: they are what the standard verbosity keeps. -/
def LogEvent.isUrgent (event : LogEvent) : Bool := Verbosity.standard.keeps event.level

/-- Logs of the given verbosity with the same warnings and errors.  Where nothing else is kept they
are the same. -/
structure Log.Agrees (verbosity : Verbosity) (log other : Log) : Prop where
  left : log.verbosity = verbosity
  right : other.verbosity = verbosity
  urgent : log.kept.filter LogEvent.isUrgent = other.kept.filter LogEvent.isUrgent
  quiet : verbosity.keeps .info = false → log = other

/-- Runs that differ at most in their progress, in the time on their statistics and in what their
logs say beyond warnings and errors. -/
structure RunState.Agrees (verbosity : Verbosity) (run other : RunState) : Prop where
  writer : run.writer = other.writer
  stats : run.stats.untimed = other.stats.untimed
  log : run.log.Agrees verbosity other.log

/-! ## 1. Logs -/

/-- A verbosity that keeps no information keeps nothing that matters less. -/
theorem Verbosity.keeps_eq_false {verbosity : Verbosity} (quiet : verbosity.keeps .info = false)
    {event : LogEvent} (calm : event.isUrgent = false) : verbosity.keeps event.level = false := by
  have low : ¬ event.level.rank ≤ LogLevel.warn.rank := of_decide_eq_false calm
  obtain ⟨_ | least⟩ := verbosity
  · rfl
  · have high : ¬ LogLevel.info.rank ≤ least.rank := of_decide_eq_false quiet
    apply decide_eq_false
    change ¬ event.level.rank ≤ 2 at low
    change ¬ 3 ≤ least.rank at high
    omega

namespace Log

theorem verbosity_note (log : Log) (event : LogEvent) :
    (log.note event).verbosity = log.verbosity := by
  rw [note]
  split <;> rfl

theorem note_of_dropped {log : Log} {event : LogEvent}
    (dropped : log.verbosity.keeps event.level = false) : log.note event = log :=
  if_neg (by rw [dropped]; exact Bool.false_ne_true)

/-- An event that is not urgent does not show among the urgent ones. -/
theorem filter_note_of_calm (log : Log) {event : LogEvent} (calm : event.isUrgent = false) :
    (log.note event).kept.filter LogEvent.isUrgent = log.kept.filter LogEvent.isUrgent := by
  rw [note]
  split
  · exact List.filter_cons_of_neg (by rw [calm]; exact Bool.false_ne_true)
  · rfl

namespace Agrees

variable {verbosity : Verbosity} {log other third : Log}

theorem refl (log : Log) : log.Agrees log.verbosity log := ⟨rfl, rfl, rfl, fun _ => rfl⟩

theorem symm (agrees : log.Agrees verbosity other) : other.Agrees verbosity log :=
  ⟨agrees.right, agrees.left, agrees.urgent.symm, fun quiet => (agrees.quiet quiet).symm⟩

theorem trans (first : log.Agrees verbosity other) (second : other.Agrees verbosity third) :
    log.Agrees verbosity third :=
  ⟨first.left, second.right, first.urgent.trans second.urgent,
    fun quiet => (first.quiet quiet).trans (second.quiet quiet)⟩

theorem note (agrees : log.Agrees verbosity other) (event : LogEvent) :
    (log.note event).Agrees verbosity (other.note event) where
  left := (verbosity_note log event).trans agrees.left
  right := (verbosity_note other event).trans agrees.right
  urgent := by
    rw [Log.note, Log.note, agrees.left, agrees.right]
    split
    · rw [List.filter_cons, List.filter_cons, agrees.urgent]
    · exact agrees.urgent
  quiet := by
    intro quiet
    rw [agrees.quiet quiet]

/-- An event that is not urgent may be missing in the other log. -/
theorem note_left (agrees : log.Agrees verbosity other) {event : LogEvent}
    (calm : event.isUrgent = false) : (log.note event).Agrees verbosity other where
  left := (verbosity_note log event).trans agrees.left
  right := agrees.right
  urgent := (filter_note_of_calm log calm).trans agrees.urgent
  quiet := by
    intro quiet
    have dropped : log.verbosity.keeps event.level = false := by
      rw [agrees.left]
      exact Verbosity.keeps_eq_false quiet calm
    rw [note_of_dropped dropped, agrees.quiet quiet]

theorem noteEach (agrees : log.Agrees verbosity other) (level : LogLevel) (values : Unit → List α)
    (event : α → LogEvent) :
    (log.noteEach level values event).Agrees verbosity (other.noteEach level values event) := by
  have all : ∀ values : List α, ∀ {log other : Log}, log.Agrees verbosity other →
      (values.foldl (fun log value => log.note (event value)) log).Agrees verbosity
        (values.foldl (fun log value => log.note (event value)) other) := by
    intro values
    induction values with
    | nil => exact fun agrees => agrees
    | cons value rest ih => exact fun agrees => ih (agrees.note (event value))
  rw [Log.noteEach, Log.noteEach, agrees.left, agrees.right]
  split
  · exact all (values ()) agrees
  · exact agrees

end Agrees

end Log

/-! ## 2. Single items -/

namespace RunState.Agrees

variable {verbosity : Verbosity} {run other : RunState}

theorem takeRecord (agrees : run.Agrees verbosity other) (detector : Detector) (record : Record) :
    (run.takeRecord detector record).1 = (other.takeRecord detector record).1 ∧
      (run.takeRecord detector record).2.Agrees verbosity (other.takeRecord detector record).2 := by
  obtain ⟨writer, stats, log⟩ := agrees
  have noted := log.noteEach .trace (fun _ => detector.provider.removed record.text)
    .breakRemoved
  unfold RunState.takeRecord
  simp only [RunState.noteRemoved]
  rw [← writer]
  rcases run.writer.writeSpans (detector.spans record.text) with ⟨failure | sentences, after⟩
  · exact ⟨rfl, rfl, stats, noted⟩
  · refine ⟨rfl, rfl, ?_, noted.note _⟩
    exact congrArg (fun stats => stats.countRecord sentences record.rawLength) stats

theorem skipLine (agrees : run.Agrees verbosity other) (failure : Failure) :
    (run.skipLine failure).1 = (other.skipLine failure).1 ∧
      (run.skipLine failure).2.Agrees verbosity (other.skipLine failure).2 := by
  obtain ⟨writer, stats, log⟩ := agrees
  have noted := log.note (.lineSkipped failure)
  unfold RunState.skipLine
  simp only [RunState.note]
  rw [← writer]
  rcases run.writer.writeEmptyLine with ⟨refusal | ⟨⟩, after⟩
  · exact ⟨rfl, rfl, stats, noted⟩
  · refine ⟨rfl, rfl, ?_, noted⟩
    exact congrArg (fun stats => stats.countSkipped (failure.skippedLength?.getD 0)) stats

theorem take (agrees : run.Agrees verbosity other) (config : RunConfig) (item : Item) :
    (run.take config item).1 = (other.take config item).1 ∧
      (run.take config item).2.Agrees verbosity (other.take config item).2 := by
  cases item with
  | ok record => exact agrees.takeRecord config.detector record
  | error failure =>
      rw [RunState.take, RunState.take]
      split
      · exact ⟨rfl, agrees⟩
      · exact agrees.skipLine failure

/-! ## 3. All items -/

theorem flush (agrees : run.Agrees verbosity other) :
    run.flush.1 = other.flush.1 ∧ run.flush.2.Agrees verbosity other.flush.2 := by
  unfold RunState.flush
  rw [← agrees.writer]
  exact ⟨rfl, rfl, agrees.stats, agrees.log⟩

theorem consume (agrees : run.Agrees verbosity other) (config : RunConfig) (items : List Item) :
    (run.consume config items).1 = (other.consume config items).1 ∧
      (run.consume config items).2.Agrees verbosity (other.consume config items).2 := by
  induction items generalizing run other with
  | nil => exact agrees.flush
  | cons item rest ih =>
      obtain ⟨same, after⟩ := agrees.take config item
      rw [RunState.consume, RunState.consume]
      rcases taken : run.take config item with ⟨result, next⟩
      rcases taken' : other.take config item with ⟨result', next'⟩
      rw [taken, taken'] at same after
      cases same
      cases result with
      | error failure => exact ⟨rfl, after⟩
      | ok done => exact ih after

/-! ## 4. The end of a run -/

theorem conclude (agrees : run.Agrees verbosity other) (elapsed later : Elapsed)
    (result : Except Failure Unit) :
    (run.conclude elapsed result).Agrees verbosity (other.conclude later result) := by
  obtain ⟨writer, stats, log⟩ := agrees
  cases result with
  | error failure => exact ⟨writer, congrArg (fun stats => stats.fail failure) stats, log⟩
  | ok done =>
      refine ⟨writer, stats, ?_⟩
      -- The numbers of the event are those of the statistics, and none of them is a time.
      change (run.log.note (.completed run.stats.untimed)).Agrees verbosity
        (other.log.note (.completed other.stats.untimed))
      rw [stats]
      exact log.note _

end RunState.Agrees

end SentenceSpans
