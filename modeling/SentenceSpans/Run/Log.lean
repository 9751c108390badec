import SentenceSpans.Text.Quoted

/-!
# The log of a run

A run notes what it does.  Each event has a level, and the verbosity says up to which level events
are kept.
-/

namespace SentenceSpans

inductive LogLevel where
  | error
  | warn
  | info
  | debug
  | trace
deriving DecidableEq, Repr

namespace LogLevel

/-- The place of a level, the most important one first. -/
def rank : LogLevel → Nat
  | error => 1
  | warn => 2
  | info => 3
  | debug => 4
  | trace => 5

def name : LogLevel → String
  | error => "ERROR"
  | warn => "WARN"
  | info => "INFO"
  | debug => "DEBUG"
  | trace => "TRACE"

def all : List LogLevel := [error, warn, info, debug, trace]

end LogLevel

/-- The least important level that is kept; none when nothing is kept. -/
structure Verbosity where
  level : Option LogLevel
deriving DecidableEq, Repr

namespace Verbosity

/-- Warnings and errors are kept unless the user asks for something else. -/
def standard : Verbosity := ⟨some .warn⟩

def keeps (verbosity : Verbosity) (level : LogLevel) : Bool :=
  match verbosity.level with
  | none => false
  | some least => decide (level.rank ≤ least.rank)

/-- The verbosity that a name stands for, in whatever case it is written. -/
def ofName? (name : String) : Option Verbosity :=
  let upper := name.map Char.toUpper
  if upper = "OFF" then some ⟨none⟩
  else (LogLevel.all.find? fun level => level.name = upper).map fun level => ⟨some level⟩

/-- The verbosity a user asks for; a name that stands for none is as good as no name. -/
def ofRequest (name : Option String) : Verbosity :=
  (name.bind ofName?).getD standard

end Verbosity

inductive LogValue where
  | text (content : String)
  | number (n : Nat)
deriving DecidableEq, Repr

structure LogEvent where
  level : LogLevel
  message : String
  details : List (String × LogValue)
deriving DecidableEq, Repr

def LogValue.render : LogValue → String
  | .text content => Quoted.quote content
  | .number n => Nat.repr n

/-- The line of an event in the log, a JSON document. -/
def LogEvent.render (event : LogEvent) : String :=
  let details := event.details.map fun detail =>
    "," ++ Quoted.quote detail.1 ++ ":" ++ detail.2.render
  "\x7b\"level\":" ++ Quoted.quote event.level.name ++ ",\"fields\":\x7b\"message\":" ++
    Quoted.quote event.message ++ String.join details ++ "\x7d\x7d\n"

/-- The events kept so far, latest first. -/
structure Log where
  verbosity : Verbosity
  kept : List LogEvent
deriving DecidableEq, Repr

namespace Log

def new (verbosity : Verbosity) : Log := ⟨verbosity, []⟩

def note (log : Log) (event : LogEvent) : Log :=
  if log.verbosity.keeps event.level then ⟨log.verbosity, event :: log.kept⟩ else log

/-- Note an event for each of many values, which are looked at only if such events are kept. -/
def noteEach (log : Log) (level : LogLevel) (values : Unit → List α) (event : α → LogEvent) :
    Log :=
  if log.verbosity.keeps level then
    (values ()).foldl (fun log value => log.note (event value)) log
  else log

def events (log : Log) : List LogEvent := log.kept.reverse

end Log

end SentenceSpans
