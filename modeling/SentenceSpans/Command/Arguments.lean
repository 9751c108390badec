import SentenceSpans.Command.Choice
import SentenceSpans.Text.Inspected

/-!
# Command-line arguments

One input, three options with a value and three flags, each given at most once and in any order.
The value of an option follows it as the next argument or after an equals sign; a value that is
the next argument does not start like an option.  After two dashes alone every argument is an
input.  A single dash is an ordinary input.

Arguments are judged one by one: the first one that is wrong, or that asks for help or the
version, decides.
-/

namespace SentenceSpans

/-- What a run was asked to do. -/
structure Arguments where
  input : String
  locale : Locale
  unit : OffsetUnit
  useMmap : Bool
  skipInvalid : Bool
  noProgress : Bool
  statsOut : Option String
deriving DecidableEq, Repr

/-- What a command line asks for when it asks for no run. -/
inductive Inquiry where
  | briefHelp
  | fullHelp
  | version
  /-- The arguments are wrong. -/
  | misuse
deriving DecidableEq, Repr

namespace Arguments

/-! ## Gathering -/

/-- What the arguments so far have given. -/
structure Gathered where
  input : Option String
  locale : Option Locale
  unit : Option OffsetUnit
  useMmap : Bool
  skipInvalid : Bool
  noProgress : Bool
  statsOut : Option String
deriving DecidableEq, Repr

namespace Gathered

def empty : Gathered := ⟨none, none, none, false, false, false, none⟩

/-- An input, which has a name and is given once. -/
def giveInput (gathered : Gathered) (name : String) : Option Gathered :=
  if gathered.input.isSome ∨ name.isEmpty then none
  else some { gathered with input := some name }

/-- A flag, which is given once. -/
def giveFlag (gathered : Gathered) (flag : String) : Option Gathered :=
  match flag with
  | "use-mmap" =>
      if gathered.useMmap then none else some { gathered with useMmap := true }
  | "skip-invalid" =>
      if gathered.skipInvalid then none else some { gathered with skipInvalid := true }
  | "no-progress" =>
      if gathered.noProgress then none else some { gathered with noProgress := true }
  | _ => none

/-- An option with its value, which is given once and means something. -/
def giveOption (gathered : Gathered) (option value : String) : Option Gathered :=
  match option with
  | "locale" =>
      match gathered.locale, Choice.ofName Locale.names false value with
      | none, .ok locale => some { gathered with locale := some locale }
      | _, _ => none
  | "offset-unit" =>
      match gathered.unit, Choice.ofName OffsetUnit.names false value with
      | none, .ok unit => some { gathered with unit := some unit }
      | _, _ => none
  | "stats-out" =>
      if gathered.statsOut.isSome ∨ value.isEmpty then none
      else some { gathered with statsOut := some value }
  | _ => none

/-- After the last argument: the input is needed, all else has a default. -/
def finish (gathered : Gathered) : Except Inquiry Arguments :=
  match gathered.input with
  | none => .error .misuse
  | some input =>
      .ok ⟨input, gathered.locale.getD .english, gathered.unit.getD .char, gathered.useMmap,
        gathered.skipInvalid, gathered.noProgress, gathered.statsOut⟩

end Gathered

/-! ## Single arguments -/

inductive Shape where
  /-- Two dashes alone. -/
  | separator
  /-- Two dashes and a name, perhaps with a value after an equals sign. -/
  | long (name : String) (value : Option String)
  /-- A dash and letters. -/
  | short (letters : List Char)
  | plain
deriving DecidableEq, Repr

def shapeOf (argument : String) : Shape :=
  match argument.toList with
  | ['-', '-'] => .separator
  | '-' :: '-' :: rest =>
      let name := rest.takeWhile (· ≠ '=')
      match rest.dropWhile (· ≠ '=') with
      | [] => .long (String.ofList name) none
      | _ :: value => .long (String.ofList name) (some (String.ofList value))
  | ['-'] => .plain
  | '-' :: letters => .short letters
  | _ => .plain

def valueOptions : List String := ["locale", "offset-unit", "stats-out"]

/-! ## Command lines -/

/-- Go on with what was gathered, unless an argument was wrong. -/
def proceed (gathered : Option Gathered) (next : Gathered → Except Inquiry Arguments) :
    Except Inquiry Arguments :=
  match gathered with
  | none => .error .misuse
  | some gathered => next gathered

/-- The arguments after the separator, all of them inputs. -/
def gatherInputs (gathered : Gathered) : List String → Except Inquiry Arguments
  | [] => gathered.finish
  | argument :: rest =>
      proceed (gathered.giveInput argument) fun gathered => gatherInputs gathered rest

def gather (gathered : Gathered) : List String → Except Inquiry Arguments
  | [] => gathered.finish
  | argument :: rest =>
      match shapeOf argument with
      | .separator => gatherInputs gathered rest
      | .plain => proceed (gathered.giveInput argument) fun gathered => gather gathered rest
      | .short ('h' :: _) => .error .briefHelp
      | .short ('V' :: _) => .error .version
      | .short _ => .error .misuse
      | .long "help" none => .error .fullHelp
      | .long "version" none => .error .version
      | .long name (some value) =>
          proceed (gathered.giveOption name value) fun gathered => gather gathered rest
      | .long name none =>
          if valueOptions.contains name then
            match rest with
            | [] => .error .misuse
            | value :: rest =>
                if shapeOf value = .plain then
                  proceed (gathered.giveOption name value) fun gathered => gather gathered rest
                else .error .misuse
          else proceed (gathered.giveFlag name) fun gathered => gather gathered rest

/-- The run that a command line asks for, or what it asks for instead. -/
def parse (arguments : List String) : Except Inquiry Arguments :=
  gather Gathered.empty arguments

/-! ## Showing arguments in the log -/

def showBool (value : Bool) : String := if value then "true" else "false"

def showLocale : Locale → String
  | .english => "English"

def showUnit : OffsetUnit → String
  | .char => "Char"
  | .utf16 => "Utf16"
  | .byte => "Byte"

def showPath : Option String → String
  | none => "None"
  | some path => "Some(" ++ Inspected.inspect path ++ ")"

/-- The arguments of a run as they stand in the log. -/
def describe (arguments : Arguments) : String :=
  "Args \x7b input: " ++ Inspected.inspect arguments.input ++
    ", locale: " ++ showLocale arguments.locale ++
    ", offset_unit: " ++ showUnit arguments.unit ++
    ", use_mmap: " ++ showBool arguments.useMmap ++
    ", skip_invalid: " ++ showBool arguments.skipInvalid ++
    ", no_progress: " ++ showBool arguments.noProgress ++
    ", stats_out: " ++ showPath arguments.statsOut ++ " \x7d"

example : parse ["a.txt", "--offset-unit=byte"] =
    .ok ⟨"a.txt", .english, .byte, false, false, false, none⟩ := by rfl
example : parse ["a.txt", "--help", "--bogus"] = .error .fullHelp := by rfl
example : parse ["--", "--use-mmap"] =
    .ok ⟨"--use-mmap", .english, .char, false, false, false, none⟩ := by rfl

end Arguments

end SentenceSpans
