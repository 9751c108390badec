/-!
# Help texts

What the program prints about itself.
-/

namespace SentenceSpans.Help

def versionLine : String := "sentence-offsets 0.1.0\n"

def heading : List String :=
  ["Emit per-line sentence offset spans for a text corpus",
    "",
    "Usage: sentence-offsets [OPTIONS] <INPUT>",
    "",
    "Arguments:"]

def joinLines (lines : List String) : String :=
  String.join (lines.map (· ++ "\n"))

/-- One line for each option. -/
def brief : String := joinLines <| heading ++
  ["  <INPUT>  Input corpus, one document per line (UTF-8)",
    "",
    "Options:",
    "      --locale <LOCALE>            Sentence-breaking rule set [default: en] " ++
      "[possible values: en]",
    "      --offset-unit <OFFSET_UNIT>  Unit in which offsets are counted [default: char] " ++
      "[possible values: char, utf16, byte]",
    "      --use-mmap                   Use memory-mapped I/O instead of buffered streaming",
    "      --skip-invalid               Emit an empty line for undecodable lines instead of " ++
      "aborting",
    "      --no-progress                Suppress the console progress bar",
    "      --stats-out <STATS_OUT>      Write run statistics as JSON to this path",
    "  -h, --help                       Print help (see more with '--help')",
    "  -V, --version                    Print version"]

/-- A paragraph for each option. -/
def full : String := joinLines <| heading ++
  ["  <INPUT>",
    "          Input corpus, one document per line (UTF-8)",
    "",
    "Options:",
    "      --locale <LOCALE>",
    "          Sentence-breaking rule set",
    "          ",
    "          [default: en]",
    "          [possible values: en]",
    "",
    "      --offset-unit <OFFSET_UNIT>",
    "          Unit in which offsets are counted",
    "",
    "          Possible values:",
    "          - char:  Unicode scalar values",
    "          - utf16: UTF-16 code units; astral characters count twice",
    "          - byte:  UTF-8 bytes",
    "          ",
    "          [default: char]",
    "",
    "      --use-mmap",
    "          Use memory-mapped I/O instead of buffered streaming",
    "",
    "      --skip-invalid",
    "          Emit an empty line for undecodable lines instead of aborting",
    "",
    "      --no-progress",
    "          Suppress the console progress bar",
    "",
    "      --stats-out <STATS_OUT>",
    "          Write run statistics as JSON to this path",
    "",
    "  -h, --help",
    "          Print help (see a summary with '-h')",
    "",
    "  -V, --version",
    "          Print version"]

/-- What a wrong command line is answered with, on standard error. -/
def misuse : String := joinLines
  ["error: invalid arguments",
    "",
    "Usage: sentence-offsets [OPTIONS] <INPUT>",
    "",
    "For more information, try '--help'."]

end SentenceSpans.Help
