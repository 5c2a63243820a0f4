import TokenTables.CommandLine.Basic
import TokenTables.Text.Controls

/-!
What the command line answers where no run follows: the help texts, the version, and why arguments are
refused.
-/

namespace TokenTables

namespace Generator

def programName : Generator → Text
  | keyword => "gen-keyword-map"
  | opcode => "gen-opcode-map"

def purpose : Generator → Text
  | keyword => "Process the tokens file into the keyword_map table"
  | opcode => "Process the tokens file into the opcode_t enumeration"

def examples : Generator → List Text
  | keyword =>
    ["default table:     `gen-keyword-map -i tokens.h -o keyword_map.c`",
     "custom header:     `gen-keyword-map -i tokens.h -o kw.c --config " ++
      ("'\x7b\"mapHeader\":\"kw.h\"\x7d'`" : Text)]
  | opcode =>
    ["default enum:      `gen-opcode-map -i tokens.h -o opcodes.h`",
     "narrower range:    `gen-opcode-map -i tokens.h -o opcodes.h --config " ++
      ("'\x7b\"range\":\x7b\"start\":128,\"end\":255\x7d\x7d'`" : Text)]

end Generator

namespace CommandLine

def unlines (ls : List Text) : Text := ls.flatMap (· ++ ['\n'])

def version : Text := "1.0.0"

def versionText (g : Generator) : Text := unlines [g.programName ++ " " ++ version]

def helpHead (g : Generator) : List Text :=
  [g.purpose, "",
   "Usage: " ++ g.programName ++ " [OPTIONS] --infile <PATH> --outfile <PATH>", "",
   "Options:"]

def shortOptions : List Text :=
  ["  -i, --infile <PATH>   specify the full name of the input file",
   "  -o, --outfile <PATH>  specify the full name of the output file",
   "      --config <JSON>   settings as a JSON string",
   "  -h, --help            Print help (see more with '--help')",
   "  -V, --version         Print version"]

def longOptions : List Text :=
  ["  -i, --infile <PATH>",
   "          specify the full name of the input file", "",
   "  -o, --outfile <PATH>",
   "          specify the full name of the output file", "",
   "      --config <JSON>",
   "          JSON object with any of the keys",
   "          `exclude` (list, replaces the default exclusions),",
   "          `excludeExtra` (list, added to the exclusions),",
   "          `tokensHeader`, `mapHeader`, `guard` (strings),",
   "          `range` (object with `start` and `end` from 0 to 255)", "",
   "  -h, --help",
   "          Print help (see a summary with '-h')", "",
   "  -V, --version",
   "          Print version", ""]

def notes : List Text :=
  ["The token header is scanned for lines that begin with `TOK_`.",
   "A trailing comma is dropped, and tokens in the exclusion list are skipped.",
   "Set RUST_LOG environment variable to control logging level.",
   "  levels: trace,debug,info,warn,error", "",
   "Examples:",
   "---------"]

def shortHelp (g : Generator) : Text := unlines (helpHead g ++ shortOptions)

def longHelp (g : Generator) : Text := unlines (helpHead g ++ longOptions ++ notes ++ g.examples)

namespace Stop

/-- A help or version text is asked for, and is no refusal. -/
def isRefusal : Stop → Bool
  | help _ | version => false
  | _ => true

def exitCode (s : Stop) : Nat := if s.isRefusal then 2 else 0

def marked (t : Text) : Text := "\x1b[33m" ++ t ++ "\x1b[0m"

def reason : Stop → Text
  | missing keys =>
    "the following required arguments were not provided:" ++
      keys.flatMap fun key => ("\n  " : Text) ++ key.shown
  | valueMissing key => "a value is required for '" ++ key.shown ++ "' but none was supplied"
  | unexpected arg => "unexpected argument '" ++ marked arg ++ "' found"
  | repeated key => "the argument '" ++ key.shown ++ "' cannot be used multiple times"
  | flagTakesNoValue flag value =>
    "unexpected value '" ++ marked value ++ "' for '--" ++ flag.long ++
      "' found; no more were expected"
  | help _ | version => []

def coloured (g : Generator) : Stop → Text
  | help true => longHelp g
  | help false => shortHelp g
  | version => versionText g
  | refusal => "error: " ++ refusal.reason

def message (s : Stop) (g : Generator) : Text := Text.shown (s.coloured g)

end Stop

end CommandLine

end TokenTables
