import Busbind.CommandLine.Arguments
import Busbind.Text.Plain
import Busbind.Vocabulary

/-! What the program says about itself and about arguments that it refuses. -/
namespace Busbind

def programName : String := "fidlgen"

def joinLines (lines : List String) : String := String.join (lines.map fun l => l ++ "\n")

namespace Inquiry

def shortHelpLines : List String :=
  ["Generate Rust D-Bus bindings from FIDL interface definitions",
    "",
    "Usage: fidlgen [OPTIONS]",
    "",
    "Options:",
    "  -i, --in <FILE>                    FIDL file to read",
    "  -o, --out <FILE>                   File to write the generated code to (default: stdout)",
    "  -p, --package <NAME>               Wrap the generated code in `pub mod <NAME>`",
    "      --sender                       Generate client-side bindings (default) " ++
      "[alias: --client]",
    "      --receiver                     Generate server-side bindings [alias: --server]",
    "      --no-serde                     Omit serde derives on generated structs",
    "      --debug                        Print the parsed AST to stderr",
    "      --debug-format <DEBUG_FORMAT>  Format for --debug output [default: tree] " ++
      "[possible values: tree, json]",
    "      --lex                          Tokenize only and print the tokens (debug)",
    "  -h, --help                         Print help (see more with '--help')",
    "  -V, --version                      Print version"]

def longHelpLines : List String :=
  ["Generate Rust D-Bus bindings from FIDL interface definitions",
    "",
    "Usage: fidlgen [OPTIONS]",
    "",
    "Options:",
    "  -i, --in <FILE>",
    "          FIDL file to read",
    "",
    "  -o, --out <FILE>",
    "          File to write the generated code to (default: stdout)",
    "",
    "  -p, --package <NAME>",
    "          Wrap the generated code in `pub mod <NAME>`",
    "",
    "      --sender",
    "          Generate client-side bindings (default)",
    "          ",
    "          [alias: --client]",
    "",
    "      --receiver",
    "          Generate server-side bindings",
    "          ",
    "          [alias: --server]",
    "",
    "      --no-serde",
    "          Omit serde derives on generated structs",
    "",
    "      --debug",
    "          Print the parsed AST to stderr",
    "",
    "      --debug-format <DEBUG_FORMAT>",
    "          Format for --debug output",
    "",
    "          Possible values:",
    "          - tree: Indented outline",
    "          - json: Pretty-printed JSON",
    "          ",
    "          [default: tree]",
    "",
    "      --lex",
    "          Tokenize only and print the tokens (debug)",
    "",
    "  -h, --help",
    "          Print help (see a summary with '-h')",
    "",
    "  -V, --version",
    "          Print version"]

def answer : Inquiry → String
  | .shortHelp => joinLines shortHelpLines
  | .longHelp => joinLines longHelpLines
  | .version => joinLines [programName ++ " " ++ generatorVersion]

end Inquiry

namespace UsageError

def usage (used : List Choice) : String :=
  if used.isEmpty then programName ++ " [OPTIONS]"
  else programName ++ String.join (used.map fun c => " " ++ c.describe)

def groupUsage (c : Choice) : String :=
  let group := " <" ++ String.intercalate "|" (Choice.own.map Choice.describe) ++ ">"
  programName ++ (if Choice.own.contains c then "" else " " ++ c.describe) ++ group

def formats : String :=
  "\n  [possible values: " ++ String.intercalate ", " (DumpFormat.all.map DumpFormat.name) ++ "]"

/-- What is wrong. What the user wrote is shown without control characters and sequences. -/
def description : UsageError → String
  | .unknown argument _ _ => "unexpected argument '" ++ Text.plain argument ++ "' found"
  | .missingValue c =>
    "a value is required for '" ++ c.describe ++ "' but none was supplied" ++
      (if c = .debugFormat then formats else "")
  | .invalidFormat value =>
    "invalid value '" ++ Text.plain value ++ "' for '" ++ Choice.debugFormat.describe ++ "'" ++
      formats
  | .conflict first second _ =>
    "the argument '" ++ first.describe ++ "' cannot be used with '" ++ second.describe ++ "'"
  | .repeated c => "the argument '" ++ c.describe ++ "' cannot be used multiple times"
  | .unneededValue c value _ =>
    "unexpected value '" ++ Text.plain value ++ "' for '" ++ c.describe ++
      "' found; no more were expected"

def tip? : UsageError → Option String
  | .unknown _ (some similar) _ => some ("a similar argument exists: '" ++ similar ++ "'")
  | .invalidFormat value =>
    (Choice.nearest? value (DumpFormat.all.map fun f => (f.name, f))).map fun e =>
      "a similar value exists: '" ++ e.1 ++ "'"
  | _ => none

def usage? : UsageError → Option String
  | .unknown _ _ used => some (usage used)
  | .conflict _ _ used => some (usage used)
  | .repeated _ => some (usage [])
  | .unneededValue c _ together => some (if together then groupUsage c else usage [c])
  | .missingValue _ | .invalidFormat _ => none

def paragraphs (e : UsageError) : List String :=
  ["error: " ++ e.description] ++
    (e.tip?.map fun t => "  tip: " ++ t).toList ++
    (e.usage?.map fun u => "Usage: " ++ u).toList ++
    ["For more information, try '--help'."]

def message (e : UsageError) : String := String.intercalate "\n\n" e.paragraphs ++ "\n"

end UsageError

end Busbind
