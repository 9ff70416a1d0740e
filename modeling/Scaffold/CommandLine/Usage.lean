import Scaffold.CommandLine.Grammar
import Scaffold.Log

/-!
# Usage

The commands with their options and operands, and the texts that tell about them, laid out for
eighty columns.
-/

namespace Scaffold.CommandLine

def program : String := Record.command

def version : String := "0.1.0"

def versionLine : String := s!"{program} v{version}\n"

def lines (text : List String) : String := String.join (text.map (· ++ "\n"))

/-- The types and some examples, which stand below the help. -/
def epilog : List String :=
  ["Types:",
    "  controller, c     Generate HTTP controller",
    "  service, s        Generate service layer",
    "  repository, r     Generate repository (alias: repo)",
    "  validator, v      Generate validator",
    "  dto, d            Generate DTOs",
    "  full, f           Generate complete stack",
    "",
    "Examples:",
    "  ichigen g controller product --domain=catalog",
    "  ichigen g full product --domain=catalog --crud"]

def helpOption : OptionSpec := ⟨["-h", "--help"], .help⟩

/-! ## The program -/

namespace Top

def usage : String := "usage: ichigen [-h] [--version] <command> ...\n"

def help : String :=
  usage ++ lines
    (["",
      "Go schematic generator for layered applications.",
      "",
      "positional arguments:",
      "  <command>",
      "    generate (g)",
      "                Generate one component or the full stack.",
      "    help        Show this help message.",
      "",
      "options:",
      "  -h, --help    show this help message and exit",
      "  --version     show program's version number and exit",
      ""] ++ epilog)

def command : Operand := { label := "<command>", takesRest := true, required := false }

def grammar : Grammar where
  program := program
  usage := usage
  help := help
  options := [helpOption, ⟨["--version"], .version⟩]
  operands := [command]

end Top

/-! ## The command that generates -/

namespace Generate

def usage : String :=
  lines
    ["usage: ichigen generate [-h] [--domain DOMAIN] [--crud] [-C DIR]",
      "                        [--config FILE] [-v] [-q]",
      "                        <type> <name>"]

def help : String :=
  usage ++ lines
    (["",
      "positional arguments:",
      "  <type>                Component type or alias.",
      "  <name>                Entity name, e.g. order_item.",
      "",
      "options:",
      "  -h, --help            show this help message and exit",
      "  --domain DOMAIN       Domain/module name (required).",
      "  --crud                Generate CRUD operations.",
      "",
      "output:",
      "  -C DIR, --output-root DIR",
      "                        Project root to generate into (default: from config,",
      "                        else '.').",
      "  --config FILE         Settings file (default: ./.ichigen.yaml if present).",
      "",
      "verbosity:",
      "  -v, --verbose         Increase verbosity (-v for INFO, -vv for DEBUG).",
      "  -q, --quiet           Suppress log output.",
      ""] ++ epilog)

def type : Operand := { label := "<type>" }

def name : Operand := { label := "<name>" }

def domain : OptionSpec := ⟨["--domain"], .value⟩

def crud : OptionSpec := ⟨["--crud"], .mention⟩

def root : OptionSpec := ⟨["-C", "--output-root"], .value⟩

def config : OptionSpec := ⟨["--config"], .value⟩

def verbose : OptionSpec := ⟨["-v", "--verbose"], .mention⟩

def quiet : OptionSpec := ⟨["-q", "--quiet"], .mention⟩

def grammar : Grammar where
  program := s!"{program} generate"
  usage := usage
  help := help
  options := [helpOption, domain, crud, root, config, verbose, quiet]
  operands := [type, name]

end Generate

/-! ## The command that helps -/

namespace Help

def usage : String := "usage: ichigen help [-h]\n"

def help : String :=
  usage ++ lines ["", "options:", "  -h, --help  show this help message and exit"]

def grammar : Grammar where
  program := s!"{program} help"
  usage := usage
  help := help
  options := [helpOption]
  operands := []

end Help

end Scaffold.CommandLine
