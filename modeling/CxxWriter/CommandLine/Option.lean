/-
  The options of the command line.
-/

namespace CxxWriter.CommandLine

/-- An option. -/
inductive Flag where
  | help | context | output | config | indent | guard | autoGuard | verbose | version
deriving DecidableEq, Repr

namespace Flag

/-- All options, in the order in which they are listed. -/
def all : List Flag :=
  [help, context, output, config, indent, guard, autoGuard, verbose, version]

/-- The names of an option. -/
def names : Flag → List String
  | help => ["-h", "--help"]
  | context => ["--context", "-c"]
  | output => ["--output", "-o"]
  | config => ["--config"]
  | indent => ["--indent"]
  | guard => ["--guard"]
  | autoGuard => ["--auto-guard"]
  | verbose => ["--verbose", "-v"]
  | version => ["--version"]

/-- Is the option followed by a value? -/
def takesValue : Flag → Bool
  | context | output | config | indent | guard => true
  | help | autoGuard | verbose | version => false

/-- What messages call an option. -/
def title (f : Flag) : String := String.intercalate "/" f.names

/-- The option that excludes another one. -/
def rival? : Flag → Option Flag
  | guard => some autoGuard
  | autoGuard => some guard
  | _ => none

/-- All names of options, in order. -/
def table : List (String × Flag) := all.flatMap fun f => f.names.map fun n => (n, f)

/-- The option of a name. -/
def ofName? (name : String) : Option Flag := (table.find? (·.1 == name)).map (·.2)

end Flag

/-- Why a command line cannot be understood. -/
inductive UsageFault where
  | templateMissing
  | unrecognized (arguments : List String)
  | valueMissing (flag : Flag)
  /-- A value joined to an option that takes none. -/
  | valueIgnored (flag : Flag) (value : String)
  | conflict (flag earlier : Flag)
  /-- The start of the names of several options. -/
  | ambiguous (argument : String) (names : List String)
deriving DecidableEq, Repr

/-- A sentence about an option. -/
def aboutFlag (f : Flag) (sentence : String) : String :=
  "argument " ++ f.title ++ ": " ++ sentence

/-- The name of the program. -/
def programName : String := "cxxcodebuilder"

/-- The version of the program. -/
def versionText : String := programName ++ " 0.1.0\n"

/-- How the program is used, in short. -/
def usageLines : List String := [
  "usage: cxxcodebuilder [-h] [--context FILE] [--output FILE] [--config FILE]",
  "                      [--indent UNIT] [--guard NAME | --auto-guard]",
  "                      [--verbose] [--version]",
  "                      TEMPLATE"]

/-- What the program does and what its arguments are. -/
def helpLines : List String := [
  "",
  "Render a template into a well-formatted C/C++ source file",
  "",
  "positional arguments:",
  "  TEMPLATE              Jinja2 template file",
  "",
  "options:",
  "  -h, --help            show this help message and exit",
  "  --context FILE, -c FILE",
  "                        JSON file with template variables",
  "  --output FILE, -o FILE",
  "                        Output file for generated code (default: stdout)",
  "  --config FILE         JSON configuration file",
  "  --indent UNIT         Indentation unit: 'tab' or a number of spaces",
  "  --guard NAME          Wrap the output in #ifndef NAME header guards",
  "  --auto-guard          Derive the header guard name from the output file name",
  "  --verbose, -v         Show debug logging",
  "  --version             show program's version number and exit"]

/-- Lines, each with a line feed. -/
def linesText (lines : List String) : String := String.join (lines.map (· ++ "\n"))

def usageText : String := linesText usageLines

def helpText : String := linesText (usageLines ++ helpLines)

end CxxWriter.CommandLine
