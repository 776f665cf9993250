/-
  Records of what the library does.
-/

namespace CxxWriter

/-- How important a record is. -/
inductive Level where
  | debug
  | info
  | warning
  | error
deriving DecidableEq, Repr

namespace Level

/-- The number of a level; a higher one is more important. -/
def number : Level → Nat
  | debug => 10
  | info => 20
  | warning => 30
  | error => 40

def name : Level → String
  | debug => "DEBUG"
  | info => "INFO"
  | warning => "WARNING"
  | error => "ERROR"

end Level

/-- The part of the library that a record is about. -/
inductive Component where
  | buffer
  | initializer
  | declaration
  | template
  | config
  | writer
  | files
  | commandLine
deriving DecidableEq, Repr

/-- The name under which records of a component are listed. -/
def Component.name : Component → String
  | .buffer => "cxxcodebuilder.core.buffer"
  | .initializer => "cxxcodebuilder.core.initializer"
  | .declaration => "cxxcodebuilder.core.declarations"
  | .template => "cxxcodebuilder.core.templates"
  | .config => "cxxcodebuilder.core.config"
  | .writer => "cxxcodebuilder.builder"
  | .files => "cxxcodebuilder.utils"
  | .commandLine => "cxxcodebuilder.cli"

/-- A record. -/
structure LogRecord where
  level : Level
  component : Component
  message : String
deriving DecidableEq, Repr

/-- Records, in order. -/
abbrev Log := List LogRecord

/-- The records of a level and up. -/
def Log.from (log : Log) (level : Level) : Log := log.filter (level.number ≤ ·.level.number)

end CxxWriter
