import WebApplication.Profile

/-!
# Log levels

A level for everything, which may differ between profiles, and levels for loggers
whose names start with a given text.
-/

set_option autoImplicit false

namespace WebApplication.Logging

inductive Level where
  | trace
  | debug
  | info
  | warn
  | error
  | off
  deriving DecidableEq, Repr, Ord

namespace Level

def all : List Level := [trace, debug, info, warn, error, off]

def word : Level → String
  | trace => "trace"
  | debug => "debug"
  | info => "info"
  | warn => "warn"
  | error => "error"
  | off => "off"

def ofWord? (text : String) : Option Level := all.find? (·.word == text)

def default : Level := info

end Level

inductive Format where
  | compact
  | json
  deriving DecidableEq, Repr

def Format.word : Format → String
  | compact => "compact"
  | json => "json"

structure Settings where
  level : Profiled Level
  loggers : List (String × Level)
  format : Format
  deriving DecidableEq, Repr

namespace Settings

def default : Settings := ⟨Profiled.of Level.default, [], .compact⟩

def withLevel (s : Settings) (level : Level) : Settings :=
  { s with level := s.level.setDefault level }

def withLevelFor (s : Settings) (profile : String) (level : Level) : Settings :=
  { s with level := s.level.override profile level }

/-- Sets a level for loggers with this text at the start of their names. -/
def withLogger (s : Settings) (start : String) (level : Level) : Settings :=
  { s with loggers := s.loggers++[(start, level)] }

def inJson (s : Settings) : Settings := { s with format := .json }

def directives (s : Settings) (profiles : Profiles) : String :=
  ",".intercalate ((s.level.resolve profiles).word::
    s.loggers.map fun (start, level) => start++"="++level.word)

end Settings

end WebApplication.Logging
