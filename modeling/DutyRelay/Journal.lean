/-!
# Journal lines

What the relay reports while it works is data: a line with a level and a text.

## Contents
- `Level`, `Line`, and one builder for each level.
- `Line.text`: the level in capitals, a blank and the text.
-/

namespace DutyRelay

/-- How much attention a line asks for. -/
inductive Level where
  | debug
  | info
  | warn
  | error
deriving DecidableEq, Inhabited, Repr

/-- The name of a level in capitals. -/
def Level.name : Level → String
  | .debug => "DEBUG"
  | .info => "INFO"
  | .warn => "WARN"
  | .error => "ERROR"

/-- One line of the journal. -/
structure Line where
  level : Level
  message : String
deriving DecidableEq, Inhabited, Repr

namespace Line

def debug (message : String) : Line := ⟨.debug, message⟩

def info (message : String) : Line := ⟨.info, message⟩

def warn (message : String) : Line := ⟨.warn, message⟩

def error (message : String) : Line := ⟨.error, message⟩

/-- The line with its level in front. -/
def text (line : Line) : String := line.level.name ++ " " ++ line.message

end Line
end DutyRelay
