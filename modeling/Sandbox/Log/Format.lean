import Sandbox.Json.Writer
import Sandbox.Log

/-!
# Lines of a log

## Main definitions

* `Event.plainLine`, `Event.colouredLine`, `Event.jsonLine` : the line for an event.
-/

namespace Sandbox.Log

/-- The name of a level in five columns. -/
def Level.column (level : Level) : String :=
  if level.name.length < 5 then " " ++ level.name else level.name

/-- The number of the colour of a level. -/
def Level.colour : Level → String
  | error => "31"
  | warn => "33"
  | info => "32"
  | debug => "34"
  | trace => "35"

/-- A text between the marks for a style. -/
def styled (style text : String) : String :=
  "\x1b[" ++ style ++ "m" ++ text ++ "\x1b[0m"

namespace Event

/-- The line for an event in a file. -/
def plainLine (time : String) (event : Event) : String :=
  time ++ " " ++ event.level.column ++ " " ++ event.target ++ ": " ++ event.message

/-- The line for an event on a terminal. -/
def colouredLine (time : String) (event : Event) : String :=
  styled "2" time ++ " " ++ styled event.level.colour event.level.column ++ " " ++
    styled "2" event.target ++ styled "2" ":" ++ " " ++ event.message

/-- The line for an event that is meant for programs. -/
def jsonLine (time : String) (event : Event) : String :=
  (Json.Document.object [("timestamp", .text time), ("level", .text event.level.name),
    ("fields", .object [("message", .text event.message)]),
    ("target", .text event.target)]).compact

end Event

end Sandbox.Log
