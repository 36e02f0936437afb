/-!
# Log events

What the parts of the sandbox have to say while they work, apart from their results. Events are
collected in order; which of them are shown, and where, is decided by whoever reports them.

## Main definitions

* `Log.Level` : how urgent an event is.
* `Log.Event` : one event.
* `Log` : events in order.
-/

namespace Sandbox

namespace Log

/-- How urgent an event is. -/
inductive Level where
  /-- Something failed that should not. -/
  | error
  /-- Something is amiss. -/
  | warn
  /-- A step of the work. -/
  | info
  /-- Details of a step. -/
  | debug
  /-- Details of details. -/
  | trace
  deriving DecidableEq, Repr

/-- A number that grows with the amount of detail. -/
def Level.detail : Level → Nat
  | error => 1
  | warn => 2
  | info => 3
  | debug => 4
  | trace => 5

/-- The name of a level in a log. -/
def Level.name : Level → String
  | error => "ERROR"
  | warn => "WARN"
  | info => "INFO"
  | debug => "DEBUG"
  | trace => "TRACE"

/-- One event. -/
structure Event where
  /-- How urgent it is. -/
  level : Level
  /-- The part of the sandbox that speaks. -/
  target : String
  /-- What it says. -/
  message : String
  deriving DecidableEq, Repr

end Log

/-- Events in the order in which they happened. -/
abbrev Log : Type := List Log.Event

end Sandbox
