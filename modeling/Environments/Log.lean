/-!
# Levels of log events

Loads and setup flows tell what they do by events. Each kind of event has a fixed level and wording.
-/

namespace Environments

/-- How serious an event is. -/
inductive Level
  | debug
  | info
  | warn
  | error
  deriving DecidableEq, Repr

def Level.name : Level → String
  | debug => "debug"
  | info => "info"
  | warn => "warn"
  | error => "error"

end Environments
