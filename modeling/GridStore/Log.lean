import GridStore.Json.Basic

/-!
# The log

A line of the log has a level, a message and named fields. Fields are written as text.
-/

namespace GridStore

/-- How much an event matters. -/
inductive Level where
  | debug
  | info
  | warn
  | error
deriving DecidableEq, Repr

/-- The name of a level in the log. -/
def Level.name : Level → String
  | debug => "DEBUG"
  | info => "INFO"
  | warn => "WARN"
  | error => "ERROR"

/-- A line of the log. -/
structure LogLine where
  level : Level
  message : String
  fields : List (String × String)
deriving DecidableEq, Repr

/-- A line of the log as JSON. -/
def LogLine.toJson (l : LogLine) : Json :=
  .ofMembers [
    ("level", .str l.level.name),
    ("message", .str l.message),
    ("fields", .ofMembers (l.fields.map fun (name, value) => (name, .str value)))]

end GridStore
