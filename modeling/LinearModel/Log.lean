import LinearModel.Text.Number
import LinearModel.Text.Quoted

/-!
# Log

Events with a level, a target, a message and fields.
-/

namespace LinearModel

/-- From the gravest to the most talkative. -/
inductive Level where
  | error
  | warn
  | info
  | debug
  | trace
deriving DecidableEq

namespace Level

def rank : Level → Nat
  | error => 1
  | warn => 2
  | info => 3
  | debug => 4
  | trace => 5

def name : Level → String
  | error => "ERROR"
  | warn => "WARN"
  | info => "INFO"
  | debug => "DEBUG"
  | trace => "TRACE"

end Level

structure Event where
  level : Level
  target : String
  message : String
  fields : List (String × String) := []

abbrev Log := List Event

namespace Event

def line (e : Event) : String :=
  s!"{e.level.name} {e.target}: {e.message}" ++
    String.join (e.fields.map fun (key, value) => s!" {key}={value}")

/-- The message is a field as well. -/
def fieldNames (e : Event) : List String :=
  "message" :: e.fields.map Prod.fst

def solverField (name : String) : String × String :=
  ("solver", Text.quoted name)

end Event

end LinearModel
