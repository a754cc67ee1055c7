/-!
# Faults

A fault is what a failing part of the server reports: its kind and a message.

## Main definitions

- `Fault.Kind` — the kinds of fault, with their names
- `Fault` — a kind and a message
-/

namespace FishScript

/-- The kinds of fault that a part of the server may report. -/
inductive Fault.Kind where
  | value
  | runtime
  | type
  | system
  | connection
  | attribute
deriving DecidableEq

/-- The name of a kind as log messages show it. -/
def Fault.Kind.name : Fault.Kind → String
  | .value => "ValueError"
  | .runtime => "RuntimeError"
  | .type => "TypeError"
  | .system => "OSError"
  | .connection => "ConnectionError"
  | .attribute => "AttributeError"

structure Fault where
  kind : Fault.Kind
  message : String
deriving DecidableEq

namespace Fault

/-- The kind and the message of a fault in one line. -/
def description (fault : Fault) : String :=
  fault.kind.name ++ ": " ++ fault.message

end Fault

end FishScript
