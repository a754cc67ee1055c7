import FishScript.Text.CodePoint

/-!
# Log levels

## Main definitions

- `Level` — how much the server logs
- `Level.ofName?` — the level with a given name
- `Level.shows` — which records a level lets through
-/

namespace FishScript

/-- How much the server logs, from everything to almost nothing. -/
inductive Level where
  | debug
  | info
  | warning
  | error
  | critical
deriving DecidableEq

namespace Level

/-- All levels, from the lowest to the highest. -/
def all : List Level := [.debug, .info, .warning, .error, .critical]

/-- The name of a level on the command line. -/
def name : Level → String
  | .debug => "debug"
  | .info => "info"
  | .warning => "warning"
  | .error => "error"
  | .critical => "critical"

/-- The name of a level in the log. -/
def label : Level → String
  | .debug => "DEBUG"
  | .info => "INFO"
  | .warning => "WARNING"
  | .error => "ERROR"
  | .critical => "CRITICAL"

/-- The place of a level in the order. -/
def rank : Level → Nat
  | .debug => 0
  | .info => 1
  | .warning => 2
  | .error => 3
  | .critical => 4

/-- Whether a log at level `threshold` shows a record of level `level`. -/
def shows (threshold level : Level) : Bool :=
  threshold.rank ≤ level.rank

/-- The level with a given name, which must be in lower case. -/
def ofName? (name : Text) : Option Level :=
  all.find? fun level => name == .ofString level.name

theorem ofName?_name (level : Level) : ofName? (.ofString level.name) = some level := by
  cases level <;> decide

theorem eq_of_ofName? {name : Text} {level : Level} (h : ofName? name = some level) :
    name = .ofString level.name := by
  simpa using List.find?_some h

end Level

end FishScript
