import FishScript.Text.CodePoint

/-!
# Switches

The command line knows three switches. Each has one letter, written behind a hyphen,
and one long name, written behind two hyphens.

## Main definitions

- `Switch` — the switches
- `Switch.ofLetter?` — the switch with a given letter
- `Switch.ofPrefix` — the switches whose long names start with a given text
-/

namespace FishScript

/-- What can be asked for on the command line. -/
inductive Switch where
  | help
  | logLevel
  | version
deriving DecidableEq

namespace Switch

/-- All switches, in the order in which the help text lists them. -/
def all : List Switch := [.help, .logLevel, .version]

def letter : Switch → Char
  | .help => 'h'
  | .logLevel => 'l'
  | .version => 'V'

def name : Switch → String
  | .help => "help"
  | .logLevel => "log-level"
  | .version => "version"

/-- How messages refer to a switch. -/
def title (switch : Switch) : String :=
  "-" ++ switch.letter.toString ++ "/--" ++ switch.name

def ofLetter? (letter : CodePoint) : Option Switch :=
  all.find? fun switch => letter == .ofChar switch.letter

/-- The switches whose long names start with a given text. -/
def ofPrefix (start : Text) : List Switch :=
  all.filter fun switch => Text.startsWith start (.ofString switch.name)

theorem mem_all (switch : Switch) : switch ∈ all := by
  cases switch <;> decide

theorem ofLetter?_letter (switch : Switch) : ofLetter? (.ofChar switch.letter) = some switch := by
  cases switch <;> decide

end Switch

end FishScript
