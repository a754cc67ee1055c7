import FishScript.CommandLine.Level
import FishScript.CommandLine.Switch
import FishScript.Text.Quoted

/-!
# Problems of a command line

Why a command line is turned down, and how this is reported.

## Main definitions

- `Problem` — the reasons
- `Problem.message` — the report for each of them
-/

namespace FishScript

inductive Problem where
  /-- An abbreviated long name fits several switches. -/
  | ambiguous (argument : Text) (switches : List Switch)
  /-- The log level is missing. -/
  | missingLevel
  /-- There is no such log level; its name has been put into lower case. -/
  | unknownLevel (name : Text)
  /-- A switch that takes no value was given one. -/
  | excessValue (switch : Switch) (value : Text)
  /-- No switch accounts for these arguments. -/
  | unrecognized (arguments : List Text)
deriving DecidableEq

namespace Problem

/-- A list of names, separated by commas. -/
def commaSeparated (names : List String) : String :=
  String.intercalate ", " names

def message : Problem → Text
  | .ambiguous argument switches =>
    .ofString "ambiguous option: " ++ argument ++ .ofString (" could match " ++
      commaSeparated (switches.map fun switch => "--" ++ switch.name))
  | .missingLevel => .ofString ("argument " ++ Switch.logLevel.title ++ ": expected one argument")
  | .unknownLevel name =>
    .ofString ("argument " ++ Switch.logLevel.title ++ ": invalid choice: ") ++ name.quoted ++
      .ofString (" (choose from " ++
        commaSeparated (Level.all.map fun level => "'" ++ level.name ++ "'") ++ ")")
  | .excessValue switch value =>
    .ofString ("argument " ++ switch.title ++ ": ignored explicit argument ") ++ value.quoted
  | .unrecognized arguments =>
    .ofString "unrecognized arguments: " ++ List.intercalate (Text.ofString " ") arguments

end Problem

end FishScript
