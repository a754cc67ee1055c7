import FishScript.CommandLine.Token
import FishScript.Text.Lowercase

/-!
# Reading a command line

The sorted arguments are read from left to right. A level is checked when it is met,
and the last one counts. Help and version act as soon as they are met. Whatever no
switch accounts for is collected and reported at the end.

Letters may be combined behind one hyphen. Such a cluster is read as a whole before
its first switch acts, so it may fail although it starts with help or version.

## Main definitions

- `Demand` — what the last switch of a cluster still needs
- `Demand.ofLetters` — reads a cluster
- `Settings` — what has been set so far
- `Settings.read` — reads the sorted arguments
- `Settings.ofArguments` — reads a command line
-/

namespace FishScript

/-- What a switch still needs after its own argument has been read. -/
inductive Demand where
  /-- It takes no value. -/
  | nothing
  /-- Its value is attached. -/
  | given (value : Text)
  /-- Its value is the next argument. -/
  | next
deriving DecidableEq

namespace Demand

/-- Reads the text directly behind the letter of a switch. Behind the log level it is
the value; behind any other switch it starts with the letter of one more switch. -/
def ofLetters (switch : Switch) : Text → Except Problem Demand
  | [] => .ok (if switch = .logLevel then .next else .nothing)
  | letter :: rest =>
    if switch = .logLevel then .ok (.given (letter :: rest))
    else
      match Switch.ofLetter? letter with
      | none => .error (.excessValue switch (letter :: rest))
      | some other => ofLetters other rest

/-- Reads what is attached to the letter of a switch. Only the log level can do with
an empty value. -/
def ofShort (switch : Switch) (attached : Option Text) : Except Problem Demand :=
  match attached with
  | none => ofLetters switch []
  | some [] => if switch = .logLevel then .ok (.given []) else .error (.excessValue switch [])
  | some value => ofLetters switch value

/-- Reads what is attached to the long name of a switch. -/
def ofLong (switch : Switch) (attached : Option Text) : Except Problem Demand :=
  match switch, attached with
  | .logLevel, none => .ok .next
  | .logLevel, some value => .ok (.given value)
  | _, none => .ok .nothing
  | _, some value => .error (.excessValue switch value)

end Demand

/-- Why a command line does not start the server. -/
inductive Refusal where
  | help
  | version
  | problem (problem : Problem)
deriving DecidableEq

/-- What has been set so far, and the arguments that nothing accounts for. -/
structure Settings where
  /-- The log level. It is lost when the value attached to the switch is two
  hyphens, which are dropped and leave no value behind. -/
  level : Option Level
  leftovers : List Text
deriving DecidableEq

namespace Settings

def initial : Settings where
  level := some .info
  leftovers := []

/-- Sets the log level by its name, in upper or lower case. -/
def setLevel (settings : Settings) (value : Text) : Except Refusal Settings :=
  match Level.ofName? value.lowercase with
  | some level => .ok { settings with level := some level }
  | none => .error (.problem (.unknownLevel value.lowercase))

/-- Sets the log level by an attached value. -/
def setAttached (settings : Settings) (value : Text) : Except Refusal Settings :=
  if value = Token.twoHyphens then .ok { settings with level := none }
  else settings.setLevel value

/-- Sets an argument aside that no switch accounts for. -/
def setAside (settings : Settings) (argument : Text) : Settings :=
  { settings with leftovers := settings.leftovers ++ [argument] }

/-- How the first switch of an argument acts when all that the argument demands is at
hand: help and version end the reading. -/
def act : Switch → Except Refusal Unit
  | .help => .error .help
  | .version => .error .version
  | .logLevel => .ok ()

/-- What an argument demands, for the first switch in it. Other arguments have no
switch. -/
def demand? : Token → Option (Switch × Except Problem Demand)
  | .short switch attached => some (switch, Demand.ofShort switch attached)
  | .long switch attached => some (switch, Demand.ofLong switch attached)
  | _ => none

/-- Reads sorted arguments from left to right. -/
def read (settings : Settings) : List (Token × Text) → Except Refusal Settings
  | [] => .ok settings
  | (token, argument) :: rest =>
    match demand? token with
    | none => read (settings.setAside argument) rest
    | some (_, .error problem) => .error (.problem problem)
    | some (switch, .ok .nothing) => do
      act switch
      read settings rest
    | some (switch, .ok (.given value)) => do
      act switch
      read (← settings.setAttached value) rest
    | some (switch, .ok .next) =>
      match rest with
      | (.operand, value) :: rest => do
        act switch
        read (← settings.setLevel value) rest
      | _ => .error (.problem .missingLevel)

/-- Reads a command line and answers the log level, if that has not been lost. -/
def ofArguments (arguments : List Text) : Except Refusal (Option Level) := do
  match Token.ofArguments arguments with
  | .error problem => throw (.problem problem)
  | .ok tokens =>
    let settings ← initial.read tokens
    if settings.leftovers = [] then return settings.level
    else throw (.problem (.unrecognized settings.leftovers))

end Settings

end FishScript
