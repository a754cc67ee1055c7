import FishScript.CommandLine.Problem
import FishScript.Text.DecimalDigit

/-!
# Arguments of a command line

Before any switch acts, each argument is sorted by its own form. An argument that
starts with a hyphen and is longer than it names a switch, by letter or by a long
name that may be abbreviated, and may have a value attached. If it names none, it
passes for an operand when it looks like a negative number or holds a space, and is
unknown otherwise. All other arguments are operands, and so is everything behind two
hyphens that stand alone.

## Main definitions

- `Token` — what an argument is
- `Token.ofArgument` — sorts one argument
- `Token.ofArguments` — sorts a command line
-/

namespace FishScript

/-- What an argument is. -/
inductive Token where
  /-- May be the value of a switch before it. -/
  | operand
  /-- The two hyphens that end all switches. -/
  | terminator
  /-- Looks like a switch and is none. -/
  | unknown
  /-- A switch given by its letter, with the text attached to it. -/
  | short (switch : Switch) (attached : Option Text)
  /-- A switch given by its long name, with the value attached to it. -/
  | long (switch : Switch) (attached : Option Text)
deriving DecidableEq

namespace Token

def hyphen : CodePoint := .ofChar '-'

/-- The sign between a switch and an attached value. -/
def equalsSign : CodePoint := .ofChar '='

/-- The argument behind which there are no switches. -/
def twoHyphens : Text := [hyphen, hyphen]

/-- Whether a text is a line feed at most. -/
def isLineEnd (text : Text) : Bool :=
  text == [] || text == [Text.lineFeed]

/-- Whether a text is a whole number or a decimal fraction, written in decimal
digits. Digits before the point may be missing, and a line feed may follow. -/
def isNumber (text : Text) : Bool :=
  let whole := text.takeWhile CodePoint.isDecimalDigit
  let rest := text.dropWhile CodePoint.isDecimalDigit
  match Text.after? [.ofChar '.'] rest with
  | none => !whole.isEmpty && isLineEnd rest
  | some fraction =>
    !(fraction.takeWhile CodePoint.isDecimalDigit).isEmpty &&
      isLineEnd (fraction.dropWhile CodePoint.isDecimalDigit)

/-- What an argument is that starts with a hyphen and names no switch. -/
def ofStranger (argument : Text) : Token :=
  if isNumber (argument.drop 1) || argument.contains (.ofChar ' ') then .operand else .unknown

/-- What follows the first equals sign. -/
def attached? (body : Text) : Option Text :=
  Text.after? [equalsSign] (body.dropWhile (· != equalsSign))

/-- Sorts an argument of the form `--name` or `--name=value`, given without its
hyphens. -/
def ofLong (body : Text) : Except Problem Token :=
  match Switch.ofPrefix (body.takeWhile (· != equalsSign)) with
  | [] => .ok (ofStranger (twoHyphens ++ body))
  | [switch] => .ok (.long switch (attached? body))
  | switches => .error (.ambiguous (twoHyphens ++ body) switches)

/-- Sorts an argument of the form `-letter`, `-letter=value` or `-lettervalue`, given
without its hyphen. -/
def ofShort (letter : CodePoint) (rest : Text) : Token :=
  match Switch.ofLetter? letter with
  | none => ofStranger (hyphen :: letter :: rest)
  | some switch =>
    if rest = [] then .short switch none
    else .short switch (some ((Text.after? [equalsSign] rest).getD rest))

/-- Sorts one argument. It fails at an abbreviation that fits several switches. -/
def ofArgument (argument : Text) : Except Problem Token :=
  match argument with
  | [] => .ok .operand
  | [_] => .ok .operand
  | c :: d :: rest =>
    if c ≠ hyphen then .ok .operand
    else if d ≠ hyphen then .ok (ofShort d rest)
    else if rest = [] then .ok .terminator
    else ofLong rest

/-- Sorts the arguments of a command line, up to the first that fails. -/
def ofArguments : List Text → Except Problem (List (Token × Text))
  | [] => .ok []
  | argument :: arguments => do
    let token ← ofArgument argument
    if token = .terminator then
      return (token, argument) :: arguments.map fun rest => (.operand, rest)
    else
      return (token, argument) :: (← ofArguments arguments)

end Token

end FishScript
