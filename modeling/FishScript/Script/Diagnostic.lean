import FishScript.Script.Block
import FishScript.Script.VariableLine
import FishScript.Text.Lines
import FishScript.Text.Units

/-!
# Diagnostics

Two rules are checked on the lines of a script. The function rule finds each line
that opens a function, unless some function block occurs anywhere in the script.
The variable rule finds each line that opens a variable declaration and does not
have its shape. A diagnostic covers the whole line that was found; its width is
counted in UTF-16 code units, so a found line without an encoding has none and
the check fails at the first such line.

## Main definitions

- `Rule` — the two rules, with their codes and messages
- `Rule.findings` — the lines that a rule finds, in order
- `Diagnostic` — a line of the document together with the rule it breaks
- `Diagnostic.ofLines`, `Diagnostic.ofText` — the diagnostics of a script,
  function rule first
-/

namespace FishScript

inductive Rule where
  | function
  | variable
deriving DecidableEq

/-- A line that breaks a rule, with its number and its content. -/
structure Finding where
  rule : Rule
  line : Nat
  content : Text
deriving DecidableEq

namespace Rule

/-- The code under which an editor knows the rule. -/
def code : Rule → String
  | .function => "INVALID_FUNCTION_DECLARATION"
  | .variable => "INVALID_VARIABLE_DECLARATION"

/-- What an editor shows for the rule. -/
def message : Rule → String
  | .function => "Functions must be declared as `function <name>` followed by `end`"
  | .variable => "Variables must be declared as `set <name> \"<value>\"`"

/-- How a line starts that the rule is about: a keyword and one space. -/
def lead : Rule → Text
  | .function => Keyword.function ++ Text.ofString " "
  | .variable => Keyword.set ++ Text.ofString " "

/-- Whether the rule finds a line of a script with the given lines. A single
function block clears all lines of the function rule. -/
def finds (rule : Rule) (hasBlock : Bool) (line : Text) : Bool :=
  Text.startsWith rule.lead line &&
    match rule with
    | .function => !hasBlock
    | .variable => !VariableLine.isWellFormed line

/-- The lines that a rule finds, in order and numbered from zero. -/
def findings (rule : Rule) (lines : List Text) : List Finding :=
  let hasBlock := Block.occursIn lines
  lines.zipIdx.filterMap fun (line, i) =>
    if rule.finds hasBlock line then some ⟨rule, i, line⟩ else none

end Rule

/-- A whole line of a document, from its first column to its last, that breaks a
rule. -/
structure Diagnostic where
  rule : Rule
  line : Nat
  /-- The width of the line in UTF-16 code units. -/
  width : Nat
deriving DecidableEq

namespace Diagnostic

def source : String := "fish-lsp"

/-- Every diagnostic is an error, the most severe of the levels that editors
number from 1. -/
def severity : Nat := 1

/-- The diagnostic for a finding, if the line has a width. -/
def ofFinding (finding : Finding) : Except Unencodable Diagnostic := do
  return ⟨finding.rule, finding.line, ← Text.units finding.content⟩

def ofLines (rule : Rule) (lines : List Text) : Except Unencodable (List Diagnostic) :=
  (rule.findings lines).mapM ofFinding

/-- All diagnostics of a document: those of the function rule, then those of the
variable rule. -/
def ofText (text : Text) : Except Unencodable (List Diagnostic) :=
  (Rule.function.findings text.lines ++ Rule.variable.findings text.lines).mapM ofFinding

end Diagnostic

end FishScript
