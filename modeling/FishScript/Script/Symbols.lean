import FishScript.Script.Declaration

/-!
# Symbols

The symbols of a script are the names of its functions and of its variables, each
in the order of their declarations.

## Main definitions

- `Symbols` — the names of one script
- `Symbols.ofText` — the names that a text declares
-/

namespace FishScript

/-- The names that a script declares. Both lists come from the same text. -/
structure Symbols where
  functionNames : List Text
  variableNames : List Text
deriving DecidableEq

namespace Symbols

def empty : Symbols where
  functionNames := []
  variableNames := []

def ofText (text : Text) : Symbols where
  functionNames := Declaration.function.names text
  variableNames := Declaration.variable.names text

end Symbols

end FishScript
