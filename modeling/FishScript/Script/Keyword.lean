import FishScript.Text.CodePoint

/-!
# Keywords

The words of a script that the rules know.

## Main definitions

- `Keyword.function` — opens a function
- `Keyword.set` — declares a variable
- `Keyword.blockEnd` — closes a function
-/

namespace FishScript

namespace Keyword

def function : Text := .ofString "function"

def set : Text := .ofString "set"

def blockEnd : Text := .ofString "end"

end Keyword

end FishScript
