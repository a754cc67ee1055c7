import FishScript.Text.Hexadecimal
import FishScript.Text.Printable

/-!
# Quoted texts

A text is shown between quote marks. The mark is the apostrophe, unless the text has
apostrophes and no double quote. The mark itself and the backslash are escaped, and
so is every code point that cannot be shown as it is.

## Main definitions

- `Text.quoteMark` — the mark for a text
- `CodePoint.escapedFor` — a code point between two marks
- `Text.quoted` — a text between its marks
-/

namespace FishScript

/-- A code point as it is written between two marks. -/
def CodePoint.escapedFor (mark c : CodePoint) : Text :=
  if c = mark ∨ c = .ofChar '\\' then [.ofChar '\\', c]
  else if c = .ofChar '\t' then .ofString "\\t"
  else if c = .ofChar '\n' then .ofString "\\n"
  else if c = .ofChar '\r' then .ofString "\\r"
  else if c.isPrintable then [c]
  else if c.val < 0x100 then .ofString "\\x" ++ (hexDigits 2 c.val).map ofChar
  else if c.val < 0x10000 then .ofString "\\u" ++ (hexDigits 4 c.val).map ofChar
  else .ofString "\\U" ++ (hexDigits 8 c.val).map ofChar

namespace Text

def apostrophe : CodePoint := .ofChar '\''

/-- The mark between which a text is shown. -/
def quoteMark (text : Text) : CodePoint :=
  if apostrophe ∈ text ∧ quote ∉ text then quote else apostrophe

def quoted (text : Text) : Text :=
  let mark := quoteMark text
  mark :: (text.flatMap (CodePoint.escapedFor mark) ++ [mark])

end Text

end FishScript
