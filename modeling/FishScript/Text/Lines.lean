import FishScript.Text.CodePoint

/-!
# Lines

A line ends at a line feed, together with one carriage return directly before
it, and nowhere else: form feeds and the separators of Unicode stay inside
their line. The last line is ended by the end of the text, and one trailing
carriage return is dropped from it as well.

## Main definitions

- `Text.lines` — the lines of a text, without their ends
- `Text.withoutReturn` — a text without one trailing carriage return

## Main results

- `Text.lines_append` — a line feed between two texts separates their lines
-/

namespace FishScript

namespace Text

/-- A text without its last code point if that is a carriage return. -/
def withoutReturn (line : Text) : Text :=
  if line.getLast? = some carriageReturn then line.dropLast else line

/-- The lines of a text. There is always at least one. -/
def lines (text : Text) : List Text :=
  (text.splitOn lineFeed).map withoutReturn

theorem withoutReturn_append_return (line : Text) :
    withoutReturn (line ++ [carriageReturn]) = line := by
  simp [withoutReturn]

theorem withoutReturn_of_getLast?_ne {line : Text}
    (h : line.getLast? ≠ some carriageReturn) : withoutReturn line = line :=
  if_neg h

theorem lines_append (a b : Text) :
    lines (a ++ lineFeed :: b) = lines a ++ lines b := by
  simp [lines, List.splitOn_append_cons_self]

end Text

end FishScript
