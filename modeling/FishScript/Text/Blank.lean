import FishScript.Text.CodePoint
import FishScript.Text.Ranges

/-!
# Blanks

The code points that separate words: the ASCII blanks and control separators
together with the spaces and separators of Unicode. A line feed is a blank too,
so a run of blanks may cross lines.

## Main definitions

- `CodePoint.isBlank` — whether a code point separates words
- `Text.isBlank` — whether a text is blank throughout
-/

namespace FishScript

def blankRanges : Ranges :=
  [(0x9, 0xd), (0x1c, 0x20), (0x85, 0x85), (0xa0, 0xa0), (0x1680, 0x1680), (0x2000, 0x200a),
   (0x2028, 0x2029), (0x202f, 0x202f), (0x205f, 0x205f), (0x3000, 0x3000)]

/-- Whether a code point separates words. -/
def CodePoint.isBlank (c : CodePoint) : Bool :=
  blankRanges.contains c.val

/-- Whether a text has nothing but blanks; the empty text counts. -/
def Text.isBlank (text : Text) : Bool :=
  text.all CodePoint.isBlank

theorem Text.isBlank_lineFeed : Text.lineFeed.isBlank := by decide

theorem Text.isBlank_carriageReturn : Text.carriageReturn.isBlank := by decide

theorem Text.isBlank_append (a b : Text) :
    Text.isBlank (a ++ b) = (Text.isBlank a && Text.isBlank b) :=
  List.all_append

/-- A line feed between two texts is one more blank. -/
theorem Text.isBlank_append_lineFeed (a b : Text) :
    Text.isBlank (a ++ Text.lineFeed :: b) ↔ Text.isBlank a ∧ Text.isBlank b := by
  have hcons : Text.isBlank (Text.lineFeed :: b) = Text.isBlank b := by
    rw [Text.isBlank, List.all_cons, Text.isBlank_lineFeed, Bool.true_and]
    rfl
  rw [Text.isBlank_append, hcons, Bool.and_eq_true]

end FishScript
