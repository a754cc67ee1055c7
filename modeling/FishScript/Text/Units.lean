import FishScript.Text.CodePoint
import FishScript.Text.Hexadecimal

/-!
# Length in UTF-16 code units

Positions in a line are counted in UTF-16 code units: one for a code point up to
U+FFFF and two for any other. A surrogate that stands alone has no encoding, so
a text that holds one has no length. Adjacent surrogates are never joined.

## Main definitions

- `CodePoint.units` — the code units of one code point
- `Unencodable` — the first surrogate of a text and where it stands
- `Text.units` — the code units of a text, or why there is no such number
-/

namespace FishScript

/-- How many UTF-16 code units encode a code point. -/
def CodePoint.units (c : CodePoint) : Nat :=
  if c.val < 0x10000 then 1 else 2

/-- A text cannot be encoded because of the surrogate `codePoint`, which has
`position` code points before it. -/
structure Unencodable where
  codePoint : CodePoint
  position : Nat
deriving DecidableEq

namespace Unencodable

/-- What is reported for a text that has no encoding. -/
def message (e : Unencodable) : String :=
  "'utf-16-le' codec can't encode character '\\u" ++
    String.ofList (hexDigits 4 e.codePoint.val) ++
    "' in position " ++ toString e.position ++ ": surrogates not allowed"

end Unencodable

namespace Text

/-- The length of a text in UTF-16 code units. It exists if the text has no
surrogate; otherwise the first surrogate is the cause. -/
def units (text : Text) : Except Unencodable Nat :=
  match text.dropWhile (!·.isSurrogate) with
  | [] => .ok (text.foldr (fun c total => c.units + total) 0)
  | c :: _ => .error ⟨c, (text.takeWhile (!·.isSurrogate)).length⟩

/-- A text without surrogates has a length, which is that of its code points. -/
theorem units_of_forall {text : Text} (h : ∀ c ∈ text, c.isSurrogate = false) :
    text.units = .ok (text.foldr (fun c total => c.units + total) 0) := by
  have hall : ∀ c ∈ text, (!c.isSurrogate) = true := by
    intro c hc
    simp [h c hc]
  have hrest : text.dropWhile (!·.isSurrogate) = [] := by
    rw [← List.append_nil text, List.dropWhile_append_of_pos hall, List.dropWhile_nil]
  simp [units, hrest]

/-- The first surrogate of a text is why it has no length. -/
theorem units_of_surrogate {before after : Text} {c : CodePoint}
    (h : ∀ d ∈ before, d.isSurrogate = false) (hc : c.isSurrogate) :
    units (before ++ c :: after) = .error ⟨c, before.length⟩ := by
  have hbefore : ∀ d ∈ before, (!d.isSurrogate) = true := by
    intro d hd
    simp [h d hd]
  simp [units, List.dropWhile_append_of_pos hbefore, List.takeWhile_append_of_pos hbefore, hc]

end Text

end FishScript
