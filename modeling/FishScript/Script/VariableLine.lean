import FishScript.Script.Keyword
import FishScript.Text.Runs

/-!
# The shape of a variable line

A well formed variable line is `set`, a name, and any number of quoted values,
separated by blanks; blanks may trail.

## Main definitions

- `VariableLine.areValues` — blank-separated quoted values up to the end of a text
- `VariableLine.isWellFormed` — whether a line has the shape
-/

namespace FishScript

namespace VariableLine

/-- What follows the blanks and the quoted value at the start of a text, if both
are there. -/
def afterValue? (text : Text) : Option Text :=
  (Text.afterBlanks? text).bind Text.afterQuoted?

theorem length_lt_of_afterValue? {text rest : Text} (h : afterValue? text = some rest) :
    rest.length < text.length := by
  obtain ⟨after, hafter, hrest⟩ := Option.bind_eq_some_iff.1 h
  exact Nat.lt_trans (Text.length_lt_of_afterQuoted? hrest)
    (Text.length_lt_of_afterBlanks? hafter)

/-- Whether a text consists of quoted values, each with blanks before it, and of
trailing blanks. -/
def areValues (text : Text) : Bool :=
  match _h : afterValue? text with
  | some rest => areValues rest
  | none => Text.isBlank text
termination_by text.length
decreasing_by exact length_lt_of_afterValue? _h

theorem areValues_of_afterValue? {text rest : Text} (h : afterValue? text = some rest) :
    areValues text = areValues rest := by
  rw [areValues]
  split <;> simp_all

theorem areValues_of_afterValue?_eq_none {text : Text} (h : afterValue? text = none) :
    areValues text = Text.isBlank text := by
  rw [areValues]
  split <;> simp_all

/-- Whether a line declares a variable as it should. -/
def isWellFormed (line : Text) : Bool :=
  (((Text.after? Keyword.set line).bind Text.afterBlanks?).bind Text.word?).any
    fun found => areValues found.2

end VariableLine

end FishScript
