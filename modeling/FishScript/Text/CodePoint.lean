/-!
# Code points and texts

A document is a sequence of code points. All of `0 .. 0x10FFFF` are admitted,
so a document may hold surrogates that stand alone: they have no place in a
`Char`, yet an editor can send them and the length of a line depends on them.

## Main definitions

- `CodePoint` — a number below `0x110000`
- `CodePoint.ofChar` — the code point of a character
- `CodePoint.isSurrogate` — the code points that no character has
- `Text` — a list of code points, with `Text.ofString` for literals
-/

namespace FishScript

/-- A Unicode code point, surrogates included. -/
structure CodePoint where
  val : Nat
  val_lt : val < 0x110000
deriving DecidableEq

namespace CodePoint

theorem ext {c d : CodePoint} (h : c.val = d.val) : c = d := by
  cases c
  cases d
  simp_all

def ofChar (c : Char) : CodePoint where
  val := c.toNat
  val_lt := by
    rcases c.valid with h | h
    · exact Nat.lt_trans h (by decide)
    · exact h.2

@[simp]
theorem val_ofChar (c : Char) : (ofChar c).val = c.toNat := rfl

theorem ofChar_inj {c d : Char} : ofChar c = ofChar d ↔ c = d := by
  constructor
  · intro h
    exact Char.toNat_inj.1 (congrArg val h)
  · exact congrArg ofChar

/-- The code point with a given number, if there is one. -/
def ofNat? (n : Nat) : Option CodePoint :=
  if h : n < 0x110000 then some ⟨n, h⟩ else none

/-- Surrogates encode halves of a pair in UTF-16 and are no characters of
their own. -/
def isSurrogate (c : CodePoint) : Bool :=
  decide (0xD800 ≤ c.val ∧ c.val < 0xE000)

end CodePoint

abbrev Text := List CodePoint

namespace Text

def ofString (s : String) : Text :=
  s.toList.map CodePoint.ofChar

/-- Line feed, the only code point that ends a line. -/
def lineFeed : CodePoint := .ofChar '\n'

/-- Carriage return, which belongs to the line end when it stands before one. -/
def carriageReturn : CodePoint := .ofChar '\r'

/-- The double quote around a value. -/
def quote : CodePoint := .ofChar '"'

/-- The sign before the name of a variable that is read. -/
def sigil : CodePoint := .ofChar '$'

/-- What follows `lead` in `text`, if `text` starts with `lead`. -/
def after? : (lead text : Text) → Option Text
  | [], text => some text
  | _ :: _, [] => none
  | a :: lead, c :: text => if a = c then after? lead text else none

theorem after?_eq_some_iff {lead text rest : Text} :
    after? lead text = some rest ↔ text = lead ++ rest := by
  induction lead generalizing text with
  | nil => simp [after?]
  | cons a lead ih =>
    cases text with
    | nil => simp [after?]
    | cons c text =>
      by_cases h : a = c
      · simp [after?, h, ih]
      · simp [after?, h, Ne.symm h]

def startsWith (lead text : Text) : Bool :=
  (after? lead text).isSome

theorem startsWith_iff {lead text : Text} : startsWith lead text ↔ lead <+: text := by
  simp only [startsWith, Option.isSome_iff_exists, after?_eq_some_iff]
  exact ⟨fun ⟨rest, h⟩ => ⟨rest, h.symm⟩, fun ⟨rest, h⟩ => ⟨rest, h.symm⟩⟩

end Text

end FishScript
