import FishScript.Script.Keyword
import FishScript.Text.Runs

/-!
# Declarations

A script declares a function with `function name` and a variable with
`set name value`, each at the start of a line. The blanks after the keyword may
cross lines. Every declaration counts, so a name declared twice is listed twice.

The search runs over the whole text. After a declaration it goes on behind the
name, so a keyword that was read as a name, as in `function` followed by a line
`function foo`, opens no declaration of its own.

## Main definitions

- `Declaration` — the two kinds of declaration
- `Declaration.read?` — the name declared at the start of a text
- `Declaration.names` — the names declared in a text, in order
-/

namespace FishScript

inductive Declaration where
  | function
  | variable
deriving DecidableEq

namespace Declaration

def keyword : Declaration → Text
  | .function => Keyword.function
  | .variable => Keyword.set

/-- Whether a name may be followed by `rest`. The name of a variable must be
separated from a value, so a blank has to follow it. -/
def admits : Declaration → (rest : Text) → Bool
  | .function, _ => true
  | .variable, rest => rest.head?.any CodePoint.isBlank

/-- The name declared at the start of a text, and what follows the name. -/
def read? (kind : Declaration) (text : Text) : Option (Text × Text) := do
  let found ← Text.word? (← Text.afterBlanks? (← Text.after? kind.keyword text))
  if kind.admits found.2 then some found else none

theorem read?_eq_some_iff {kind : Declaration} {text name rest : Text} :
    kind.read? text = some (name, rest) ↔
      ∃ gap after, text = kind.keyword ++ gap ∧ Text.afterBlanks? gap = some after ∧
        Text.word? after = some (name, rest) ∧ kind.admits rest := by
  simp only [read?, Option.bind_eq_bind, Option.bind_eq_some_iff, Text.after?_eq_some_iff,
    Option.ite_none_right_eq_some, Option.some.injEq]
  constructor
  · rintro ⟨gap, hgap, after, hafter, found, hword, hadmits, rfl⟩
    exact ⟨gap, after, hgap, hafter, hword, hadmits⟩
  · rintro ⟨gap, after, hgap, hafter, hword, hadmits⟩
    exact ⟨gap, hgap, after, hafter, _, hword, hadmits, rfl⟩

theorem length_lt_of_read? {kind : Declaration} {text name rest : Text}
    (h : kind.read? text = some (name, rest)) : rest.length < text.length := by
  obtain ⟨gap, after, rfl, hafter, hword, -⟩ := read?_eq_some_iff.1 h
  have h₁ := Text.length_lt_of_afterBlanks? hafter
  have h₂ := Text.length_lt_of_word? hword
  simp only [List.length_append]
  omega

/-- The names declared in what remains of a text. A declaration may open here
if `lineStart` holds, and later behind each line feed. -/
def namesFrom (kind : Declaration) (lineStart : Bool) : Text → List Text
  | [] => []
  | c :: rest =>
    match _h : if lineStart then kind.read? (c :: rest) else none with
    | some (name, after) => name :: namesFrom kind false after
    | none => namesFrom kind (c == Text.lineFeed) rest
termination_by text => text.length
decreasing_by
  · split at _h
    · exact length_lt_of_read? _h
    · cases _h
  · simp

/-- The names declared in a text, in order and with repetitions. -/
def names (kind : Declaration) (text : Text) : List Text :=
  kind.namesFrom true text

theorem namesFrom_nil (kind : Declaration) (lineStart : Bool) :
    kind.namesFrom lineStart [] = [] := by
  rw [namesFrom]

/-- A declaration that is read is listed, and the search goes on behind it. -/
theorem namesFrom_of_read? {kind : Declaration} {text name rest : Text}
    (h : kind.read? text = some (name, rest)) :
    kind.namesFrom true text = name :: kind.namesFrom false rest := by
  cases text with
  | nil => simpa using length_lt_of_read? h
  | cons c text =>
    rw [namesFrom]
    split <;> simp_all

/-- A code point that opens no declaration is passed over. -/
theorem namesFrom_cons {kind : Declaration} {lineStart : Bool} {c : CodePoint} {text : Text}
    (h : lineStart = true → kind.read? (c :: text) = none) :
    kind.namesFrom lineStart (c :: text) = kind.namesFrom (c == Text.lineFeed) text := by
  rw [namesFrom]
  split <;> simp_all

end Declaration

end FishScript
