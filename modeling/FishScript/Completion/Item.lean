import FishScript.Script.Symbols

/-!
# Completion items

An item offers a label and, when it is chosen, an insert text. An insert text
with a `$` in it is a snippet: a `$` that no backslash precedes marks a place to
fill in. The name of a variable is inserted behind an escaped `$`, so it marks no
such place.

## Main definitions

- `Item` — one offer of a completion list
- `Item.Format.ofInsertText` — which insert texts are snippets
- `Item.ofFunction`, `Item.ofVariable` — the items for the names of a script
- `Symbols.items` — the items for all names of a script
-/

namespace FishScript

inductive Item.Kind where
  | function
  | variable
  | keyword
deriving DecidableEq

/-- The number of a kind in the language server protocol. -/
def Item.Kind.code : Item.Kind → Nat
  | .function => 3
  | .variable => 6
  | .keyword => 14

/-- How an editor reads an insert text. -/
inductive Item.Format where
  | plain
  | snippet
deriving DecidableEq

/-- The number of a format in the language server protocol. -/
def Item.Format.code : Item.Format → Nat
  | .plain => 1
  | .snippet => 2

/-- An insert text with a `$` is a snippet. -/
def Item.Format.ofInsertText (insertText : Text) : Item.Format :=
  if Text.sigil ∈ insertText then .snippet else .plain

structure Item where
  label : Text
  kind : Item.Kind
  insertText : Text
  format : Item.Format
deriving DecidableEq

namespace Item

/-- An item whose format follows from its insert text. -/
def ofInsertText (label : Text) (kind : Kind) (insertText : Text) : Item where
  label := label
  kind := kind
  insertText := insertText
  format := .ofInsertText insertText

/-- The item for a function of the script: its name, inserted as it is. -/
def ofFunction (name : Text) : Item where
  label := name
  kind := .keyword
  insertText := name
  format := .plain

/-- The item for a variable of the script: its name behind an escaped `$`. -/
def ofVariable (name : Text) : Item where
  label := name
  kind := .variable
  insertText := Text.ofString "\\$" ++ name
  format := .snippet

end Item

/-- One item for each function of a script, then one for each variable. -/
def Symbols.items (symbols : Symbols) : List Item :=
  symbols.functionNames.map Item.ofFunction ++ symbols.variableNames.map Item.ofVariable

end FishScript
