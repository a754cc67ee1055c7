import FishScript.Completion.Catalog
import FishScript.Proofs.Declaration.Counted

/-!
# Insert texts as an editor reads them

An editor inserts a plain text as it is. In a snippet a `$` starts a placeholder, unless a
backslash stands in front of it; such a backslash is taken away, and likewise in front of a
closing brace or another backslash. Names hold none of these, so what is offered for a name is
inserted as it stands, and the `$` of a variable with it.

## Main definitions

- `Snippet.Piece` — what an editor makes of a snippet, piece by piece
- `Snippet.read` — how it reads one

## Main results

- `Snippet.read_of_plain` — what is inserted as it stands
- `Item.read_ofVariable` — the insert text of a variable
- `Declaration.isName_of_mem_names`, `Declaration.infix_of_mem_names` — names are words of the
  text that declares them
-/

namespace FishScript

namespace Snippet

/-- What an editor makes of a part of a snippet. -/
inductive Piece where
  /-- A code point that is inserted. -/
  | literal (c : CodePoint)
  /-- The start of a place to fill in. -/
  | placeholder
deriving DecidableEq

def backslash : CodePoint := .ofChar '\\'

def closingBrace : CodePoint := .ofChar '}'

/-- What a code point stands for that has no backslash in front of it. -/
def piece (c : CodePoint) : Piece :=
  if c = Text.sigil then .placeholder else .literal c

/-- Reads a snippet. A backslash is taken away in front of a `$`, a closing brace or another
backslash, which then stand for themselves. -/
def read : Text → List Piece
  | [] => []
  | [c] => [piece c]
  | c :: d :: rest =>
    if c = backslash ∧ (d = Text.sigil ∨ d = closingBrace ∨ d = backslash) then
      .literal d :: read rest
    else piece c :: read (d :: rest)

theorem read_cons {c : CodePoint} (h : c ≠ backslash) (rest : Text) :
    read (c :: rest) = piece c :: read rest := by
  cases rest with
  | nil => rfl
  | cons d rest => rw [read, if_neg fun hescape => h hescape.1]

/-- What holds neither a `$` nor a backslash is inserted as it stands. -/
theorem read_of_plain {text : Text} (hsigil : Text.sigil ∉ text) (hbackslash : backslash ∉ text) :
    read text = text.map .literal := by
  induction text with
  | nil => rfl
  | cons c rest ih =>
    obtain ⟨hc, hsigil⟩ := List.ne_and_not_mem_of_not_mem_cons hsigil
    obtain ⟨hc', hbackslash⟩ := List.ne_and_not_mem_of_not_mem_cons hbackslash
    rw [read_cons hc'.symm, piece, if_neg hc.symm, ih hsigil hbackslash, List.map_cons]

/-- In most snippets of the catalog there is something to fill in. -/
example : read (.ofString "cd $1") = (Text.ofString "cd ").map .literal ++
    [.placeholder, .literal (.ofChar '1')] := by decide

end Snippet

/-- Neither a `$` nor a backslash is part of a name. -/
theorem Text.IsName.plain {name : Text} (h : name.IsName) :
    Text.sigil ∉ name ∧ Snippet.backslash ∉ name := by
  have hsigil : Text.sigil.isWord = false := by decide +kernel
  have hbackslash : Snippet.backslash.isWord = false := by decide +kernel
  refine ⟨fun hmem => ?_, fun hmem => ?_⟩
  · exact Bool.false_ne_true (hsigil.symm.trans (h.2 _ hmem))
  · exact Bool.false_ne_true (hbackslash.symm.trans (h.2 _ hmem))

/-- What is offered for a variable is inserted as its name behind a `$`. -/
theorem Item.read_ofVariable {name : Text} (h : name.IsName) :
    Snippet.read (Item.ofVariable name).insertText = (Text.sigil :: name).map .literal := by
  have hescaped : (Item.ofVariable name).insertText = Snippet.backslash :: Text.sigil :: name := rfl
  rw [hescaped, Snippet.read, if_pos ⟨rfl, Or.inl rfl⟩, Snippet.read_of_plain h.plain.1 h.plain.2,
    List.map_cons]

namespace Declaration

variable {kind : Declaration} {text name : Text}

/-- Each name of a text is the name of a declaration in it. -/
theorem exists_occursIn_of_mem_names (h : name ∈ kind.names text) :
    ∃ found, kind.OccursIn text found ∧ found.name = name := by
  obtain ⟨met, hmet, hnames⟩ := exists_searched kind text
  rw [hnames] at h
  obtain ⟨found, hfound, rfl⟩ := List.mem_map.1 h
  exact ⟨found, ((hmet.counted.mem_iff found).1 hfound).1, rfl⟩

theorem isName_of_mem_names (h : name ∈ kind.names text) : name.IsName := by
  obtain ⟨found, hfound, rfl⟩ := exists_occursIn_of_mem_names h
  exact hfound.isName

theorem infix_of_mem_names (h : name ∈ kind.names text) : name <:+: text := by
  obtain ⟨found, hfound, rfl⟩ := exists_occursIn_of_mem_names h
  obtain ⟨before, gap, tail, rest, rfl, -⟩ := hfound
  exact ⟨before ++ kind.keyword ++ gap, tail ++ rest, by simp⟩

end Declaration

end FishScript
