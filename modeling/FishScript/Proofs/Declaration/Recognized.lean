import FishScript.Proofs.Declaration.Lines
import FishScript.Proofs.Variable.Shape
import FishScript.Script.Diagnostic

/-!
# Lines that the rules recognize as declarations

The rules look at one line at a time and recognize the lines that are whole declarations.
The search for declarations lists an entry for each of these lines. It is the name on the
line, unless a keyword that stood alone before the line still waits for a name: then the
search takes the keyword on the line for that name, and the name on the line is lost.

## Main definitions

- `Declaration.recognizes` — the lines that the rules recognize
- `Declaration.nameOn` — the name on such a line
- `Declaration.awaitsName` — whether a keyword waits for a name behind some lines
- `Declaration.added` — the entries of the recognized lines, in line order

## Main results

- `Declaration.added_sublist_names` — the names of a text have an entry for each of them
- `Declaration.names_behind_bare_keyword` — a recognized line whose name is not listed
-/

namespace FishScript

namespace Declaration

open Text (IsName isBlank lineFeed)

variable {kind : Declaration}

/-- Whether the rules recognize a line as a declaration. For a function this is a header that
needs no other line; for a variable, a line that the rule is about and does not find. -/
def recognizes : Declaration → (line : Text) → Bool
  | .function, line => Block.isHeader line
  | .variable, line => Text.startsWith Rule.variable.lead line && VariableLine.isWellFormed line

/-- The name on a line that starts with the keyword. -/
def nameOn (kind : Declaration) (line : Text) : Text :=
  ((line.drop kind.keyword.length).dropWhile CodePoint.isBlank).takeWhile CodePoint.isWord

/-- Those of the lines of a text on which a declaration can be complete. The name of a
variable has to be separated from a value, which the end of the text does not do. -/
def countedLines : Declaration → (lines : List Text) → List Text
  | .function, lines => lines
  | .variable, lines => lines.dropLast

/-- Whether a keyword waits for a name behind some lines: of the visible ones, an odd number
at the end has the keyword alone. In an even number, each second one is a name. -/
def awaitsName (kind : Declaration) (before : List Text) : Bool :=
  ((before.filter fun line => !isBlank line).reverse.takeWhile kind.isBare).length % 2 == 1

/-- The entry of a line among the names, if the line is recognized. -/
def added? (kind : Declaration) (before : List Text) (line : Text) : Option Text :=
  if kind.recognizes line then
    some (if kind.awaitsName before then kind.keyword else kind.nameOn line)
  else none

/-- The entries of the recognized ones among some lines, which stand behind other lines. -/
def added (kind : Declaration) : (before lines : List Text) → List Text
  | _, [] => []
  | before, line :: lines =>
    (kind.added? before line).toList ++ kind.added (before ++ [line]) lines

/-- The keyword, a gap and a name, and then nothing or a blank. -/
def Declares (kind : Declaration) (line name : Text) : Prop :=
  ∃ gap rest, line = kind.keyword ++ (gap ++ (name ++ rest)) ∧ (gap ≠ [] ∧ isBlank gap) ∧
    IsName name ∧ ∀ c ∈ rest.head?, c.isBlank

/-! ### Keywords that wait -/

/-- One more line decides whether a keyword waits, as it does in the scan. -/
theorem awaitsName_concat (before : List Text) (line : Text) :
    kind.awaitsName (before ++ [line]) = kind.waits (kind.awaitsName before) line := by
  rw [awaitsName, waits, awaitsName, List.filter_append]
  by_cases hblank : isBlank line
  · rw [if_pos hblank, List.filter_cons_of_neg (by simp [hblank]), List.filter_nil,
      List.append_nil]
  · rw [if_neg hblank, List.filter_cons_of_pos (by simp [hblank]), List.filter_nil,
      List.reverse_concat]
    by_cases hbare : kind.isBare line
    · rw [List.takeWhile_cons_of_pos hbare, hbare, List.length_cons, Bool.and_true]
      -- one more turns odd into even and even into odd
      rw [Bool.eq_iff_iff, Bool.not_eq_true', beq_iff_eq, beq_eq_false_iff_ne]
      omega
    · rw [List.takeWhile_cons_of_neg hbare, Bool.eq_false_iff.2 hbare, Bool.and_false]
      rfl

theorem waits_withoutReturn (waiting : Bool) (line : Text) :
    kind.waits waiting (Text.withoutReturn line) = kind.waits waiting line := by
  obtain h | h := Text.withoutReturn_eq_or line
  · rw [h]
  · have hblank : isBlank (Text.withoutReturn line ++ [Text.carriageReturn]) =
        isBlank (Text.withoutReturn line) := by
      rw [Text.isBlank_append]
      simp [isBlank, Text.isBlank_carriageReturn]
    have hbare : kind.isBare (Text.withoutReturn line ++ [Text.carriageReturn]) =
        kind.isBare (Text.withoutReturn line) :=
      Block.shape_append_blank (fun _ => isBare_iff)
        (fun _ heq => heq ▸ Block.endsVisibly_of_isName kind.isName_keyword) _
        Text.isBlank_carriageReturn
    rw [h, waits, waits, Text.withoutReturn_append_return, hblank, hbare]

/-! ### Recognized lines -/

/-- The rules recognize declarations. -/
theorem exists_declares_of_recognizes {line : Text} (h : kind.recognizes line) :
    ∃ name, kind.Declares line name := by
  match kind with
  | .function =>
    obtain ⟨_, trail, rfl, ⟨gap, name, rfl, hne, hgap, hname⟩, htrail⟩ := Block.isHeader_iff.1 h
    refine ⟨name, gap, trail, by simp [keyword], ⟨hne, hgap⟩, hname, ?_⟩
    intro c hc
    exact Text.isBlank_iff.1 htrail c (List.mem_of_mem_head? hc)
  | .variable =>
    obtain ⟨-, hshape⟩ := Bool.and_eq_true _ _ ▸ h
    obtain ⟨gap, name, values, trail, rfl, hgap, hname, hvalues, htrail⟩ :=
      VariableLine.isWellFormed_iff.1 hshape
    refine ⟨name, gap, VariableLine.spelled values ++ trail, by simp [keyword], hgap, hname, ?_⟩
    intro c hc
    cases values with
    | nil => exact Text.isBlank_iff.1 htrail c (List.mem_of_mem_head? hc)
    | cons value values =>
      -- the first value has a gap in front of it
      obtain ⟨⟨hne, hblank⟩, -⟩ := hvalues value List.mem_cons_self
      obtain ⟨d, tail, hd⟩ := List.exists_cons_of_ne_nil hne
      rw [VariableLine.spelled_cons, hd] at hc
      rw [← Option.some.inj hc]
      exact Text.isBlank_iff.1 hblank d (by simp [hd])

theorem nameOn_eq {gap name rest : Text} (hgap : isBlank gap) (hname : IsName name)
    (hrest : ∀ c ∈ rest.head?, c.isBlank) :
    kind.nameOn (kind.keyword ++ (gap ++ (name ++ rest))) = name := by
  have hword : (name ++ rest).takeWhile CodePoint.isWord = name :=
    (Text.takeWhile_dropWhile_eq_iff.2
      ⟨rfl, hname.2, fun c hc => CodePoint.isWord_of_isBlank (hrest c hc)⟩).1
  rw [nameOn, List.drop_left, hname.dropWhile_append hgap, hword]

/-- A recognized line is read as a declaration of the name on it, whatever blanks end the
line. A variable needs one of them. -/
theorem read?_of_recognizes {line tail : Text} (h : kind.recognizes line) (htail : isBlank tail)
    (hend : kind = .variable → tail ≠ []) :
    ∃ rest, kind.read? (line ++ tail) = some (kind.nameOn line, rest) := by
  obtain ⟨name, gap, rest, rfl, hgap, hname, hrest⟩ := exists_declares_of_recognizes h
  have hrest' : ∀ c ∈ (rest ++ tail).head?, c.isBlank := by
    intro c hc
    cases rest with
    | nil => exact Text.isBlank_iff.1 htail c (List.mem_of_mem_head? hc)
    | cons d rest => exact hrest c hc
  have hadmits : kind.admits (rest ++ tail) := by
    match kind, hend with
    | .function, _ => rfl
    | .variable, hend =>
      obtain ⟨c, after, hcons⟩ :=
        List.exists_cons_of_ne_nil (List.append_ne_nil_of_right_ne_nil rest (hend rfl))
      rw [hcons] at hrest' ⊢
      exact hrest' c rfl
  have hblanks := hname.afterBlanks?_append hgap (rest ++ tail)
  have hword := hname.word?_append_of_startsOutside
    (fun c hc => CodePoint.isWord_of_isBlank (hrest' c hc))
  rw [nameOn_eq hgap.2 hname hrest]
  exact ⟨rest ++ tail, read?_eq_some_iff.2 ⟨_, _, by simp, hblanks, hword, hadmits⟩⟩

/-- The scan lists the entry of a recognized line. -/
theorem added?_sublist_entry (kind : Declaration) (before : List Text) (line : Text) {tail : Text}
    (htail : isBlank tail) (hend : kind = .variable → tail ≠ []) :
    (kind.added? before line).toList.Sublist
      (kind.entry (kind.awaitsName before) (line ++ tail)) := by
  by_cases h : kind.recognizes line
  · obtain ⟨rest, hread⟩ := read?_of_recognizes h htail hend
    rw [added?, if_pos h, entry]
    cases hwaits : kind.awaitsName before with
    | true =>
      obtain ⟨after, hname⟩ := nameIn?_of_read? hread
      have hreads : kind.readFrom? true (line ++ tail) = some (kind.keyword, after) := hname
      rw [hreads]
      exact List.Sublist.refl _
    | false =>
      have hreads : kind.readFrom? false (line ++ tail) = some (kind.nameOn line, rest) := hread
      rw [hreads]
      exact List.Sublist.refl _
  · rw [added?, if_neg h]
    exact List.nil_sublist _

/-! ### Whole texts -/

theorem added_sublist_scan (before parts : List Text) :
    (kind.added before (kind.countedLines (parts.map Text.withoutReturn))).Sublist
      (kind.scan (kind.awaitsName before) parts) := by
  induction parts generalizing before with
  | nil =>
    match kind with
    | .function => exact List.Sublist.refl _
    | .variable => exact List.Sublist.refl _
  | cons piece parts ih =>
    obtain ⟨tail, htail, hpiece⟩ := Text.exists_eq_withoutReturn_append piece
    cases parts with
    | nil =>
      match kind with
      | .function =>
        have hline := added?_sublist_entry .function before (Text.withoutReturn piece) htail
          (fun h => absurd h (by decide))
        rw [← hpiece] at hline
        rw [List.map_singleton, countedLines, added, added, List.append_nil]
        exact hline
      | .variable => exact List.nil_sublist _
    | cons next parts =>
      have hfeed : isBlank (tail ++ [lineFeed]) := by
        rw [Text.isBlank_append, htail]
        decide
      have hline := added?_sublist_entry kind before (Text.withoutReturn piece) hfeed
        (fun _ => by simp)
      rw [← List.append_assoc, ← hpiece] at hline
      have hcounted : kind.countedLines ((piece :: next :: parts).map Text.withoutReturn) =
          Text.withoutReturn piece ::
            kind.countedLines ((next :: parts).map Text.withoutReturn) := by
        match kind with
        | .function => rfl
        | .variable => rfl
      have hlater := ih (before ++ [Text.withoutReturn piece])
      rw [awaitsName_concat, waits_withoutReturn] at hlater
      rw [hcounted, added, scan]
      exact hline.append hlater

/-- The names of a text have, in line order, an entry for each line that the rules recognize
as a declaration: the name on it or, if a keyword waits in front of it, the keyword on it. -/
theorem added_sublist_names (kind : Declaration) (text : Text) :
    (kind.added [] (kind.countedLines text.lines)).Sublist (kind.names text) := by
  rw [names_eq_scan, Text.lines_eq_map_pieces]
  exact added_sublist_scan [] text.pieces

/-- Behind a line with the keyword alone the name on a recognized line is not listed, although
the line opens a block. -/
theorem names_behind_bare_keyword :
    let text := Text.ofString "function\nfunction foo\nend"
    Block.occursIn text.lines ∧
      (text.lines.filter Declaration.function.recognizes).map Declaration.function.nameOn =
        [Text.ofString "foo"] ∧
      ¬((text.lines.filter Declaration.function.recognizes).map
        Declaration.function.nameOn).Sublist (Declaration.function.names text) := by
  decide +kernel

end Declaration

end FishScript
