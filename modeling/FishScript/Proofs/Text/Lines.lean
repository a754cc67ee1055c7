import Mathlib.Data.List.Forall2
import FishScript.Proofs.Text.LineBreaks

/-!
# What the lines of a text leave out

A text is cut at its line feeds and nowhere else, and each line is its piece without one
carriage return at the end. So the text can be put together again from its lines and the
carriage returns that were dropped.

## Main definitions

- `Text.Cut` — a text in parts, with one line feed between each two
- `Text.PutBack` — a line, and its part of the text with the carriage return put back

## Main results

- `Text.cut_iff` — a text can be cut in one way only
- `Text.length_pieces` — one piece more than there are line feeds
- `Text.lines_restore` — the lines of a text and what they leave out
-/

namespace FishScript

namespace Text

/-- A text in parts, with one line feed between each two and none in a part. -/
structure Cut (text : Text) (parts : List Text) : Prop where
  ne_nil : parts ≠ []
  lineFeed_not_mem : ∀ part ∈ parts, lineFeed ∉ part
  joined_eq : joined parts = text

/-- A line, and the part of the text that it is. Either a carriage return is put back behind
the line, or the part does not end with one. -/
inductive PutBack (line : Text) : Text → Prop
  | nothing (h : line.getLast? ≠ some carriageReturn) : PutBack line line
  | carriageReturn : PutBack line (line ++ [Text.carriageReturn])

theorem pieces_ne_nil (text : Text) : text.pieces ≠ [] :=
  List.splitOn_ne_nil lineFeed text

theorem pieces_joined {parts : List Text} (hne : parts ≠ [])
    (h : ∀ part ∈ parts, lineFeed ∉ part) : (joined parts).pieces = parts :=
  List.splitOn_intercalate lineFeed h hne

/-- A text can be cut in one way only. -/
theorem cut_iff {text : Text} {parts : List Text} : Cut text parts ↔ parts = text.pieces := by
  constructor
  · rintro ⟨hne, hparts, rfl⟩
    exact (pieces_joined hne hparts).symm
  · rintro rfl
    exact ⟨text.pieces_ne_nil, fun _ => lineFeed_not_mem_of_mem_pieces, text.joined_pieces⟩

theorem length_pieces (text : Text) : text.pieces.length = text.count lineFeed + 1 := by
  induction text using line_induction with
  | last line hline =>
    rw [pieces_of_not_mem hline, List.count_eq_zero_of_not_mem hline]
    rfl
  | more line rest hline ih =>
    rw [pieces_append, pieces_of_not_mem hline, List.length_append, ih, List.count_append,
      List.count_cons_self, List.count_eq_zero_of_not_mem hline, List.length_singleton]
    omega

theorem putBack_withoutReturn (piece : Text) : PutBack (withoutReturn piece) piece := by
  by_cases h : piece.getLast? = some carriageReturn
  · obtain ⟨line, rfl⟩ := List.getLast?_eq_some_iff.1 h
    rw [withoutReturn_append_return]
    exact .carriageReturn
  · rw [withoutReturn_of_getLast?_ne h]
    exact .nothing h

theorem PutBack.subset {line piece : Text} (h : PutBack line piece) : line ⊆ piece := by
  cases h with
  | nothing _ => exact List.Subset.refl line
  | carriageReturn => exact List.subset_append_left line [Text.carriageReturn]

theorem forall₂_putBack_lines (text : Text) : List.Forall₂ PutBack text.lines text.pieces := by
  rw [lines_eq_map_pieces, List.forall₂_map_left_iff, List.forall₂_same]
  exact fun piece _ => putBack_withoutReturn piece

/-- The lines of a text. There is one more than there are line feeds in it, and none of them
has a line feed. The text can be cut at its line feeds in one way only, and each line is its
part of the text or that part without the one carriage return at its end. A line feed behind
the text keeps its lines apart from all that follows. -/
theorem lines_restore (text : Text) :
    text.lines.length = text.count lineFeed + 1 ∧
      (∀ line ∈ text.lines, lineFeed ∉ line) ∧
      (∃ parts, (∀ others, Cut text others ↔ others = parts) ∧
        List.Forall₂ PutBack text.lines parts) ∧
      ∀ rest : Text, lines (text ++ lineFeed :: rest) = text.lines ++ rest.lines := by
  have hparts := text.forall₂_putBack_lines
  refine ⟨?_, ?_, ⟨text.pieces, fun _ => cut_iff, hparts⟩, lines_append text⟩
  · rw [hparts.length_eq, length_pieces]
  · intro line hline
    obtain ⟨piece, hpiece, rfl⟩ := List.mem_map.1 hline
    exact fun hmem =>
      lineFeed_not_mem_of_mem_pieces hpiece ((putBack_withoutReturn piece).subset hmem)

/-- Of several carriage returns only the last is dropped, and no other separator ends a
line. -/
example : lines (ofString "a\r\r\n\x0C\u0085\r\u2028\r\n\n\r") =
    [ofString "a\r", ofString "\x0C\u0085\r\u2028", [], []] := by
  decide

end Text

end FishScript
