import FishScript.Text.Blank
import FishScript.Text.Lines

/-!
# Texts and their line feeds

Every text is its pieces between line feeds, joined by line feeds again. The lemmas
here take a text apart at a place where a line starts or ends, on the side of the text
and on the side of its pieces.

## Main definitions

- `Text.pieces` — the pieces of a text between its line feeds
- `Text.joined`, `Text.ended`, `Text.led` — pieces with a line feed between each two,
  behind each, and in front of each
- `Text.LineStart` — the texts behind which a line starts
- `Text.LineEnd` — the texts in front of which a line ends

## Main results

- `Text.pieces_append`, `Text.joined_append` — both take a line feed for a seam
- `Text.line_induction` — induction from line feed to line feed
- `Text.LineStart.pieces`, `Text.LineEnd.pieces` — what stands before or behind a line
  changes no piece of it
-/

namespace FishScript

namespace Text

/-- The pieces of a text between its line feeds. A piece keeps its carriage return. -/
def pieces (text : Text) : List Text :=
  text.splitOn lineFeed

/-- The text with the given pieces between its line feeds. -/
noncomputable def joined (parts : List Text) : Text :=
  [lineFeed].intercalate parts

/-- The given pieces, each with a line feed behind it. -/
def ended (parts : List Text) : Text :=
  parts.flatMap fun part => part ++ [lineFeed]

/-- The given pieces, each with a line feed in front of it. -/
def led (parts : List Text) : Text :=
  parts.flatMap fun part => lineFeed :: part

/-- A line starts behind this text: it is empty or ends with a line feed. -/
def LineStart (before : Text) : Prop :=
  before = [] ∨ ∃ init : Text, before = init ++ [lineFeed]

/-- A line ends in front of this text: it is empty or starts with a line feed. -/
def LineEnd (after : Text) : Prop :=
  after = [] ∨ ∃ rest : Text, after = lineFeed :: rest

theorem lines_eq_map_pieces (text : Text) : text.lines = text.pieces.map withoutReturn := rfl

theorem pieces_of_not_mem {text : Text} (h : lineFeed ∉ text) : text.pieces = [text] :=
  List.splitOn_eq_singleton h

theorem pieces_append (a b : Text) : pieces (a ++ lineFeed :: b) = pieces a ++ pieces b :=
  List.splitOn_append_cons_self a b

theorem joined_pieces (text : Text) : joined text.pieces = text :=
  List.intercalate_splitOn lineFeed

theorem joined_singleton (part : Text) : joined [part] = part :=
  List.intercalate_singleton

/-- Behind the first piece, each has a line feed in front of it. -/
theorem joined_cons (part : Text) (parts : List Text) :
    joined (part :: parts) = part ++ led parts := by
  induction parts generalizing part with
  | nil => simp [joined_singleton, led]
  | cons next parts ih =>
    have hstep : joined (part :: next :: parts) = part ++ lineFeed :: joined (next :: parts) := by
      simp [joined, List.intercalate_cons_cons]
    rw [hstep, ih]
    simp [led]

/-- Pieces behind others come with a line feed in front of each. -/
theorem joined_append_right {parts : List Text} (h : parts ≠ []) (back : List Text) :
    joined (parts ++ back) = joined parts ++ led back := by
  obtain ⟨part, parts, rfl⟩ := List.exists_cons_of_ne_nil h
  rw [List.cons_append, joined_cons, joined_cons, led, List.flatMap_append, List.append_assoc]
  rfl

theorem joined_append {front back : List Text} (hfront : front ≠ []) (hback : back ≠ []) :
    joined (front ++ back) = joined front ++ lineFeed :: joined back := by
  obtain ⟨part, back, rfl⟩ := List.exists_cons_of_ne_nil hback
  rw [joined_append_right hfront, joined_cons]
  rfl

/-- Pieces in front of others come with a line feed behind each. -/
theorem joined_append_left (front : List Text) {parts : List Text} (h : parts ≠ []) :
    joined (front ++ parts) = ended front ++ joined parts := by
  induction front with
  | nil => rfl
  | cons part front ih =>
    -- a line feed stands behind the first piece only because others follow
    have hne : front ++ parts ≠ [] := List.append_ne_nil_of_right_ne_nil front h
    rw [List.cons_append, ← List.singleton_append, joined_append (List.cons_ne_nil part []) hne,
      joined_singleton, ih]
    simp [ended]

theorem led_pieces (text : Text) : led text.pieces = lineFeed :: text := by
  obtain ⟨part, parts, h⟩ := List.exists_cons_of_ne_nil (List.splitOn_ne_nil lineFeed text)
  have hpieces : text.pieces = part :: parts := h
  have htext : text = part ++ led parts := by rw [← joined_cons, ← hpieces, joined_pieces]
  rw [hpieces, htext]
  rfl

theorem lineStart_ended (parts : List Text) : LineStart (ended parts) := by
  rcases List.eq_nil_or_concat parts with rfl | ⟨front, part, rfl⟩
  · exact Or.inl rfl
  · exact Or.inr ⟨ended front ++ part, by simp [ended]⟩

theorem lineEnd_led (parts : List Text) : LineEnd (led parts) := by
  cases parts with
  | nil => exact Or.inl rfl
  | cons part parts => exact Or.inr ⟨part ++ led parts, rfl⟩

theorem isBlank_ended {parts : List Text} (h : ∀ part ∈ parts, isBlank part) :
    isBlank (ended parts) := by
  induction parts with
  | nil => rfl
  | cons part parts ih =>
    obtain ⟨hpart, hparts⟩ := List.forall_mem_cons.1 h
    have hended : ended (part :: parts) = part ++ lineFeed :: ended parts := by simp [ended]
    rw [hended]
    exact (isBlank_append_lineFeed part (ended parts)).2 ⟨hpart, ih hparts⟩

/-- What stands before the start of a line is a number of whole pieces. -/
theorem LineStart.pieces {before : Text} (h : LineStart before) :
    ∃ front, ∀ text, Text.pieces (before ++ text) = front ++ text.pieces := by
  obtain rfl | ⟨init, rfl⟩ := h
  · exact ⟨[], fun _ => rfl⟩
  · refine ⟨init.pieces, fun text => ?_⟩
    rw [List.append_assoc, List.singleton_append, pieces_append]

/-- What stands behind the end of a line is a number of whole pieces. -/
theorem LineEnd.pieces {after : Text} (h : LineEnd after) :
    ∃ back, ∀ text, Text.pieces (text ++ after) = text.pieces ++ back := by
  obtain rfl | ⟨rest, rfl⟩ := h
  · exact ⟨[], fun text => by simp⟩
  · exact ⟨rest.pieces, fun text => pieces_append text rest⟩

/-- A text has no line feed, or has a first one. -/
@[elab_as_elim]
theorem line_induction {motive : Text → Prop} (last : ∀ line, lineFeed ∉ line → motive line)
    (more : ∀ line rest, lineFeed ∉ line → motive rest → motive (line ++ lineFeed :: rest))
    (text : Text) : motive text := by
  induction h : text.length using Nat.strongRecOn generalizing text with
  | _ n ih =>
    by_cases hmem : lineFeed ∈ text
    · obtain ⟨line, rest, rfl, hline⟩ := List.eq_append_cons_of_mem hmem
      refine more line rest hline (ih rest.length ?_ rest rfl)
      rw [← h, List.length_append, List.length_cons]
      omega
    · exact last text hmem

theorem lineFeed_not_mem_of_mem_pieces {text : Text} :
    ∀ {part}, part ∈ text.pieces → lineFeed ∉ part := by
  induction text using line_induction with
  | last line hline =>
    intro part hpart
    rw [pieces_of_not_mem hline] at hpart
    rw [List.mem_singleton.1 hpart]
    exact hline
  | more line rest hline ih =>
    intro part hpart
    rw [pieces_append, pieces_of_not_mem hline, List.singleton_append] at hpart
    obtain rfl | hrest := List.mem_cons.1 hpart
    · exact hline
    · exact ih hrest

/-- Blanks in front of a text on one line are whole blank pieces and blanks on that line. -/
theorem exists_blank_pieces {blanks line : Text} (hblanks : isBlank blanks)
    (hline : lineFeed ∉ line) :
    ∃ front lead, pieces (blanks ++ line) = front ++ [lead ++ line] ∧
      (∀ part ∈ front, isBlank part) ∧ isBlank lead := by
  induction blanks using line_induction with
  | last lead hlead =>
    refine ⟨[], lead, pieces_of_not_mem ?_, by simp, hblanks⟩
    simp [hlead, hline]
  | more part rest hpart ih =>
    obtain ⟨hblank, hlater⟩ := (isBlank_append_lineFeed part rest).1 hblanks
    obtain ⟨front, lead, heq, hfront, hlead⟩ := ih hlater
    refine ⟨part :: front, lead, ?_, List.forall_mem_cons.2 ⟨hblank, hfront⟩, hlead⟩
    rw [List.append_assoc, List.cons_append, pieces_append, pieces_of_not_mem hpart, heq]
    rfl

/-- Blanks that run into the end of a line are blanks on one line, and whatever they have
on later lines is behind its end. -/
theorem exists_blank_lineEnd {blanks after : Text} (hblanks : isBlank blanks)
    (hafter : LineEnd after) :
    ∃ short rest, blanks ++ after = short ++ rest ∧ isBlank short ∧ lineFeed ∉ short ∧
      LineEnd rest := by
  by_cases h : lineFeed ∈ blanks
  · -- the line already ends at the first line feed among the blanks
    obtain ⟨short, later, rfl, hshort⟩ := List.eq_append_cons_of_mem h
    rw [isBlank_append, Bool.and_eq_true] at hblanks
    refine ⟨short, lineFeed :: (later ++ after), ?_, hblanks.1, hshort, Or.inr ⟨_, rfl⟩⟩
    rw [List.append_assoc, List.cons_append]
  · exact ⟨blanks, after, rfl, hblanks, h, hafter⟩

/-- A line differs from its piece by one carriage return at most. -/
theorem withoutReturn_eq_or (line : Text) :
    withoutReturn line = line ∨ line = withoutReturn line ++ [carriageReturn] := by
  by_cases h : line.getLast? = some carriageReturn
  · obtain ⟨init, rfl⟩ := List.getLast?_eq_some_iff.1 h
    rw [withoutReturn_append_return]
    exact Or.inr rfl
  · exact Or.inl (withoutReturn_of_getLast?_ne h)

/-- A piece is its line with blanks behind it. -/
theorem exists_eq_withoutReturn_append (piece : Text) :
    ∃ tail, isBlank tail ∧ piece = withoutReturn piece ++ tail := by
  obtain h | h := withoutReturn_eq_or piece
  · exact ⟨[], rfl, by rw [h, List.append_nil]⟩
  · exact ⟨[carriageReturn], by decide, h⟩

end Text

end FishScript
