import FishScript.Proofs.Declaration.Recognized

/-!
# Seams between texts

Two texts are put together with a line feed between them. The search for declarations finds
in the whole what it finds in the two parts, but for one thing that it carries over the seam:
a keyword that stood alone on its line and still waits for a name. All that can go wrong is
that the second part gives it one.

## Main definitions

- `Text.lastVisible?` — the last line of a text that has more than blanks

## Main results

- `Declaration.names_append_lineFeed` — what is found in two texts with a line feed between
- `Declaration.forall_names_append_iff` — no keyword waits if and only if every text can follow
- `Declaration.names_append` — the names of both parts, in order, if the last visible line of the
  first is not a bare keyword
-/

namespace FishScript

/-- The last line of a text that is not blank. -/
def Text.lastVisible? (text : Text) : Option Text :=
  (text.lines.filter fun line => !isBlank line).getLast?

namespace Declaration

open Text (isBlank lineFeed)

variable {kind : Declaration}

/-! ### Keywords that wait at the end of a text -/

/-- Line by line, the keyword of the scan waits as the lines before tell. -/
theorem foldl_waits_append (before lines : List Text) :
    lines.foldl kind.waits (kind.awaitsName before) = kind.awaitsName (before ++ lines) := by
  induction lines generalizing before with
  | nil => rw [List.append_nil, List.foldl_nil]
  | cons line lines ih =>
    rw [List.foldl_cons, ← awaitsName_concat, ih, List.append_assoc, List.singleton_append]

theorem foldl_waits_pieces (text : Text) :
    text.pieces.foldl kind.waits false = kind.awaitsName text.lines := by
  have hlines : text.lines.foldl kind.waits false = text.pieces.foldl kind.waits false := by
    simp only [Text.lines_eq_map_pieces, List.foldl_map, waits_withoutReturn]
  have hstart : kind.awaitsName [] = false := rfl
  rw [← hlines, ← hstart, foldl_waits_append, List.nil_append]

theorem isBare_iff_exists {line : Text} :
    kind.isBare line ↔ ∃ blanks, line = kind.keyword ++ blanks ∧ isBlank blanks := by
  rw [isBare_iff, Block.trailed_eq_iff]

/-- Behind a visible line that is not a bare keyword, no keyword waits. -/
theorem awaitsName_of_lastVisible? {text : Text}
    (h : ∀ line ∈ text.lastVisible?,
      ¬∃ blanks, line = kind.keyword ++ blanks ∧ isBlank blanks) :
    kind.awaitsName text.lines = false := by
  rw [awaitsName]
  rcases List.eq_nil_or_concat (text.lines.filter fun line => !isBlank line) with
    hnil | ⟨front, last, hlast⟩
  · rw [hnil]
    rfl
  · rw [List.concat_eq_append] at hlast
    have hnot : ¬kind.isBare last := by
      rw [isBare_iff_exists]
      refine h last ?_
      rw [Text.lastVisible?, hlast, List.getLast?_concat]
      rfl
    rw [hlast, List.reverse_concat, List.takeWhile_cons_of_neg hnot]
    rfl

/-! ### The search over a seam -/

theorem resume_nil (waiting : Bool) : kind.resume waiting [] = [] := by
  rw [resume_of_not_mem waiting List.not_mem_nil]
  cases kind <;> cases waiting <;> rfl

/-- The search over two texts with a line feed between them. -/
theorem resume_append (waiting : Bool) (a b : Text) :
    kind.resume waiting (a ++ lineFeed :: b) =
      kind.resume waiting (a ++ [lineFeed]) ++
        kind.resume (a.pieces.foldl kind.waits waiting) b := by
  induction a using Text.line_induction generalizing waiting with
  | last line hline =>
    rw [resume_append_lineFeed waiting hline, resume_append_lineFeed waiting hline, resume_nil,
      List.append_nil, Text.pieces_of_not_mem hline, List.foldl_cons, List.foldl_nil]
  | more line rest hline ih =>
    rw [List.append_assoc, List.cons_append, resume_append_lineFeed waiting hline, ih,
      List.append_assoc, List.cons_append, resume_append_lineFeed waiting hline,
      Text.pieces_append, Text.pieces_of_not_mem hline, List.singleton_append, List.foldl_cons,
      List.append_assoc]

/-- The names in two texts with a line feed between them. The first part ends with a line
feed, and the second may have to name a keyword that waits at the end of the first. -/
theorem names_append_lineFeed (a b : Text) :
    kind.names (a ++ lineFeed :: b) =
      kind.names (a ++ [lineFeed]) ++ kind.resume (kind.awaitsName a.lines) b := by
  rw [← resume_false, ← resume_false, resume_append, foldl_waits_pieces]

/-- Every text can follow a seam with all its names if and only if no keyword waits there. -/
theorem forall_names_append_iff (a : Text) :
    (∀ b, kind.names (a ++ lineFeed :: b) = kind.names (a ++ [lineFeed]) ++ kind.names b) ↔
      kind.awaitsName a.lines = false := by
  constructor
  · intro h
    by_contra hwaits
    rw [Bool.not_eq_false] at hwaits
    -- a word and a blank declare nothing on their own
    have hword := h (Text.ofString "x ")
    rw [names_append_lineFeed, hwaits, List.append_cancel_left_eq] at hword
    revert hword
    cases kind <;> decide +kernel
  · intro h b
    rw [names_append_lineFeed, h, resume_false]

/-! ### Functions -/

/-- A name that needs nothing behind it is found with a line feed there or without. -/
theorem map_fst_nameIn?_concat (text : Text) :
    (Declaration.function.nameIn? (text ++ [lineFeed])).map Prod.fst =
      (Declaration.function.nameIn? text).map Prod.fst := by
  have hname : ∀ rest, Declaration.function.nameIn? rest =
      Text.word? (rest.dropWhile CodePoint.isBlank) := by
    intro rest
    rw [nameIn?]
    cases Text.word? (rest.dropWhile CodePoint.isBlank) <;> rfl
  by_cases hblank : isBlank text
  · have hfeed : isBlank (text ++ [lineFeed]) := by
      rw [Text.isBlank_append, hblank]
      decide
    rw [nameIn?_of_isBlank hblank, nameIn?_of_isBlank hfeed]
  · have hdrop : (text ++ [lineFeed]).dropWhile CodePoint.isBlank =
        text.dropWhile CodePoint.isBlank ++ [lineFeed] := by
      rw [List.dropWhile_append, if_neg]
      rw [List.isEmpty_iff]
      exact fun hnil => hblank (Text.isBlank_iff.2 (List.dropWhile_eq_nil_iff.1 hnil))
    rw [hname, hname, hdrop, Text.word?_append_lineFeed, Option.map_map]
    rfl

/-- The name of a function may end the text. -/
theorem function_entry_concat (waiting : Bool) (line : Text) :
    Declaration.function.entry waiting (line ++ [lineFeed]) =
      Declaration.function.entry waiting line := by
  cases waiting with
  | true => exact congrArg Option.toList (map_fst_nameIn?_concat line)
  | false =>
    refine congrArg Option.toList ?_
    rw [readFrom?, readFrom?, if_neg Bool.false_ne_true, if_neg Bool.false_ne_true, read?_eq_bind,
      read?_eq_bind, Text.after?_append_lineFeed Declaration.function.isName_keyword.lineFeed_not_mem]
    cases Text.after? Declaration.function.keyword line with
    | none => rfl
    | some gap =>
      cases gap with
      | nil => decide +kernel
      | cons c gap =>
        have hname := map_fst_nameIn?_concat (c :: gap)
        by_cases hc : c.isBlank
        · simpa [hc] using hname
        · simp [hc]

/-- A line feed at the end of a text gives no function a name and takes none away. -/
theorem function_names_concat (text : Text) :
    Declaration.function.names (text ++ [lineFeed]) = Declaration.function.names text := by
  have hresume : ∀ waiting, Declaration.function.resume waiting (text ++ [lineFeed]) =
      Declaration.function.resume waiting text := by
    induction text using Text.line_induction with
    | last line hline =>
      intro waiting
      rw [resume_append_lineFeed waiting hline, resume_nil, List.append_nil,
        function_entry_concat, resume_of_not_mem waiting hline]
    | more line rest hline ih =>
      intro waiting
      rw [List.append_assoc, List.cons_append, resume_append_lineFeed waiting hline, ih,
        resume_append_lineFeed waiting hline]
  rw [← resume_false, ← resume_false, hresume]

/-! ### Both kinds -/

/-- Two texts with a line feed between them have the names of both, if the last visible line
of the first is not a bare keyword. A name of a variable that ends the first text is found
only with the line feed behind it; for a function that makes no difference. -/
theorem names_append (a b : Text) :
    ((∀ line ∈ a.lastVisible?, ¬∃ blanks, line = Keyword.function ++ blanks ∧ isBlank blanks) →
      Declaration.function.names (a ++ lineFeed :: b) =
        Declaration.function.names a ++ Declaration.function.names b) ∧
    ((∀ line ∈ a.lastVisible?, ¬∃ blanks, line = Keyword.set ++ blanks ∧ isBlank blanks) →
      Declaration.variable.names (a ++ lineFeed :: b) =
        Declaration.variable.names (a ++ [lineFeed]) ++ Declaration.variable.names b) := by
  constructor
  · intro h
    have hwaits := @awaitsName_of_lastVisible? .function a h
    rw [(forall_names_append_iff a).2 hwaits, function_names_concat]
  · intro h
    have hwaits := @awaitsName_of_lastVisible? .variable a h
    rw [(forall_names_append_iff a).2 hwaits]

/-- The last visible line is far from the seam, and a bare keyword stands before it. -/
theorem names_append_behind_blank_lines :
    let a := Text.ofString "set one 1\nfunction\nfunction two\r\n \r"
    let b := Text.ofString "three\nfunction four\nset five 5"
    a.lastVisible? = some (Text.ofString "function two") ∧
    Declaration.function.names (a ++ lineFeed :: b) =
      [Text.ofString "function"] ++ [Text.ofString "four"] ∧
    Declaration.variable.names (a ++ lineFeed :: b) =
      [Text.ofString "one"] ++ [Text.ofString "five"] := by
  intro a b
  have hlast : a.lastVisible? = some (Text.ofString "function two") := by decide +kernel
  have hnot : ∀ kind : Declaration, ∀ line ∈ a.lastVisible?,
      ¬∃ blanks, line = kind.keyword ++ blanks ∧ isBlank blanks := by
    intro kind line hline
    rw [hlast, Option.mem_some_iff] at hline
    rw [← isBare_iff_exists, ← hline]
    cases kind <;> decide +kernel
  obtain ⟨hfunction, hvariable⟩ := names_append a b
  refine ⟨hlast, (hfunction (hnot .function)).trans ?_, (hvariable (hnot .variable)).trans ?_⟩
  · decide +kernel
  · decide +kernel

end Declaration

end FishScript
