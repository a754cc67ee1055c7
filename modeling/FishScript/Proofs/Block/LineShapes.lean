import FishScript.Script.Block
import FishScript.Proofs.Text.LineBreaks
import FishScript.Proofs.Text.Names

/-!
# The shapes of the lines that matter to a block

A line matters to a function block if it has one of four shapes. Each of them is a body
that ends with a visible code point, followed by blanks; so a carriage return at the end
of a line never changes the shape.

## Main definitions

- `Block.Trailed` — a body with blanks behind it
- `Block.HeaderBody`, `Block.NameBody` — the bodies of headers and of names

## Main results

- `Block.isEnd_iff`, `Block.isBareKeyword_iff`, `Block.isHeader_iff` and
  `Block.isName_iff` — the shapes as bodies with blanks behind them
- `Block.Progress.next_withoutReturn` — a carriage return at the end of a line makes no
  difference to the scan
-/

namespace FishScript

namespace Block

open Text (IsName)

/-- One of `bodies` with blanks behind it. -/
def Trailed (bodies : Text → Prop) (line : Text) : Prop :=
  ∃ body trail, line = body ++ trail ∧ bodies body ∧ Text.isBlank trail

/-- A body whose last code point is visible. -/
def EndsVisibly (body : Text) : Prop :=
  ∃ init last, body = init ++ [last] ∧ last.isBlank = false

/-- The body of a header: the keyword, blanks, and a name. -/
def HeaderBody (body : Text) : Prop :=
  ∃ gap name, body = Keyword.function ++ (gap ++ name) ∧ gap ≠ [] ∧ Text.isBlank gap ∧
    IsName name

/-- The body of a line with a name: blanks, if any, and the name. -/
def NameBody (body : Text) : Prop :=
  ∃ lead name, body = lead ++ name ∧ Text.isBlank lead ∧ IsName name

theorem trailed_eq_iff {word line : Text} :
    Trailed (· = word) line ↔ ∃ trail, line = word ++ trail ∧ Text.isBlank trail := by
  constructor
  · rintro ⟨_, trail, rfl, rfl, htrail⟩
    exact ⟨trail, rfl, htrail⟩
  · rintro ⟨trail, rfl, htrail⟩
    exact ⟨word, trail, rfl, rfl, htrail⟩

theorem trailed_headerBody_iff {line : Text} :
    Trailed HeaderBody line ↔ ∃ gap name trail, line = Keyword.function ++ (gap ++ name ++ trail) ∧
      (gap ≠ [] ∧ Text.isBlank gap) ∧ IsName name ∧ Text.isBlank trail := by
  constructor
  · rintro ⟨_, trail, rfl, ⟨gap, name, rfl, hne, hgap, hname⟩, htrail⟩
    exact ⟨gap, name, trail, List.append_assoc .., ⟨hne, hgap⟩, hname, htrail⟩
  · rintro ⟨gap, name, trail, rfl, ⟨hne, hgap⟩, hname, htrail⟩
    exact ⟨_, trail, (List.append_assoc ..).symm, ⟨gap, name, rfl, hne, hgap, hname⟩, htrail⟩

theorem trailed_nameBody_iff {line : Text} :
    Trailed NameBody line ↔ ∃ lead name trail, line = lead ++ name ++ trail ∧
      Text.isBlank lead ∧ IsName name ∧ Text.isBlank trail := by
  constructor
  · rintro ⟨_, trail, rfl, ⟨lead, name, rfl, hlead, hname⟩, htrail⟩
    exact ⟨lead, name, trail, rfl, hlead, hname, htrail⟩
  · rintro ⟨lead, name, trail, rfl, hlead, hname, htrail⟩
    exact ⟨_, trail, rfl, ⟨lead, name, rfl, hlead, hname⟩, htrail⟩

/-- A blank more at the end of a line belongs to the blanks behind its body. -/
theorem trailed_append_iff {bodies : Text → Prop} (hbodies : ∀ body, bodies body → EndsVisibly body)
    {line : Text} {c : CodePoint} (hc : c.isBlank) :
    Trailed bodies (line ++ [c]) ↔ Trailed bodies line := by
  constructor
  · rintro ⟨body, trail, heq, hbody, htrail⟩
    rcases List.eq_nil_or_concat trail with rfl | ⟨short, d, rfl⟩
    · -- without blanks the line ends as its body does, visibly
      obtain ⟨init, last, rfl, hlast⟩ := hbodies body hbody
      rw [List.append_nil] at heq
      have hlc : c = last := List.singleton_inj.1 (List.append_inj_right' heq rfl)
      rw [← hlc, hc] at hlast
      exact absurd hlast.symm Bool.false_ne_true
    · rw [List.concat_eq_append, ← List.append_assoc] at heq
      rw [List.concat_eq_append, Text.isBlank_append, Bool.and_eq_true] at htrail
      exact ⟨body, short, List.append_inj_left' heq rfl, hbody, htrail.1⟩
  · rintro ⟨body, trail, rfl, hbody, htrail⟩
    refine ⟨body, trail ++ [c], List.append_assoc .., hbody, ?_⟩
    rw [Text.isBlank_append, htrail]
    simp [Text.isBlank, hc]

/-- A line with a visible body is not blank. -/
theorem not_isBlank_of_trailed {bodies : Text → Prop} (hbodies : ∀ body, bodies body → EndsVisibly body)
    {line : Text} (h : Trailed bodies line) : ¬Text.isBlank line := by
  obtain ⟨body, trail, rfl, hbody, -⟩ := h
  obtain ⟨init, last, rfl, hlast⟩ := hbodies body hbody
  intro hblank
  rw [Text.isBlank_iff.1 hblank last (by simp)] at hlast
  exact Bool.false_ne_true hlast.symm

theorem endsVisibly_append {body : Text} (h : EndsVisibly body) (before : Text) :
    EndsVisibly (before ++ body) := by
  obtain ⟨init, last, rfl, hlast⟩ := h
  exact ⟨before ++ init, last, (List.append_assoc ..).symm, hlast⟩

theorem endsVisibly_of_isName {name : Text} (h : IsName name) : EndsVisibly name := by
  refine ⟨name.dropLast, name.getLast h.1, (List.dropLast_concat_getLast h.1).symm, ?_⟩
  exact CodePoint.isBlank_of_isWord (h.2 _ (List.getLast_mem h.1))

theorem HeaderBody.endsVisibly {body : Text} (h : HeaderBody body) : EndsVisibly body := by
  obtain ⟨gap, name, rfl, -, -, hname⟩ := h
  exact endsVisibly_append (endsVisibly_append (endsVisibly_of_isName hname) gap) _

theorem NameBody.endsVisibly {body : Text} (h : NameBody body) : EndsVisibly body := by
  obtain ⟨lead, name, rfl, -, hname⟩ := h
  exact endsVisibly_append (endsVisibly_of_isName hname) lead

theorem isName_function : IsName Keyword.function := by
  refine ⟨by decide, ?_⟩
  decide +kernel

theorem isName_blockEnd : IsName Keyword.blockEnd := by
  refine ⟨by decide, ?_⟩
  decide +kernel

/-- What follows a keyword is blank if the line is the keyword with blanks behind it. -/
theorem any_isBlank_after?_iff {keyword line : Text} :
    (Text.after? keyword line).any Text.isBlank ↔ Trailed (· = keyword) line := by
  simp only [Option.any_eq_true, Text.after?_eq_some_iff]
  constructor
  · rintro ⟨trail, rfl, htrail⟩
    exact ⟨keyword, trail, rfl, rfl, htrail⟩
  · rintro ⟨body, trail, rfl, rfl, htrail⟩
    exact ⟨trail, rfl, htrail⟩

theorem isEnd_iff {line : Text} : isEnd line ↔ Trailed (· = Keyword.blockEnd) line :=
  any_isBlank_after?_iff

theorem isBareKeyword_iff {line : Text} :
    isBareKeyword line ↔ Trailed (· = Keyword.function) line :=
  any_isBlank_after?_iff

theorem isName_iff {line : Text} : isName line ↔ Trailed NameBody line := by
  simp only [isName, Option.any_eq_true]
  constructor
  · rintro ⟨⟨name, trail⟩, hword, htrail⟩
    -- the reader looks for the name behind the blanks with which the line starts
    obtain ⟨hne, hdrop, hname, -⟩ := Text.word?_eq_some_iff.1 hword
    obtain ⟨hline, hlead, -⟩ := Text.takeWhile_dropWhile_eq_iff.1 ⟨rfl, hdrop⟩
    refine ⟨line.takeWhile CodePoint.isBlank ++ name, trail, ?_, ?_, htrail⟩
    · rw [List.append_assoc]
      exact hline
    · exact ⟨_, name, rfl, Text.isBlank_iff.2 hlead, hne, hname⟩
  · rintro ⟨body, trail, rfl, ⟨lead, name, rfl, hlead, hname⟩, htrail⟩
    refine ⟨(name, trail), ?_, htrail⟩
    rw [List.append_assoc, hname.dropWhile_append hlead, hname.word?_append htrail]

theorem isHeader_iff {line : Text} : isHeader line ↔ Trailed HeaderBody line := by
  simp only [isHeader, Option.any_eq_true, Option.bind_eq_some_iff, Text.after?_eq_some_iff,
    isName_iff]
  constructor
  · -- the gap has been taken as a whole, so that no blanks are left in front of the name;
    -- since `NameBody` allows some, they are counted to the gap
    rintro ⟨rest, ⟨tail, rfl, hgap⟩, body, trail, rfl, ⟨lead, name, rfl, hlead, hname⟩, htrail⟩
    obtain ⟨gap, hne, rfl, hblank, -⟩ := Text.afterBlanks?_eq_some_iff.1 hgap
    refine ⟨Keyword.function ++ (gap ++ lead ++ name), trail, by simp, ?_, htrail⟩
    refine ⟨gap ++ lead, name, rfl, List.append_ne_nil_of_left_ne_nil hne lead, ?_, hname⟩
    rw [Text.isBlank_append, hlead, Bool.and_true]
    exact Text.isBlank_iff.2 hblank
  · rintro ⟨body, trail, rfl, ⟨gap, name, rfl, hne, hgap, hname⟩, htrail⟩
    have hblanks := hname.afterBlanks?_append ⟨hne, hgap⟩ trail
    refine ⟨name ++ trail, ⟨gap ++ (name ++ trail), by simp, hblanks⟩, name, trail, rfl, ?_, htrail⟩
    exact ⟨[], name, rfl, rfl, hname⟩

/-- A shape that is given by visible bodies does not see a blank more at the end. -/
theorem shape_append_blank {shape : Text → Bool} {bodies : Text → Prop}
    (hshape : ∀ line, shape line ↔ Trailed bodies line)
    (hbodies : ∀ body, bodies body → EndsVisibly body) (line : Text) {c : CodePoint}
    (hc : c.isBlank) : shape (line ++ [c]) = shape line := by
  rw [Bool.eq_iff_iff, hshape, hshape]
  exact trailed_append_iff hbodies hc

namespace Progress

/-- The scan does not see a blank more at the end of a line. -/
theorem next_append_blank (progress : Progress) (line : Text) {c : CodePoint} (hc : c.isBlank) :
    progress.next (line ++ [c]) = progress.next line := by
  have hblank : Text.isBlank (line ++ [c]) = Text.isBlank line := by
    rw [Text.isBlank_append]
    simp [Text.isBlank, hc]
  have hend : isEnd (line ++ [c]) = isEnd line :=
    shape_append_blank (fun _ => isEnd_iff)
      (fun _ h => h ▸ endsVisibly_of_isName isName_blockEnd) line hc
  have hbare : isBareKeyword (line ++ [c]) = isBareKeyword line :=
    shape_append_blank (fun _ => isBareKeyword_iff)
      (fun _ h => h ▸ endsVisibly_of_isName isName_function) line hc
  have hheader : isHeader (line ++ [c]) = isHeader line :=
    shape_append_blank (fun _ => isHeader_iff) (fun _ h => h.endsVisibly) line hc
  have hname : isName (line ++ [c]) = isName line :=
    shape_append_blank (fun _ => isName_iff) (fun _ h => h.endsVisibly) line hc
  cases progress <;> simp only [next, ofLine, hblank, hend, hbare, hheader, hname]

theorem next_withoutReturn (progress : Progress) (line : Text) :
    progress.next (Text.withoutReturn line) = progress.next line := by
  obtain h | h := Text.withoutReturn_eq_or line
  · rw [h]
  · calc progress.next (Text.withoutReturn line)
        = progress.next (Text.withoutReturn line ++ [Text.carriageReturn]) :=
          (next_append_blank progress _ Text.isBlank_carriageReturn).symm
      _ = progress.next line := by rw [← h]

end Progress

end Block

end FishScript
