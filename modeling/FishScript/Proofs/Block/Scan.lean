import FishScript.Proofs.Block.LineShapes

/-!
# What the scan for a function block finds

The scan goes over the lines once and keeps four states. What it finds can be said
without the states: somewhere in the list there is a heading, on one line or on several,
and later a line that closes it.

## Main definitions

- `Block.Heading` — the lines that make up a heading
- `Block.HasBlock` — a list of lines with a heading and a later end
- `Block.Progress.ClosedBy` — what the remaining lines have to hold in each state

## Main results

- `Block.Progress.closedBy_cons` — one line of the scan
- `Block.occursIn_iff_hasBlock` — the scan finds a block exactly when there is one
- `Block.occursIn_lines` — carriage returns make no difference to it
-/

namespace FishScript

namespace Block

/-- Some line closes a block. -/
def HasEnd (lines : List Text) : Prop :=
  ∃ line ∈ lines, isEnd line

/-- The lines go on, behind blank ones, with a name and, later, an end. -/
def NameThenEnd (lines : List Text) : Prop :=
  ∃ blanks name rest, lines = blanks ++ name :: rest ∧ (∀ line ∈ blanks, Text.isBlank line) ∧
    isName name ∧ HasEnd rest

/-- A heading is a header on one line, or the bare keyword, blank lines and a name. -/
def Heading (lines : List Text) : Prop :=
  (∃ header, lines = [header] ∧ isHeader header) ∨
    ∃ bare blanks name, lines = bare :: (blanks ++ [name]) ∧ isBareKeyword bare ∧
      (∀ line ∈ blanks, Text.isBlank line) ∧ isName name

/-- There is a heading somewhere in the lines, and an end behind it. -/
def HasBlock (lines : List Text) : Prop :=
  ∃ before heading rest, lines = before ++ (heading ++ rest) ∧ Heading heading ∧ HasEnd rest

theorem hasEnd_cons {line : Text} {lines : List Text} :
    HasEnd (line :: lines) ↔ isEnd line ∨ HasEnd lines := by
  simp [HasEnd]

theorem hasEnd_append_right {front back : List Text} (h : HasEnd back) :
    HasEnd (front ++ back) := by
  obtain ⟨line, hmem, hend⟩ := h
  exact ⟨line, List.mem_append_right front hmem, hend⟩

theorem NameThenEnd.hasEnd {lines : List Text} (h : NameThenEnd lines) : HasEnd lines := by
  obtain ⟨blanks, name, rest, rfl, -, -, hend⟩ := h
  exact hasEnd_append_right (hasEnd_cons.2 (Or.inr hend))

theorem HasBlock.hasEnd {lines : List Text} (h : HasBlock lines) : HasEnd lines := by
  obtain ⟨before, heading, rest, rfl, -, hend⟩ := h
  exact hasEnd_append_right (hasEnd_append_right hend)

theorem not_nameThenEnd_nil : ¬NameThenEnd [] := by
  rintro ⟨blanks, name, rest, h, -⟩
  exact List.append_ne_nil_of_right_ne_nil blanks (List.cons_ne_nil name rest) h.symm

theorem nameThenEnd_cons {line : Text} {lines : List Text} :
    NameThenEnd (line :: lines) ↔
      (Text.isBlank line ∧ NameThenEnd lines) ∨ (isName line ∧ HasEnd lines) := by
  constructor
  · rintro ⟨blanks, name, rest, heq, hblanks, hname, hend⟩
    cases blanks with
    | nil =>
      obtain ⟨rfl, rfl⟩ := List.cons.inj heq
      exact Or.inr ⟨hname, hend⟩
    | cons first blanks =>
      obtain ⟨rfl, rfl⟩ := List.cons.inj heq
      obtain ⟨hfirst, hblanks⟩ := List.forall_mem_cons.1 hblanks
      exact Or.inl ⟨hfirst, blanks, name, rest, rfl, hblanks, hname, hend⟩
  · rintro (⟨hblank, blanks, name, rest, rfl, hblanks, hname, hend⟩ | ⟨hname, hend⟩)
    · exact ⟨line :: blanks, name, rest, rfl, List.forall_mem_cons.2 ⟨hblank, hblanks⟩, hname, hend⟩
    · exact ⟨[], line, lines, rfl, by simp, hname, hend⟩

theorem not_hasBlock_nil : ¬HasBlock [] := by
  intro h
  obtain ⟨line, hmem, -⟩ := h.hasEnd
  exact List.not_mem_nil hmem

theorem hasBlock_cons {line : Text} {lines : List Text} :
    HasBlock (line :: lines) ↔
      (isHeader line ∧ HasEnd lines) ∨ (isBareKeyword line ∧ NameThenEnd lines) ∨
        HasBlock lines := by
  constructor
  · rintro ⟨before, heading, rest, heq, hheading, hend⟩
    -- the first line is passed over, or the heading begins with it
    cases before with
    | cons first before =>
      obtain ⟨rfl, rfl⟩ := List.cons.inj heq
      exact Or.inr (Or.inr ⟨before, heading, rest, rfl, hheading, hend⟩)
    | nil =>
      obtain ⟨header, rfl, hheader⟩ | ⟨bare, blanks, name, rfl, hbare, hblanks, hname⟩ := hheading
      · obtain ⟨rfl, rfl⟩ := List.cons.inj heq
        exact Or.inl ⟨hheader, hend⟩
      · obtain ⟨rfl, rfl⟩ := List.cons.inj heq
        exact Or.inr (Or.inl ⟨hbare, blanks, name, rest, by simp, hblanks, hname, hend⟩)
  · rintro (⟨hheader, hend⟩ | ⟨hbare, blanks, name, rest, rfl, hblanks, hname, hend⟩ |
      ⟨before, heading, rest, rfl, hheading, hend⟩)
    · exact ⟨[], [line], lines, rfl, Or.inl ⟨line, rfl, hheader⟩, hend⟩
    · refine ⟨[], line :: (blanks ++ [name]), rest, by simp, ?_, hend⟩
      exact Or.inr ⟨line, blanks, name, rfl, hbare, hblanks, hname⟩
    · exact ⟨line :: before, heading, rest, rfl, hheading, hend⟩

/-- Behind the bare keyword there is no name on its line. -/
theorem not_isHeader_of_isBareKeyword {line : Text} (h : isBareKeyword line) :
    ¬isHeader line := by
  rw [isHeader_iff]
  rintro ⟨body, trail, rfl, ⟨gap, name, rfl, -, -, hname⟩, -⟩
  obtain ⟨_, blanks, heq, rfl, hblanks⟩ := isBareKeyword_iff.1 h
  rw [List.append_assoc, List.append_right_inj, List.append_assoc] at heq
  rw [← heq, hname.isBlank_append] at hblanks
  exact Bool.false_ne_true hblanks

/-- A blank line has none of the shapes that the scan looks for outside of a block. -/
theorem not_shape_of_isBlank {line : Text} (h : Text.isBlank line) :
    ¬isName line ∧ ¬isBareKeyword line ∧ ¬isHeader line := by
  rw [isName_iff, isBareKeyword_iff, isHeader_iff]
  refine ⟨fun hname => ?_, fun hbare => ?_, fun hheader => ?_⟩
  · exact not_isBlank_of_trailed (fun _ hbody => hbody.endsVisibly) hname h
  · exact not_isBlank_of_trailed
      (fun body (hbody : body = _) => hbody ▸ endsVisibly_of_isName isName_function) hbare h
  · exact not_isBlank_of_trailed (fun _ hbody => hbody.endsVisibly) hheader h

namespace Progress

/-- What the remaining lines hold if the scan is going to end in the closed state. -/
def ClosedBy : Progress → List Text → Prop
  | .outside, lines => HasBlock lines
  | .awaitingName, lines => NameThenEnd lines ∨ HasBlock lines
  | .opened, lines => HasEnd lines
  | .closed, _ => True

/-- One line of the scan when no header has begun. A header that is dropped in favour of
an earlier one is no loss, since the end behind it closes the earlier one as well. -/
theorem closedBy_ofLine (line : Text) (lines : List Text) :
    (ofLine line).ClosedBy lines ↔ HasBlock (line :: lines) := by
  rw [hasBlock_cons, ofLine]
  by_cases hbare : isBareKeyword line
  · simp [hbare, ClosedBy, not_isHeader_of_isBareKeyword hbare]
  · by_cases hheader : isHeader line
    · simp only [hbare, hheader, if_true, ClosedBy, true_and, false_and, false_or,
        Bool.false_eq_true, if_false]
      exact ⟨Or.inl, fun h => h.elim id HasBlock.hasEnd⟩
    · simp [hbare, hheader, ClosedBy]

/-- One line of the scan, in each of its states. -/
theorem closedBy_cons (progress : Progress) (line : Text) (lines : List Text) :
    progress.ClosedBy (line :: lines) ↔ (progress.next line).ClosedBy lines := by
  cases progress with
  | outside => exact (closedBy_ofLine line lines).symm
  | awaitingName =>
    by_cases hblank : Text.isBlank line
    · obtain ⟨hname, hbare, hheader⟩ := not_shape_of_isBlank hblank
      simp [ClosedBy, next, nameThenEnd_cons, hasBlock_cons, hblank, hname, hbare, hheader]
    · by_cases hname : isName line
      · simp only [ClosedBy, next, nameThenEnd_cons, hblank, hname, if_true, true_and,
          false_and, false_or, Bool.false_eq_true, if_false]
        refine ⟨fun h => h.elim id fun hblock => ?_, Or.inl⟩
        -- a later heading brings its end with it
        obtain ⟨-, hend⟩ | ⟨-, hlater⟩ | hlater := hasBlock_cons.1 hblock
        · exact hend
        · exact hlater.hasEnd
        · exact hlater.hasEnd
      · have hnext : next .awaitingName line = ofLine line := by simp [next, hblank, hname]
        rw [hnext, closedBy_ofLine]
        simp [ClosedBy, nameThenEnd_cons, hblank, hname]
  | opened =>
    by_cases hend : isEnd line
    · simp [ClosedBy, next, hasEnd_cons, hend]
    · simp [ClosedBy, next, hasEnd_cons, hend]
  | closed => exact Iff.rfl

/-- The scan ends in the closed state exactly when the lines hold what its state asks. -/
theorem foldl_next_eq_closed_iff (progress : Progress) (lines : List Text) :
    lines.foldl next progress = .closed ↔ progress.ClosedBy lines := by
  induction lines generalizing progress with
  | nil =>
    cases progress with
    | outside => simp [ClosedBy, not_hasBlock_nil]
    | awaitingName => simp [ClosedBy, not_nameThenEnd_nil, not_hasBlock_nil]
    | opened => simp [ClosedBy, HasEnd]
    | closed => simp [ClosedBy]
  | cons line lines ih => rw [List.foldl_cons, ih, closedBy_cons]

end Progress

/-- The scan finds a block exactly when the lines have one. -/
theorem occursIn_iff_hasBlock (lines : List Text) : occursIn lines ↔ HasBlock lines := by
  rw [occursIn, beq_iff_eq, Progress.foldl_next_eq_closed_iff]
  exact Iff.rfl

/-- The scan may as well go over the pieces of a text with their carriage returns. -/
theorem occursIn_lines (text : Text) : occursIn text.lines = occursIn text.pieces := by
  simp only [occursIn, Text.lines_eq_map_pieces, List.foldl_map, Progress.next_withoutReturn]

end Block

end FishScript
