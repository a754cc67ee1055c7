import FishScript.Text.Runs

/-!
# Names and the blanks around them

No word character is a blank, so a name and the blanks around it can be told apart in one
way only, and the readers find the name wherever a text has one.

## Main definitions

- `Text.IsName` — a name, and nothing else

## Main results

- `Text.IsName.word?_append`, `Text.IsName.afterBlanks?_append` — the readers find a name in
  front of blanks, and the end of blanks in front of a name
- `Text.IsName.isBlank_append` — a text with a name in it is not blank
-/

namespace FishScript

namespace Text

/-- A name and nothing else: one or more word characters. -/
def IsName (name : Text) : Prop :=
  name ≠ [] ∧ ∀ c ∈ name, c.isWord

theorem isBlank_iff {text : Text} : text.isBlank ↔ ∀ c ∈ text, c.isBlank :=
  List.all_eq_true

/-- No word character starts a text of blanks. -/
theorem startsOutside_isWord_of_isBlank {text : Text} (h : text.isBlank) :
    StartsOutside CodePoint.isWord text := by
  intro c hc
  exact CodePoint.isWord_of_isBlank (isBlank_iff.1 h c (List.mem_of_mem_head? hc))

namespace IsName

variable {name : Text}

/-- No blank starts a name. -/
theorem startsOutside_isBlank (h : IsName name) (rest : Text) :
    StartsOutside CodePoint.isBlank (name ++ rest) := by
  intro c hc
  obtain ⟨d, tail, rfl⟩ := List.exists_cons_of_ne_nil h.1
  have hcd : d = c := Option.some.inj hc
  exact CodePoint.isBlank_of_isWord (hcd ▸ h.2 d List.mem_cons_self)

/-- The reader takes a name as a whole if no word character follows it. -/
theorem word?_append_of_startsOutside (h : IsName name) {rest : Text}
    (hrest : StartsOutside CodePoint.isWord rest) : word? (name ++ rest) = some (name, rest) :=
  word?_eq_some_iff.2 ⟨h.1, rfl, h.2, hrest⟩

/-- The reader takes a name as a whole if blanks follow it. -/
theorem word?_append (h : IsName name) {rest : Text} (hrest : rest.isBlank) :
    word? (name ++ rest) = some (name, rest) :=
  h.word?_append_of_startsOutside (startsOutside_isWord_of_isBlank hrest)

/-- Blanks end where a name begins. -/
theorem dropWhile_append (h : IsName name) {blanks : Text} (hblanks : blanks.isBlank)
    (rest : Text) : (blanks ++ (name ++ rest)).dropWhile CodePoint.isBlank = name ++ rest :=
  (takeWhile_dropWhile_eq_iff.2
    ⟨rfl, isBlank_iff.1 hblanks, h.startsOutside_isBlank rest⟩).2

/-- Behind a gap the reader of blanks leaves a name and what follows it. -/
theorem afterBlanks?_append (h : IsName name) {gap : Text} (hgap : gap ≠ [] ∧ gap.isBlank)
    (rest : Text) : afterBlanks? (gap ++ (name ++ rest)) = some (name ++ rest) :=
  afterBlanks?_eq_some_iff.2
    ⟨gap, hgap.1, rfl, isBlank_iff.1 hgap.2, h.startsOutside_isBlank rest⟩

/-- A name is visible: a text that holds one is not blank. -/
theorem isBlank_append (h : IsName name) (before after : Text) :
    isBlank (before ++ (name ++ after)) = false := by
  obtain ⟨c, hc⟩ := List.exists_mem_of_ne_nil name h.1
  rw [Bool.eq_false_iff]
  intro hblank
  have hcb : c.isBlank := isBlank_iff.1 hblank c (by simp [hc])
  rw [CodePoint.isBlank_of_isWord (h.2 c hc)] at hcb
  exact Bool.false_ne_true hcb

/-- A name stays on one line. -/
theorem lineFeed_not_mem (h : IsName name) : lineFeed ∉ name := by
  intro hmem
  have hblank := CodePoint.isBlank_of_isWord (h.2 _ hmem)
  rw [isBlank_lineFeed] at hblank
  exact Bool.false_ne_true hblank.symm

end IsName

end Text

end FishScript
