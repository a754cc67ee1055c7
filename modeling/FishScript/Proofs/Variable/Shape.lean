import FishScript.Proofs.Text.Names
import FishScript.Script.VariableLine

/-!
# What a well formed variable line looks like

The check of a variable line reads it from left to right and never goes back. Here its
shape is written down as a whole: the keyword, a gap and a name, then any number of quoted
values with a gap in front of each, then blanks.

## Main definitions

- `VariableLine.Spaced` — quoted values, each with a gap in front of it
- `VariableLine.Shape` — the lines that declare a variable as they should

## Main results

- `VariableLine.areValues_iff` — what the check accepts behind the name
- `VariableLine.isWellFormed_iff` — what it accepts as a whole
-/

namespace FishScript

namespace VariableLine

open Text (IsName isBlank quote)

/-- Some quoted values, each with a gap in front of it. The gaps and the values are given in
pairs; a value has no quote in it. -/
def Spaced (values : List (Text × Text)) : Prop :=
  ∀ value ∈ values, (value.1 ≠ [] ∧ isBlank value.1) ∧ quote ∉ value.2

/-- The text of some quoted values with the gaps in front of them. -/
def spelled (values : List (Text × Text)) : Text :=
  values.flatMap fun value => value.1 ++ quote :: (value.2 ++ [quote])

/-- The keyword, a gap and a name, quoted values with a gap in front of each, and blanks. -/
def Shape (line : Text) : Prop :=
  ∃ gap name values trail, line = Keyword.set ++ gap ++ name ++ spelled values ++ trail ∧
    (gap ≠ [] ∧ isBlank gap) ∧ IsName name ∧ Spaced values ∧ isBlank trail

theorem spelled_cons (value : Text × Text) (values : List (Text × Text)) :
    spelled (value :: values) = value.1 ++ quote :: (value.2 ++ quote :: spelled values) := by
  simp [spelled]

theorem isBlank_quote : quote.isBlank = false := by decide

/-- A quote is visible: a text that holds one is not blank. -/
theorem not_isBlank_of_quote (before after : Text) :
    isBlank (before ++ quote :: after) = false := by
  rw [Bool.eq_false_iff]
  intro hblank
  have hquote : quote.isBlank := Text.isBlank_iff.1 hblank quote (by simp)
  rw [isBlank_quote] at hquote
  exact Bool.false_ne_true hquote

/-! ### Values -/

theorem afterValue?_eq_some_iff {text rest : Text} :
    afterValue? text = some rest ↔
      ∃ gap value, text = gap ++ quote :: (value ++ quote :: rest) ∧
        (gap ≠ [] ∧ isBlank gap) ∧ quote ∉ value := by
  simp only [afterValue?, Option.bind_eq_some_iff, Text.afterBlanks?_eq_some_iff,
    Text.afterQuoted?_eq_some_iff]
  constructor
  · rintro ⟨_, ⟨gap, hne, rfl, hgap, -⟩, value, rfl, hvalue⟩
    exact ⟨gap, value, rfl, ⟨hne, Text.isBlank_iff.2 hgap⟩, hvalue⟩
  · rintro ⟨gap, value, rfl, ⟨hne, hgap⟩, hvalue⟩
    refine ⟨_, ⟨gap, hne, rfl, Text.isBlank_iff.1 hgap, ?_⟩, value, rfl, hvalue⟩
    intro c hc
    rw [← Option.some.inj hc]
    exact isBlank_quote

/-- The check reads one value and its gap at a time. -/
theorem afterValue?_spelled {value : Text × Text} {values : List (Text × Text)}
    (h : Spaced (value :: values)) (trail : Text) :
    afterValue? (spelled (value :: values) ++ trail) = some (spelled values ++ trail) := by
  obtain ⟨hgap, hvalue⟩ := h value List.mem_cons_self
  refine afterValue?_eq_some_iff.2 ⟨value.1, value.2, ?_, hgap, hvalue⟩
  rw [spelled_cons]
  simp

/-- The check accepts behind a name what consists of values and blanks. -/
theorem areValues_iff {text : Text} :
    areValues text ↔ ∃ values trail, text = spelled values ++ trail ∧ Spaced values ∧
      isBlank trail := by
  induction hlength : text.length using Nat.strongRecOn generalizing text with
  | _ n ih =>
    cases hafter : afterValue? text with
    | some rest =>
      have hshorter : rest.length < n := hlength ▸ length_lt_of_afterValue? hafter
      rw [areValues_of_afterValue? hafter, ih rest.length hshorter rfl]
      obtain ⟨gap, value, rfl, hgap, hvalue⟩ := afterValue?_eq_some_iff.1 hafter
      constructor
      · rintro ⟨values, trail, rfl, hvalues, htrail⟩
        refine ⟨(gap, value) :: values, trail, ?_, ?_, htrail⟩
        · rw [spelled_cons]
          simp
        · exact List.forall_mem_cons.2 ⟨⟨hgap, hvalue⟩, hvalues⟩
      · rintro ⟨values, trail, htext, hvalues, htrail⟩
        cases values with
        | nil =>
          -- blanks alone hold no quote
          have hblank : isBlank (gap ++ quote :: (value ++ quote :: rest)) := by
            rw [htext]
            exact htrail
          rw [not_isBlank_of_quote] at hblank
          exact absurd hblank Bool.false_ne_true
        | cons first values =>
          have hrest := afterValue?_spelled hvalues trail
          rw [← htext, hafter] at hrest
          exact ⟨values, trail, Option.some.inj hrest, (List.forall_mem_cons.1 hvalues).2, htrail⟩
    | none =>
      rw [areValues_of_afterValue?_eq_none hafter]
      constructor
      · intro hblank
        exact ⟨[], text, rfl, fun _ h => absurd h List.not_mem_nil, hblank⟩
      · rintro ⟨values, trail, rfl, hvalues, htrail⟩
        cases values with
        | nil => exact htrail
        | cons first values =>
          rw [afterValue?_spelled hvalues] at hafter
          exact absurd hafter (Option.some_ne_none _)

/-! ### Lines -/

/-- No word character starts what follows a name. -/
theorem startsOutside_isWord_spelled {values : List (Text × Text)} (h : Spaced values)
    {trail : Text} (htrail : isBlank trail) :
    Text.StartsOutside CodePoint.isWord (spelled values ++ trail) := by
  cases values with
  | nil => exact Text.startsOutside_isWord_of_isBlank htrail
  | cons value values =>
    obtain ⟨⟨hne, hgap⟩, -⟩ := h value List.mem_cons_self
    obtain ⟨d, gap, hd⟩ := List.exists_cons_of_ne_nil hne
    intro c hc
    rw [spelled_cons, hd] at hc
    have hdc : d = c := Option.some.inj hc
    have hblank : d.isBlank := Text.isBlank_iff.1 hgap d (by simp [hd])
    exact CodePoint.isWord_of_isBlank (hdc ▸ hblank)

/-- The check accepts exactly the lines of the shape. -/
theorem isWellFormed_iff {line : Text} : isWellFormed line ↔ Shape line := by
  simp only [isWellFormed, Option.any_eq_true, Option.bind_eq_some_iff, Text.after?_eq_some_iff,
    areValues_iff]
  constructor
  · rintro ⟨⟨name, rest⟩, ⟨after, ⟨tail, rfl, hgap⟩, hword⟩, values, trail, hrest, hvalues, htrail⟩
    obtain ⟨gap, hne, rfl, hblank, -⟩ := Text.afterBlanks?_eq_some_iff.1 hgap
    obtain ⟨hname, rfl, hall, -⟩ := Text.word?_eq_some_iff.1 hword
    refine ⟨gap, name, values, trail, ?_, ⟨hne, Text.isBlank_iff.2 hblank⟩, ⟨hname, hall⟩,
      hvalues, htrail⟩
    have hrest : rest = spelled values ++ trail := hrest
    rw [hrest]
    simp
  · rintro ⟨gap, name, values, trail, rfl, hgap, hname, hvalues, htrail⟩
    have hblanks := hname.afterBlanks?_append hgap (spelled values ++ trail)
    have hword := hname.word?_append_of_startsOutside
      (startsOutside_isWord_spelled hvalues htrail)
    exact ⟨_, ⟨_, ⟨_, by simp, hblanks⟩, hword⟩, values, trail, rfl, hvalues, htrail⟩

end VariableLine

end FishScript
