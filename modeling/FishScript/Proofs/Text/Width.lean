import FishScript.Text.Units

/-!
# The width of a text

A text without surrogates is as wide as it has code points, and one more for each code point
that needs two code units. Any other text has a first surrogate.

## Main definitions

- `Text.Encodable` — a text without surrogates
- `Text.width` — the code points of a text, those above U+FFFF counted twice

## Main results

- `Text.Encodable.units_eq` — the length in code units is the width
- `Text.exists_first_surrogate` — where a text fails to be encodable
-/

namespace FishScript

/-- Something holds throughout a list, or there is a first entry for which it does not. -/
theorem forall_or_exists_first {α : Type} (P : α → Prop) [DecidablePred P] (entries : List α) :
    (∀ entry ∈ entries, P entry) ∨
      ∃ before entry after, entries = before ++ entry :: after ∧ (∀ other ∈ before, P other) ∧
        ¬P entry := by
  induction entries with
  | nil => exact Or.inl fun _ h => absurd h List.not_mem_nil
  | cons first entries ih =>
    by_cases hfirst : P first
    · obtain hall | ⟨before, entry, after, rfl, hbefore, hentry⟩ := ih
      · exact Or.inl (List.forall_mem_cons.2 ⟨hfirst, hall⟩)
      · exact Or.inr ⟨first :: before, entry, after, rfl,
          List.forall_mem_cons.2 ⟨hfirst, hbefore⟩, hentry⟩
    · exact Or.inr ⟨[], first, entries, rfl, fun _ h => absurd h List.not_mem_nil, hfirst⟩

namespace Text

/-- A text that has an encoding: no code point of it is a surrogate. -/
def Encodable (text : Text) : Prop :=
  ∀ c ∈ text, c.isSurrogate = false

/-- The number of code points, those above U+FFFF counted twice. -/
def width (text : Text) : Nat :=
  text.length + text.countP fun c => 0xFFFF < c.val

instance (text : Text) : Decidable text.Encodable :=
  inferInstanceAs (Decidable (∀ c ∈ text, c.isSurrogate = false))

/-- The code units of the code points add up to the width. -/
theorem foldr_units_eq_width (text : Text) :
    text.foldr (fun c total => c.units + total) 0 = text.width := by
  induction text with
  | nil => rfl
  | cons c text ih =>
    rw [List.foldr_cons, ih, width, width, List.length_cons, List.countP_cons, CodePoint.units]
    by_cases h : c.val < 0x10000
    · have hsmall : ¬0xFFFF < c.val := by omega
      simp only [h, hsmall, if_true, decide_false, Bool.false_eq_true, if_false]
      omega
    · have hlarge : 0xFFFF < c.val := by omega
      simp only [h, hlarge, if_true, decide_true, if_false]
      omega

theorem Encodable.units_eq {text : Text} (h : Encodable text) : text.units = .ok text.width := by
  rw [units_of_forall h, foldr_units_eq_width]

/-- A text that is not encodable has a first surrogate. -/
theorem exists_first_surrogate {text : Text} (h : ¬Encodable text) :
    ∃ before c after, text = before ++ c :: after ∧ Encodable before ∧ c.isSurrogate := by
  obtain hall | ⟨before, c, after, htext, hbefore, hc⟩ :=
    forall_or_exists_first (fun c : CodePoint => c.isSurrogate = false) text
  · exact absurd hall h
  · exact ⟨before, c, after, htext, hbefore, (Bool.not_eq_false _).mp hc⟩

end Text

end FishScript
