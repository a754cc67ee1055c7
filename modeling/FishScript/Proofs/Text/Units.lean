import FishScript.Proofs.Text.Width

/-!
# The length of two texts one behind the other

Lengths in code units add up where both exist. Otherwise the first surrogate of the two texts
is why there is no length: it may stand in either of them, and the code points in front of it
are counted, not the code units.

## Main definitions

- `Text.FirstSurrogate` — the first surrogate of a text and where it stands

## Main results

- `Text.FirstSurrogate.append_right`, `Text.FirstSurrogate.append_left` — the first surrogate of
  two texts
- `Text.units_append` — the length of two texts, or why there is none
-/

namespace FishScript

namespace Text

/-- The first surrogate of a text, and the number of code points in front of it. -/
def FirstSurrogate (text : Text) (found : Unencodable) : Prop :=
  ∃ before after, text = before ++ found.codePoint :: after ∧ Encodable before ∧
    found.codePoint.isSurrogate ∧ found.position = before.length

theorem firstSurrogate_of_not_encodable {text : Text} (h : ¬Encodable text) :
    ∃ found, FirstSurrogate text found := by
  obtain ⟨before, c, after, htext, hbefore, hc⟩ := exists_first_surrogate h
  exact ⟨⟨c, before.length⟩, before, after, htext, hbefore, hc, rfl⟩

theorem FirstSurrogate.units_eq {text : Text} {found : Unencodable}
    (h : FirstSurrogate text found) : text.units = .error found := by
  obtain ⟨c, position⟩ := found
  obtain ⟨before, after, rfl, hbefore, hc, rfl⟩ := h
  exact units_of_surrogate hbefore hc

theorem encodable_append {a b : Text} : Encodable (a ++ b) ↔ Encodable a ∧ Encodable b :=
  List.forall_mem_append

/-- What follows the first surrogate of a text does not matter. -/
theorem FirstSurrogate.append_right {a : Text} {found : Unencodable}
    (h : FirstSurrogate a found) (b : Text) : FirstSurrogate (a ++ b) found := by
  obtain ⟨before, after, rfl, hbefore, hc, hposition⟩ := h
  exact ⟨before, after ++ b, List.append_assoc _ _ _, hbefore, hc, hposition⟩

/-- Code points in front of a text move its first surrogate by their number. -/
theorem FirstSurrogate.append_left {a b : Text} {found : Unencodable} (ha : Encodable a)
    (h : FirstSurrogate b found) :
    FirstSurrogate (a ++ b) ⟨found.codePoint, a.length + found.position⟩ := by
  obtain ⟨before, after, rfl, hbefore, hc, hposition⟩ := h
  refine ⟨a ++ before, after, (List.append_assoc _ _ _).symm, encodable_append.2 ⟨ha, hbefore⟩,
    hc, ?_⟩
  rw [List.length_append, hposition]

theorem width_append (a b : Text) : width (a ++ b) = a.width + b.width := by
  simp only [width, List.length_append, List.countP_append]
  omega

theorem length_le_width (text : Text) : text.length ≤ text.width :=
  Nat.le_add_right _ _

theorem width_le_two_mul_length (text : Text) : text.width ≤ 2 * text.length := by
  have hcount : (text.countP fun c => 0xFFFF < c.val) ≤ text.length := List.countP_le_length
  rw [width]
  omega

/-- The length in code units of two texts, one behind the other. If neither has a surrogate, the
lengths add up to the number of code points, those above U+FFFF counted twice. A surrogate in
the first text is why there is no length, at its own place. A surrogate in the second alone is
found behind all code points of the first. Surrogates that meet where the texts do are not
joined. -/
theorem units_append (a b : Text) :
    (Encodable a → Encodable b → ∃ m n, a.units = .ok m ∧ b.units = .ok n ∧
      units (a ++ b) = .ok (m + n) ∧
      m + n = (a ++ b).length + (a ++ b).countP (fun c => 0xFFFF < c.val) ∧
      (a ++ b).length ≤ m + n ∧ m + n ≤ 2 * (a ++ b).length) ∧
    (¬Encodable a → ∃ found, FirstSurrogate a found ∧ a.units = .error found ∧
      units (a ++ b) = .error found) ∧
    (Encodable a → ¬Encodable b → ∃ found, FirstSurrogate b found ∧ b.units = .error found ∧
      units (a ++ b) = .error ⟨found.codePoint, a.length + found.position⟩) := by
  refine ⟨fun ha hb => ?_, fun ha => ?_, fun ha hb => ?_⟩
  · refine ⟨a.width, b.width, ha.units_eq, hb.units_eq, ?_⟩
    rw [← width_append]
    exact ⟨(encodable_append.2 ⟨ha, hb⟩).units_eq, rfl, length_le_width _,
      width_le_two_mul_length _⟩
  · obtain ⟨found, hfound⟩ := firstSurrogate_of_not_encodable ha
    exact ⟨found, hfound, hfound.units_eq, (hfound.append_right b).units_eq⟩
  · obtain ⟨found, hfound⟩ := firstSurrogate_of_not_encodable hb
    exact ⟨found, hfound, hfound.units_eq, (hfound.append_left ha).units_eq⟩

/-- The fish has two code units and one place. Behind it, the halves of a pair stay halves, also
if the second text starts with the second of them. -/
theorem units_of_split_pair :
    let high : CodePoint := ⟨0xD83D, by decide⟩
    let low : CodePoint := ⟨0xDC1F, by decide⟩
    let fish : Text := ofString "🐟"
    (Encodable fish ∧ ¬Encodable [high, low] ∧ units fish = .ok 2 ∧
      units (fish ++ [high, low]) = .error ⟨high, 1⟩) ∧
    ¬Encodable (fish ++ [high]) ∧ units (fish ++ [high] ++ [low]) = .error ⟨high, 1⟩ := by
  intro high low fish
  have hfish : Encodable fish := by decide
  have hpair : ¬Encodable [high, low] := by decide
  have hsplit : ¬Encodable (fish ++ [high]) := by decide
  obtain ⟨found, -, hfound, hbehind⟩ := (units_append fish [high, low]).2.2 hfish hpair
  obtain rfl : ⟨high, 0⟩ = found := Except.error.inj hfound
  obtain ⟨first, -, hfirst, hjoined⟩ := (units_append (fish ++ [high]) [low]).2.1 hsplit
  obtain rfl : ⟨high, 1⟩ = first := Except.error.inj hfirst
  exact ⟨⟨hfish, hpair, rfl, hbehind⟩, hsplit, hjoined⟩

end Text

end FishScript
