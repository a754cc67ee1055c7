/-!
# Tables of code point ranges

A property of code points is given as a list of closed ranges. Membership is
decided by comparing a number with the ends of each range in turn.

## Main definitions

- `Ranges` — closed ranges of numbers, first and last
- `Ranges.contains` — whether a number lies in one of them
- `Ranges.disjoint` — a test which shows that two tables share no number
-/

namespace FishScript

/-- Closed ranges, each given by its first and its last number. -/
abbrev Ranges := List (Nat × Nat)

namespace Ranges

def contains (ranges : Ranges) (n : Nat) : Bool :=
  ranges.any fun range => range.1 ≤ n && n ≤ range.2

theorem contains_iff {ranges : Ranges} {n : Nat} :
    ranges.contains n ↔ ∃ range ∈ ranges, range.1 ≤ n ∧ n ≤ range.2 := by
  simp [contains]

/-- Whether each range of one table ends before each range of the other begins,
or the other way round. -/
def disjoint (r s : Ranges) : Bool :=
  r.all fun a => s.all fun b => decide (a.2 < b.1) || decide (b.2 < a.1)

theorem disjoint.not_contains {r s : Ranges} (h : disjoint r s) {n : Nat}
    (hn : r.contains n) : s.contains n = false := by
  obtain ⟨a, ha, h₁, h₂⟩ := contains_iff.1 hn
  rw [Bool.eq_false_iff]
  intro hs
  obtain ⟨b, hb, h₃, h₄⟩ := contains_iff.1 hs
  simp only [disjoint, List.all_eq_true, Bool.or_eq_true, decide_eq_true_eq] at h
  have := h a ha b hb
  omega

end Ranges

end FishScript
