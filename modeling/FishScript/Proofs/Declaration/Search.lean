import FishScript.Script.Declaration

/-!
# The search for declarations

The search for the names of a script either reads a declaration at the start of a line and
goes on behind its name, or passes over one code point. What it finds up to the next line
feed never depends on what it has read before.

## Main results

- `Declaration.search_induction` — induction along the search
- `Declaration.namesFrom_append_lineFeed` — the search goes on at the start of the next line
-/

namespace FishScript

namespace Declaration

variable {kind : Declaration}

/-- Along the search, a declaration is read or one code point is passed over. -/
@[elab_as_elim]
theorem search_induction {motive : Bool → Text → Prop} (kind : Declaration)
    (nil : ∀ lineStart, motive lineStart [])
    (read : ∀ text name rest, kind.read? text = some (name, rest) → motive false rest →
      motive true text)
    (pass : ∀ lineStart c text, (lineStart = true → kind.read? (c :: text) = none) →
      motive (c == Text.lineFeed) text → motive lineStart (c :: text))
    (lineStart : Bool) (text : Text) : motive lineStart text := by
  induction lineStart, text using namesFrom.induct kind with
  | case1 lineStart => exact nil lineStart
  | case2 lineStart c text name rest hread ih =>
    cases lineStart with
    | false => exact absurd hread (by simp)
    | true => exact read (c :: text) name rest (by simpa using hread) ih
  | case3 lineStart c text hread ih =>
    refine pass lineStart c text (fun hstart => ?_) ih
    simpa [hstart] using hread

/-- Nothing is read inside of a line. -/
theorem namesFrom_false_cons (c : CodePoint) (text : Text) :
    kind.namesFrom false (c :: text) = kind.namesFrom (c == Text.lineFeed) text :=
  namesFrom_cons fun h => absurd h Bool.false_ne_true

/-- Where no declaration is read, the start of a line is like any other place. -/
theorem namesFrom_of_read?_eq_none {text : Text} (h : kind.read? text = none) :
    kind.namesFrom true text = kind.namesFrom false text := by
  cases text with
  | nil => rw [namesFrom_nil, namesFrom_nil]
  | cons c text => rw [namesFrom_cons fun _ => h, namesFrom_false_cons]

/-- Behind the start of a line nothing is read before the next line feed. -/
theorem namesFrom_append_lineFeed {line : Text} (h : Text.lineFeed ∉ line) (rest : Text) :
    kind.namesFrom false (line ++ Text.lineFeed :: rest) = kind.names rest := by
  induction line with
  | nil => exact namesFrom_false_cons Text.lineFeed rest
  | cons c line ih =>
    obtain ⟨hc, hline⟩ := List.ne_and_not_mem_of_not_mem_cons h
    have hfeed : (c == Text.lineFeed) = false := beq_eq_false_iff_ne.2 (Ne.symm hc)
    rw [List.cons_append, namesFrom_false_cons, hfeed, ih hline]

end Declaration

end FishScript
