import FishScript.Proofs.Diagnostic.Findings

/-!
# The diagnostics of some lines

A rule can be checked on lines that were not cut out of a text: they may hold line feeds,
and quotes that nothing closes. It finds the same lines as anywhere else, and a line is all
that a diagnostic depends on.

## Main results

- `Diagnostic.ofLines_eq_map`, `Diagnostic.ofLines_of_surrogate` — when the diagnostics of
  one rule exist, and why they do not
- `Diagnostic.ofLines_variable` — the variable rule finds what does not have the shape of a
  variable line
-/

namespace FishScript

namespace Diagnostic

/-- If all lines that a rule finds can be encoded, each has a diagnostic that covers it. -/
theorem ofLines_eq_map {rule : Rule} {lines : List Text}
    (h : ∀ entry ∈ rule.numbered lines, Text.Encodable entry.2) :
    ofLines rule lines =
      .ok ((rule.numbered lines).map fun entry => ⟨rule, entry.1, entry.2.width⟩) := by
  have hfound : ∀ finding ∈ rule.findings lines, Text.Encodable finding.content := by
    intro finding hfinding
    exact h (finding.line, finding.content) (List.mem_map_of_mem hfinding)
  rw [ofLines, mapM_ofFinding_of_encodable hfound, Rule.findings_eq_map_numbered, List.map_map]
  rfl

/-- The first of the lines with a surrogate that a rule finds is why there are none. -/
theorem ofLines_of_surrogate {rule : Rule} {lines : List Text} {before after : List (Nat × Text)}
    {i : Nat} {first rest : Text} {c : CodePoint}
    (hsplit : rule.numbered lines = before ++ (i, first ++ c :: rest) :: after)
    (hbefore : ∀ entry ∈ before, Text.Encodable entry.2) (hfirst : Text.Encodable first)
    (hc : c.isSurrogate) : ofLines rule lines = .error ⟨c, first.length⟩ := by
  rw [ofLines, Rule.findings_eq_map_numbered, hsplit, List.map_append, List.map_cons]
  refine mapM_ofFinding_of_surrogate (fun other hother => ?_) rfl hfirst hc
  obtain ⟨entry, hentry, rfl⟩ := List.mem_map.1 hother
  exact hbefore entry hentry

/-- The variable rule on any lines. It lists, in order and once each, the lines that open a
declaration and cannot be taken apart into the keyword, a gap, a name, quoted values with a
gap in front of each, and blanks. If all of them can be encoded, each has one diagnostic,
which covers it from end to end. Otherwise the first that cannot is the reason why there
are none. -/
theorem ofLines_variable (lines : List Text) :
    ∃ listed : List (Nat × Text),
      Text.Lists lines (fun line => Text.ofString "set " <+: line ∧ ¬VariableLine.Shape line)
        listed ∧
      (((∀ entry ∈ listed, Text.Encodable entry.2) ∧
          ∃ diagnostics, ofLines .variable lines = .ok diagnostics ∧
            diagnostics.map (fun found => (found.range, found.rule.code, found.rule.message)) =
              listed.map fun entry =>
                (((entry.1, 0), (entry.1, entry.2.width)), "INVALID_VARIABLE_DECLARATION",
                  "Variables must be declared as `set <name> \"<value>\"`")) ∨
        ∃ before i first c rest after,
          listed = before ++ (i, first ++ c :: rest) :: after ∧
          (∀ entry ∈ before, Text.Encodable entry.2) ∧ Text.Encodable first ∧ c.isSurrogate ∧
          ofLines .variable lines = .error ⟨c, first.length⟩) := by
  have hlists := Rule.variable.lists_numbered lines
  simp only [Rule.finds_variable_iff] at hlists
  refine ⟨_, hlists, ?_⟩
  obtain hall | ⟨before, ⟨i, line⟩, after, hsplit, hbefore, hline⟩ :=
    forall_or_exists_first (fun entry : Nat × Text => Text.Encodable entry.2)
      (Rule.variable.numbered lines)
  · refine Or.inl ⟨hall, _, ofLines_eq_map hall, ?_⟩
    rw [List.map_map]
    rfl
  · obtain ⟨first, c, rest, rfl, hfirst, hc⟩ := Text.exists_first_surrogate hline
    exact Or.inr ⟨before, i, first, c, rest, after, hsplit, hbefore, hfirst, hc,
      ofLines_of_surrogate hsplit hbefore hfirst hc⟩

/-- A value may cross lines, and blanks may trail; two values need a gap between them. -/
example :
    (ofLines .variable [Text.ofString "set a \"x\ny\"  \"\" \t", Text.ofString "set a \"x\"\"y\"",
      Text.ofString "set a \"x"]).toOption = some [⟨.variable, 1, 12⟩, ⟨.variable, 2, 8⟩] := by
  decide +kernel

end Diagnostic

end FishScript
