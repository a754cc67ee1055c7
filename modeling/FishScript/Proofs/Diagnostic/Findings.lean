import FishScript.Proofs.Text.Width
import FishScript.Proofs.Variable.Shape
import FishScript.Script.Diagnostic

/-!
# What the rules find

A rule finds lines of a script. Their numbers are listed in order; the two rules never find
the same line. Whether the diagnostics of a script exist depends on the lines that were found
and on no others: the first of them that holds a surrogate is the reason if they do not.

## Main definitions

- `Text.Lists` — numbered lines that are all those with some property, in order
- `Rule.numbered` — the lines that a rule finds, with their numbers
- `Diagnostic.range` — where a diagnostic starts and ends

## Main results

- `Rule.lists_numbered` — the list of a rule is complete and in order
- `Diagnostic.ofText_of_encodable`, `Diagnostic.ofText_of_surrogate` — when diagnostics
  exist, and why they do not
- `Diagnostic.ofText_reports` — the diagnostics of a text
-/

namespace FishScript

/-- Numbered lines, in order, that are all those lines with some property. -/
def Text.Lists (lines : List Text) (property : Text → Prop) (listed : List (Nat × Text)) : Prop :=
  (listed.map Prod.fst).Pairwise (· < ·) ∧
    ∀ i line, (i, line) ∈ listed ↔ lines[i]? = some line ∧ property line

/-- Two properties that no line has together list no line twice, hence no more lines than
there are. -/
theorem Text.Lists.disjoint {lines : List Text} {p q : Text → Prop} {a b : List (Nat × Text)}
    (ha : Text.Lists lines p a) (hb : Text.Lists lines q b) (hpq : ∀ line, p line → ¬q line) :
    (∀ i, i ∈ a.map Prod.fst → i ∉ b.map Prod.fst) ∧ a.length + b.length ≤ lines.length := by
  have hdisjoint : ∀ i, i ∈ a.map Prod.fst → i ∉ b.map Prod.fst := by
    intro i hia hib
    obtain ⟨⟨_, line⟩, hline, rfl⟩ := List.mem_map.1 hia
    obtain ⟨⟨j, other⟩, hother, hj⟩ := List.mem_map.1 hib
    obtain ⟨hline, hp⟩ := (ha.2 _ _).1 hline
    obtain ⟨hother, hq⟩ := (hb.2 _ _).1 hother
    have hsame : some line = some other := by
      rw [← hline, ← hother]
      exact congrArg (lines[·]?) hj.symm
    exact hpq line hp (Option.some.inj hsame ▸ hq)
  refine ⟨hdisjoint, ?_⟩
  have hnodup : (a.map Prod.fst ++ b.map Prod.fst).Nodup := by
    refine List.nodup_append.2 ⟨?_, ?_, ?_⟩
    · exact ha.1.imp fun hlt => Nat.ne_of_lt hlt
    · exact hb.1.imp fun hlt => Nat.ne_of_lt hlt
    · intro i hia j hjb hij
      exact hdisjoint i hia (hij ▸ hjb)
  have hsubset : a.map Prod.fst ++ b.map Prod.fst ⊆ List.range lines.length := by
    intro i hi
    rw [List.mem_range]
    obtain hi | hi := List.mem_append.1 hi
    · obtain ⟨⟨_, line⟩, hline, rfl⟩ := List.mem_map.1 hi
      exact (List.getElem?_eq_some_iff.1 ((ha.2 _ _).1 hline).1).1
    · obtain ⟨⟨_, line⟩, hline, rfl⟩ := List.mem_map.1 hi
      exact (List.getElem?_eq_some_iff.1 ((hb.2 _ _).1 hline).1).1
  have hlength := hnodup.length_le_of_subset hsubset
  simpa using hlength

namespace Rule

/-- The lines that a rule finds, with their numbers. -/
def numbered (rule : Rule) (lines : List Text) : List (Nat × Text) :=
  (rule.findings lines).map fun finding => (finding.line, finding.content)

theorem mem_findings {rule : Rule} {lines : List Text} {finding : Finding} :
    finding ∈ rule.findings lines ↔
      finding.rule = rule ∧ lines[finding.line]? = some finding.content ∧
        rule.finds (Block.occursIn lines) finding.content := by
  simp only [findings, List.mem_filterMap, List.mem_zipIdx_iff_getElem?,
    Option.ite_none_right_eq_some, Option.some.injEq, Prod.exists]
  constructor
  · rintro ⟨line, i, hline, hfinds, rfl⟩
    exact ⟨rfl, hline, hfinds⟩
  · rintro ⟨rfl, hline, hfinds⟩
    exact ⟨finding.content, finding.line, hline, hfinds, rfl⟩

theorem findings_eq_map_numbered (rule : Rule) (lines : List Text) :
    rule.findings lines = (rule.numbered lines).map fun entry => ⟨rule, entry.1, entry.2⟩ := by
  rw [numbered, List.map_map]
  refine (List.map_id _).symm.trans (List.map_congr_left fun finding hfinding => ?_)
  obtain ⟨hrule, -⟩ := mem_findings.1 hfinding
  rw [← hrule]
  rfl

theorem pairwise_findings (rule : Rule) (lines : List Text) :
    (rule.findings lines).Pairwise fun a b => a.line < b.line := by
  have hnumbers : lines.zipIdx.Pairwise fun a b => a.2 < b.2 := by
    rw [← List.pairwise_map, List.zipIdx_map_snd]
    exact List.pairwise_lt_range' 1
  refine List.pairwise_filterMap.2 (hnumbers.imp ?_)
  rintro ⟨line, i⟩ ⟨line', j⟩ hij a ha b hb
  obtain ⟨-, ha⟩ := Option.ite_none_right_eq_some.1 ha
  obtain ⟨-, hb⟩ := Option.ite_none_right_eq_some.1 hb
  rw [← Option.some.inj ha, ← Option.some.inj hb]
  exact hij

/-- What a rule finds is listed completely and in order. -/
theorem lists_numbered (rule : Rule) (lines : List Text) :
    Text.Lists lines (fun line => rule.finds (Block.occursIn lines) line) (rule.numbered lines) := by
  constructor
  · rw [numbered, List.map_map, List.pairwise_map]
    exact rule.pairwise_findings lines
  · intro i line
    rw [numbered, List.mem_map]
    constructor
    · rintro ⟨finding, hfinding, heq⟩
      obtain ⟨rfl, rfl⟩ := Prod.mk.inj heq
      exact (mem_findings.1 hfinding).2
    · intro h
      exact ⟨⟨rule, i, line⟩, mem_findings.2 ⟨rfl, h⟩, rfl⟩

theorem finds_function_iff {hasBlock : Bool} {line : Text} :
    Rule.function.finds hasBlock line ↔
      ¬hasBlock ∧ Text.ofString "function " <+: line := by
  have hlead : Rule.function.lead = Text.ofString "function " := by decide
  simp [finds, Text.startsWith_iff, hlead, and_comm]

theorem finds_variable_iff {hasBlock : Bool} {line : Text} :
    Rule.variable.finds hasBlock line ↔
      Text.ofString "set " <+: line ∧ ¬VariableLine.Shape line := by
  have hlead : Rule.variable.lead = Text.ofString "set " := by decide
  simp [finds, Text.startsWith_iff, hlead, ← VariableLine.isWellFormed_iff]

end Rule

namespace Diagnostic

/-- Where a diagnostic starts and ends: each time the line and the column. -/
def range (diagnostic : Diagnostic) : (Nat × Nat) × (Nat × Nat) :=
  ((diagnostic.line, 0), (diagnostic.line, diagnostic.width))

theorem mapM_ofFinding_of_encodable {findings : List Finding}
    (h : ∀ finding ∈ findings, Text.Encodable finding.content) :
    findings.mapM ofFinding =
      .ok (findings.map fun finding => ⟨finding.rule, finding.line, finding.content.width⟩) := by
  induction findings with
  | nil => rfl
  | cons finding findings ih =>
    obtain ⟨hfinding, hfindings⟩ := List.forall_mem_cons.1 h
    have hfirst : ofFinding finding =
        .ok ⟨finding.rule, finding.line, finding.content.width⟩ := by
      rw [ofFinding, hfinding.units_eq]
      rfl
    rw [List.mapM_cons, hfirst, ih hfindings]
    rfl

/-- The first line with a surrogate is why there are no diagnostics, by its first surrogate. -/
theorem mapM_ofFinding_of_surrogate {before after : List Finding} {finding : Finding}
    {first rest : Text} {c : CodePoint} (hbefore : ∀ other ∈ before, Text.Encodable other.content)
    (hfinding : finding.content = first ++ c :: rest) (hfirst : Text.Encodable first)
    (hc : c.isSurrogate) :
    (before ++ finding :: after).mapM ofFinding = .error ⟨c, first.length⟩ := by
  have hfails : ofFinding finding = .error ⟨c, first.length⟩ := by
    rw [ofFinding, hfinding, Text.units_of_surrogate hfirst hc]
    rfl
  rw [List.mapM_append, mapM_ofFinding_of_encodable hbefore, List.mapM_cons, hfails]
  rfl

/-- The lines that the rules find in a text, with their numbers, the function rule first. -/
def listed (text : Text) : List (Nat × Text) :=
  Rule.function.numbered text.lines ++ Rule.variable.numbered text.lines

theorem listed_eq_map (text : Text) :
    listed text = (Rule.function.findings text.lines ++ Rule.variable.findings text.lines).map
      fun finding => (finding.line, finding.content) := by
  rw [List.map_append]
  rfl

/-- If all listed lines can be encoded, each has a diagnostic that covers it. -/
theorem ofText_of_encodable {text : Text} (h : ∀ entry ∈ listed text, Text.Encodable entry.2) :
    ∃ diagnostics, ofText text = .ok diagnostics ∧
      diagnostics.map (fun found => (found.range, found.rule)) =
        (Rule.function.numbered text.lines).map (fun entry =>
          (((entry.1, 0), (entry.1, entry.2.width)), Rule.function)) ++
        (Rule.variable.numbered text.lines).map (fun entry =>
          (((entry.1, 0), (entry.1, entry.2.width)), Rule.variable)) := by
  have hfound : ∀ finding ∈ Rule.function.findings text.lines ++
      Rule.variable.findings text.lines, Text.Encodable finding.content := by
    intro finding hfinding
    exact h (finding.line, finding.content) (listed_eq_map text ▸ List.mem_map_of_mem hfinding)
  refine ⟨_, mapM_ofFinding_of_encodable hfound, ?_⟩
  rw [Rule.findings_eq_map_numbered, Rule.findings_eq_map_numbered]
  simp only [List.map_append, List.map_map]
  rfl

/-- The first listed line with a surrogate is why there are no diagnostics. -/
theorem ofText_of_surrogate {text : Text} {before after : List (Nat × Text)} {i : Nat}
    {first rest : Text} {c : CodePoint}
    (hsplit : listed text = before ++ (i, first ++ c :: rest) :: after)
    (hbefore : ∀ entry ∈ before, Text.Encodable entry.2) (hfirst : Text.Encodable first)
    (hc : c.isSurrogate) : ofText text = .error ⟨c, first.length⟩ := by
  -- the findings are cut where the listed lines are
  rw [listed_eq_map] at hsplit
  obtain ⟨found, later, hfindings, rfl, hlater⟩ := List.map_eq_append_iff.1 hsplit
  obtain ⟨finding, others, rfl, hfinding, -⟩ := List.map_eq_cons_iff.1 hlater
  rw [ofText, hfindings]
  refine mapM_ofFinding_of_surrogate (fun other hother => ?_) (Prod.mk.inj hfinding).2 hfirst hc
  exact hbefore (other.line, other.content) (List.mem_map_of_mem hother)

/-- No line opens both kinds of declaration. -/
theorem not_prefix_set_of_function {line : Text} (h : Text.ofString "function " <+: line) :
    ¬Text.ofString "set " <+: line := by
  obtain ⟨tail, rfl⟩ := h
  simp [Text.ofString, CodePoint.ofChar_inj]

/-- The diagnostics of a text. The function rule lists the lines that open a function, unless
the text has a function block; the variable rule lists the lines that open a declaration and
do not have its shape. No line is listed twice. If all listed lines can be encoded, there is
a diagnostic for each of them, which covers it from end to end. Otherwise the first of them
that cannot be encoded is the reason why there are none, by its first surrogate. -/
theorem ofText_reports (text : Text) :
    ∃ functionLines variableLines : List (Nat × Text),
      Text.Lists text.lines
        (fun line => ¬Block.occursIn text.lines ∧ Text.ofString "function " <+: line)
        functionLines ∧
      Text.Lists text.lines
        (fun line => Text.ofString "set " <+: line ∧ ¬VariableLine.Shape line) variableLines ∧
      (∀ i, i ∈ functionLines.map Prod.fst → i ∉ variableLines.map Prod.fst) ∧
      functionLines.length + variableLines.length ≤ text.lines.length ∧
      (((∀ entry ∈ functionLines ++ variableLines, Text.Encodable entry.2) ∧
          ∃ diagnostics, ofText text = .ok diagnostics ∧
            diagnostics.map (fun found => (found.range, found.rule.code, found.rule.message)) =
              functionLines.map (fun entry =>
                (((entry.1, 0), (entry.1, entry.2.width)), "INVALID_FUNCTION_DECLARATION",
                  "Functions must be declared as `function <name>` followed by `end`")) ++
              variableLines.map (fun entry =>
                (((entry.1, 0), (entry.1, entry.2.width)), "INVALID_VARIABLE_DECLARATION",
                  "Variables must be declared as `set <name> \"<value>\"`"))) ∨
        ∃ before i first c rest after,
          functionLines ++ variableLines = before ++ (i, first ++ c :: rest) :: after ∧
          (∀ entry ∈ before, Text.Encodable entry.2) ∧ Text.Encodable first ∧ c.isSurrogate ∧
          ofText text = .error ⟨c, first.length⟩) := by
  have hfunction := Rule.function.lists_numbered text.lines
  have hvariable := Rule.variable.lists_numbered text.lines
  simp only [Rule.finds_function_iff] at hfunction
  simp only [Rule.finds_variable_iff] at hvariable
  obtain ⟨hdisjoint, hlength⟩ := hfunction.disjoint hvariable
    fun line hopen hset => not_prefix_set_of_function hopen.2 hset.1
  refine ⟨_, _, hfunction, hvariable, hdisjoint, hlength, ?_⟩
  obtain hall | ⟨before, ⟨i, line⟩, after, hsplit, hbefore, hline⟩ :=
    forall_or_exists_first (fun entry : Nat × Text => Text.Encodable entry.2) (listed text)
  · obtain ⟨diagnostics, hok, hfound⟩ := ofText_of_encodable hall
    refine Or.inl ⟨hall, diagnostics, hok, ?_⟩
    have hshown := congrArg
      (List.map fun found => (found.1, Rule.code found.2, Rule.message found.2)) hfound
    simp only [List.map_append, List.map_map] at hshown
    exact hshown
  · obtain ⟨first, c, rest, rfl, hfirst, hc⟩ := Text.exists_first_surrogate hline
    exact Or.inr ⟨before, i, first, c, rest, after, hsplit, hbefore, hfirst, hc,
      ofText_of_surrogate hsplit hbefore hfirst hc⟩

/-- A surrogate on a line that no rule finds does no harm. -/
example : (ofText (⟨0xD800, by decide⟩ :: Text.ofString "\nset a b")).toOption =
    some [⟨.variable, 1, 7⟩] := by
  decide +kernel

end Diagnostic

end FishScript
