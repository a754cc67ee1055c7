import FishScript.Proofs.Declaration.Search
import FishScript.Proofs.Text.LineEndings
import FishScript.Script.Diagnostic
import FishScript.Script.Symbols

/-!
# Scripts with other line endings

Nothing that is found out about a script depends on how its lines end. Blocks and
diagnostics are found on the lines, which have lost their endings. Declarations are searched
for in the whole text, where the carriage return of an ending is one more blank.

## Main results

- `Declaration.read?_plain` — a declaration is read in the plain form as in the text
- `Declaration.names_plain` — so the search finds the same names in both
- `Symbols.analysis_written` — blocks, diagnostics and symbols with any two choices of endings
-/

namespace FishScript

namespace Declaration

variable {kind : Declaration}

theorem not_mem_keyword (kind : Declaration) :
    Text.carriageReturn ∉ kind.keyword ∧ Text.lineFeed ∉ kind.keyword := by
  cases kind <;> decide

theorem admits_plain (rest : Text) : kind.admits (Text.plain rest) = kind.admits rest := by
  match kind with
  | .function => rfl
  | .variable => exact Text.head?_any_plain Text.isBlank_return_eq rest

theorem read?_plain (text : Text) :
    kind.read? (Text.plain text) =
      (kind.read? text).map fun found => (found.1, Text.plain found.2) := by
  obtain ⟨hreturn, hfeed⟩ := kind.not_mem_keyword
  unfold read?
  rw [Text.after?_plain hreturn hfeed]
  cases Text.after? kind.keyword text with
  | none => rfl
  | some gap =>
    simp only [Option.map_some, Option.bind_eq_bind, Option.bind_some, Text.afterBlanks?_plain]
    cases Text.afterBlanks? gap with
    | none => rfl
    | some after =>
      simp only [Option.map_some, Option.bind_some, Text.word?_plain]
      cases Text.word? after with
      | none => rfl
      | some found =>
        simp only [Option.map_some, Option.bind_some, admits_plain]
        split <;> rfl

/-- The search finds the same names in the plain form of a text. -/
theorem namesFrom_plain (lineStart : Bool) (text : Text) :
    kind.namesFrom lineStart (Text.plain text) = kind.namesFrom lineStart text := by
  induction lineStart, text using search_induction kind with
  | nil lineStart => rfl
  | read text name rest hread ih =>
    have hplain : kind.read? (Text.plain text) = some (name, Text.plain rest) := by
      rw [read?_plain, hread]
      rfl
    rw [namesFrom_of_read? hread, namesFrom_of_read? hplain, ih]
  | pass lineStart c text hread ih =>
    have hnone : lineStart = true → kind.read? (Text.plain (c :: text)) = none := by
      intro hstart
      rw [read?_plain, hread hstart]
      rfl
    rw [namesFrom_cons hread, ← ih]
    obtain ⟨rfl, rest, rfl, hplain⟩ | hplain := Text.plain_cases c text
    · -- the carriage return is dropped, and both searches go on behind the line feed
      have hfeed : Text.lineFeed ≠ Text.carriageReturn := by decide
      rw [hplain] at hnone ⊢
      rw [Text.plain_cons_of_ne hfeed, namesFrom_cons hnone, namesFrom_cons]
      intro hstart
      exact absurd hstart (by decide)
    · rw [hplain] at hnone ⊢
      rw [namesFrom_cons hnone]

theorem names_plain (kind : Declaration) (text : Text) :
    kind.names (Text.plain text) = kind.names text :=
  namesFrom_plain true text

end Declaration

namespace Symbols

/-- The symbols of a text are those of its plain form. -/
theorem ofText_plain (text : Text) : ofText (Text.plain text) = ofText text := by
  rw [ofText, ofText, Declaration.names_plain, Declaration.names_plain]

/-- Two texts that have the same lines, whatever the endings of these, have the same blocks,
the same diagnostics or failure to find them, and the same symbols. -/
theorem analysis_written (first second : Nat → Text.Ending) (parts : List Text)
    (h : ∀ line ∈ parts, Text.lineFeed ∉ line ∧ line.getLast? ≠ some Text.carriageReturn) :
    let a := Text.written first parts
    let b := Text.written second parts
    (parts ≠ [] → a.lines = parts ∧ b.lines = parts) ∧ a.lines = b.lines ∧
      Block.occursIn a.lines = Block.occursIn b.lines ∧
      Diagnostic.ofText a = Diagnostic.ofText b ∧
      ofText a = ofText b := by
  intro a b
  have hlines : parts ≠ [] → a.lines = parts ∧ b.lines = parts := fun hne =>
    ⟨Text.lines_written first hne h, Text.lines_written second hne h⟩
  have hsame : a.lines = b.lines := by
    by_cases hne : parts = []
    · have hempty : ∀ style, Text.written style parts = [] := fun style => by rw [hne, Text.written]
      rw [show a = [] from hempty first, show b = [] from hempty second]
    · obtain ⟨ha, hb⟩ := hlines hne
      rw [ha, hb]
  have hplain : Text.plain a = Text.plain b :=
    (Text.plain_written first h).trans (Text.plain_written second h).symm
  refine ⟨hlines, hsame, ?_, ?_, ?_⟩
  · rw [hsame]
  · rw [Diagnostic.ofText, Diagnostic.ofText, hsame]
  · rw [← ofText_plain a, ← ofText_plain b, hplain]

/-- The name of a function may stand behind an ending of either kind. -/
theorem analysis_of_mixed_endings :
    let parts := [Text.ofString "function", Text.ofString " greet", Text.ofString "set a b",
      Text.ofString "end"]
    let mixed := Text.ofString "function\r\n greet\nset a b\r\nend"
    let plain := Text.ofString "function\n greet\nset a b\nend"
    (∀ line ∈ parts, Text.lineFeed ∉ line ∧ line.getLast? ≠ some Text.carriageReturn) ∧
      mixed.lines = parts ∧ (Diagnostic.ofText mixed).toOption = some [⟨.variable, 2, 7⟩] ∧
      ofText mixed = ofText plain ∧
      ofText mixed = ⟨[Text.ofString "greet"], [Text.ofString "a"]⟩ := by
  intro parts mixed plain
  have hparts : ∀ line ∈ parts,
      Text.lineFeed ∉ line ∧ line.getLast? ≠ some Text.carriageReturn := by decide
  let style : Nat → Text.Ending := fun i => if i % 2 = 0 then .returnFeed else .feed
  have hmixed : Text.written style parts = mixed := by decide
  have hplain : Text.written (fun _ => .feed) parts = plain := by decide
  obtain ⟨hlines, -, -, hdiagnostics, hsymbols⟩ :=
    analysis_written style (fun _ => .feed) parts hparts
  rw [hmixed, hplain] at hlines hdiagnostics hsymbols
  have hknown : ofText plain = ⟨[Text.ofString "greet"], [Text.ofString "a"]⟩ := by
    decide +kernel
  refine ⟨hparts, (hlines (List.cons_ne_nil _ _)).1, ?_, hsymbols, hsymbols.trans hknown⟩
  rw [hdiagnostics]
  decide +kernel

end Symbols

end FishScript
