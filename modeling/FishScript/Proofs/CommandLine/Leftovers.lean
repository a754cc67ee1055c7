import FishScript.Proofs.CommandLine.Spellings

/-!
# Arguments that nothing accounts for

Settings of the level and arguments that belong to no switch may stand in any order. No such
argument is taken for a value, since each setting has its own. So all of them are left when the
command line has been read, and they are reported as they stood.

## Main definitions

- `Token.NamesSwitch`, `Token.Leftover` — arguments that name a switch, and those that do not
- `Settings.Leaves` — settings and leftovers in any order

## Main results

- `Token.Leftover.exists_token` — a leftover demands nothing
- `Settings.Leaves.exists_read` — what a reading leaves over
- `Report.ofArguments_of_leaves` — the report of all leftovers
-/

namespace FishScript

namespace Token

/-- An argument that starts with the letter of a switch behind a hyphen, or consists of two
hyphens and the start of a long name, up to an equals sign. The start may be empty, so two
hyphens alone are such an argument. -/
def NamesSwitch (argument : Text) : Prop :=
  ∃ switch ∈ Switch.all, [hyphen, .ofChar switch.letter] <+: argument ∨
    twoHyphens <+: argument ∧
      (argument.drop 2).takeWhile (· != equalsSign) <+: Text.ofString switch.name

instance (argument : Text) : Decidable (NamesSwitch argument) :=
  inferInstanceAs (Decidable (∃ switch ∈ Switch.all, _ ∨ _ ∧ _))

/-- An argument that belongs to no switch: it is empty, or has no hyphen in front, or is a
hyphen alone, or names no switch. -/
def Leftover (argument : Text) : Prop :=
  argument = [] ∨ argument.head? ≠ some hyphen ∨ argument = [hyphen] ∨ ¬NamesSwitch argument

instance (argument : Text) : Decidable (Leftover argument) :=
  inferInstanceAs (Decidable (_ ∨ _ ∨ _ ∨ _))

/-- What names a switch has more than one code point, and a hyphen in front. -/
theorem NamesSwitch.exists_cons {argument : Text} (h : NamesSwitch argument) :
    ∃ c rest, argument = hyphen :: c :: rest := by
  obtain ⟨switch, -, ⟨rest, rfl⟩ | ⟨⟨rest, rfl⟩, -⟩⟩ := h
  · exact ⟨_, rest, rfl⟩
  · exact ⟨_, rest, rfl⟩

theorem Leftover.not_namesSwitch {argument : Text} (h : Leftover argument) :
    ¬NamesSwitch argument := by
  intro hnames
  obtain ⟨c, rest, rfl⟩ := hnames.exists_cons
  obtain hnil | hhead | hhyphen | hnot := h
  · cases hnil
  · exact hhead rfl
  · cases hhyphen
  · exact hnot hnames

theorem namesSwitch_long (switch : Switch) {body : Text}
    (h : body.takeWhile (· != equalsSign) <+: Text.ofString switch.name) :
    NamesSwitch (hyphen :: hyphen :: body) :=
  ⟨switch, switch.mem_all, Or.inr ⟨⟨body, rfl⟩, h⟩⟩

/-- The start of a long name may be empty. -/
theorem namesSwitch_of_starts {argument : Text} (h : Text.ofString "--=" <+: argument) :
    NamesSwitch argument := by
  obtain ⟨value, rfl⟩ := h
  have hnil : (equalsSign :: value).takeWhile (· != equalsSign) = [] := by simp
  exact namesSwitch_long .help (hnil ▸ List.nil_prefix)

/-- A leftover can be sorted, and it demands nothing. -/
theorem Leftover.exists_token {argument : Text} (h : Leftover argument) :
    argument ≠ twoHyphens ∧
      ∃ token, ofArgument argument = .ok token ∧ Settings.demand? token = none := by
  have hnames := h.not_namesSwitch
  have hsorts := sorts_ofArgument argument
  cases htoken : ofArgument argument with
  | error problem =>
    exact absurd (namesSwitch_of_starts (starts_of_ofArgument_eq_error htoken)) hnames
  | ok token =>
    rw [htoken] at hsorts
    refine ⟨?_, token, rfl, ?_⟩
    · rintro rfl
      exact hnames (by decide)
    · cases hsorts with
      | operand => rfl
      | unknown => rfl
      | terminator => rfl
      | short switch rest => exact absurd ⟨switch, switch.mem_all, Or.inl ⟨rest, rfl⟩⟩ hnames
      | long switch body hne hstarts => exact absurd (namesSwitch_long switch hstarts) hnames

end Token

namespace Settings

open Token (Leftover)

/-- Settings of the level and leftovers one after another, with the leftovers in order. -/
inductive Leaves : List Text → List Text → Prop
  | nil : Leaves [] []
  | setting {value : Text} {level : Level} {part rest leftovers : List Text}
    (hpart : SetBy value part) (hnamed : level.IsNamed value) (hrest : Leaves rest leftovers) :
    Leaves (part ++ rest) leftovers
  | leftover {argument : Text} {rest leftovers : List Text} (h : Leftover argument)
    (hrest : Leaves rest leftovers) : Leaves (argument :: rest) (argument :: leftovers)

/-- Exactly the leftovers are set aside, whatever has been read before. -/
theorem Leaves.exists_read {arguments leftovers : List Text} (h : Leaves arguments leftovers) :
    ∃ tokens, Token.ofArguments arguments = .ok tokens ∧ ∀ settings : Settings,
      ∃ level, settings.read tokens = .ok ⟨level, settings.leftovers ++ leftovers⟩ := by
  induction h with
  | nil =>
    refine ⟨[], rfl, fun settings => ⟨settings.level, ?_⟩⟩
    rw [List.append_nil]
    rfl
  | setting hpart hnamed _ ih =>
    obtain ⟨hplain, first, hfirst, hsets⟩ := exists_sets hpart hnamed
    obtain ⟨tokens, htokens, hread⟩ := ih
    refine ⟨first ++ tokens, ?_, fun settings => ?_⟩
    · rw [Token.ofArguments_append hplain, hfirst, htokens]
      rfl
    · rw [hsets.read_append]
      exact hread _
  | @leftover argument _ leftovers hleftover _ ih =>
    obtain ⟨hne, token, htoken, hdemand⟩ := hleftover.exists_token
    obtain ⟨tokens, htokens, hread⟩ := ih
    refine ⟨_, (ofArguments_cons_eq_ok_iff hne).2 ⟨token, tokens, htoken, htokens, rfl⟩,
      fun settings => ?_⟩
    obtain ⟨level, hlast⟩ := hread (settings.setAside argument)
    have hkept : (settings.setAside argument).leftovers ++ leftovers =
        settings.leftovers ++ argument :: leftovers := List.append_assoc _ [argument] _
    refine ⟨level, ?_⟩
    rw [read, hdemand, ← hkept]
    exact hlast

/-- A command line with leftovers is turned down on account of all of them. -/
theorem Leaves.ofArguments_eq {arguments leftovers : List Text} (h : Leaves arguments leftovers)
    (hne : leftovers ≠ []) :
    ofArguments arguments = .error (.problem (.unrecognized leftovers)) := by
  obtain ⟨tokens, htokens, hread⟩ := h.exists_read
  obtain ⟨level, hlast⟩ := hread initial
  have hleft : initial.leftovers ++ leftovers = leftovers := List.nil_append leftovers
  rw [ofArguments, htokens]
  simp only [hlast, hleft]
  exact if_neg hne

end Settings

namespace Report

open Settings (Leaves)

/-- A command line of settings and leftovers, in any order and with one leftover at least, is
turned down. The message lists all leftovers, in order and separated by spaces. -/
theorem ofArguments_of_leaves (logger : String) {arguments leftovers : List Text}
    (h : Leaves arguments leftovers) (hne : leftovers ≠ []) :
    ∃ report, ofArguments logger arguments = .ok report ∧ report.exit = some 2 ∧
      report.started = [] ∧ report.level = none ∧ report.stdout = [] ∧
      report.stderr = Text.ofString usage ++
        Text.ofString "fish-lsp: error: unrecognized arguments: " ++
          List.intercalate (Text.ofString " ") leftovers ++ Text.ofString "\n" := by
  refine ⟨turnedDown (.unrecognized leftovers), ?_, rfl, rfl, rfl, rfl,
    stderr_unrecognized leftovers⟩
  rw [ofArguments, h.ofArguments_eq hne]
  rfl

/-- A number, a text with a space, an unknown switch and an empty argument are left over, and
none of them is the value of the log level. -/
theorem leftovers_among_settings :
    let arguments := [Text.ofString "-x", Text.ofString "-l", Text.ofString "Error",
      Text.ofString "-a b", Text.ofString "--log=debug", [], Text.ofString "-1",
      Text.ofString "-x"]
    let leftovers := [Text.ofString "-x", Text.ofString "-a b", [], Text.ofString "-1",
      Text.ofString "-x"]
    Leaves arguments leftovers ∧ leftovers ≠ [] ∧ ∃ report,
      ofArguments Profile.logger arguments = .ok report ∧ report.exit = some 2 ∧
        report.stderr = Text.ofString (usage ++
          "fish-lsp: error: unrecognized arguments: -x -a b  -1 -x\n") := by
  intro arguments leftovers
  have harguments : arguments = Text.ofString "-x" ::
      ([Text.ofString "-l", Text.ofString "Error"] ++ (Text.ofString "-a b" ::
        ([Text.ofString "--log" ++ Token.equalsSign :: Text.ofString "debug"] ++
          [[], Text.ofString "-1", Text.ofString "-x"]))) := by decide
  have hleaves : Leaves arguments leftovers := by
    have herror : Level.error.IsNamed (Text.ofString "Error") := by decide
    have hdebug : Level.debug.IsNamed (Text.ofString "debug") := by decide
    rw [harguments]
    exact .leftover (by decide) (.setting (.apart (by decide)) herror
      (.leftover (by decide) (.setting (.joined (by decide)) hdebug
        (.leftover (by decide) (.leftover (by decide) (.leftover (by decide) .nil))))))
  have hne : leftovers ≠ [] := List.cons_ne_nil _ _
  obtain ⟨report, hreport, hexit, -, -, -, hstderr⟩ :=
    ofArguments_of_leaves Profile.logger hleaves hne
  refine ⟨hleaves, hne, report, hreport, hexit, ?_⟩
  rw [hstderr]
  decide +kernel

end Report

end FishScript
