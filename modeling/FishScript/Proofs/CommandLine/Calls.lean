import FishScript.Proofs.CommandLine.Seams

/-!
# Calls for help and for the version

A call for help or for the version ends the reading as soon as it is met. What stands behind it
is no longer read; it is still sorted, so only an argument that cannot be sorted gets in front
of the call. What stands in front of it comes first, apart from leftovers and a lost level, which
are noticed at the end only.

## Main definitions

- `Settings.Ends` — the arguments that end the reading
- `Report.Calls` — the calls for help and for the version, with the texts that they show

## Main results

- `Settings.ofArguments_eq_error_iff` — why a command line is refused
- `Settings.ofArguments_append_of_ended` — what stands behind a call changes nothing
- `Settings.ofArguments_append_of_problem`, `Settings.ofArguments_append_of_ok` — what stands in
  front of it
- `Report.ofArguments_of_calls` — what a call shows, and when it does not
-/

namespace FishScript

namespace Token

/-- Arguments can be sorted unless one of them attaches a value to no name at all. -/
theorem exists_ofArguments {arguments : List Text}
    (h : ∀ argument ∈ arguments, ¬Text.ofString "--=" <+: argument) :
    ∃ tokens, ofArguments arguments = .ok tokens := by
  induction arguments with
  | nil => exact ⟨[], rfl⟩
  | cons argument arguments ih =>
    obtain ⟨hargument, harguments⟩ := List.forall_mem_cons.1 h
    obtain ⟨tokens, htokens⟩ := ih harguments
    by_cases hne : argument = twoHyphens
    · exact ⟨_, hne ▸ ofArguments_twoHyphens arguments⟩
    · cases htoken : ofArgument argument with
      | error problem => exact absurd (starts_of_ofArgument_eq_error htoken) hargument
      | ok token =>
        exact ⟨_, (Settings.ofArguments_cons_eq_ok_iff hne).2 ⟨token, tokens, htoken, htokens, rfl⟩⟩

/-- So can all that is behind arguments that can be sorted. -/
theorem exists_ofArguments_append {arguments rest : List Text} {tokens : List (Token × Text)}
    (h : ofArguments arguments = .ok tokens)
    (hrest : ∀ argument ∈ rest, ¬Text.ofString "--=" <+: argument) :
    ∃ later, ofArguments (arguments ++ rest) = .ok (tokens ++ later) := by
  by_cases hmem : twoHyphens ∈ arguments
  · rw [ofArguments_append_of_mem hmem, h]
    exact ⟨_, rfl⟩
  · obtain ⟨later, hlater⟩ := exists_ofArguments hrest
    rw [ofArguments_append hmem, h, hlater]
    exact ⟨later, rfl⟩

end Token

namespace Settings

open Token (twoHyphens)

/-- Why a command line is refused: it cannot be sorted, or the reading stops, or it leaves
arguments over. -/
theorem ofArguments_eq_error_iff {arguments : List Text} {refusal : Refusal} :
    ofArguments arguments = .error refusal ↔
      (∃ problem, Token.ofArguments arguments = .error problem ∧ refusal = .problem problem) ∨
      ∃ tokens, Token.ofArguments arguments = .ok tokens ∧
        (initial.read tokens = .error refusal ∨
          ∃ last, initial.read tokens = .ok last ∧ last.leftovers ≠ [] ∧
            refusal = .problem (.unrecognized last.leftovers)) := by
  rw [ofArguments]
  cases Token.ofArguments arguments with
  | error problem => simp [throw, throwThe, MonadExceptOf.throw, eq_comm]
  | ok tokens =>
    cases hread : initial.read tokens with
    | error other => simp [hread, bind, Except.bind]
    | ok last =>
      by_cases hleftovers : last.leftovers = []
      · simp [hread, hleftovers, bind, Except.bind, pure, Except.pure]
      · simp [hread, hleftovers, bind, Except.bind, throw, throwThe, MonadExceptOf.throw, eq_comm]

/-- Two hyphens wait for no value, and neither does what stands behind them. -/
theorem parted_of_mem {before : List Text} {tokens : List (Token × Text)}
    (hmem : twoHyphens ∈ before) (h : Token.ofArguments before = .ok tokens)
    (rest : List (Token × Text)) : Parted tokens rest := by
  obtain ⟨first, operands, rfl⟩ := Token.exists_terminator hmem h
  refine Or.inl fun last hlast switch => ?_
  rw [List.getLast?_append_of_ne_nil _ (List.cons_ne_nil _ _)] at hlast
  obtain rfl | hoperand := List.mem_cons.1 (List.mem_of_getLast? hlast)
  · exact nofun
  · obtain ⟨_, -, rfl⟩ := List.mem_map.1 hoperand
    exact nofun

/-- No command line with two hyphens is accepted: they are left over at least. -/
theorem not_mem_of_ofArguments_eq_ok {arguments : List Text} {level : Option Level}
    (h : ofArguments arguments = .ok level) : twoHyphens ∉ arguments := by
  intro hmem
  obtain ⟨tokens, last, htokens, hread, hleftovers, -⟩ := exists_read_of_ofArguments h
  obtain ⟨first, operands, rfl⟩ := Token.exists_terminator hmem htokens
  have hterminator : Token.terminator ≠ .operand := by decide
  rw [read_append (parted_cons hterminator first _)] at hread
  obtain ⟨middle, -, hbehind⟩ := bind_eq_ok_iff.1 hread
  rw [read] at hbehind
  have hkept := (read_eq_ok_iff.1 hbehind).leftovers_kept
  rw [hleftovers, List.prefix_nil] at hkept
  exact List.append_ne_nil_of_right_ne_nil _ (List.cons_ne_nil _ []) hkept

/-- The argument makes a switch act that ends the reading and needs nothing for it. -/
def Ends (argument : Text) (refusal : Refusal) : Prop :=
  ∃ switch, Asks argument switch .nothing ∧ act switch = .error refusal

/-- Behind a command line that can be sorted, such an argument waits for no value, and it is the
value of none. Without two hyphens in front of it, it ends the reading. -/
theorem Ends.exists_sorted {argument : Text} {refusal : Refusal} (h : Ends argument refusal)
    {before : List Text} {tokens : List (Token × Text)}
    (hbefore : Token.ofArguments before = .ok tokens) :
    ∃ token, Token.ofArguments (before ++ [argument]) = .ok (tokens ++ [(token, argument)]) ∧
      Parted tokens [(token, argument)] ∧
      (∀ switch, demand? token ≠ some (switch, .ok .next)) ∧
      (twoHyphens ∉ before → ∀ settings : Settings,
        settings.read [(token, argument)] = .error refusal) := by
  obtain ⟨switch, hasks, hact⟩ := h
  have hne := ne_twoHyphens_of_asks hasks
  obtain ⟨token, htoken, hdemand⟩ := hasks
  by_cases hmem : twoHyphens ∈ before
  · -- it is an operand like all that is behind the two hyphens
    refine ⟨.operand, ?_, parted_of_mem hmem hbefore _, fun _ => nofun,
      fun hplain => absurd hmem hplain⟩
    rw [Token.ofArguments_append_of_mem hmem, hbefore]
    rfl
  · refine ⟨token, ?_, parted_cons (ne_operand_of_demand? hdemand) tokens [], ?_,
      fun _ settings => ?_⟩
    · have hsorted : Token.ofArguments [argument] = .ok [(token, argument)] :=
        (ofArguments_cons_eq_ok_iff hne).2 ⟨token, [], htoken, rfl, rfl⟩
      rw [Token.ofArguments_append hmem, hbefore, hsorted]
      rfl
    · rw [hdemand]
      exact nofun
    · rw [read, hdemand]
      simp only [hact]
      rfl

/-- A reading that stops at its first part stops there whatever follows, if it is read alone. -/
theorem ofArguments_eq_of_read {arguments : List Text} {tokens rest : List (Token × Text)}
    {refusal : Refusal} (hsorted : Token.ofArguments arguments = .ok (tokens ++ rest))
    (hparted : Parted tokens rest) (hread : initial.read tokens = .error refusal) :
    ofArguments arguments = .error refusal := by
  refine ofArguments_eq_error_iff.2 (Or.inr ⟨_, hsorted, Or.inl ?_⟩)
  rw [read_append hparted, hread]
  rfl

/-- Once a call has ended the reading, nothing behind it changes that. -/
theorem ofArguments_append_of_ended {argument : Text} {refusal shown : Refusal}
    (h : Ends argument refusal) {before : List Text}
    (hshown : ∀ problem, shown ≠ .problem problem)
    (hended : ofArguments (before ++ [argument]) = .error shown) {behind : List Text}
    (hbehind : ∀ other ∈ behind, ¬Text.ofString "--=" <+: other) :
    ofArguments (before ++ [argument] ++ behind) = .error shown := by
  obtain ⟨problem, -, hproblem⟩ | ⟨tokens, htokens, hread | ⟨_, -, -, hproblem⟩⟩ :=
    ofArguments_eq_error_iff.1 hended
  · exact absurd hproblem (hshown problem)
  · obtain ⟨later, hlater⟩ := Token.exists_ofArguments_append htokens hbehind
    cases hbefore : Token.ofArguments before with
    | error problem =>
      rw [Token.ofArguments_append_of_error hbefore] at htokens
      cases htokens
    | ok first =>
      obtain ⟨token, hsorted, -, hdemand, -⟩ := h.exists_sorted hbefore
      obtain rfl := Except.ok.inj (htokens.symm.trans hsorted)
      exact ofArguments_eq_of_read hlater (parted_concat hdemand first later) hread
  · exact absurd hproblem (hshown _)

/-- What has been refused in front of a call stays refused, leftovers apart. -/
theorem ofArguments_append_of_problem {argument : Text} {refusal : Refusal}
    (h : Ends argument refusal) {before : List Text} {problem : Problem}
    (hproblem : ∀ leftovers, problem ≠ .unrecognized leftovers)
    (hrefused : ofArguments before = .error (.problem problem)) :
    ofArguments (before ++ [argument]) = .error (.problem problem) := by
  obtain ⟨other, hsorted, hother⟩ | ⟨tokens, htokens, hread | ⟨last, -, -, hleftovers⟩⟩ :=
    ofArguments_eq_error_iff.1 hrefused
  · rw [hother]
    exact ofArguments_eq_error_iff.2
      (Or.inl ⟨other, Token.ofArguments_append_of_error hsorted [argument], rfl⟩)
  · obtain ⟨token, hsorted, hparted, -, -⟩ := h.exists_sorted htokens
    exact ofArguments_eq_of_read hsorted hparted hread
  · exact absurd (Refusal.problem.inj hleftovers) (hproblem _)

/-- A command line that is accepted, with a level or without, is refused with a call behind
it. -/
theorem ofArguments_append_of_ok {argument : Text} {refusal : Refusal} (h : Ends argument refusal)
    {before : List Text} {level : Option Level} (hok : ofArguments before = .ok level) :
    ofArguments (before ++ [argument]) = .error refusal := by
  obtain ⟨tokens, last, htokens, hread, -, -⟩ := exists_read_of_ofArguments hok
  obtain ⟨token, hsorted, hparted, -, hends⟩ := h.exists_sorted htokens
  refine ofArguments_eq_error_iff.2 (Or.inr ⟨_, hsorted, Or.inl ?_⟩)
  rw [read_append hparted, hread]
  exact hends (not_mem_of_ofArguments_eq_ok hok) last

end Settings

namespace Report

open Settings (Ends)

/-- The calls for help and for the version, with the text that each shows. -/
inductive Calls : Text → String → Prop
  | help {argument : Text}
    (h : argument = Text.ofString "-h" ∨ argument = Text.ofString "--help") : Calls argument help
  | version {argument : Text}
    (h : argument = Text.ofString "-V" ∨ argument = Text.ofString "--version") :
    Calls argument "fish-lsp 1.0\n"

theorem Calls.exists_ends {argument : Text} {text : String} (h : Calls argument text) :
    ∃ refusal, Ends argument refusal ∧ ofRefusal refusal = shown text := by
  cases h with
  | help h =>
    refine ⟨.help, ⟨.help, ?_, rfl⟩, rfl⟩
    obtain rfl | rfl := h
    · exact ⟨.short .help none, rfl, rfl⟩
    · exact ⟨.long .help none, rfl, rfl⟩
  | version h =>
    refine ⟨.version, ⟨.version, ?_, rfl⟩, by decide +kernel⟩
    obtain rfl | rfl := h
    · exact ⟨.short .version none, rfl, rfl⟩
    · exact ⟨.long .version none, rfl, rfl⟩

theorem ofArguments_of_refused (logger : String) {arguments : List Text} {refusal : Refusal}
    (h : Settings.ofArguments arguments = .error refusal) :
    ofArguments logger arguments = .ok (ofRefusal refusal) := by
  rw [ofArguments, h]

/-- Where a report comes from. -/
theorem ofArguments_cases {logger : String} {arguments : List Text} {report : Report}
    (h : ofArguments logger arguments = .ok report) :
    (∃ refusal, Settings.ofArguments arguments = .error refusal ∧ report = ofRefusal refusal) ∨
      ∃ level, Settings.ofArguments arguments = .ok (some level) ∧
        report = running logger level := by
  rw [ofArguments] at h
  split at h
  · next refusal hrefusal => exact Or.inl ⟨refusal, hrefusal, (Except.ok.inj h).symm⟩
  · next level hlevel => exact Or.inr ⟨level, hlevel, (Except.ok.inj h).symm⟩
  · cases h

/-- What a call for help or for the version does behind a command line. If the run ends with
code 0, it does so in the same way whatever follows, as long as that can be sorted, and the
server is not started. If the run without the call is turned down for anything but leftovers, so
it is with the call. If the run without the call starts the server, or fails because the level
is lost, then the call shows its text instead. -/
theorem ofArguments_of_calls (logger : String) {argument : Text} {text : String}
    (h : Calls argument text) (before : List Text) :
    (∀ report, ofArguments logger (before ++ [argument]) = .ok report → report.exit = some 0 →
      ∀ behind : List Text, (∀ other ∈ behind, ¬Text.ofString "--=" <+: other) →
        ofArguments logger (before ++ [argument] ++ behind) = .ok report ∧
          report.started = []) ∧
    (∀ report, ofArguments logger before = .ok report → report.exit = some 2 →
      ¬Text.ofString usage ++ Text.ofString "fish-lsp: error: unrecognized arguments: " <+:
        report.stderr →
      ofArguments logger (before ++ [argument]) = .ok report) ∧
    ((∃ report, ofArguments logger before = .ok report ∧ report.exit = none) ∨
        (∃ fault, ofArguments logger before = .error fault) →
      ofArguments logger (before ++ [argument]) = .ok (shown text)) := by
  obtain ⟨refusal, hends, htext⟩ := h.exists_ends
  refine ⟨fun report hreport hexit behind hbehind => ?_, fun report hreport hexit hstderr => ?_,
    fun hgoes => ?_⟩
  · obtain ⟨ended, hended, rfl⟩ | ⟨level, -, rfl⟩ := ofArguments_cases hreport
    · have hshown : ∀ problem, ended ≠ .problem problem := by
        rintro problem rfl
        cases hexit
      have hall := Settings.ofArguments_append_of_ended hends hshown hended hbehind
      exact ⟨ofArguments_of_refused logger hall, (declines_ofRefusal ended).started⟩
    · cases hexit
  · obtain ⟨refused, hrefused, rfl⟩ | ⟨level, -, rfl⟩ := ofArguments_cases hreport
    · cases refused with
      | help => cases hexit
      | version => cases hexit
      | problem problem =>
        have hproblem : ∀ leftovers, problem ≠ .unrecognized leftovers := by
          rintro leftovers rfl
          rw [ofRefusal, stderr_unrecognized, List.append_assoc] at hstderr
          exact hstderr (List.prefix_append _ _)
        exact ofArguments_of_refused logger
          (Settings.ofArguments_append_of_problem hends hproblem hrefused)
    · cases hexit
  · have hok : ∃ level, Settings.ofArguments before = .ok level := by
      cases hbefore : Settings.ofArguments before with
      | ok level => exact ⟨level, rfl⟩
      | error refused =>
        rw [ofArguments_of_refused logger hbefore] at hgoes
        obtain ⟨report, hreport, hexit⟩ | ⟨fault, hfault⟩ := hgoes
        · rw [← Except.ok.inj hreport] at hexit
          cases refused <;> cases hexit
        · cases hfault
    obtain ⟨level, hlevel⟩ := hok
    rw [ofArguments_of_refused logger (Settings.ofArguments_append_of_ok hends hlevel), htext]

/-- A call for the version behind a leftover, which is not reported any more, behind a switch that
still waits for its value, and alone. -/
theorem version_called_behind_pending :
    let call := Text.ofString "-V"
    let stray := [Text.ofString "-lError", Text.ofString "stray"]
    let behind := [Text.ofString "-l", Text.ofString "--", Text.ofString "--help=x"]
    let pending := [Text.ofString "--log"]
    Calls call "fish-lsp 1.0\n" ∧
      ofArguments Profile.logger (stray ++ [call] ++ behind) = .ok (shown "fish-lsp 1.0\n") ∧
      ofArguments Profile.logger (pending ++ [call]) = .ok (turnedDown .missingLevel) ∧
      ofArguments Profile.logger ([] ++ [call]) = .ok (shown "fish-lsp 1.0\n") := by
  intro call stray behind pending
  have hcall : Calls call "fish-lsp 1.0\n" := .version (Or.inl rfl)
  have hstray : ofArguments Profile.logger (stray ++ [call]) = .ok (shown "fish-lsp 1.0\n") := by
    decide +kernel
  have hmissing : Settings.ofArguments pending = .error (.problem .missingLevel) := by decide
  have hpending : ofArguments Profile.logger pending = .ok (turnedDown .missingLevel) :=
    ofArguments_of_refused Profile.logger hmissing
  have hstart : ofArguments Profile.logger [] = .ok (running Profile.logger .info) := rfl
  exact ⟨hcall, ((ofArguments_of_calls Profile.logger hcall stray).1 _ hstray rfl behind
      (by decide)).1,
    (ofArguments_of_calls Profile.logger hcall pending).2.1 _ hpending rfl (by decide +kernel),
    (ofArguments_of_calls Profile.logger hcall []).2.2 (Or.inl ⟨_, hstart, rfl⟩)⟩

/-- A lost level makes the program fail, but not if a call for help stands behind it. -/
theorem help_called_behind_lost_level :
    ∃ fault, ofArguments Profile.logger [Text.ofString "-l=--"] = .error fault ∧
      ofArguments Profile.logger ([Text.ofString "-l=--"] ++ [Text.ofString "-h"]) ≠
        .error fault ∧
      ofArguments Profile.logger ([Text.ofString "-l=--"] ++ [Text.ofString "-h"]) =
        .ok (shown help) := by
  have hfails : ofArguments Profile.logger [Text.ofString "-l=--"] =
      .error ⟨.attribute, "'list' object has no attribute 'upper'"⟩ := by decide +kernel
  have hhelp : Settings.ofArguments ([Text.ofString "-l=--"] ++ [Text.ofString "-h"]) =
      .error .help := by decide
  have hshown : ofArguments Profile.logger ([Text.ofString "-l=--"] ++ [Text.ofString "-h"]) =
      .ok (shown help) := ofArguments_of_refused Profile.logger hhelp
  refine ⟨_, hfails, ?_, hshown⟩
  rw [hshown]
  exact nofun

end Report

end FishScript
