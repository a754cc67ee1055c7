import FishScript.CommandLine.Report
import FishScript.Proofs.CommandLine.LevelName
import FishScript.Proofs.CommandLine.Tokens

/-!
# Command lines that start the server

The server starts if the command line consists of settings of the level and of nothing
else, and the last setting counts. All other command lines are turned down with a message
or show a text, but for one kind: two hyphens attached as the value are dropped together
with the level, and with no level the program fails.

## Main definitions

- `Settings.SetBy` — the ways to set the level by a value
- `Settings.SetsLevels` — command lines that consist of settings
- `Settings.Reads` — readings that succeed, argument by argument
- `Report.Starts`, `Report.Declines` — what is visible of the server and of its absence

## Main results

- `Settings.read_eq_ok_iff` — the readings that succeed
- `Settings.Reads.setsLevels`, `Settings.SetsLevels.accepts` — settings are what is read
  without leftovers
- `Settings.ofArguments_eq_ok_iff` — the command lines that are accepted
- `Report.ofArguments_reports` — what a command line does
-/

namespace FishScript

/-- A computation in steps succeeds if each step does. -/
theorem bind_eq_ok_iff {ε α β : Type} {first : Except ε α} {next : α → Except ε β} {b : β} :
    first >>= next = .ok b ↔ ∃ a, first = .ok a ∧ next a = .ok b := by
  cases first with
  | error e => exact iff_of_false (fun h => by cases h) (fun ⟨_, h, _⟩ => by cases h)
  | ok a =>
    constructor
    · exact fun h => ⟨a, rfl, h⟩
    · rintro ⟨_, ha, h⟩
      exact Except.ok.inj ha ▸ h

namespace Settings

open Token (NamesLevel equalsSign twoHyphens)

/-- The arguments that set the level by a value: a name of the log level in front of it, or
joined to it by an equals sign, or the letter of the log level directly in front of it. -/
inductive SetBy (value : Text) : List Text → Prop
  | apart {option : Text} (h : NamesLevel option) : SetBy value [option, value]
  | joined {option : Text} (h : NamesLevel option) : SetBy value [option ++ equalsSign :: value]
  | attached : SetBy value [Text.ofString "-l" ++ value]

/-- What a value makes of the level. Two hyphens are dropped, and the level is lost. -/
inductive Gives : Text → Option Level → Prop
  | level {value : Text} {level : Level} (h : level.IsNamed value) : Gives value (some level)
  | lost : Gives twoHyphens none

/-- Command lines that are settings one after another, with what each makes of the level. -/
inductive SetsLevels : List Text → List (Option Level) → Prop
  | nil : SetsLevels [] []
  | cons {value : Text} {part rest : List Text} {level : Option Level}
    {levels : List (Option Level)} (hpart : SetBy value part) (hlevel : Gives value level)
    (hrest : SetsLevels rest levels) : SetsLevels (part ++ rest) (level :: levels)

/-! ### Values -/

theorem setLevel_eq_ok_iff {settings next : Settings} {value : Text} :
    settings.setLevel value = .ok next ↔
      ∃ level : Level, level.IsNamed value ∧ next = { settings with level := some level } := by
  simp only [← Level.ofName?_lowercase_eq_some_iff]
  rw [setLevel]
  cases Level.ofName? value.lowercase with
  | none => simp
  | some level => simp [eq_comm]

theorem ne_twoHyphens_of_isNamed {level : Level} {value : Text} (h : level.IsNamed value) :
    value ≠ twoHyphens := by
  obtain ⟨c, rest, rfl, hc, -⟩ := h.exists_cons
  intro heq
  exact hc (List.cons.inj heq).1

/-- What names a level may be the value of a switch in front of it. -/
theorem ofArgument_of_isNamed {level : Level} {value : Text} (h : level.IsNamed value) :
    Token.ofArgument value = .ok .operand := by
  obtain ⟨c, rest, rfl, hc, -⟩ := h.exists_cons
  exact Token.ofArgument_eq_operand hc rest

theorem setAttached_eq_ok_iff {settings next : Settings} {value : Text} :
    settings.setAttached value = .ok next ↔
      ∃ level, Gives value level ∧ next = { settings with level := level } := by
  rw [setAttached]
  by_cases h : value = twoHyphens
  · rw [if_pos h, Except.ok.injEq]
    constructor
    · rintro rfl
      exact ⟨none, h ▸ .lost, rfl⟩
    · rintro ⟨_, hnamed | -, rfl⟩
      · exact absurd h (ne_twoHyphens_of_isNamed ‹_›)
      · rfl
  · rw [if_neg h, setLevel_eq_ok_iff]
    constructor
    · rintro ⟨level, hnamed, rfl⟩
      exact ⟨some level, .level hnamed, rfl⟩
    · rintro ⟨_, hnamed | -, rfl⟩
      · exact ⟨_, ‹_›, rfl⟩
      · exact absurd rfl h

/-! ### Reading from left to right -/

theorem act_eq_ok_iff {switch : Switch} : act switch = .ok () ↔ switch = .logLevel := by
  cases switch <;> simp [act]

/-- A reading that succeeds, argument by argument. Only the log level acts and lets it go on,
with a value that is attached or with the next argument for a value. What names no switch is
set aside. -/
inductive Reads : Settings → List (Token × Text) → Settings → Prop
  | done {settings : Settings} : Reads settings [] settings
  | aside {settings last : Settings} {token : Token} {argument : Text}
    {rest : List (Token × Text)} (hdemand : demand? token = none)
    (hrest : Reads (settings.setAside argument) rest last) :
    Reads settings ((token, argument) :: rest) last
  | given {settings last : Settings} {token : Token} {argument value : Text}
    {level : Option Level} {rest : List (Token × Text)}
    (hdemand : demand? token = some (.logLevel, .ok (.given value))) (hlevel : Gives value level)
    (hrest : Reads { settings with level := level } rest last) :
    Reads settings ((token, argument) :: rest) last
  | next {settings last : Settings} {token : Token} {argument value : Text} {level : Level}
    {rest : List (Token × Text)} (hdemand : demand? token = some (.logLevel, .ok .next))
    (hlevel : level.IsNamed value)
    (hrest : Reads { settings with level := some level } rest last) :
    Reads settings ((token, argument) :: (.operand, value) :: rest) last

/-- What happens at the first of some arguments, if the reading succeeds. -/
theorem read_cons_cases {settings last : Settings} {token : Token} {argument : Text}
    {rest : List (Token × Text)} (h : settings.read ((token, argument) :: rest) = .ok last) :
    (demand? token = none ∧ (settings.setAside argument).read rest = .ok last) ∨
      (∃ value next, demand? token = some (.logLevel, .ok (.given value)) ∧
        settings.setAttached value = .ok next ∧ next.read rest = .ok last) ∨
      ∃ value later next, demand? token = some (.logLevel, .ok .next) ∧
        rest = (.operand, value) :: later ∧ settings.setLevel value = .ok next ∧
        next.read later = .ok last := by
  rw [read] at h
  split at h
  · next hdemand => exact Or.inl ⟨hdemand, h⟩
  · cases h
  · next switch hdemand =>
    obtain ⟨_, hact, -⟩ := bind_eq_ok_iff.1 h
    obtain rfl := act_eq_ok_iff.1 hact
    obtain ⟨attached, hnothing, -⟩ := demand?_eq_logLevel_iff.1 hdemand
    cases attached <;> cases hnothing
  · next switch value hdemand =>
    obtain ⟨_, hact, hacted⟩ := bind_eq_ok_iff.1 h
    obtain rfl := act_eq_ok_iff.1 hact
    obtain ⟨next, hset, hrest⟩ := bind_eq_ok_iff.1 hacted
    exact Or.inr (Or.inl ⟨value, next, hdemand, hset, hrest⟩)
  · next switch hdemand =>
    split at h
    · next value later =>
      obtain ⟨_, hact, hacted⟩ := bind_eq_ok_iff.1 h
      obtain rfl := act_eq_ok_iff.1 hact
      obtain ⟨next, hset, hrest⟩ := bind_eq_ok_iff.1 hacted
      exact Or.inr (Or.inr ⟨value, later, next, hdemand, rfl, hset, hrest⟩)
    · cases h

/-- The relation is what the program computes. -/
theorem read_eq_ok_iff {settings last : Settings} {tokens : List (Token × Text)} :
    settings.read tokens = .ok last ↔ Reads settings tokens last := by
  constructor
  · intro h
    induction hlength : tokens.length using Nat.strongRecOn generalizing settings tokens with
    | _ n ih =>
      match tokens with
      | [] =>
        obtain rfl : settings = last := Except.ok.inj h
        exact .done
      | (token, argument) :: rest =>
        rw [List.length_cons] at hlength
        obtain ⟨hdemand, hrest⟩ | ⟨value, next, hdemand, hset, hrest⟩ |
          ⟨value, later, next, hdemand, rfl, hset, hrest⟩ := read_cons_cases h
        · exact .aside hdemand (ih _ (by omega) hrest rfl)
        · obtain ⟨level, hlevel, rfl⟩ := setAttached_eq_ok_iff.1 hset
          exact .given hdemand hlevel (ih _ (by omega) hrest rfl)
        · obtain ⟨level, hlevel, rfl⟩ := setLevel_eq_ok_iff.1 hset
          rw [List.length_cons] at hlength
          exact .next hdemand hlevel (ih _ (by omega) hrest rfl)
  · intro h
    induction h with
    | done => rfl
    | aside hdemand _ ih =>
      rw [read, hdemand]
      exact ih
    | given hdemand hlevel _ ih =>
      rw [read, hdemand]
      simp only [act, setAttached_eq_ok_iff.2 ⟨_, hlevel, rfl⟩]
      exact ih
    | next hdemand hlevel _ ih =>
      rw [read, hdemand]
      simp only [act, setLevel_eq_ok_iff.2 ⟨_, hlevel, rfl⟩]
      exact ih

/-- What has been set aside stays. -/
theorem Reads.leftovers_kept {settings last : Settings} {tokens : List (Token × Text)}
    (h : Reads settings tokens last) : settings.leftovers <+: last.leftovers := by
  induction h with
  | done => exact List.prefix_rfl
  | aside _ _ ih => exact (List.prefix_append _ _).trans ih
  | given _ _ _ ih => exact ih
  | next _ _ _ ih => exact ih

/-! ### Settings -/

/-- Arguments are sorted one by one, up to two hyphens that stand alone. -/
theorem ofArguments_cons {argument : Text} (h : argument ≠ twoHyphens) (rest : List Text) :
    Token.ofArguments (argument :: rest) = do
      let token ← Token.ofArgument argument
      let later ← Token.ofArguments rest
      return (token, argument) :: later := by
  rw [Token.ofArguments]
  cases htoken : Token.ofArgument argument with
  | error problem => rfl
  | ok token =>
    have hterminator : token ≠ .terminator := fun heq =>
      h (Token.ofArgument_eq_terminator_iff.1 (heq ▸ htoken))
    exact if_neg hterminator

theorem ofArguments_cons_eq_ok_iff {argument : Text} (h : argument ≠ twoHyphens) {rest : List Text}
    {tokens : List (Token × Text)} :
    Token.ofArguments (argument :: rest) = .ok tokens ↔
      ∃ token later, Token.ofArgument argument = .ok token ∧
        Token.ofArguments rest = .ok later ∧ tokens = (token, argument) :: later := by
  rw [ofArguments_cons h, bind_eq_ok_iff]
  constructor
  · rintro ⟨token, htoken, hsorted⟩
    obtain ⟨later, hlater, hcons⟩ := bind_eq_ok_iff.1 hsorted
    exact ⟨token, later, htoken, hlater, (Except.ok.inj hcons).symm⟩
  · rintro ⟨token, later, htoken, hlater, rfl⟩
    exact ⟨token, htoken, bind_eq_ok_iff.2 ⟨later, hlater, rfl⟩⟩

theorem eq_nil_of_ofArguments {arguments : List Text} (h : Token.ofArguments arguments = .ok []) :
    arguments = [] := by
  cases arguments with
  | nil => rfl
  | cons argument rest =>
    rw [Token.ofArguments] at h
    obtain ⟨token, -, hsorted⟩ := bind_eq_ok_iff.1 h
    split at hsorted
    · cases hsorted
    · obtain ⟨later, -, hcons⟩ := bind_eq_ok_iff.1 hsorted
      cases hcons

theorem exists_cons_of_ofArguments {arguments : List Text} (hplain : twoHyphens ∉ arguments)
    {token : Token} {argument : Text} {tokens : List (Token × Text)}
    (h : Token.ofArguments arguments = .ok ((token, argument) :: tokens)) :
    ∃ rest, arguments = argument :: rest ∧ Token.ofArgument argument = .ok token ∧
      Token.ofArguments rest = .ok tokens ∧ twoHyphens ∉ rest := by
  cases arguments with
  | nil => cases h
  | cons first rest =>
    obtain ⟨hne, hrest⟩ := List.ne_and_not_mem_of_not_mem_cons hplain
    obtain ⟨_, _, htoken, hlater, heq⟩ := (ofArguments_cons_eq_ok_iff (Ne.symm hne)).1 h
    obtain ⟨hhead, rfl⟩ := List.cons.inj heq
    obtain ⟨rfl, rfl⟩ := Prod.mk.inj hhead
    exact ⟨rest, rfl, htoken, hlater, hrest⟩

/-- An attached value is attached in one of the ways that set the level. -/
theorem SetBy.of_asks {argument value : Text} (h : Asks argument .logLevel (.given value)) :
    SetBy value [argument] := by
  obtain ⟨option, hoption, rfl⟩ | ⟨rfl, -, -⟩ := asks_given_iff.1 h
  · exact .joined hoption
  · exact .attached

/-- What is read without leftovers is settings. -/
theorem Reads.setsLevels {settings last : Settings} {tokens : List (Token × Text)}
    (h : Reads settings tokens last) (hleftovers : last.leftovers = []) {arguments : List Text}
    (hplain : twoHyphens ∉ arguments) (htokens : Token.ofArguments arguments = .ok tokens) :
    ∃ levels, SetsLevels arguments levels ∧ last.level = levels.getLast?.getD settings.level := by
  induction h generalizing arguments with
  | done =>
    rw [eq_nil_of_ofArguments htokens]
    exact ⟨[], .nil, rfl⟩
  | aside _ hrest =>
    -- it would still be there at the end
    have hkept := hrest.leftovers_kept
    rw [hleftovers, List.prefix_nil] at hkept
    exact absurd hkept (List.append_ne_nil_of_right_ne_nil _ (List.cons_ne_nil _ []))
  | given hdemand hlevel _ ih =>
    obtain ⟨rest, rfl, htoken, hrest, hplain⟩ := exists_cons_of_ofArguments hplain htokens
    obtain ⟨levels, hsets, hlast⟩ := ih hleftovers hplain hrest
    refine ⟨_ :: levels, .cons (.of_asks ⟨_, htoken, hdemand⟩) hlevel hsets, ?_⟩
    rw [hlast, List.getLast?_cons]
    rfl
  | next hdemand hlevel _ ih =>
    obtain ⟨_, rfl, htoken, hmore, hplain⟩ := exists_cons_of_ofArguments hplain htokens
    obtain ⟨rest, rfl, -, hrest, hplain⟩ := exists_cons_of_ofArguments hplain hmore
    obtain ⟨levels, hsets, hlast⟩ := ih hleftovers hplain hrest
    have hname := asks_next_iff.1 ⟨_, htoken, hdemand⟩
    refine ⟨_ :: levels, .cons (.apart hname) (.level hlevel) hsets, ?_⟩
    rw [hlast, List.getLast?_cons]
    rfl

/-- No value that counts starts with an equals sign. -/
theorem Gives.exists_cons {value : Text} {level : Option Level} (h : Gives value level) :
    ∃ c rest, value = c :: rest ∧ c ≠ equalsSign := by
  cases h with
  | level hnamed =>
    obtain ⟨c, rest, rfl, -, hc⟩ := hnamed.exists_cons
    exact ⟨c, rest, rfl, hc⟩
  | lost => exact ⟨_, _, rfl, by decide⟩

/-- So it is attached to the letter of the log level as it stands. -/
theorem Gives.asks_attached {value : Text} {level : Option Level} (h : Gives value level) :
    Asks (Text.ofString "-l" ++ value) .logLevel (.given value) := by
  obtain ⟨c, rest, rfl, hc⟩ := h.exists_cons
  have hhead : (c :: rest).head? ≠ some equalsSign := fun heq => hc (Option.some.inj heq)
  exact asks_given_iff.2 (Or.inr ⟨rfl, List.cons_ne_nil c rest, hhead⟩)

/-- Arguments that are read without leftovers, with what each setting in them makes of the
level. -/
def Accepts (arguments : List Text) (levels : List (Option Level)) : Prop :=
  ∃ tokens, Token.ofArguments arguments = .ok tokens ∧ ∀ settings : Settings,
    Reads settings tokens { settings with level := levels.getLast?.getD settings.level }

theorem Accepts.given {argument value : Text} {rest : List Text} {level : Option Level}
    {levels : List (Option Level)} (hne : argument ≠ twoHyphens)
    (hasks : Asks argument .logLevel (.given value)) (hlevel : Gives value level)
    (hrest : Accepts rest levels) : Accepts (argument :: rest) (level :: levels) := by
  obtain ⟨tokens, htokens, hreads⟩ := hrest
  obtain ⟨token, htoken, hdemand⟩ := hasks
  refine ⟨_, (ofArguments_cons_eq_ok_iff hne).2 ⟨token, tokens, htoken, htokens, rfl⟩, ?_⟩
  intro settings
  rw [List.getLast?_cons]
  exact .given hdemand hlevel (hreads { settings with level := level })

theorem Accepts.next {option value : Text} {rest : List Text} {level : Level}
    {levels : List (Option Level)} (hne : option ≠ twoHyphens) (hoption : NamesLevel option)
    (hnamed : level.IsNamed value) (hrest : Accepts rest levels) :
    Accepts (option :: value :: rest) (some level :: levels) := by
  obtain ⟨tokens, htokens, hreads⟩ := hrest
  obtain ⟨token, htoken, hdemand⟩ := asks_next_iff.2 hoption
  have hvalue := (ofArguments_cons_eq_ok_iff (ne_twoHyphens_of_isNamed hnamed)).2
    ⟨.operand, tokens, ofArgument_of_isNamed hnamed, htokens, rfl⟩
  refine ⟨_, (ofArguments_cons_eq_ok_iff hne).2 ⟨token, _, htoken, hvalue, rfl⟩, ?_⟩
  intro settings
  rw [List.getLast?_cons]
  exact .next hdemand hnamed (hreads { settings with level := some level })

/-- Settings are read without leftovers, and the last one counts. -/
theorem SetsLevels.accepts {arguments : List Text} {levels : List (Option Level)}
    (h : SetsLevels arguments levels) (hplain : twoHyphens ∉ arguments) :
    Accepts arguments levels := by
  induction h with
  | nil => exact ⟨[], rfl, fun settings => .done⟩
  | @cons value part rest level levels hpart hlevel _ ih =>
    rw [List.mem_append, not_or] at hplain
    have hrest := ih hplain.2
    cases hpart with
    | apart hoption =>
      obtain ⟨hne, hvalue⟩ := List.ne_and_not_mem_of_not_mem_cons hplain.1
      cases hlevel with
      | level hnamed => exact .next hne.symm hoption hnamed hrest
      | lost => exact absurd (List.mem_singleton_self _) hvalue
    | joined hoption =>
      have hne := List.ne_of_not_mem_cons hplain.1
      exact .given hne.symm (asks_given_iff.2 (Or.inl ⟨_, hoption, rfl⟩)) hlevel hrest
    | attached =>
      have hne := List.ne_of_not_mem_cons hplain.1
      exact .given hne.symm hlevel.asks_attached hlevel hrest

/-- What has happened when a command line is accepted. -/
theorem exists_read_of_ofArguments {arguments : List Text} {level : Option Level}
    (h : ofArguments arguments = .ok level) :
    ∃ tokens last, Token.ofArguments arguments = .ok tokens ∧ initial.read tokens = .ok last ∧
      last.leftovers = [] ∧ last.level = level := by
  rw [ofArguments] at h
  cases htokens : Token.ofArguments arguments with
  | error problem =>
    rw [htokens] at h
    cases h
  | ok tokens =>
    rw [htokens] at h
    obtain ⟨last, hread, hlast⟩ := bind_eq_ok_iff.1 h
    split at hlast
    · next hleftovers => exact ⟨tokens, last, rfl, hread, hleftovers, Except.ok.inj hlast⟩
    · cases hlast

/-- A command line is accepted if it consists of settings. The last one counts, and the level
is `info` without any. -/
theorem ofArguments_eq_ok_iff {arguments : List Text} (hplain : twoHyphens ∉ arguments)
    {level : Option Level} :
    ofArguments arguments = .ok level ↔
      ∃ levels, SetsLevels arguments levels ∧ level = levels.getLast?.getD (some .info) := by
  constructor
  · intro h
    obtain ⟨tokens, last, htokens, hread, hleftovers, rfl⟩ := exists_read_of_ofArguments h
    exact (read_eq_ok_iff.1 hread).setsLevels hleftovers hplain htokens
  · rintro ⟨levels, hsets, rfl⟩
    obtain ⟨tokens, htokens, hreads⟩ := hsets.accepts hplain
    rw [ofArguments, htokens]
    simp only [read_eq_ok_iff.2 (hreads initial)]
    rfl

end Settings

theorem Text.ofString_append (a b : String) : ofString (a ++ b) = ofString a ++ ofString b := by
  simp [ofString]

namespace Report

open Settings (SetsLevels)

/-- The server has been started once, with its log at a level. The log tells so if the level
shows it. -/
structure Starts (logger : String) (level : Level) (report : Report) : Prop where
  exit : report.exit = none
  stdout : report.stdout = []
  started : report.started = [("fish-lsp", "1.0")]
  logged : report.level = some level
  /-- The log calls the level by its name in capitals. -/
  label : level.label.toList = level.name.toList.map Char.toUpper
  stderr : report.stderr =
    if level = .debug ∨ level = .info then Text.ofString (startLine logger) else []

/-- The server has not been started: a text has been shown, or usage and one error. -/
structure Declines (report : Report) : Prop where
  started : report.started = []
  logged : report.level = none
  texts : (report.exit = some 0 ∧ report.stderr = [] ∧
      (report.stdout = Text.ofString help ∨ report.stdout = Text.ofString "fish-lsp 1.0\n")) ∨
    (report.exit = some 2 ∧ report.stdout = [] ∧ ∃ problem : Problem, report.stderr =
      Text.ofString usage ++ Text.ofString "fish-lsp: error: " ++ problem.message ++
        Text.ofString "\n")

theorem starts_running (logger : String) (level : Level) :
    (running logger level).Starts logger level where
  exit := rfl
  stdout := rfl
  started := rfl
  logged := rfl
  label := by cases level <;> decide
  stderr := by cases level <;> rfl

theorem declines_shown {text : String} (h : text = help ∨ text = "fish-lsp 1.0\n") :
    (shown text).Declines where
  started := rfl
  logged := rfl
  texts := Or.inl ⟨rfl, rfl, h.imp (congrArg Text.ofString) (congrArg Text.ofString)⟩

/-- What is written when a command line is turned down. -/
theorem stderr_turnedDown (problem : Problem) : (turnedDown problem).stderr =
    Text.ofString usage ++ Text.ofString "fish-lsp: error: " ++ problem.message ++
      Text.ofString "\n" := by
  have hprogram : Profile.name ++ ": error: " = "fish-lsp: error: " := by decide
  rw [← hprogram, ← Text.ofString_append, ← String.append_assoc]
  rfl

theorem stderr_unrecognized (arguments : List Text) :
    (turnedDown (.unrecognized arguments)).stderr = Text.ofString usage ++
      Text.ofString "fish-lsp: error: unrecognized arguments: " ++
        List.intercalate (Text.ofString " ") arguments ++ Text.ofString "\n" := by
  have hlead : "fish-lsp: error: unrecognized arguments: " =
      "fish-lsp: error: " ++ "unrecognized arguments: " := by decide
  rw [stderr_turnedDown, Problem.message, hlead, Text.ofString_append]
  simp only [List.append_assoc]

theorem declines_turnedDown (problem : Problem) : (turnedDown problem).Declines where
  started := rfl
  logged := rfl
  texts := Or.inr ⟨rfl, rfl, problem, stderr_turnedDown problem⟩

theorem declines_ofRefusal (refusal : Refusal) : (ofRefusal refusal).Declines := by
  cases refusal with
  | help => exact declines_shown (Or.inl rfl)
  | version => exact declines_shown (Or.inr (by decide +kernel))
  | problem problem => exact declines_turnedDown problem

/-- What a command line does in which no argument is two hyphens. It starts the server if it
consists of settings, at the level that the last one gives and at `info` without any. If the
last one has lost the level, the program fails. Any other command line is declined. -/
theorem ofArguments_reports (logger : String) {arguments : List Text}
    (hplain : Token.twoHyphens ∉ arguments) :
    (∀ level, (∃ report, ofArguments logger arguments = .ok report ∧ report.Starts logger level) ↔
      ∃ levels, SetsLevels arguments levels ∧ some level = levels.getLast?.getD (some .info)) ∧
    (∀ fault, ofArguments logger arguments = .error fault ↔
      (∃ levels, SetsLevels arguments levels ∧ none = levels.getLast?.getD (some .info)) ∧
        fault = ⟨.attribute, "'list' object has no attribute 'upper'"⟩) ∧
    ((¬∃ levels, SetsLevels arguments levels) →
      ∃ report, ofArguments logger arguments = .ok report ∧ report.Declines) := by
  simp only [← Settings.ofArguments_eq_ok_iff hplain]
  have hsome : ∀ level, Settings.ofArguments arguments = .ok level →
      ∃ levels, SetsLevels arguments levels := by
    intro level h
    obtain ⟨levels, hsets, -⟩ := (Settings.ofArguments_eq_ok_iff hplain).1 h
    exact ⟨levels, hsets⟩
  rw [ofArguments]
  cases h : Settings.ofArguments arguments with
  | error refusal =>
    have hdeclines := declines_ofRefusal refusal
    refine ⟨fun level => iff_of_false ?_ (by simp), fun fault => by simp, fun _ => ?_⟩
    · rintro ⟨report, hreport, hstarts⟩
      rw [← Except.ok.inj hreport] at hstarts
      exact absurd (hdeclines.started.symm.trans hstarts.started) (by simp)
    · exact ⟨_, rfl, hdeclines⟩
  | ok level =>
    cases level with
    | none =>
      refine ⟨fun level => iff_of_false ?_ (by simp), fun fault => ?_, fun hnone => ?_⟩
      · rintro ⟨report, hreport, -⟩
        cases hreport
      · simp [eq_comm]
      · exact absurd (hsome _ h) hnone
    | some level =>
      refine ⟨fun other => ?_, fun fault => by simp, fun hnone => ?_⟩
      · constructor
        · rintro ⟨report, hreport, hstarts⟩
          rw [← Except.ok.inj hreport] at hstarts
          exact congrArg Except.ok hstarts.logged
        · intro heq
          obtain rfl : level = other := Option.some.inj (Except.ok.inj heq)
          exact ⟨_, rfl, starts_running logger level⟩
      · exact absurd (hsome _ h) hnone

/-- Names of the log level in full and abbreviated, and values in small and capital letters. -/
theorem starts_at_last_setting :
    let arguments := [Text.ofString "-l=DEBUG", Text.ofString "--log", Text.ofString "Error",
      Text.ofString "-lwarning"]
    Token.twoHyphens ∉ arguments ∧ ∃ report,
      ofArguments Profile.logger arguments = .ok report ∧ report.Starts Profile.logger .warning ∧
        report.stderr = [] := by
  intro arguments
  have hplain : Token.twoHyphens ∉ arguments := by decide
  have harguments : arguments =
      [Text.ofString "-l" ++ Token.equalsSign :: Text.ofString "DEBUG"] ++
        ([Text.ofString "--log", Text.ofString "Error"] ++
          ([Text.ofString "-l" ++ Text.ofString "warning"] ++ [])) := by decide
  have hsets : SetsLevels arguments [some .debug, some .error, some .warning] := by
    rw [harguments]
    exact .cons (.joined (by decide)) (.level (by decide))
      (.cons (.apart (by decide)) (.level (by decide))
        (.cons .attached (.level (by decide)) .nil))
  obtain ⟨report, hreport, hstarts⟩ :=
    ((ofArguments_reports Profile.logger hplain).1 .warning).2 ⟨_, hsets, rfl⟩
  refine ⟨hplain, report, hreport, hstarts, ?_⟩
  rw [hstarts.stderr]
  rfl

/-- Two hyphens attached as the value make the program fail, which neither starts nor declines
anything. -/
theorem ofArguments_attached_hyphens :
    Token.twoHyphens ∉ [Text.ofString "-l=--"] ∧
      ofArguments Profile.logger [Text.ofString "-l=--"] =
        .error ⟨.attribute, "'list' object has no attribute 'upper'"⟩ ∧
      ¬∃ report, ofArguments Profile.logger [Text.ofString "-l=--"] = .ok report ∧
        ((∃ level, report.Starts Profile.logger level) ∨ report.Declines) := by
  have hfails : ofArguments Profile.logger [Text.ofString "-l=--"] =
      .error ⟨.attribute, "'list' object has no attribute 'upper'"⟩ := by decide +kernel
  refine ⟨by decide, hfails, ?_⟩
  rintro ⟨report, hreport, -⟩
  rw [hfails] at hreport
  cases hreport

end Report

end FishScript
