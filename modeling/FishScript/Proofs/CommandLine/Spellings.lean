import FishScript.Proofs.CommandLine.Seams

/-!
# Spellings of a setting

A setting of the level may be spelled in several ways. Whatever stands in front of it and behind
it, a command line does the same with each of them: what comes first may end the reading or still
wait for a value, but no spelling starts with anything that could be one.

## Main definitions

- `Settings.Sets` — sorted arguments that set the level and do nothing else

## Main results

- `Settings.exists_sets` — the spellings of a setting, sorted
- `Settings.Sets.read_congr` — in a reading all of them do the same
- `Report.ofArguments_eq_of_setBy` — and so they do in a command line
-/

namespace FishScript

namespace Settings

open Token (twoHyphens)

/-- Sorted arguments that set the level and do nothing else, whatever stands behind them. The
first of them is no value for a switch in front of it. -/
structure Sets (level : Level) (tokens : List (Token × Text)) : Prop where
  read_append : ∀ (settings : Settings) (rest : List (Token × Text)),
    settings.read (tokens ++ rest) = { settings with level := some level }.read rest
  starts : ∃ token argument later, tokens = (token, argument) :: later ∧ token ≠ .operand

theorem Sets.parted {level : Level} {tokens : List (Token × Text)} (h : Sets level tokens)
    (before rest : List (Token × Text)) : Parted before (tokens ++ rest) := by
  obtain ⟨token, argument, later, rfl, htoken⟩ := h.starts
  exact parted_cons htoken before (later ++ rest)

/-- Setting the level in one way or another makes no difference to a reading. -/
theorem Sets.read_congr {level : Level} {a b : List (Token × Text)} (ha : Sets level a)
    (hb : Sets level b) (settings : Settings) (tokens rest : List (Token × Text)) :
    settings.read (tokens ++ (a ++ rest)) = settings.read (tokens ++ (b ++ rest)) := by
  rw [Settings.read_append (ha.parted tokens rest), Settings.read_append (hb.parted tokens rest)]
  simp only [ha.read_append, hb.read_append]

/-! ### The spellings -/

/-- A value that is attached sets the level by one argument. -/
theorem sets_of_given {argument value : Text} {level : Level} {token : Token}
    (hnamed : level.IsNamed value)
    (hdemand : demand? token = some (.logLevel, .ok (.given value))) :
    Sets level [(token, argument)] where
  read_append := by
    intro settings rest
    rw [List.singleton_append, read, hdemand]
    simp only [act, setAttached_eq_ok_iff.2 ⟨_, .level hnamed, rfl⟩]
    rfl
  starts := ⟨token, argument, [], rfl, ne_operand_of_demand? hdemand⟩

/-- A value that stands apart sets the level by two arguments. -/
theorem sets_of_next {argument value : Text} {level : Level} {token : Token}
    (hnamed : level.IsNamed value) (hdemand : demand? token = some (.logLevel, .ok .next)) :
    Sets level [(token, argument), (.operand, value)] where
  read_append := by
    intro settings rest
    rw [List.cons_append, List.singleton_append, read_of_next hdemand]
    simp only [act, setLevel_eq_ok_iff.2 ⟨_, hnamed, rfl⟩]
    rfl
  starts := ⟨token, argument, _, rfl, ne_operand_of_demand? hdemand⟩

/-- Each spelling of a setting is sorted as one that does nothing else. -/
theorem exists_sets {level : Level} {value : Text} {part : List Text} (h : SetBy value part)
    (hnamed : level.IsNamed value) :
    twoHyphens ∉ part ∧ ∃ tokens, Token.ofArguments part = .ok tokens ∧ Sets level tokens := by
  have hone : ∀ argument, Asks argument .logLevel (.given value) →
      twoHyphens ∉ [argument] ∧
        ∃ tokens, Token.ofArguments [argument] = .ok tokens ∧ Sets level tokens := by
    intro argument hasks
    have hne := ne_twoHyphens_of_asks hasks
    obtain ⟨token, htoken, hdemand⟩ := hasks
    refine ⟨fun hmem => hne (List.mem_singleton.1 hmem).symm, [(token, argument)], ?_,
      sets_of_given hnamed hdemand⟩
    exact (ofArguments_cons_eq_ok_iff hne).2 ⟨token, [], htoken, rfl, rfl⟩
  cases h with
  | @apart option hoption =>
    have hasks := asks_next_iff.2 hoption
    have hne := ne_twoHyphens_of_asks hasks
    have hvalue := ne_twoHyphens_of_isNamed hnamed
    obtain ⟨token, htoken, hdemand⟩ := hasks
    refine ⟨?_, [(token, option), (.operand, value)], ?_, sets_of_next hnamed hdemand⟩
    · rw [List.mem_cons, List.mem_singleton, not_or]
      exact ⟨hne.symm, hvalue.symm⟩
    · exact (ofArguments_cons_eq_ok_iff hne).2 ⟨token, _, htoken,
        (ofArguments_cons_eq_ok_iff hvalue).2
          ⟨.operand, [], ofArgument_of_isNamed hnamed, rfl, rfl⟩, rfl⟩
  | joined hoption => exact hone _ (asks_given_iff.2 (Or.inl ⟨_, hoption, rfl⟩))
  | attached => exact hone _ (Gives.level hnamed).asks_attached

/-- All spellings of a setting are read in the same way, whatever stands around them. -/
theorem ofArguments_congr {level : Level} {value value' : Text} (hvalue : level.IsNamed value)
    (hvalue' : level.IsNamed value') {a b : List Text} (ha : SetBy value a) (hb : SetBy value' b)
    {before : List Text} (hbefore : twoHyphens ∉ before) (behind : List Text) :
    ofArguments (before ++ a ++ behind) = ofArguments (before ++ b ++ behind) := by
  obtain ⟨hplain, first, hfirst, hsets⟩ := exists_sets ha hvalue
  obtain ⟨hplain', second, hsecond, hsets'⟩ := exists_sets hb hvalue'
  rw [List.append_assoc, List.append_assoc, ofArguments, ofArguments,
    Token.ofArguments_append hbefore, Token.ofArguments_append hbefore,
    Token.ofArguments_append hplain, Token.ofArguments_append hplain', hfirst, hsecond]
  cases Token.ofArguments before with
  | error problem => rfl
  | ok tokens =>
    cases Token.ofArguments behind with
    | error problem => rfl
    | ok rest =>
      have hread := hsets.read_congr hsets' initial tokens rest
      change (initial.read (tokens ++ (first ++ rest)) >>= _) =
        (initial.read (tokens ++ (second ++ rest)) >>= _)
      rw [hread]

end Settings

namespace Report

open Settings (SetBy)

/-- All spellings of a setting do the same in a command line, with capitals or without, also if
the command line is turned down or ends before the setting is met. -/
theorem ofArguments_eq_of_setBy (logger : String) {level : Level} {value value' : Text}
    (hvalue : value.lowercase = .ofString level.name)
    (hvalue' : value'.lowercase = .ofString level.name) {spelling spelling' : List Text}
    (hspelling : SetBy value spelling) (hspelling' : SetBy value' spelling') {before : List Text}
    (hbefore : Token.twoHyphens ∉ before) (behind : List Text) :
    ofArguments logger (before ++ spelling ++ behind) =
      ofArguments logger (before ++ spelling' ++ behind) := by
  have hnamed : level.IsNamed value := (Text.lowercase_eq_iff level.name_plainLetters).1 hvalue
  have hnamed' : level.IsNamed value' := (Text.lowercase_eq_iff level.name_plainLetters).1 hvalue'
  rw [ofArguments, ofArguments,
    Settings.ofArguments_congr hnamed hnamed' hspelling hspelling' hbefore behind]

/-- In front of the setting a switch waits for its value, and behind it stands a call for help.
Neither spelling is the value, and the help is not reached. -/
theorem ofArguments_spelled_behind_pending :
    let before := [Text.ofString "-l"]
    let behind := [Text.ofString "-h"]
    Token.twoHyphens ∉ before ∧
      ofArguments Profile.logger (before ++ [Text.ofString "-lError"] ++ behind) =
        .ok (turnedDown .missingLevel) ∧
      ofArguments Profile.logger (before ++ [Text.ofString "--lo", Text.ofString "error"] ++
        behind) = .ok (turnedDown .missingLevel) := by
  intro before behind
  have hbefore : Token.twoHyphens ∉ before := by decide
  have hattached : ofArguments Profile.logger (before ++ [Text.ofString "-lError"] ++ behind) =
      .ok (turnedDown .missingLevel) := by decide +kernel
  refine ⟨hbefore, hattached, ?_⟩
  rw [← hattached]
  have hvalue : (Text.ofString "Error").lowercase = .ofString Level.error.name := by decide
  have hvalue' : (Text.ofString "error").lowercase = .ofString Level.error.name := by decide
  have hspelling : SetBy (Text.ofString "Error") [Text.ofString "-lError"] := .attached
  have hspelling' : SetBy (Text.ofString "error") [Text.ofString "--lo", Text.ofString "error"] :=
    .apart (by decide)
  exact (ofArguments_eq_of_setBy Profile.logger hvalue hvalue' hspelling hspelling' hbefore
    behind).symm

end Report

end FishScript
