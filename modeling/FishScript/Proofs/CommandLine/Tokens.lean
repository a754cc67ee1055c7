import FishScript.CommandLine.Settings
import FishScript.Text.Runs

/-!
# What single arguments ask for

An argument is sorted by its own form, and its form tells which switch acts and what the
switch demands. For the log level there are two answers: the value is the next argument, or
it is attached.

## Main definitions

- `Token.NamesLevel` — the names of the log level
- `Settings.Asks` — the switch that acts for an argument, and what it demands

## Main results

- `Token.starts_of_ofArgument_eq_error` — the only form that cannot be sorted
- `Token.ofArgument_eq_short_iff`, `Token.ofArgument_eq_long_iff` — the forms of a switch
- `Settings.asks_next_iff`, `Settings.asks_given_iff` — the forms of the log level
-/

namespace FishScript

namespace Switch

theorem ofLetter?_eq_some_iff {c : CodePoint} {switch : Switch} :
    ofLetter? c = some switch ↔ c = .ofChar switch.letter := by
  constructor
  · intro h
    simpa using List.find?_some h
  · rintro rfl
    exact ofLetter?_letter switch

/-- No two long names have their first letter in common. -/
theorem eq_of_prefix_name {start : Text} (hne : start ≠ []) {a b : Switch}
    (ha : start <+: Text.ofString a.name) (hb : start <+: Text.ofString b.name) : a = b := by
  obtain ⟨c, tail, rfl⟩ := List.exists_cons_of_ne_nil hne
  have hhead : ∀ switch : Switch, c :: tail <+: Text.ofString switch.name →
      (Text.ofString switch.name).head? = some c := by
    rintro switch ⟨rest, heq⟩
    rw [← heq]
    rfl
  have hsame : (Text.ofString a.name).head? = (Text.ofString b.name).head? :=
    (hhead a ha).trans (hhead b hb).symm
  revert hsame
  cases a <;> cases b <;> decide

/-- A long name is known from its first letter on. -/
theorem ofPrefix_eq_singleton_iff {start : Text} {switch : Switch} :
    ofPrefix start = [switch] ↔ start ≠ [] ∧ start <+: Text.ofString switch.name := by
  constructor
  · intro h
    constructor
    · rintro rfl
      have hall : ofPrefix [] = all := by decide
      rw [hall] at h
      cases h
    · have hmem : switch ∈ ofPrefix start := h ▸ List.mem_singleton_self switch
      exact Text.startsWith_iff.1 (List.mem_filter.1 hmem).2
  · rintro ⟨hne, hstarts⟩
    have hfilter : ofPrefix start = all.filter (· == switch) := by
      refine List.filter_congr fun other _ => ?_
      rw [Bool.eq_iff_iff, Text.startsWith_iff, beq_iff_eq]
      exact ⟨fun h => eq_of_prefix_name hne h hstarts, fun h => h ▸ hstarts⟩
    rw [hfilter]
    cases switch <;> decide

/-- So one letter is enough to rule out all long names but one. -/
theorem ofPrefix_eq_nil_or_singleton {start : Text} (hne : start ≠ []) :
    ofPrefix start = [] ∨ ∃ switch, ofPrefix start = [switch] := by
  by_cases h : ∃ switch : Switch, start <+: Text.ofString switch.name
  · obtain ⟨switch, hstarts⟩ := h
    exact Or.inr ⟨switch, ofPrefix_eq_singleton_iff.2 ⟨hne, hstarts⟩⟩
  · refine Or.inl (List.filter_eq_nil_iff.2 fun switch _ hstarts => h ⟨switch, ?_⟩)
    exact Text.startsWith_iff.1 hstarts

end Switch

namespace Token

/-! ### The forms of an argument -/

/-- What is attached to the letter of a switch. -/
def attachedToLetter? (rest : Text) : Option Text :=
  if rest = [] then none else some ((Text.after? [equalsSign] rest).getD rest)

/-- The forms of an argument, and how each is sorted. -/
inductive Sorts : (argument : Text) → Except Problem Token → Prop
  | operand {argument : Text} : Sorts argument (.ok .operand)
  | unknown {argument : Text} : Sorts argument (.ok .unknown)
  | terminator : Sorts twoHyphens (.ok .terminator)
  | short (switch : Switch) (rest : Text) :
    Sorts (hyphen :: .ofChar switch.letter :: rest)
      (.ok (.short switch (attachedToLetter? rest)))
  | long (switch : Switch) (body : Text) (hne : body.takeWhile (· != equalsSign) ≠ [])
    (hstarts : body.takeWhile (· != equalsSign) <+: Text.ofString switch.name) :
    Sorts (hyphen :: hyphen :: body) (.ok (.long switch (attached? body)))
  | ambiguous {argument : Text} {problem : Problem} : Sorts argument (.error problem)

theorem sorts_ofStranger (argument : Text) : Sorts argument (.ok (ofStranger argument)) := by
  rw [ofStranger]
  split
  · exact .operand
  · exact .unknown

theorem ofShort_letter (switch : Switch) (rest : Text) :
    ofShort (.ofChar switch.letter) rest = .short switch (attachedToLetter? rest) := by
  rw [ofShort, Switch.ofLetter?_letter, attachedToLetter?]
  by_cases h : rest = []
  · rw [if_pos h]
    exact if_pos h
  · rw [if_neg h]
    exact if_neg h

theorem sorts_ofShort (letter : CodePoint) (rest : Text) :
    Sorts (hyphen :: letter :: rest) (.ok (ofShort letter rest)) := by
  cases h : Switch.ofLetter? letter with
  | none =>
    rw [ofShort, h]
    exact sorts_ofStranger _
  | some switch =>
    rw [Switch.ofLetter?_eq_some_iff.1 h, ofShort_letter]
    exact .short switch rest

theorem sorts_ofLong (body : Text) : Sorts (hyphen :: hyphen :: body) (ofLong body) := by
  rw [ofLong]
  split
  · exact sorts_ofStranger _
  · next switch h =>
    obtain ⟨hne, hstarts⟩ := Switch.ofPrefix_eq_singleton_iff.1 h
    exact .long switch body hne hstarts
  · exact .ambiguous

theorem sorts_ofArgument (argument : Text) : Sorts argument (ofArgument argument) := by
  match argument with
  | [] => exact .operand
  | [_] => exact .operand
  | c :: d :: rest =>
    rw [ofArgument]
    by_cases hc : c = hyphen
    · rw [if_neg (not_not_intro hc), hc]
      by_cases hd : d = hyphen
      · rw [if_neg (not_not_intro hd), hd]
        split
        · next hrest => exact hrest ▸ .terminator
        · exact sorts_ofLong rest
      · rw [if_pos hd]
        exact sorts_ofShort d rest
    · rw [if_pos hc]
      exact .operand

/-- A long name can only be ambiguous if it is empty. -/
theorem exists_of_ofLong_eq_error {body : Text} {problem : Problem} (hbody : body ≠ [])
    (h : ofLong body = .error problem) : ∃ value, body = equalsSign :: value := by
  obtain ⟨c, value, rfl⟩ := List.exists_cons_of_ne_nil hbody
  by_cases hc : c = equalsSign
  · exact ⟨value, hc ▸ rfl⟩
  · have hstart : (c :: value).takeWhile (· != equalsSign) ≠ [] := by simp [hc]
    obtain hnone | ⟨switch, hone⟩ := Switch.ofPrefix_eq_nil_or_singleton hstart
    · rw [ofLong, hnone] at h
      cases h
    · rw [ofLong, hone] at h
      cases h

/-- An argument can only fail to be sorted if it attaches a value to no name at all. -/
theorem starts_of_ofArgument_eq_error {argument : Text} {problem : Problem}
    (h : ofArgument argument = .error problem) : Text.ofString "--=" <+: argument := by
  have hlead : Text.ofString "--=" = [hyphen, hyphen, equalsSign] := by decide
  match argument with
  | [] => cases h
  | [_] => cases h
  | c :: d :: body =>
    rw [ofArgument] at h
    by_cases hc : c = hyphen
    · rw [if_neg (not_not_intro hc)] at h
      by_cases hd : d = hyphen
      · rw [if_neg (not_not_intro hd)] at h
        split at h
        · cases h
        · next hbody =>
          obtain ⟨value, rfl⟩ := exists_of_ofLong_eq_error hbody h
          rw [hc, hd, hlead]
          exact ⟨value, rfl⟩
      · rw [if_pos hd] at h
        cases h
    · rw [if_pos hc] at h
      cases h

/-! ### Attached values -/

theorem after?_equalsSign (value : Text) :
    Text.after? [equalsSign] (equalsSign :: value) = some value :=
  Text.after?_eq_some_iff.2 rfl

/-- No part of a long name is an equals sign. -/
theorem equalsSign_not_mem_of_starts {start : Text} {switch : Switch}
    (h : start <+: Text.ofString switch.name) : equalsSign ∉ start := by
  intro hmem
  have hname : equalsSign ∉ Text.ofString switch.name := by cases switch <;> decide
  exact hname (h.subset hmem)

/-- A long name goes up to the first equals sign, and what is attached stands behind it. -/
theorem takeWhile_and_attached?_iff {body start : Text} {attached : Option Text} :
    body.takeWhile (· != equalsSign) = start ∧ attached? body = attached ↔
      equalsSign ∉ start ∧ body = start ++ attached.elim [] (equalsSign :: ·) := by
  constructor
  · rintro ⟨htake, rfl⟩
    obtain ⟨hbody, hstart, hrest⟩ := Text.takeWhile_dropWhile_eq_iff.1 ⟨htake, rfl⟩
    refine ⟨fun hmem => by simpa using hstart _ hmem, ?_⟩
    rw [attached?]
    cases hdrop : body.dropWhile (· != equalsSign) with
    | nil => rwa [hdrop] at hbody
    | cons c value =>
      rw [hdrop] at hbody hrest
      obtain rfl : c = equalsSign := by simpa using hrest c rfl
      rwa [after?_equalsSign]
  · rintro ⟨hmem, rfl⟩
    have hstart : ∀ c ∈ start, (c != equalsSign) = true := fun c hc =>
      bne_iff_ne.2 fun heq => hmem (heq ▸ hc)
    have hrest : Text.StartsOutside (· != equalsSign)
        (attached.elim [] (equalsSign :: ·) : Text) := by
      cases attached <;> simp [Text.StartsOutside]
    obtain ⟨htake, hdrop⟩ := Text.takeWhile_dropWhile_eq_iff.2 ⟨rfl, hstart, hrest⟩
    refine ⟨htake, ?_⟩
    rw [attached?, hdrop]
    cases attached with
    | none => rfl
    | some value => exact after?_equalsSign value

theorem attachedToLetter?_eq_none_iff {rest : Text} :
    attachedToLetter? rest = none ↔ rest = [] := by
  rw [attachedToLetter?]
  split <;> simp_all

/-- Behind a letter a value is attached by an equals sign or directly. -/
theorem attachedToLetter?_eq_some_iff {rest value : Text} :
    attachedToLetter? rest = some value ↔
      rest = equalsSign :: value ∨
        rest = value ∧ value ≠ [] ∧ value.head? ≠ some equalsSign := by
  rw [attachedToLetter?]
  match rest with
  | [] => simp +contextual [eq_comm]
  | c :: rest =>
    rw [if_neg (List.cons_ne_nil c rest)]
    by_cases hc : c = equalsSign
    · rw [hc, after?_equalsSign]
      simp +contextual [eq_comm]
    · rw [Text.after?, if_neg (Ne.symm hc)]
      simp +contextual [hc, eq_comm]

/-! ### Switches -/

/-- A switch is given by its letter behind one hyphen. -/
theorem ofArgument_eq_short_iff {argument : Text} {switch : Switch} {attached : Option Text} :
    ofArgument argument = .ok (.short switch attached) ↔
      ∃ rest, argument = hyphen :: .ofChar switch.letter :: rest ∧
        attached = attachedToLetter? rest := by
  constructor
  · intro h
    have hsorts := sorts_ofArgument argument
    rw [h] at hsorts
    cases hsorts with
    | short _ rest => exact ⟨rest, rfl, rfl⟩
  · rintro ⟨rest, rfl, rfl⟩
    have hletter : CodePoint.ofChar switch.letter ≠ hyphen := by cases switch <;> decide
    rw [ofArgument, if_neg (not_not_intro rfl), if_pos hletter, ofShort_letter]

/-- A switch is given by its long name, which may end early, behind two hyphens. -/
theorem ofArgument_eq_long_iff {argument : Text} {switch : Switch} {attached : Option Text} :
    ofArgument argument = .ok (.long switch attached) ↔
      ∃ start, start ≠ [] ∧ start <+: Text.ofString switch.name ∧
        argument = hyphen :: hyphen :: (start ++ attached.elim [] (equalsSign :: ·)) := by
  constructor
  · intro h
    have hsorts := sorts_ofArgument argument
    rw [h] at hsorts
    cases hsorts with
    | long _ body hne hstarts =>
      have hbody : body = body.takeWhile (· != equalsSign) ++
          (attached? body).elim [] (equalsSign :: ·) :=
        (takeWhile_and_attached?_iff.1 ⟨rfl, rfl⟩).2
      exact ⟨_, hne, hstarts, congrArg (hyphen :: hyphen :: ·) hbody⟩
  · rintro ⟨start, hne, hstarts, rfl⟩
    obtain ⟨htake, hattached⟩ :=
      takeWhile_and_attached?_iff.2 ⟨equalsSign_not_mem_of_starts hstarts, rfl⟩
    have hbody := List.append_ne_nil_of_left_ne_nil hne (attached.elim [] (equalsSign :: ·))
    rw [ofArgument, if_neg (not_not_intro rfl), if_neg (not_not_intro rfl), if_neg hbody, ofLong,
      htake, hattached, Switch.ofPrefix_eq_singleton_iff.2 ⟨hne, hstarts⟩]

theorem ofArgument_eq_terminator_iff {argument : Text} :
    ofArgument argument = .ok .terminator ↔ argument = twoHyphens := by
  constructor
  · intro h
    have hsorts := sorts_ofArgument argument
    rw [h] at hsorts
    cases hsorts with
    | terminator => rfl
  · rintro rfl
    rfl

/-- An argument without a hyphen in front may be a value. -/
theorem ofArgument_eq_operand {c : CodePoint} (h : c ≠ hyphen) (rest : Text) :
    ofArgument (c :: rest) = .ok .operand := by
  cases rest with
  | nil => rfl
  | cons d rest => rw [ofArgument, if_pos h]

/-! ### Names of the log level -/

/-- The names of the log level: its letter, and its long name up to some letter. -/
def NamesLevel (option : Text) : Prop :=
  option = Text.ofString "-l" ∨
    3 ≤ option.length ∧ option <+: Text.ofString "--log-level"

instance (option : Text) : Decidable (NamesLevel option) :=
  inferInstanceAs (Decidable (_ ∨ _ ∧ _))

theorem namesLevel_iff {option : Text} :
    NamesLevel option ↔ option = Text.ofString "-l" ∨
      ∃ start, option = hyphen :: hyphen :: start ∧ start ≠ [] ∧
        start <+: Text.ofString Switch.logLevel.name := by
  have hname : Text.ofString "--log-level" =
      hyphen :: hyphen :: Text.ofString Switch.logLevel.name := by decide
  rw [NamesLevel, hname]
  refine or_congr_right ?_
  constructor
  · rintro ⟨hlength, hstarts⟩
    match option, hlength with
    | a :: b :: c :: start, _ =>
      obtain ⟨rfl, htail⟩ := List.cons_prefix_cons.1 hstarts
      obtain ⟨rfl, hstart⟩ := List.cons_prefix_cons.1 htail
      exact ⟨c :: start, rfl, List.cons_ne_nil c start, hstart⟩
  · rintro ⟨start, rfl, hne, hstarts⟩
    have hlength := List.length_pos_iff.2 hne
    refine ⟨?_, List.cons_prefix_cons.2 ⟨rfl, List.cons_prefix_cons.2 ⟨rfl, hstarts⟩⟩⟩
    simp only [List.length_cons]
    omega

end Token

namespace Settings

open Token (NamesLevel hyphen equalsSign attachedToLetter? attached? ofArgument)

/-- The log level demands a value, attached or not. -/
theorem demand?_eq_logLevel_iff {token : Token} {demand : Demand} :
    demand? token = some (.logLevel, .ok demand) ↔
      ∃ attached : Option Text, demand = attached.elim .next .given ∧
        (token = .short .logLevel attached ∨ token = .long .logLevel attached) := by
  have hshort : ∀ attached : Option Text,
      demand? (.short .logLevel attached) = some (.logLevel, .ok (attached.elim .next .given)) := by
    rintro (_ | _ | ⟨c, value⟩) <;> rfl
  have hlong : ∀ attached : Option Text,
      demand? (.long .logLevel attached) = some (.logLevel, .ok (attached.elim .next .given)) := by
    rintro (_ | value) <;> rfl
  constructor
  · intro hdemand
    match token with
    | .short switch attached =>
      obtain rfl : switch = .logLevel := congrArg Prod.fst (Option.some.inj hdemand)
      rw [hshort, Option.some.injEq, Prod.mk.injEq, Except.ok.injEq] at hdemand
      exact ⟨attached, hdemand.2.symm, Or.inl rfl⟩
    | .long switch attached =>
      obtain rfl : switch = .logLevel := congrArg Prod.fst (Option.some.inj hdemand)
      rw [hlong, Option.some.injEq, Prod.mk.injEq, Except.ok.injEq] at hdemand
      exact ⟨attached, hdemand.2.symm, Or.inr rfl⟩
  · rintro ⟨attached, rfl, rfl | rfl⟩
    · exact hshort attached
    · exact hlong attached

/-- An argument makes a switch act, which demands something. -/
def Asks (argument : Text) (switch : Switch) (demand : Demand) : Prop :=
  ∃ token, ofArgument argument = .ok token ∧ demand? token = some (switch, .ok demand)

/-- What makes a switch act is no value for another. -/
theorem ne_operand_of_demand? {token : Token} {asked : Switch × Except Problem Demand}
    (h : demand? token = some asked) : token ≠ .operand := by
  rintro rfl
  cases h

/-- Two hyphens are no argument that makes a switch act. -/
theorem ne_twoHyphens_of_asks {argument : Text} {switch : Switch} {demand : Demand}
    (h : Asks argument switch demand) : argument ≠ Token.twoHyphens := by
  rintro rfl
  obtain ⟨token, htoken, hdemand⟩ := h
  rw [Token.ofArgument_eq_terminator_iff.2 rfl] at htoken
  cases htoken
  cases hdemand

/-- The log level is given by its letter or its long name, with a value or without. -/
theorem asks_logLevel_iff {argument : Text} (attached : Option Text) :
    Asks argument .logLevel (attached.elim .next .given) ↔
      (∃ rest, argument = Text.ofString "-l" ++ rest ∧ attachedToLetter? rest = attached) ∨
        ∃ start, start ≠ [] ∧ start <+: Text.ofString Switch.logLevel.name ∧
          argument = hyphen :: hyphen :: (start ++ attached.elim [] (equalsSign :: ·)) := by
  have hletter : Text.ofString "-l" = [hyphen, .ofChar Switch.logLevel.letter] := by decide
  rw [← Token.ofArgument_eq_long_iff, hletter]
  simp only [Asks, demand?_eq_logLevel_iff]
  constructor
  · rintro ⟨token, htoken, attached', hdemand, hform⟩
    obtain rfl : attached = attached' := by
      cases attached <;> cases attached' <;> simp_all
    obtain rfl | rfl := hform
    · obtain ⟨rest, rfl, rfl⟩ := Token.ofArgument_eq_short_iff.1 htoken
      exact Or.inl ⟨rest, rfl, rfl⟩
    · exact Or.inr htoken
  · rintro (⟨rest, rfl, rfl⟩ | htoken)
    · exact ⟨_, Token.ofArgument_eq_short_iff.2 ⟨rest, rfl, rfl⟩, _, rfl, Or.inl rfl⟩
    · exact ⟨_, htoken, _, rfl, Or.inr rfl⟩

/-- A name of the log level alone demands the next argument. -/
theorem asks_next_iff {argument : Text} : Asks argument .logLevel .next ↔ NamesLevel argument := by
  refine (asks_logLevel_iff none).trans ?_
  simp only [Token.namesLevel_iff, Token.attachedToLetter?_eq_none_iff, Option.elim_none,
    List.append_nil]
  constructor
  · rintro (⟨rest, rfl, rfl⟩ | ⟨start, hne, hstarts, rfl⟩)
    · exact Or.inl rfl
    · exact Or.inr ⟨start, rfl, hne, hstarts⟩
  · rintro (rfl | ⟨start, rfl, hne, hstarts⟩)
    · exact Or.inl ⟨[], rfl, rfl⟩
    · exact Or.inr ⟨start, hne, hstarts, rfl⟩

/-- A value is attached to a name of the log level by an equals sign, or to its letter
directly. -/
theorem asks_given_iff {argument value : Text} :
    Asks argument .logLevel (.given value) ↔
      (∃ option, NamesLevel option ∧ argument = option ++ equalsSign :: value) ∨
        argument = Text.ofString "-l" ++ value ∧ value ≠ [] ∧ value.head? ≠ some equalsSign := by
  refine (asks_logLevel_iff (some value)).trans ?_
  simp only [Token.namesLevel_iff, Token.attachedToLetter?_eq_some_iff, Option.elim_some]
  constructor
  · rintro (⟨rest, rfl, rfl | ⟨rfl, hne, hhead⟩⟩ | ⟨start, hne, hstarts, rfl⟩)
    · exact Or.inl ⟨_, Or.inl rfl, rfl⟩
    · exact Or.inr ⟨rfl, hne, hhead⟩
    · exact Or.inl ⟨_, Or.inr ⟨start, rfl, hne, hstarts⟩, rfl⟩
  · rintro (⟨_, rfl | ⟨start, rfl, hne, hstarts⟩, rfl⟩ | ⟨rfl, hne, hhead⟩)
    · exact Or.inl ⟨_, rfl, Or.inl rfl⟩
    · exact Or.inr ⟨start, hne, hstarts, rfl⟩
    · exact Or.inl ⟨value, rfl, Or.inr ⟨rfl, hne, hhead⟩⟩

end Settings

end FishScript
