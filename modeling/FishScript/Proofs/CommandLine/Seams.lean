import FishScript.Proofs.CommandLine.Grammar

/-!
# Command lines in two parts

The first part of a command line is sorted on its own, and then it is read on its own, unless a
switch at its end takes the first argument of the second part for its value. What stands in the
second part matters to the first in no other way.

## Main definitions

- `Settings.Parted` — two parts with no value at the seam

## Main results

- `Token.ofArguments_append`, `Token.ofArguments_append_of_mem` — sorting in two parts
- `Settings.read_append` — reading in two parts
-/

namespace FishScript

namespace Token

/-- As long as no argument is two hyphens, what stands in front is sorted on its own. -/
theorem ofArguments_append {arguments : List Text} (h : twoHyphens ∉ arguments)
    (rest : List Text) :
    ofArguments (arguments ++ rest) = do
      let first ← ofArguments arguments
      let later ← ofArguments rest
      return first ++ later := by
  induction arguments with
  | nil =>
    rw [List.nil_append, ofArguments]
    cases ofArguments rest <;> rfl
  | cons argument arguments ih =>
    obtain ⟨hne, hplain⟩ := List.ne_and_not_mem_of_not_mem_cons h
    rw [List.cons_append, Settings.ofArguments_cons hne.symm, Settings.ofArguments_cons hne.symm,
      ih hplain]
    cases ofArgument argument with
    | error problem => rfl
    | ok token =>
      cases ofArguments arguments with
      | error problem => rfl
      | ok tokens => cases ofArguments rest <;> rfl

/-- Two hyphens are the end of all switches. -/
theorem ofArguments_twoHyphens (rest : List Text) :
    ofArguments (twoHyphens :: rest) =
      .ok ((.terminator, twoHyphens) :: rest.map fun argument => (.operand, argument)) := by
  rw [ofArguments, ofArgument_eq_terminator_iff.2 rfl]
  rfl

/-- Behind two hyphens there are operands only. -/
theorem ofArguments_append_of_mem {arguments : List Text} (h : twoHyphens ∈ arguments)
    (rest : List Text) :
    ofArguments (arguments ++ rest) = do
      let first ← ofArguments arguments
      return first ++ rest.map fun argument => (.operand, argument) := by
  induction arguments with
  | nil => exact absurd h List.not_mem_nil
  | cons argument arguments ih =>
    by_cases hne : argument = twoHyphens
    · rw [hne, List.cons_append, ofArguments_twoHyphens, ofArguments_twoHyphens, List.map_append]
      rfl
    · have hmem : twoHyphens ∈ arguments := List.mem_of_ne_of_mem (Ne.symm hne) h
      rw [List.cons_append, Settings.ofArguments_cons hne, Settings.ofArguments_cons hne, ih hmem]
      cases ofArgument argument with
      | error problem => rfl
      | ok token => cases ofArguments arguments <;> rfl

/-- Two hyphens are sorted as the end of all switches, with operands behind them. -/
theorem exists_terminator {arguments : List Text} {tokens : List (Token × Text)}
    (hmem : twoHyphens ∈ arguments) (h : ofArguments arguments = .ok tokens) :
    ∃ (first : List (Token × Text)) (rest : List Text), tokens = first ++
      (.terminator, twoHyphens) :: rest.map fun argument => (.operand, argument) := by
  obtain ⟨front, rest, rfl, hfront⟩ := List.eq_append_cons_of_mem hmem
  rw [ofArguments_append hfront, ofArguments_twoHyphens] at h
  obtain ⟨first, -, hfirst⟩ := bind_eq_ok_iff.1 h
  exact ⟨first, rest, (Except.ok.inj hfirst).symm⟩

/-- A command line that cannot be sorted cannot be continued either. -/
theorem ofArguments_append_of_error {arguments : List Text} {problem : Problem}
    (h : ofArguments arguments = .error problem) (rest : List Text) :
    ofArguments (arguments ++ rest) = .error problem := by
  by_cases hmem : twoHyphens ∈ arguments
  · rw [ofArguments_append_of_mem hmem, h]
    rfl
  · rw [ofArguments_append hmem, h]
    rfl

end Token

namespace Settings

/-- A switch that waits for its value takes the next argument for it. -/
theorem read_of_next {settings : Settings} {token : Token} {argument value : Text}
    {switch : Switch} {rest : List (Token × Text)}
    (hdemand : demand? token = some (switch, .ok .next)) :
    settings.read ((token, argument) :: (.operand, value) :: rest) =
      act switch >>= fun _ => settings.setLevel value >>= fun later => later.read rest := by
  rw [read, hdemand]

/-- It waits in vain if no operand follows. -/
theorem read_of_missing {settings : Settings} {token : Token} {argument : Text}
    {switch : Switch} {rest : List (Token × Text)}
    (hdemand : demand? token = some (switch, .ok .next))
    (hrest : ∀ next ∈ rest.head?, next.1 ≠ .operand) :
    settings.read ((token, argument) :: rest) = .error (.problem .missingLevel) := by
  rw [read, hdemand]
  cases rest with
  | nil => rfl
  | cons next rest =>
    obtain ⟨other, value⟩ := next
    cases other with
    | operand => exact absurd rfl (hrest _ rfl)
    | _ => rfl

/-- Sorted arguments in two parts, such that no switch at the end of the first takes its value
from the second. -/
def Parted (tokens rest : List (Token × Text)) : Prop :=
  (∀ last ∈ tokens.getLast?, ∀ switch, demand? last.1 ≠ some (switch, .ok .next)) ∨
    ∀ next ∈ rest.head?, next.1 ≠ .operand

theorem Parted.of_cons {first : Token × Text} {tokens rest : List (Token × Text)}
    (h : Parted (first :: tokens) rest) : Parted tokens rest := by
  cases tokens with
  | nil => exact Or.inl fun last hlast => by cases hlast
  | cons second tokens => exact h.imp_left fun hlast => by rwa [List.getLast?_cons_cons] at hlast

/-- What is no operand is no value for the part in front of it. -/
theorem parted_cons {token : Token} {argument : Text} (h : token ≠ .operand)
    (tokens rest : List (Token × Text)) : Parted tokens ((token, argument) :: rest) := by
  refine Or.inr fun next hnext => ?_
  obtain rfl : (token, argument) = next := Option.some.inj hnext
  exact h

/-- What waits for no value takes none from the part behind it. -/
theorem parted_concat {token : Token} {argument : Text}
    (h : ∀ switch, demand? token ≠ some (switch, .ok .next)) (tokens rest : List (Token × Text)) :
    Parted (tokens ++ [(token, argument)]) rest := by
  refine Or.inl fun last hlast => ?_
  rw [List.getLast?_concat] at hlast
  obtain rfl : (token, argument) = last := Option.some.inj hlast
  exact h

/-- The first part of a command line is read on its own. -/
theorem read_append {tokens rest : List (Token × Text)} (h : Parted tokens rest)
    (settings : Settings) :
    settings.read (tokens ++ rest) = settings.read tokens >>= fun last => last.read rest := by
  -- along the reader, which may look at two arguments at once
  induction settings, tokens using Settings.read.induct with
  | case1 settings =>
    rw [read]
    rfl
  | case2 settings token argument tokens hdemand ih =>
    rw [List.cons_append, read, read, hdemand]
    exact ih h.of_cons
  | case3 settings token argument tokens switch problem hdemand =>
    rw [List.cons_append, read, read, hdemand]
    rfl
  | case4 settings token argument tokens switch hdemand ih =>
    rw [List.cons_append, read, read, hdemand]
    simp only [ih h.of_cons]
    cases act switch <;> rfl
  | case5 settings token argument tokens switch value hdemand ih =>
    rw [List.cons_append, read, read, hdemand]
    simp only [ih _ h.of_cons]
    cases act switch with
    | error refusal => rfl
    | ok _ => cases settings.setAttached value <;> rfl
  | case6 settings token argument switch hdemand value tokens ih =>
    simp only [List.cons_append, read_of_next hdemand, ih _ h.of_cons.of_cons]
    cases act switch with
    | error refusal => rfl
    | ok _ => cases settings.setLevel value <;> rfl
  | case7 settings token argument tokens switch hdemand hnext =>
    -- it waits in vain, also if it is the last and the second part follows
    have hmissing : ∀ next ∈ tokens.head?, next.1 ≠ .operand := by
      rintro ⟨other, value⟩ hhead rfl
      obtain ⟨later, rfl⟩ := List.head?_eq_some_iff.1 hhead
      exact hnext value later rfl
    have hmissing' : ∀ next ∈ (tokens ++ rest).head?, next.1 ≠ .operand := by
      cases tokens with
      | nil => exact h.resolve_left fun hlast => hlast _ rfl _ hdemand
      | cons other tokens => exact hmissing
    rw [List.cons_append, read_of_missing hdemand hmissing, read_of_missing hdemand hmissing']
    rfl

end Settings

end FishScript
