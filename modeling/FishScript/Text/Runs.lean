import FishScript.Text.WordCharacter

/-!
# Reading runs at the start of a text

The rules for scripts read a text from its start: a run of blanks, a name, a
quoted value. Each reader takes the longest run and answers what follows it, or
nothing if the text does not start that way. A longest run is the only one worth
trying, since no blank is part of a name and a quoted value ends at its first
quote.

## Main definitions

- `Text.afterBlanks?` — what follows one or more blanks
- `Text.word?` — a name and what follows it
- `Text.afterQuoted?` — what follows a quoted value
- `Text.StartsOutside` — a text whose first code point is not in a class

## Main results

- `Text.afterBlanks?_eq_some_iff`, `Text.word?_eq_some_iff` and
  `Text.afterQuoted?_eq_some_iff` — what each reader accepts
-/

namespace FishScript

namespace Text

/-- A text that is empty or starts with a code point outside of `p`. -/
def StartsOutside (p : CodePoint → Bool) (text : Text) : Prop :=
  ∀ c ∈ text.head?, p c = false

/-- What follows the blanks at the start of a text, if there are any. -/
def afterBlanks? (text : Text) : Option Text :=
  if text.takeWhile CodePoint.isBlank = [] then none else some (text.dropWhile CodePoint.isBlank)

/-- The name at the start of a text and what follows it, if there is one. -/
def word? (text : Text) : Option (Text × Text) :=
  if text.takeWhile CodePoint.isWord = [] then none
  else some (text.takeWhile CodePoint.isWord, text.dropWhile CodePoint.isWord)

/-- What follows the quoted value at the start of a text, if there is one. The
value ends at the next quote; it may hold anything else, line ends included. -/
def afterQuoted? (text : Text) : Option Text :=
  ((after? [quote] text).map (·.dropWhile (· != quote))).bind (after? [quote])

/-- A list splits in only one way into a run in `p` and a rest that starts
outside of `p`. -/
theorem takeWhile_dropWhile_eq_iff {p : CodePoint → Bool} {text run rest : Text} :
    text.takeWhile p = run ∧ text.dropWhile p = rest ↔
      text = run ++ rest ∧ (∀ c ∈ run, p c) ∧ StartsOutside p rest := by
  constructor
  · rintro ⟨rfl, rfl⟩
    refine ⟨List.takeWhile_append_dropWhile.symm, ?_, ?_⟩
    · intro c hc
      exact List.all_eq_true.1 List.all_takeWhile c hc
    · intro c hc
      have := List.head?_dropWhile_not p text
      rw [Option.mem_def] at hc
      simpa [hc] using this
  · rintro ⟨rfl, hrun, hrest⟩
    have h₁ : rest.takeWhile p = [] := by
      cases rest with
      | nil => rfl
      | cons c rest => simp [hrest c rfl]
    have h₂ : rest.dropWhile p = rest := by
      cases rest with
      | nil => rfl
      | cons c rest => simp [hrest c rfl]
    simp [List.takeWhile_append_of_pos hrun, List.dropWhile_append_of_pos hrun, h₁, h₂]

theorem afterBlanks?_eq_some_iff {text rest : Text} :
    afterBlanks? text = some rest ↔
      ∃ blanks, blanks ≠ [] ∧ text = blanks ++ rest ∧ (∀ c ∈ blanks, c.isBlank) ∧
        StartsOutside CodePoint.isBlank rest := by
  simp only [← takeWhile_dropWhile_eq_iff]
  by_cases h : text.takeWhile CodePoint.isBlank = []
  · simp only [afterBlanks?, h, reduceIte, reduceCtorEq, false_iff]
    rintro ⟨blanks, hne, rfl, -⟩
    exact hne rfl
  · simp only [afterBlanks?, h, reduceIte, Option.some.injEq, ne_eq]
    exact ⟨fun hrest => ⟨_, h, rfl, hrest⟩, fun ⟨_, _, _, hrest⟩ => hrest⟩

theorem word?_eq_some_iff {text name rest : Text} :
    word? text = some (name, rest) ↔
      name ≠ [] ∧ text = name ++ rest ∧ (∀ c ∈ name, c.isWord) ∧
        StartsOutside CodePoint.isWord rest := by
  simp only [← takeWhile_dropWhile_eq_iff]
  by_cases h : text.takeWhile CodePoint.isWord = []
  · simp only [word?, h, reduceIte, reduceCtorEq, false_iff]
    rintro ⟨hname, rfl, -⟩
    exact hname rfl
  · simp only [word?, h, reduceIte, Option.some.injEq, Prod.mk.injEq, ne_eq]
    exact ⟨fun ⟨h₁, h₂⟩ => ⟨h₁ ▸ h, h₁, h₂⟩, fun ⟨_, h⟩ => h⟩

theorem afterQuoted?_eq_some_iff {text rest : Text} :
    afterQuoted? text = some rest ↔
      ∃ value, text = quote :: (value ++ quote :: rest) ∧ quote ∉ value := by
  simp only [afterQuoted?, Option.bind_eq_some_iff, Option.map_eq_some_iff,
    after?_eq_some_iff, List.singleton_append]
  constructor
  · rintro ⟨_, ⟨body, rfl, rfl⟩, h⟩
    refine ⟨body.takeWhile (· != quote), ?_, ?_⟩
    · rw [← h, List.takeWhile_append_dropWhile]
    · intro hq
      simpa using List.all_eq_true.1 List.all_takeWhile _ hq
  · rintro ⟨value, rfl, hq⟩
    refine ⟨_, ⟨_, rfl, rfl⟩, ?_⟩
    refine (takeWhile_dropWhile_eq_iff.2 ⟨rfl, ?_, ?_⟩).2
    · intro c hc
      have hne : c ≠ quote := fun h => hq (h ▸ hc)
      simpa using hne
    · simp [StartsOutside]

/-- A reader that skips blanks leaves less than it was given. -/
theorem length_lt_of_afterBlanks? {text rest : Text} (h : afterBlanks? text = some rest) :
    rest.length < text.length := by
  obtain ⟨blanks, hne, rfl, -⟩ := afterBlanks?_eq_some_iff.1 h
  have := List.length_pos_iff.2 hne
  simp only [List.length_append]
  omega

theorem length_lt_of_word? {text name rest : Text} (h : word? text = some (name, rest)) :
    rest.length < text.length := by
  obtain ⟨hne, rfl, -⟩ := word?_eq_some_iff.1 h
  have := List.length_pos_iff.2 hne
  simp only [List.length_append]
  omega

theorem length_lt_of_afterQuoted? {text rest : Text} (h : afterQuoted? text = some rest) :
    rest.length < text.length := by
  obtain ⟨value, rfl, -⟩ := afterQuoted?_eq_some_iff.1 h
  simp only [List.length_cons, List.length_append]
  omega

end Text

end FishScript
