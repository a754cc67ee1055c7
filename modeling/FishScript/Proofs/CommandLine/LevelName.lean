import Mathlib.Data.List.Forall2
import FishScript.CommandLine.Level
import FishScript.Text.Lowercase

/-!
# The names of log levels, in capitals or not

The name of a level is put into lower case before it is looked up. Lower case is known for
all code points, and some of them lie far away from their lower case: that of the Kelvin
sign is a `k`. No such code point ends up in the name of a level, so a level is named by
small and capital ASCII letters and nothing else.

## Main definitions

- `Level.IsNamed` — the spellings of the name of a level

## Main results

- `CodePoint.lower_eq_ofChar_iff` — what has a plain letter for its lower case
- `Text.lowercase_eq_iff` — what has a word of plain letters for its lower case
- `Level.ofName?_lowercase_eq_some_iff` — how a level is named
-/

namespace FishScript

/-- The small letters that are the lower case of no code point outside of ASCII. -/
def plainLetters : List Char :=
  ['a', 'b', 'c', 'd', 'e', 'f', 'g', 'h', 'i', 'j', 'l', 'm', 'n', 'o', 'p', 'q', 'r', 's', 't',
    'u', 'v', 'w', 'x', 'y', 'z']

/-- The characters that have a meaning of their own on the command line, and those that have
to do with lower case that follows no table. -/
def setApart : List Char :=
  ['-', '=', 'Σ', 'İ', 'ς', 'σ', '\u0307']

/-- A text that names the level: each letter of the name, small or as a capital. -/
def Level.IsNamed (level : Level) (value : Text) : Prop :=
  List.Forall₂ (fun c letter => c = .ofChar letter ∨ c = .ofChar letter.toUpper) value
    level.name.toList

instance (level : Level) (value : Text) : Decidable (level.IsNamed value) :=
  inferInstanceAs (Decidable (List.Forall₂ _ _ _))

/-- Plain letters are few, and what holds of all of them can be checked. -/
theorem forall_plainLetters {P : Char → Prop} [DecidablePred P]
    (h : plainLetters.all fun letter => P letter) : ∀ letter ∈ plainLetters, P letter :=
  fun letter hletter => of_decide_eq_true (List.all_eq_true.1 h letter hletter)

namespace CodePoint

/-- Only the capitals of ASCII, which lie 32 in front, have a plain letter for their lower
case. -/
theorem offset_eq_of_reaches : ∀ letter ∈ plainLetters, ∀ range ∈ caseRanges,
    (range.first + range.offset ≤ letter.toNat ∧ letter.toNat ≤ range.last + range.offset) →
      range.offset = 32 :=
  forall_plainLetters (by decide +kernel)

theorem toNat_toUpper : ∀ letter ∈ plainLetters, letter.toUpper.toNat + 32 = letter.toNat :=
  forall_plainLetters (by decide +kernel)

theorem lower_plainLetters : ∀ letter ∈ plainLetters,
    (ofChar letter).lower = ofChar letter ∧ (ofChar letter.toUpper).lower = ofChar letter :=
  forall_plainLetters (by decide +kernel)

theorem lower_eq_ofChar_iff {letter : Char} (h : letter ∈ plainLetters) {c : CodePoint} :
    c.lower = .ofChar letter ↔ c = .ofChar letter ∨ c = .ofChar letter.toUpper := by
  constructor
  · intro hlower
    rw [lower] at hlower
    split at hlower
    · next range hfind =>
      rw [ofNat?] at hlower
      split at hlower
      · obtain ⟨hcovers, -⟩ := Bool.and_eq_true _ _ ▸ List.find?_some hfind
        simp only [Bool.and_eq_true, decide_eq_true_eq] at hcovers
        have hval : (c.val + range.offset).toNat = letter.toNat := congrArg val hlower
        have hpos : 32 ≤ letter.toNat := by
          rw [← toNat_toUpper letter h]
          exact Nat.le_add_left 32 _
        have hoffset := offset_eq_of_reaches letter h range (List.mem_of_find?_eq_some hfind)
          (by omega)
        have hupper := toNat_toUpper letter h
        refine Or.inr (CodePoint.ext ?_)
        rw [val_ofChar]
        omega
      · exact Or.inl hlower
    · exact Or.inl hlower
  · rintro (rfl | rfl)
    · exact (lower_plainLetters letter h).1
    · exact (lower_plainLetters letter h).2

theorem setApart_of_plainLetters : ∀ letter ∈ plainLetters,
    letter ∉ setApart ∧ letter.toUpper ∉ setApart :=
  forall_plainLetters (by decide +kernel)

/-- Neither a plain letter nor its capital is set apart. -/
theorem ne_of_setApart {letter special : Char} (hletter : letter ∈ plainLetters)
    (hspecial : special ∈ setApart) {c : CodePoint}
    (hc : c = .ofChar letter ∨ c = .ofChar letter.toUpper) : c ≠ .ofChar special := by
  obtain ⟨hsmall, hcapital⟩ := setApart_of_plainLetters letter hletter
  rintro rfl
  obtain heq | heq := hc
  · exact hsmall (ofChar_inj.1 heq ▸ hspecial)
  · exact hcapital (ofChar_inj.1 heq ▸ hspecial)

end CodePoint

namespace Text

theorem lowercaseAfter_cons {c : CodePoint} (hsigma : c ≠ .ofChar 'Σ') (hdotted : c ≠ .ofChar 'İ')
    (before rest : Text) :
    lowercaseAfter before (c :: rest) = c.lower :: lowercaseAfter (c :: before) rest := by
  rw [lowercaseAfter, if_neg hsigma, if_neg hdotted]
  rfl

/-- The lower case of a sigma or a dotted I is spelled with other than plain letters. -/
theorem lowercaseAfter_ne_map {c : CodePoint} (hc : c = .ofChar 'Σ' ∨ c = .ofChar 'İ')
    {word : List Char} (h : ∀ letter ∈ word, letter ∈ plainLetters) (before rest : Text) :
    lowercaseAfter before (c :: rest) ≠ word.map CodePoint.ofChar := by
  intro heq
  have hmem : ∃ special ∈ setApart,
      CodePoint.ofChar special ∈ lowercaseAfter before (c :: rest) := by
    obtain rfl | rfl := hc
    · cases hends : endsWord before rest with
      | true => exact ⟨'ς', by decide, by simp [lowercaseAfter, hends]⟩
      | false => exact ⟨'σ', by decide, by simp [lowercaseAfter, hends]⟩
    · exact ⟨'\u0307', by decide, by simp [lowercaseAfter, CodePoint.ofChar_inj]⟩
  obtain ⟨special, hspecial, hmem⟩ := hmem
  rw [heq] at hmem
  obtain ⟨letter, hletter, hsame⟩ := List.mem_map.1 hmem
  exact CodePoint.ne_of_setApart (h letter hletter) hspecial (Or.inl rfl) hsame

theorem lowercaseAfter_eq_iff {before value : Text} {word : List Char}
    (h : ∀ letter ∈ word, letter ∈ plainLetters) :
    lowercaseAfter before value = word.map CodePoint.ofChar ↔
      List.Forall₂ (fun c letter => c = .ofChar letter ∨ c = .ofChar letter.toUpper) value
        word := by
  induction value generalizing before word with
  | nil =>
    rw [List.forall₂_nil_left_iff, lowercaseAfter, eq_comm, List.map_eq_nil_iff]
  | cons c value ih =>
    by_cases hspecial : c = .ofChar 'Σ' ∨ c = .ofChar 'İ'
    · refine iff_of_false (lowercaseAfter_ne_map hspecial h before value) ?_
      rintro (_ | @⟨_, letter, _, _, hletter, -⟩)
      have hplain := h letter List.mem_cons_self
      obtain hsigma | hdotted := hspecial
      · exact CodePoint.ne_of_setApart hplain (by decide) hletter hsigma
      · exact CodePoint.ne_of_setApart hplain (by decide) hletter hdotted
    · rw [not_or] at hspecial
      rw [lowercaseAfter_cons hspecial.1 hspecial.2]
      cases word with
      | nil => simp
      | cons letter word =>
        obtain ⟨hletter, hword⟩ := List.forall_mem_cons.1 h
        rw [List.map_cons, List.cons.injEq, List.forall₂_cons, ih hword,
          CodePoint.lower_eq_ofChar_iff hletter]

/-- A text has a word of plain letters for its lower case if it has the letters of that word
or their capitals, one by one. -/
theorem lowercase_eq_iff {value : Text} {word : String}
    (h : ∀ letter ∈ word.toList, letter ∈ plainLetters) :
    value.lowercase = .ofString word ↔
      List.Forall₂ (fun c letter => c = .ofChar letter ∨ c = .ofChar letter.toUpper) value
        word.toList :=
  lowercaseAfter_eq_iff h

end Text

namespace Level

theorem name_plainLetters (level : Level) :
    ∀ letter ∈ level.name.toList, letter ∈ plainLetters := by
  have hall : level.name.toList.all fun letter => plainLetters.contains letter := by
    cases level <;> decide
  intro letter hletter
  exact List.contains_iff_mem.1 (List.all_eq_true.1 hall letter hletter)

/-- A value names a level if it spells its name in small and capital ASCII letters. -/
theorem ofName?_lowercase_eq_some_iff {value : Text} {level : Level} :
    ofName? value.lowercase = some level ↔ level.IsNamed value := by
  rw [IsNamed, ← Text.lowercase_eq_iff level.name_plainLetters]
  constructor
  · exact eq_of_ofName?
  · intro h
    rw [h, ofName?_name]

/-- The name of a level starts with a letter. -/
theorem IsNamed.exists_cons {level : Level} {value : Text} (h : level.IsNamed value) :
    ∃ c rest, value = c :: rest ∧ c ≠ .ofChar '-' ∧ c ≠ .ofChar '=' := by
  obtain ⟨letter, word, hname⟩ : ∃ letter word, level.name.toList = letter :: word := by
    cases level <;> exact ⟨_, _, rfl⟩
  have hletter := level.name_plainLetters letter (by simp [hname])
  rw [IsNamed, hname] at h
  obtain ⟨c, rest, hc, -, rfl⟩ := List.forall₂_cons_right_iff.1 h
  exact ⟨c, rest, rfl, CodePoint.ne_of_setApart hletter (by decide) hc,
    CodePoint.ne_of_setApart hletter (by decide) hc⟩

end Level

end FishScript
