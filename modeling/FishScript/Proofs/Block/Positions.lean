import FishScript.Proofs.Block.Scan

/-!
# Where a block stands

A block can be pointed at in a list of lines: there is a line with which its heading begins,
one with which the heading ends, and a later one that closes it. The lines may be any texts,
also such as have line ends inside.

## Main definitions

- `Block.HeadingAt` — the lines with which a heading begins and ends

## Main results

- `Block.headingAt_iff` — a heading between two places is a piece of the list
- `Block.occursIn_iff_exists_places` — the scan finds a block exactly if one can be pointed at
-/

namespace FishScript

namespace Block

open Text (isBlank)

/-- A heading begins with line `i` and ends with line `k`. -/
def HeadingAt (lines : List Text) (i k : Nat) : Prop :=
  (k = i ∧ ∃ header, lines[i]? = some header ∧ isHeader header) ∨
    (i < k ∧ (∃ bare, lines[i]? = some bare ∧ isBareKeyword bare) ∧
      (∀ j, i < j → j < k → ∃ line, lines[j]? = some line ∧ isBlank line) ∧
      ∃ name, lines[k]? = some name ∧ isName name)

/-- An entry at a place is what a list has behind the entries before. -/
theorem getElem?_eq_some_iff_append {α : Type} {entries : List α} {i : Nat} {entry : α} :
    entries[i]? = some entry ↔
      ∃ before after, entries = before ++ entry :: after ∧ before.length = i := by
  constructor
  · intro h
    obtain ⟨hlt, rfl⟩ := List.getElem?_eq_some_iff.1 h
    refine ⟨entries.take i, entries.drop (i + 1), ?_, List.length_take_of_le (Nat.le_of_lt hlt)⟩
    rw [← List.drop_eq_getElem_cons hlt, List.take_append_drop]
  · rintro ⟨before, after, rfl, rfl⟩
    simp

/-- All entries of a piece are as they should be if those at its places are. -/
theorem forall_mem_iff_forall_getElem? {α : Type} (front piece back : List α) (P : α → Prop) :
    (∀ entry ∈ piece, P entry) ↔
      ∀ j, front.length ≤ j → j < front.length + piece.length →
        ∃ entry, (front ++ (piece ++ back))[j]? = some entry ∧ P entry := by
  have hat : ∀ j, front.length ≤ j → j < front.length + piece.length →
      (front ++ (piece ++ back))[j]? = piece[j - front.length]? := by
    intro j hle hlt
    rw [List.getElem?_append_right hle, List.getElem?_append_left (by omega)]
  constructor
  · intro h j hle hlt
    have hin : j - front.length < piece.length := by omega
    refine ⟨piece[j - front.length], ?_, h _ (List.getElem_mem hin)⟩
    rw [hat j hle hlt, List.getElem?_eq_getElem hin]
  · intro h entry hmem
    obtain ⟨n, hn, rfl⟩ := List.getElem_of_mem hmem
    obtain ⟨entry, hentry, hP⟩ := h (front.length + n) (by omega) (by omega)
    rw [hat _ (by omega) (by omega), Nat.add_sub_cancel_left, List.getElem?_eq_getElem hn] at hentry
    rw [Option.some.inj hentry]
    exact hP

/-- The places of a heading mark off a piece of the list. -/
theorem headingAt_iff {lines : List Text} {i k : Nat} :
    HeadingAt lines i k ↔ ∃ before heading rest, lines = before ++ (heading ++ rest) ∧
      Heading heading ∧ before.length = i ∧ before.length + heading.length = k + 1 := by
  constructor
  · rintro (⟨rfl, header, hat, hheader⟩ | ⟨hlt, ⟨bare, hat, hbare⟩, hblanks, name, hlast, hname⟩)
    · obtain ⟨before, rest, rfl, rfl⟩ := getElem?_eq_some_iff_append.1 hat
      exact ⟨before, [header], rest, rfl, Or.inl ⟨header, rfl, hheader⟩, rfl, rfl⟩
    · obtain ⟨before, later, rfl, rfl⟩ := getElem?_eq_some_iff_append.1 hat
      -- the keyword belongs to the front part when the name is looked for
      have hfront : before ++ bare :: later = (before ++ [bare]) ++ later := by simp
      rw [hfront] at hblanks hlast
      rw [List.getElem?_append_right (by simpa using Nat.succ_le_of_lt hlt)] at hlast
      obtain ⟨blanks, rest, rfl, hlength⟩ := getElem?_eq_some_iff_append.1 hlast
      rw [List.length_append, List.length_singleton] at hlength
      have hbetween : ∀ line ∈ blanks, isBlank line := by
        refine (forall_mem_iff_forall_getElem? (before ++ [bare]) blanks (name :: rest) _).2 ?_
        intro j hle hj
        rw [List.length_append, List.length_singleton] at hle hj
        exact hblanks j (by omega) (by omega)
      refine ⟨before, bare :: (blanks ++ [name]), rest, by simp,
        Or.inr ⟨bare, blanks, name, rfl, hbare, hbetween, hname⟩, rfl, ?_⟩
      simp only [List.length_cons, List.length_append, List.length_nil]
      omega
  · rintro ⟨before, heading, rest, rfl, hheading, rfl, hlength⟩
    obtain ⟨header, rfl, hheader⟩ | ⟨bare, blanks, name, rfl, hbare, hblanks, hname⟩ := hheading
    · have hk : k = before.length := Nat.succ.inj hlength.symm
      exact Or.inl ⟨hk, header, by simp, hheader⟩
    · simp only [List.length_cons, List.length_append, List.length_nil] at hlength
      have hbetween :=
        (forall_mem_iff_forall_getElem? (before ++ [bare]) blanks (name :: rest) _).1 hblanks
      have hfront : before ++ (bare :: (blanks ++ [name]) ++ rest) =
          (before ++ [bare]) ++ (blanks ++ name :: rest) := by simp
      rw [List.length_append, List.length_singleton] at hbetween
      refine Or.inr ⟨by omega, ⟨bare, by simp, hbare⟩, fun j hlt hle => ?_, name, ?_, hname⟩
      · rw [hfront]
        exact hbetween j (by omega) (by omega)
      · rw [hfront, ← List.append_assoc]
        refine getElem?_eq_some_iff_append.2 ⟨_, rest, rfl, ?_⟩
        simp only [List.length_append, List.length_singleton]
        omega

/-- Behind a front part of a list an end has a later place. -/
theorem hasEnd_iff_exists_place (front rest : List Text) :
    HasEnd rest ↔
      ∃ m, front.length ≤ m ∧ ∃ line, (front ++ rest)[m]? = some line ∧ isEnd line := by
  constructor
  · rintro ⟨line, hmem, hend⟩
    obtain ⟨j, hj, rfl⟩ := List.getElem_of_mem hmem
    refine ⟨front.length + j, by omega, rest[j], ?_, hend⟩
    rw [List.getElem?_append_right (by omega), Nat.add_sub_cancel_left,
      List.getElem?_eq_getElem hj]
  · rintro ⟨m, hle, line, hat, hend⟩
    rw [List.getElem?_append_right hle] at hat
    exact ⟨line, List.mem_of_getElem? hat, hend⟩

theorem hasBlock_iff_exists_headingAt (lines : List Text) :
    HasBlock lines ↔ ∃ i k m, HeadingAt lines i k ∧ k < m ∧
      ∃ line, lines[m]? = some line ∧ isEnd line := by
  constructor
  · rintro ⟨before, heading, rest, rfl, hheading, hend⟩
    have hpos : 0 < heading.length := by
      obtain ⟨header, rfl, -⟩ | ⟨bare, blanks, name, rfl, -⟩ := hheading <;> simp
    obtain ⟨m, hle, hat⟩ := (hasEnd_iff_exists_place (before ++ heading) rest).1 hend
    rw [List.length_append] at hle
    rw [List.append_assoc] at hat
    refine ⟨before.length, before.length + heading.length - 1, m, ?_, by omega, hat⟩
    exact headingAt_iff.2 ⟨before, heading, rest, rfl, hheading, rfl, by omega⟩
  · rintro ⟨i, k, m, hheading, hlt, hend⟩
    obtain ⟨before, heading, rest, rfl, hheading, -, hlength⟩ := headingAt_iff.1 hheading
    refine ⟨before, heading, rest, rfl, hheading,
      (hasEnd_iff_exists_place (before ++ heading) rest).2 ⟨m, ?_, ?_⟩⟩
    · rw [List.length_append]
      omega
    · rw [List.append_assoc]
      exact hend

/-- The scan finds a block in a list of texts exactly if there are a line with the keyword, a
line with a name, which is the same or the next visible one, and behind both a line with the
closing word. The scan takes up with the first heading that it completes, but any choice of
these lines will do. -/
theorem occursIn_iff_exists_places (lines : List Text) :
    occursIn lines ↔ ∃ i k m : Nat, i ≤ k ∧ k < m ∧
      (∃ rest, lines[i]? = some (Keyword.function ++ rest) ∧
        ((k = i ∧ ∃ gap name trail, rest = gap ++ name ++ trail ∧ (gap ≠ [] ∧ isBlank gap) ∧
            (name ≠ [] ∧ ∀ c ∈ name, c.isWord) ∧ isBlank trail) ∨
          (i < k ∧ isBlank rest ∧
            (∀ j, i < j → j < k → ∃ line, lines[j]? = some line ∧ isBlank line) ∧
            ∃ lead name trail, lines[k]? = some (lead ++ name ++ trail) ∧ isBlank lead ∧
              (name ≠ [] ∧ ∀ c ∈ name, c.isWord) ∧ isBlank trail))) ∧
      ∃ tail, lines[m]? = some (Keyword.blockEnd ++ tail) ∧ isBlank tail := by
  rw [occursIn_iff_hasBlock, hasBlock_iff_exists_headingAt]
  constructor
  · rintro ⟨i, k, m, hheading, hlt, closing, hclosing, hend⟩
    obtain ⟨tail, rfl, htail⟩ := trailed_eq_iff.1 (isEnd_iff.1 hend)
    obtain ⟨rfl, header, hat, hheader⟩ | ⟨hik, ⟨bare, hat, hbare⟩, hblanks, line, hline, hname⟩ :=
      hheading
    · obtain ⟨gap, name, trail, rfl, hspelled⟩ := trailed_headerBody_iff.1 (isHeader_iff.1 hheader)
      exact ⟨k, k, m, Nat.le_refl k, hlt,
        ⟨_, hat, Or.inl ⟨rfl, gap, name, trail, rfl, hspelled⟩⟩, tail, hclosing, htail⟩
    · obtain ⟨rest, rfl, hrest⟩ := trailed_eq_iff.1 (isBareKeyword_iff.1 hbare)
      obtain ⟨lead, name, trail, rfl, hspelled⟩ := trailed_nameBody_iff.1 (isName_iff.1 hname)
      exact ⟨i, k, m, Nat.le_of_lt hik, hlt,
        ⟨rest, hat, Or.inr ⟨hik, hrest, hblanks, lead, name, trail, hline, hspelled⟩⟩,
        tail, hclosing, htail⟩
  · rintro ⟨i, k, m, -, hlt, ⟨rest, hat, hrest⟩, tail, hclosing, htail⟩
    have hend := isEnd_iff.2 (trailed_eq_iff.2 ⟨tail, rfl, htail⟩)
    refine ⟨i, k, m, ?_, hlt, _, hclosing, hend⟩
    obtain ⟨rfl, gap, name, trail, rfl, hspelled⟩ |
      ⟨hik, hblank, hblanks, lead, name, trail, hline, hspelled⟩ := hrest
    · have hheader := isHeader_iff.2 (trailed_headerBody_iff.2 ⟨gap, name, trail, rfl, hspelled⟩)
      exact Or.inl ⟨rfl, _, hat, hheader⟩
    · have hbare := isBareKeyword_iff.2 (trailed_eq_iff.2 ⟨rest, rfl, hblank⟩)
      have hname := isName_iff.2 (trailed_nameBody_iff.2 ⟨lead, name, trail, rfl, hspelled⟩)
      exact Or.inr ⟨hik, ⟨_, hat, hbare⟩, hblanks, _, hline, hname⟩

/-- A line feed inside of a line is a blank like any other. -/
example : occursIn (["x", "function\n", "\n ", " end\n", "end\nend", "end\n"].map Text.ofString) := by
  decide +kernel

end Block

end FishScript
