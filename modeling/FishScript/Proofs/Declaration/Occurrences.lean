import Mathlib.Data.List.Basic
import FishScript.Proofs.Declaration.Lines

/-!
# Where declarations stand in a text

Each place at which a text reads like a declaration is an occurrence, wherever it stands. An
occurrence takes part of the text for itself: the keyword, the gap, the whole name and, for a
variable, all the blanks behind the name. No other occurrence starts in there but at the
name, which may be the keyword of a declaration as well.

## Main definitions

- `Occurrence` — a place, where its name starts, the name, and where it stops
- `Declaration.OccursIn` — the occurrences in a text

## Main results

- `Declaration.OccursIn.eq_nameStart_or_stop_le` — where an occurrence starts inside of another
- `Declaration.OccursIn.unique` — one place has one occurrence at most
- `Declaration.exists_occursIn_of_read?`, `Declaration.OccursIn.exists_read?` — the search
  reads the occurrences
-/

namespace FishScript

/-- A place in a text and what is declared there. All numbers count code points from the
start of the text. -/
@[ext]
structure Occurrence where
  position : Nat
  nameStart : Nat
  name : Text
  /-- Where the text goes on that the occurrence does not take. -/
  stop : Nat

namespace Text

/-- A code point outside of a class stands in no run in the class. -/
theorem outside_run (before run rest : Text) {p : CodePoint → Bool} (h : ∀ c ∈ run, p c) {i : Nat}
    {c : CodePoint} (hc : (before ++ run ++ rest)[i]? = some c) (hclass : p c = false) :
    i < before.length ∨ before.length + run.length ≤ i := by
  by_contra hinside
  rw [not_or, Nat.not_lt, Nat.not_le] at hinside
  rw [List.append_assoc, List.getElem?_append_right hinside.1,
    List.getElem?_append_left (by omega)] at hc
  rw [h c (List.mem_of_getElem? hc)] at hclass
  cases hclass

/-- In front of the start of a line stands a line feed, or nothing. -/
theorem LineStart.getElem?_eq {before : Text} (h : LineStart before) (hne : before ≠ [])
    (rest : Text) : (before ++ rest)[before.length - 1]? = some lineFeed := by
  obtain rfl | ⟨init, rfl⟩ := h
  · exact absurd rfl hne
  · simp

theorem lineStart_concat_iff {before : Text} {c : CodePoint} :
    LineStart (before ++ [c]) ↔ c = lineFeed := by
  constructor
  · rintro (hnil | ⟨init, heq⟩)
    · exact absurd hnil (by simp)
    · exact (List.append_inj' heq rfl).2 |> List.singleton_inj.1
  · rintro rfl
    exact Or.inr ⟨before, rfl⟩

/-- No line starts behind a text that does not end with a line feed. -/
theorem not_lineStart_append {run : Text} (hne : run ≠ []) (h : lineFeed ∉ run) (before : Text) :
    ¬LineStart (before ++ run) := by
  rintro (hnil | ⟨init, heq⟩)
  · exact hne (List.append_eq_nil_iff.1 hnil).2
  · have hlast : (before ++ run).getLast? = some lineFeed := by rw [heq, List.getLast?_concat]
    rw [List.getLast?_append_of_ne_nil _ hne] at hlast
    exact h (List.mem_of_getLast? hlast)

/-- A text splits in one way only into a run and what is outside of it. -/
theorem run_append_inj {p : CodePoint → Bool} {run run' rest rest' : Text} (h : ∀ c ∈ run, p c)
    (hrest : StartsOutside p rest) (h' : ∀ c ∈ run', p c) (hrest' : StartsOutside p rest')
    (heq : run ++ rest = run' ++ rest') : run = run' ∧ rest = rest' := by
  obtain ⟨htake, hdrop⟩ := takeWhile_dropWhile_eq_iff.2 ⟨heq, h', hrest'⟩
  obtain ⟨htake', hdrop'⟩ := takeWhile_dropWhile_eq_iff.2 ⟨rfl, h, hrest⟩
  exact ⟨htake'.symm.trans htake, hdrop'.symm.trans hdrop⟩

end Text

namespace Declaration

open Text (IsName isBlank lineFeed)

variable {kind : Declaration}

/-- Whether `tail`, in front of `rest`, is what a declaration takes behind its name. -/
def Closes : Declaration → (tail rest : Text) → Prop
  | .function, tail, rest => tail = [] ∧ Text.StartsOutside CodePoint.isWord rest
  | .variable, tail, rest =>
    (tail ≠ [] ∧ isBlank tail) ∧ Text.StartsOutside CodePoint.isBlank rest

/-- Whether a text has an occurrence: at the start of a line the keyword, a gap and a name
that no word character prolongs. Behind the name of a variable there are blanks, all of
which belong to the occurrence. -/
def OccursIn (kind : Declaration) (text : Text) (found : Occurrence) : Prop :=
  ∃ before gap tail rest,
    text = before ++ kind.keyword ++ gap ++ found.name ++ tail ++ rest ∧
    Text.LineStart before ∧ (gap ≠ [] ∧ isBlank gap) ∧ IsName found.name ∧
    kind.Closes tail rest ∧
    found.position = before.length ∧
    found.nameStart = before.length + kind.keyword.length + gap.length ∧
    found.stop = found.nameStart + found.name.length + tail.length

theorem Closes.isBlank {tail rest : Text} (h : kind.Closes tail rest) : isBlank tail := by
  match kind, h with
  | .function, h => rw [h.1]; rfl
  | .variable, h => exact h.1.2

/-- A name ends where the declaration is closed. -/
theorem Closes.startsOutside {tail rest : Text} (h : kind.Closes tail rest) :
    Text.StartsOutside CodePoint.isWord (tail ++ rest) := by
  match kind, h with
  | .function, h =>
    rw [h.1]
    exact h.2
  | .variable, h =>
    obtain ⟨d, tail, rfl⟩ := List.exists_cons_of_ne_nil h.1.1
    intro c hc
    rw [← Option.some.inj hc]
    exact CodePoint.isWord_of_isBlank (Text.isBlank_iff.1 h.1.2 d List.mem_cons_self)

/-- What may follow a name can be closed in one way only. -/
theorem exists_closes {rest : Text} (hrest : Text.StartsOutside CodePoint.isWord rest)
    (hadmits : kind.admits rest) : ∃ tail after, rest = tail ++ after ∧ kind.Closes tail after := by
  match kind, hadmits with
  | .function, _ => exact ⟨[], rest, rfl, rfl, hrest⟩
  | .variable, hadmits =>
    obtain ⟨c, hc, hblank⟩ := (Option.any_eq_true _ _).1 hadmits
    obtain ⟨tail, rfl⟩ := List.head?_eq_some_iff.1 hc
    obtain ⟨heq, hrun, houtside⟩ := Text.takeWhile_dropWhile_eq_iff.1
      (⟨rfl, rfl⟩ : (c :: tail).takeWhile CodePoint.isBlank = _ ∧
        (c :: tail).dropWhile CodePoint.isBlank = _)
    refine ⟨_, _, heq, ⟨?_, Text.isBlank_iff.2 hrun⟩, houtside⟩
    rw [List.takeWhile_cons_of_pos hblank]
    exact List.cons_ne_nil _ _

theorem Closes.admits {tail rest : Text} (h : kind.Closes tail rest) :
    kind.admits (tail ++ rest) := by
  match kind, h with
  | .function, _ => rfl
  | .variable, h =>
    obtain ⟨d, tail, rfl⟩ := List.exists_cons_of_ne_nil h.1.1
    exact Text.isBlank_iff.1 h.1.2 d List.mem_cons_self

theorem Closes.unique {tail rest tail' rest' : Text} (h : kind.Closes tail rest)
    (h' : kind.Closes tail' rest') (heq : tail ++ rest = tail' ++ rest') : tail = tail' := by
  match kind, h, h' with
  | .function, h, h' => exact h.1.trans h'.1.symm
  | .variable, h, h' =>
    exact (Text.run_append_inj (Text.isBlank_iff.1 h.1.2) h.2 (Text.isBlank_iff.1 h'.1.2) h'.2
      heq).1

/-! ### Reading an occurrence -/

/-- What is read at the start of a line is an occurrence. -/
theorem exists_occursIn_of_read? {before text name rest : Text} (hstart : Text.LineStart before)
    (h : kind.read? text = some (name, rest)) :
    ∃ gap found, text = kind.keyword ++ gap ++ name ++ rest ∧
      kind.OccursIn (before ++ text) found ∧ found.position = before.length ∧
      found.nameStart = before.length + kind.keyword.length + gap.length ∧ found.name = name := by
  obtain ⟨_, after, rfl, hgap, hword, hadmits⟩ := read?_eq_some_iff.1 h
  obtain ⟨gap, hne, rfl, hblank, -⟩ := Text.afterBlanks?_eq_some_iff.1 hgap
  obtain ⟨hname, rfl, hall, hrest⟩ := Text.word?_eq_some_iff.1 hword
  obtain ⟨tail, after, rfl, hcloses⟩ := exists_closes hrest hadmits
  have hfound : kind.OccursIn (before ++ (kind.keyword ++ (gap ++ (name ++ (tail ++ after)))))
      ⟨before.length, before.length + kind.keyword.length + gap.length, name,
        before.length + kind.keyword.length + gap.length + name.length + tail.length⟩ :=
    ⟨before, gap, tail, after, by simp, hstart, ⟨hne, Text.isBlank_iff.2 hblank⟩, ⟨hname, hall⟩,
      hcloses, rfl, rfl, rfl⟩
  exact ⟨gap, _, by simp, hfound, rfl, rfl, rfl⟩

/-- An occurrence is read where it starts. -/
theorem OccursIn.exists_read? {before text : Text} {found : Occurrence}
    (h : kind.OccursIn (before ++ text) found) (hposition : found.position = before.length) :
    Text.LineStart before ∧ ∃ rest, kind.read? text = some (found.name, rest) := by
  obtain ⟨before', gap, tail, rest, heq, hstart, hgap, hname, hcloses, hbefore, -, -⟩ := h
  have hlength : before.length = before'.length := hposition.symm.trans hbefore
  simp only [List.append_assoc] at heq
  obtain ⟨rfl, rfl⟩ := List.append_inj heq hlength
  have hblanks := hname.afterBlanks?_append hgap (tail ++ rest)
  have hword := hname.word?_append_of_startsOutside hcloses.startsOutside
  exact ⟨hstart, tail ++ rest, read?_eq_some_iff.2 ⟨_, _, rfl, hblanks, hword, hcloses.admits⟩⟩

/-! ### Occurrences inside of each other -/

theorem OccursIn.position_lt_nameStart {text : Text} {found : Occurrence}
    (h : kind.OccursIn text found) : found.position < found.nameStart := by
  obtain ⟨before, gap, tail, rest, -, -, ⟨hgap, -⟩, -, -, hposition, hname, -⟩ := h
  have := List.length_pos_iff.2 hgap
  omega

theorem OccursIn.isName {text : Text} {found : Occurrence} (h : kind.OccursIn text found) :
    IsName found.name := by
  obtain ⟨before, gap, tail, rest, -, -, -, hname, -⟩ := h
  exact hname

theorem OccursIn.nameEnd_le_stop {text : Text} {found : Occurrence}
    (h : kind.OccursIn text found) : found.nameStart + found.name.length ≤ found.stop := by
  obtain ⟨before, gap, tail, rest, -, -, -, -, -, -, -, hstop⟩ := h
  omega

theorem OccursIn.nameStart_lt_stop {text : Text} {found : Occurrence}
    (h : kind.OccursIn text found) : found.nameStart < found.stop := by
  have hname := List.length_pos_iff.2 h.isName.1
  have hstop := h.nameEnd_le_stop
  omega

theorem OccursIn.stop_le_length {text : Text} {found : Occurrence}
    (h : kind.OccursIn text found) : found.stop ≤ text.length := by
  obtain ⟨before, gap, tail, rest, rfl, -, -, -, -, -, hname, hstop⟩ := h
  simp only [List.length_append]
  omega

/-- The name of a variable does not end the text. -/
theorem OccursIn.nameEnd_lt_length {text : Text} {found : Occurrence}
    (h : Declaration.variable.OccursIn text found) :
    found.nameStart + found.name.length < text.length := by
  have hlength := h.stop_le_length
  obtain ⟨before, gap, tail, rest, -, -, -, -, ⟨⟨htail, -⟩, -⟩, -, -, hstop⟩ := h
  have := List.length_pos_iff.2 htail
  omega

/-- A line feed stands in front of an occurrence, and a word character at its start. -/
theorem OccursIn.getElem?_around {text : Text} {found : Occurrence} (h : kind.OccursIn text found)
    (hposition : 0 < found.position) :
    text[found.position - 1]? = some lineFeed ∧ ∃ c, text[found.position]? = some c ∧ c.isWord := by
  obtain ⟨before, gap, tail, rest, rfl, hstart, -, -, -, hbefore, -, -⟩ := h
  rw [hbefore] at hposition ⊢
  obtain ⟨c, word, hkeyword⟩ := List.exists_cons_of_ne_nil kind.isName_keyword.1
  have hc : c.isWord := kind.isName_keyword.2 c (by simp [hkeyword])
  simp only [List.append_assoc]
  refine ⟨hstart.getElem?_eq (List.length_pos_iff.1 hposition) _, c, ?_, hc⟩
  rw [hkeyword, List.getElem?_append_right (Nat.le_refl _), Nat.sub_self]
  rfl

/-- Inside of an occurrence another one can only start at its name. -/
theorem OccursIn.eq_nameStart_or_stop_le {text : Text} {outer inner : Occurrence}
    (houter : kind.OccursIn text outer) (hinner : kind.OccursIn text inner)
    (hlt : outer.position < inner.position) :
    inner.position = outer.nameStart ∨ outer.stop ≤ inner.position := by
  obtain ⟨hfeed, c, hc, hword⟩ := hinner.getElem?_around (Nat.zero_lt_of_lt hlt)
  obtain ⟨before, gap, tail, rest, rfl, -, ⟨-, hgap⟩, hname, hcloses, hposition, hstart, hstop⟩ :=
    houter
  have hfeedWord : lineFeed.isWord = false := CodePoint.isWord_of_isBlank Text.isBlank_lineFeed
  have hblank : c.isBlank = false := CodePoint.isBlank_of_isWord hword
  -- the line feed is in no word, and the word character behind it in no run of blanks
  have hkeyword := Text.outside_run before kind.keyword (gap ++ outer.name ++ tail ++ rest)
    kind.isName_keyword.2 (by simpa using hfeed) hfeedWord
  have hgap := Text.outside_run (before ++ kind.keyword) gap (outer.name ++ tail ++ rest)
    (Text.isBlank_iff.1 hgap) (by simpa using hc) hblank
  have hname := Text.outside_run (before ++ kind.keyword ++ gap) outer.name (tail ++ rest)
    hname.2 (by simpa using hfeed) hfeedWord
  have htail := Text.outside_run (before ++ kind.keyword ++ gap ++ outer.name) tail rest
    (Text.isBlank_iff.1 hcloses.isBlank) hc hblank
  simp only [List.length_append] at hkeyword hgap hname htail
  omega

/-- A text has one occurrence at most at a place. -/
theorem OccursIn.unique {text : Text} {a b : Occurrence} (ha : kind.OccursIn text a)
    (hb : kind.OccursIn text b) (h : a.position = b.position) : a = b := by
  obtain ⟨before, gap, tail, rest, heq, -, ⟨-, hgap⟩, hname, hcloses, hposition, hstart,
    hstop⟩ := ha
  obtain ⟨before', gap', tail', rest', heq', -, ⟨-, hgap'⟩, hname', hcloses', hposition', hstart',
    hstop'⟩ := hb
  have hlength : before.length = before'.length := by omega
  rw [heq] at heq'
  simp only [List.append_assoc] at heq'
  have hbehind := List.append_cancel_left (List.append_inj heq' hlength).2
  obtain ⟨hgaps, hnamed⟩ := Text.run_append_inj (Text.isBlank_iff.1 hgap)
    (hname.startsOutside_isBlank _) (Text.isBlank_iff.1 hgap') (hname'.startsOutside_isBlank _)
    hbehind
  obtain ⟨hnames, hclosed⟩ := Text.run_append_inj hname.2 hcloses.startsOutside hname'.2
    hcloses'.startsOutside hnamed
  have htails := hcloses.unique hcloses' hclosed
  have hstarts : a.nameStart = b.nameStart := by rw [hstart, hstart', hgaps, hlength]
  have hstops : a.stop = b.stop := by rw [hstop, hstop', hstarts, hnames, htails]
  exact Occurrence.ext h hstarts hnames hstops

end Declaration

end FishScript
