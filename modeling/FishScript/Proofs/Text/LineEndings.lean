import FishScript.Proofs.Text.LineBreaks
import FishScript.Text.Runs

/-!
# The two ways to end a line

A line ends with a line feed, or with a carriage return and a line feed. A text may mix
both. Whoever skips blanks cannot tell them apart, since both code points are blanks; so
most of what is said about a text can be said about its plain form, which has no carriage
return in front of a line feed.

## Main definitions

- `Text.Ending` — how a line ends
- `Text.written` — lines with an ending behind each but the last
- `Text.plain` — a text without the carriage returns in front of its line feeds

## Main results

- `Text.lines_written` — the lines of a text do not depend on their endings
- `Text.plain_written` — neither does its plain form
- `Text.dropWhile_plain`, `Text.takeWhile_plain` — runs in the plain form of a text
- `Text.after?_plain`, `Text.afterBlanks?_plain`, `Text.word?_plain` — readers of a plain form
-/

namespace FishScript

namespace Text

inductive Ending where
  | feed
  | returnFeed
deriving DecidableEq

def Ending.text : Ending → Text
  | .feed => [lineFeed]
  | .returnFeed => [carriageReturn, lineFeed]

/-- The text with the given lines. The style chooses the ending of each line by its number;
nothing ends the last one. -/
def written (style : Nat → Ending) : List Text → Text
  | [] => []
  | [line] => line
  | line :: next :: lines =>
    line ++ ((style 0).text ++ written (fun i => style (i + 1)) (next :: lines))

/-- A text without the carriage returns that stand directly before a line feed. -/
def plain : Text → Text
  | [] => []
  | c :: text =>
    if c = carriageReturn ∧ text.head? = some lineFeed then plain text else c :: plain text

/-! ### Lines and their endings -/

/-- What an ending puts between two texts does not show in their lines. -/
theorem lines_append_ending {line : Text} (h : line.getLast? ≠ some carriageReturn)
    (hline : lineFeed ∉ line) (ending : Ending) (rest : Text) :
    lines (line ++ (ending.text ++ rest)) = line :: lines rest := by
  cases ending with
  | feed =>
    have hpieces : lines line = [line] := by
      rw [lines_eq_map_pieces, pieces_of_not_mem hline, List.map_singleton,
        withoutReturn_of_getLast?_ne h]
    calc lines (line ++ (Ending.feed.text ++ rest))
        = lines (line ++ lineFeed :: rest) := rfl
      _ = line :: lines rest := by rw [lines_append, hpieces, List.singleton_append]
  | returnFeed =>
    have hmem : lineFeed ∉ line ++ [carriageReturn] := by
      have hne : lineFeed ≠ carriageReturn := by decide
      simp [hline, hne]
    have hpieces : lines (line ++ [carriageReturn]) = [line] := by
      rw [lines_eq_map_pieces, pieces_of_not_mem hmem, List.map_singleton,
        withoutReturn_append_return]
    calc lines (line ++ (Ending.returnFeed.text ++ rest))
        = lines ((line ++ [carriageReturn]) ++ lineFeed :: rest) := by
          rw [List.append_assoc]
          rfl
      _ = line :: lines rest := by rw [lines_append, hpieces, List.singleton_append]

/-- A text has the lines it was written from, whatever their endings. -/
theorem lines_written (style : Nat → Ending) {parts : List Text} (hne : parts ≠ [])
    (h : ∀ line ∈ parts, lineFeed ∉ line ∧ line.getLast? ≠ some carriageReturn) :
    lines (written style parts) = parts := by
  induction parts generalizing style with
  | nil => exact absurd rfl hne
  | cons line rest ih =>
    obtain ⟨⟨hfeed, hreturn⟩, hrest⟩ := List.forall_mem_cons.1 h
    cases rest with
    | nil =>
      rw [written, lines_eq_map_pieces, pieces_of_not_mem hfeed, List.map_singleton,
        withoutReturn_of_getLast?_ne hreturn]
    | cons next rest =>
      rw [written, lines_append_ending hreturn hfeed, ih _ (List.cons_ne_nil next rest) hrest]

/-! ### The plain form -/

theorem plain_cons_of_ne {c : CodePoint} (h : c ≠ carriageReturn) (text : Text) :
    plain (c :: text) = c :: plain text := by
  rw [plain, if_neg]
  exact fun hc => h hc.1

theorem plain_return_lineFeed (text : Text) :
    plain (carriageReturn :: lineFeed :: text) = lineFeed :: plain text := by
  have hne : lineFeed ≠ carriageReturn := by decide
  rw [plain, if_pos ⟨rfl, rfl⟩, plain_cons_of_ne hne]

/-- Only the first code point decides whether a carriage return stays. -/
theorem plain_cons_of_head?_ne (c : CodePoint) {text : Text} (h : text.head? ≠ some lineFeed) :
    plain (c :: text) = c :: plain text := by
  rw [plain, if_neg]
  exact fun hc => h hc.2

/-- A carriage return is dropped, or the first code point is kept. -/
theorem plain_cases (c : CodePoint) (text : Text) :
    (c = carriageReturn ∧ ∃ rest, text = lineFeed :: rest ∧
        plain (c :: text) = lineFeed :: plain rest) ∨
      plain (c :: text) = c :: plain text := by
  by_cases hc : c = carriageReturn
  · by_cases hhead : text.head? = some lineFeed
    · obtain ⟨rest, rfl⟩ := List.head?_eq_some_iff.1 hhead
      exact Or.inl ⟨hc, rest, rfl, hc ▸ plain_return_lineFeed rest⟩
    · exact Or.inr (plain_cons_of_head?_ne c hhead)
  · exact Or.inr (plain_cons_of_ne hc text)

/-- A line that does not end with a carriage return keeps all that it has. -/
theorem plain_append {line : Text} (h : line.getLast? ≠ some carriageReturn)
    (hline : lineFeed ∉ line) (rest : Text) : plain (line ++ rest) = line ++ plain rest := by
  induction line with
  | nil => rfl
  | cons c line ih =>
    obtain ⟨hc, htail⟩ := List.ne_and_not_mem_of_not_mem_cons hline
    cases line with
    | nil =>
      have hne : c ≠ carriageReturn := fun heq => h (heq ▸ rfl)
      exact plain_cons_of_ne hne rest
    | cons d line =>
      have hd : d ≠ lineFeed := fun heq => htail (heq ▸ List.mem_cons_self)
      have hhead : (d :: line ++ rest).head? ≠ some lineFeed := fun heq => hd (Option.some.inj heq)
      have hlast : (d :: line).getLast? ≠ some carriageReturn := by
        rw [List.getLast?_cons_cons] at h
        exact h
      rw [List.cons_append, plain_cons_of_head?_ne c hhead, ih hlast htail]
      rfl

theorem plain_ending (ending : Ending) (rest : Text) :
    plain (ending.text ++ rest) = lineFeed :: plain rest := by
  cases ending with
  | feed => exact plain_cons_of_ne (by decide) rest
  | returnFeed => exact plain_return_lineFeed rest

/-- The plain form of a text is its lines with line feeds between them. -/
theorem plain_written (style : Nat → Ending) {parts : List Text}
    (h : ∀ line ∈ parts, lineFeed ∉ line ∧ line.getLast? ≠ some carriageReturn) :
    plain (written style parts) = joined parts := by
  induction parts generalizing style with
  | nil => rfl
  | cons line rest ih =>
    obtain ⟨⟨hfeed, hreturn⟩, hrest⟩ := List.forall_mem_cons.1 h
    cases rest with
    | nil =>
      have hline := plain_append hreturn hfeed []
      rw [List.append_nil] at hline
      rw [written, hline, joined_singleton]
      exact List.append_nil line
    | cons next rest =>
      have hjoined := joined_append (List.cons_ne_nil line []) (List.cons_ne_nil next rest)
      rw [joined_singleton] at hjoined
      rw [written, plain_append hreturn hfeed, plain_ending, ih _ hrest]
      exact hjoined.symm

/-! ### Reading a plain form -/

section

variable {p : CodePoint → Bool}

/-- A run in a class that has both code points of an ending, or none, goes as far in the
plain form as in the text. -/
theorem dropWhile_plain (h : p carriageReturn = p lineFeed) (text : Text) :
    (plain text).dropWhile p = plain (text.dropWhile p) := by
  induction text with
  | nil => rfl
  | cons c text ih =>
    obtain ⟨rfl, rest, rfl, hplain⟩ | hplain := plain_cases c text
    · cases hp : p lineFeed with
      | true =>
        have hplain' := plain_cons_of_ne (show lineFeed ≠ carriageReturn by decide) rest
        rw [hplain, ← hplain', ih, List.dropWhile_cons_of_pos (h.trans hp)]
      | false =>
        rw [hplain, List.dropWhile_cons_of_neg (Bool.eq_false_iff.1 hp),
          List.dropWhile_cons_of_neg (Bool.eq_false_iff.1 (h.trans hp)), hplain]
    · rw [hplain]
      by_cases hc : p c
      · rw [List.dropWhile_cons_of_pos hc, List.dropWhile_cons_of_pos hc, ih]
      · rw [List.dropWhile_cons_of_neg hc, List.dropWhile_cons_of_neg hc, hplain]

theorem head?_any_plain (h : p carriageReturn = p lineFeed) (text : Text) :
    (plain text).head?.any p = text.head?.any p := by
  cases text with
  | nil => rfl
  | cons c text =>
    obtain ⟨rfl, rest, rfl, hplain⟩ | hplain := plain_cases c text
    · rw [hplain]
      exact h.symm
    · rw [hplain]
      rfl

/-- The plain form starts with a run exactly if the text does. -/
theorem takeWhile_plain_eq_nil_iff (h : p carriageReturn = p lineFeed) (text : Text) :
    (plain text).takeWhile p = [] ↔ text.takeWhile p = [] := by
  have hany : ∀ t : Text, t.takeWhile p = [] ↔ t.head?.any p = false := by
    intro t
    cases t with
    | nil => simp
    | cons c t => by_cases hc : p c <;> simp [hc]
  rw [hany, hany, head?_any_plain h]

/-- A run without the code points of an ending is the same in both. -/
theorem takeWhile_plain (hreturn : p carriageReturn = false) (hfeed : p lineFeed = false)
    (text : Text) : (plain text).takeWhile p = text.takeWhile p := by
  induction text with
  | nil => rfl
  | cons c text ih =>
    obtain ⟨rfl, rest, rfl, hplain⟩ | hplain := plain_cases c text
    · rw [hplain, List.takeWhile_cons_of_neg (Bool.eq_false_iff.1 hfeed),
        List.takeWhile_cons_of_neg (Bool.eq_false_iff.1 hreturn)]
    · rw [hplain, List.takeWhile_cons, List.takeWhile_cons, ih]

end

theorem after?_plain {lead : Text} (hreturn : carriageReturn ∉ lead) (hfeed : lineFeed ∉ lead)
    (text : Text) : after? lead (plain text) = (after? lead text).map plain := by
  induction lead generalizing text with
  | nil => rfl
  | cons a lead ih =>
    obtain ⟨har, hreturn⟩ := List.ne_and_not_mem_of_not_mem_cons hreturn
    obtain ⟨haf, hfeed⟩ := List.ne_and_not_mem_of_not_mem_cons hfeed
    cases text with
    | nil => rfl
    | cons c text =>
      obtain ⟨rfl, rest, rfl, hplain⟩ | hplain := plain_cases c text
      · rw [hplain, after?, after?, if_neg (Ne.symm haf), if_neg (Ne.symm har)]
        rfl
      · rw [hplain, after?, after?]
        by_cases hac : a = c
        · rw [if_pos hac, if_pos hac, ih hreturn hfeed]
        · rw [if_neg hac, if_neg hac]
          rfl

/-- Both code points of an ending are blanks. -/
theorem isBlank_return_eq : carriageReturn.isBlank = lineFeed.isBlank :=
  isBlank_carriageReturn.trans isBlank_lineFeed.symm

theorem afterBlanks?_plain (text : Text) :
    afterBlanks? (plain text) = (afterBlanks? text).map plain := by
  rw [afterBlanks?, afterBlanks?]
  by_cases h : text.takeWhile CodePoint.isBlank = []
  · rw [if_pos ((takeWhile_plain_eq_nil_iff isBlank_return_eq text).2 h), if_pos h]
    rfl
  · have hplain := (not_congr (takeWhile_plain_eq_nil_iff isBlank_return_eq text)).2 h
    rw [if_neg hplain, if_neg h, dropWhile_plain isBlank_return_eq]
    rfl

theorem word?_plain (text : Text) :
    word? (plain text) = (word? text).map fun found => (found.1, plain found.2) := by
  have hreturn : carriageReturn.isWord = false :=
    CodePoint.isWord_of_isBlank isBlank_carriageReturn
  have hfeed : lineFeed.isWord = false := CodePoint.isWord_of_isBlank isBlank_lineFeed
  rw [word?, word?, takeWhile_plain hreturn hfeed, dropWhile_plain (hreturn.trans hfeed.symm)]
  split <;> rfl

end Text

end FishScript
