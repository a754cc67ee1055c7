import Mathlib.Data.List.TakeWhile
import FishScript.Proofs.Block.LineShapes
import FishScript.Proofs.Declaration.Search

/-!
# The search for declarations, line by line

The search runs over a whole text, and the blanks behind a keyword may cross lines. All the
same it can be done line by line, if one thing is carried along: whether a keyword that
stood alone on its line still waits for a name. The first visible line behind it then gives
the name, whatever else it might have declared.

## Main definitions

- `Declaration.nameIn?` — the name that a waiting keyword finds
- `Declaration.isBare` — the lines that have the keyword alone
- `Declaration.waits` — whether a keyword waits behind a line
- `Declaration.scan` — the names found line by line

## Main results

- `Declaration.resume_append_lineFeed` — what one line does to the search
- `Declaration.names_eq_scan` — the search and the scan find the same names
-/

namespace FishScript

namespace Text

/-- A name ends where its line does, or before. -/
theorem word?_append_lineFeed (line rest : Text) :
    word? (line ++ lineFeed :: rest) =
      (word? line).map fun found => (found.1, found.2 ++ lineFeed :: rest) := by
  have hfeed : lineFeed.isWord = false := CodePoint.isWord_of_isBlank isBlank_lineFeed
  have htake : (line ++ lineFeed :: rest).takeWhile CodePoint.isWord =
        line.takeWhile CodePoint.isWord ∧
      (line ++ lineFeed :: rest).dropWhile CodePoint.isWord =
        line.dropWhile CodePoint.isWord ++ lineFeed :: rest := by
    have hsplit : line.takeWhile CodePoint.isWord = line.takeWhile CodePoint.isWord ∧
        line.dropWhile CodePoint.isWord = line.dropWhile CodePoint.isWord := ⟨rfl, rfl⟩
    obtain ⟨hline, hrun, houtside⟩ := takeWhile_dropWhile_eq_iff.1 hsplit
    refine takeWhile_dropWhile_eq_iff.2 ⟨?_, hrun, ?_⟩
    · rw [← List.append_assoc, ← hline]
    · intro c hc
      cases hdrop : line.dropWhile CodePoint.isWord with
      | nil =>
        rw [hdrop] at hc
        rw [← Option.some.inj hc]
        exact hfeed
      | cons d tail =>
        rw [hdrop] at hc houtside
        exact houtside c hc
  rw [word?, word?, htake.1, htake.2]
  split <;> rfl

/-- A lead without a line feed ends where its line does, or before. -/
theorem after?_append_lineFeed {lead : Text} (h : lineFeed ∉ lead) (line rest : Text) :
    after? lead (line ++ lineFeed :: rest) =
      (after? lead line).map fun after => after ++ lineFeed :: rest := by
  induction lead generalizing line with
  | nil => rfl
  | cons a lead ih =>
    obtain ⟨ha, hlead⟩ := List.ne_and_not_mem_of_not_mem_cons h
    cases line with
    | nil => exact if_neg (Ne.symm ha)
    | cons c line =>
      rw [List.cons_append, after?, after?, ih hlead]
      split <;> rfl

end Text

namespace Declaration

open Text (IsName isBlank lineFeed)

variable {kind : Declaration}

/-- The name behind any blanks, and what follows it, if a name may be followed by that. -/
def nameIn? (kind : Declaration) (text : Text) : Option (Text × Text) :=
  (Text.word? (text.dropWhile CodePoint.isBlank)).filter fun found => kind.admits found.2

/-- The keyword with nothing but blanks behind it. -/
def isBare (kind : Declaration) (line : Text) : Bool :=
  (Text.after? kind.keyword line).any isBlank

/-- Whether a keyword waits for a name behind `line`, given whether one waits in front of
it. -/
def waits (kind : Declaration) (waiting : Bool) (line : Text) : Bool :=
  if isBlank line then waiting else !waiting && kind.isBare line

/-- What the search reads at the start of a line: a name for the keyword that waits, or else
a declaration. -/
def readFrom? (kind : Declaration) (waiting : Bool) (text : Text) : Option (Text × Text) :=
  if waiting then kind.nameIn? text else kind.read? text

/-- The name that a line adds, if any. -/
def entry (kind : Declaration) (waiting : Bool) (line : Text) : List Text :=
  ((kind.readFrom? waiting line).map Prod.fst).toList

/-- The names found in some lines. A line feed follows each line but the last. -/
def scan (kind : Declaration) : (waiting : Bool) → List Text → List Text
  | _, [] => []
  | waiting, [line] => kind.entry waiting line
  | waiting, line :: next :: lines =>
    kind.entry waiting (line ++ [lineFeed]) ++ kind.scan (kind.waits waiting line) (next :: lines)

/-- The names that the search finds in a text, given whether a keyword waits in front of
it. -/
def resume (kind : Declaration) (waiting : Bool) (text : Text) : List Text :=
  match kind.readFrom? waiting text with
  | some (name, rest) => name :: kind.namesFrom false rest
  | none => kind.namesFrom false text

/-! ### Keywords -/

theorem isName_keyword (kind : Declaration) : IsName kind.keyword :=
  match kind with
  | .function => Block.isName_function
  | .variable => ⟨by decide, by decide +kernel⟩

theorem isBare_iff {line : Text} : kind.isBare line ↔ Block.Trailed (· = kind.keyword) line :=
  Block.any_isBlank_after?_iff

/-- What follows the name that a keyword finds is decided by one code point. -/
theorem admits_append_lineFeed (rest after : Text) :
    kind.admits (rest ++ lineFeed :: after) = kind.admits (rest ++ [lineFeed]) := by
  match kind with
  | .function => rfl
  | .variable => cases rest <;> rfl

/-! ### Reading a name -/

theorem nameIn?_eq_some_iff {text name rest : Text} :
    kind.nameIn? text = some (name, rest) ↔
      Text.word? (text.dropWhile CodePoint.isBlank) = some (name, rest) ∧ kind.admits rest := by
  rw [nameIn?, Option.filter_eq_some_iff]

/-- Blanks in front of a text make no difference to a keyword that waits. -/
theorem nameIn?_append_of_isBlank {blanks : Text} (h : isBlank blanks) (text : Text) :
    kind.nameIn? (blanks ++ text) = kind.nameIn? text := by
  rw [nameIn?, nameIn?, List.dropWhile_append_of_pos (Text.isBlank_iff.1 h)]

theorem nameIn?_of_isBlank {text : Text} (h : isBlank text) : kind.nameIn? text = none := by
  rw [← List.append_nil text, nameIn?_append_of_isBlank h]
  rfl

/-- A declaration is a keyword, one blank at least, and a name. -/
theorem read?_eq_bind (kind : Declaration) (text : Text) :
    kind.read? text = (Text.after? kind.keyword text).bind fun gap =>
      if gap.head?.any CodePoint.isBlank then kind.nameIn? gap else none := by
  rw [read?]
  cases Text.after? kind.keyword text with
  | none => rfl
  | some gap =>
    cases gap with
    | nil => rfl
    | cons c gap =>
      show ((Text.afterBlanks? (c :: gap)).bind fun after => (Text.word? after).bind fun found =>
        if kind.admits found.2 then some found else none) =
          if c.isBlank then kind.nameIn? (c :: gap) else none
      by_cases hc : c.isBlank
      · have hblanks : Text.afterBlanks? (c :: gap) =
            some ((c :: gap).dropWhile CodePoint.isBlank) := by
          rw [Text.afterBlanks?, List.takeWhile_cons_of_pos hc, if_neg (List.cons_ne_nil _ _)]
        have hname : (Text.word? ((c :: gap).dropWhile CodePoint.isBlank)).bind
            (fun found => if kind.admits found.2 then some found else none) =
              kind.nameIn? (c :: gap) := by
          rw [nameIn?]
          cases Text.word? ((c :: gap).dropWhile CodePoint.isBlank) <;> rfl
        rw [hblanks, if_pos hc]
        exact hname
      · have hblanks : Text.afterBlanks? (c :: gap) = none := by
          rw [Text.afterBlanks?, List.takeWhile_cons_of_neg hc, if_pos rfl]
        rw [hblanks, if_neg hc]
        rfl

/-- Where a declaration is read, a keyword that waits finds a name: the keyword of that
declaration. -/
theorem nameIn?_of_read? {text name rest : Text} (h : kind.read? text = some (name, rest)) :
    ∃ after, kind.nameIn? text = some (kind.keyword, after) := by
  obtain ⟨gap, after, rfl, hgap, -, -⟩ := read?_eq_some_iff.1 h
  have hkeyword := kind.isName_keyword
  obtain ⟨blanks, hne, rfl, hblanks, -⟩ := Text.afterBlanks?_eq_some_iff.1 hgap
  obtain ⟨c, blanks, rfl⟩ := List.exists_cons_of_ne_nil hne
  have hc : c.isBlank := hblanks c List.mem_cons_self
  have hdrop := hkeyword.dropWhile_append (show isBlank [] from rfl) (c :: blanks ++ after)
  rw [List.nil_append] at hdrop
  refine ⟨c :: blanks ++ after, nameIn?_eq_some_iff.2 ⟨?_, ?_⟩⟩
  · rw [hdrop]
    refine hkeyword.word?_append_of_startsOutside fun d hd => ?_
    rw [← Option.some.inj hd]
    exact CodePoint.isWord_of_isBlank hc
  · match kind with
    | .function => rfl
    | .variable => exact hc

/-! ### Reading at the start of a line -/

/-- What is read on a line is the same whatever follows it, and ends before the end of the
line. -/
def ReadsAlone (reader : Text → Option (Text × Text)) (line : Text) : Prop :=
  ∃ found : Option (Text × Text), (∀ part ∈ found, lineFeed ∉ part.2) ∧
    ∀ rest, reader (line ++ lineFeed :: rest) =
      found.map fun part => (part.1, part.2 ++ lineFeed :: rest)

/-- A keyword that waits finds its name on the first visible line. -/
theorem readsAlone_nameIn? {line : Text} (hline : lineFeed ∉ line) (h : isBlank line = false) :
    ReadsAlone kind.nameIn? line := by
  have hdrop : line.dropWhile CodePoint.isBlank ≠ [] := by
    intro hnil
    exact Bool.eq_false_iff.1 h (Text.isBlank_iff.2 (List.dropWhile_eq_nil_iff.1 hnil))
  refine ⟨(Text.word? (line.dropWhile CodePoint.isBlank)).filter
    fun found => kind.admits (found.2 ++ [lineFeed]), ?_, ?_⟩
  · intro found hfound
    obtain ⟨hword, -⟩ := Option.filter_eq_some_iff.1 hfound
    obtain ⟨-, heq, -, -⟩ := Text.word?_eq_some_iff.1 hword
    intro hmem
    have hmem' : lineFeed ∈ line.dropWhile CodePoint.isBlank := by
      rw [heq]
      exact List.mem_append_right _ hmem
    exact hline ((List.dropWhile_sublist _).subset hmem')
  · intro rest
    have happend : (line ++ lineFeed :: rest).dropWhile CodePoint.isBlank =
        line.dropWhile CodePoint.isBlank ++ lineFeed :: rest := by
      rw [List.dropWhile_append, if_neg]
      rw [List.isEmpty_iff]
      exact hdrop
    rw [nameIn?, happend, Text.word?_append_lineFeed, Option.filter_map]
    congr 2
    funext found
    exact admits_append_lineFeed found.2 rest

/-- A declaration is read on its line, unless the line has the keyword alone. -/
theorem readsAlone_read? {line : Text} (hline : lineFeed ∉ line) (h : kind.isBare line = false) :
    ReadsAlone kind.read? line := by
  have hread : ∀ rest, kind.read? (line ++ lineFeed :: rest) =
      (Text.after? kind.keyword line).bind fun gap =>
        if (gap ++ lineFeed :: rest).head?.any CodePoint.isBlank then
          kind.nameIn? (gap ++ lineFeed :: rest)
        else none := by
    intro rest
    rw [read?_eq_bind, Text.after?_append_lineFeed kind.isName_keyword.lineFeed_not_mem,
      Option.bind_map]
    rfl
  cases hafter : Text.after? kind.keyword line with
  | none => exact ⟨none, by simp, fun rest => by rw [hread, hafter]; rfl⟩
  | some gap =>
    have hgap : isBlank gap = false := by
      rw [isBare, hafter] at h
      exact h
    have hmem : lineFeed ∉ gap := by
      rw [Text.after?_eq_some_iff.1 hafter] at hline
      exact fun hmem => hline (List.mem_append_right _ hmem)
    cases gap with
    | nil => cases hgap
    | cons c gap =>
      by_cases hc : c.isBlank
      · have hname : ReadsAlone kind.nameIn? (c :: gap) := readsAlone_nameIn? hmem hgap
        obtain ⟨found, hfound, hreads⟩ := hname
        refine ⟨found, hfound, fun rest => ?_⟩
        rw [hread, hafter, ← hreads rest]
        exact if_pos hc
      · refine ⟨none, by simp, fun rest => ?_⟩
        rw [hread, hafter]
        exact if_neg hc

/-! ### Going on line by line -/

/-- Behind a line that leaves a keyword waiting, all depends on what follows. -/
theorem readFrom?_of_waits {waiting : Bool} {line : Text} (h : kind.waits waiting line)
    (rest : Text) : kind.readFrom? waiting (line ++ lineFeed :: rest) = kind.nameIn? rest := by
  have hskip : ∀ blanks : Text, isBlank blanks →
      kind.nameIn? (blanks ++ lineFeed :: rest) = kind.nameIn? rest := by
    intro blanks hblanks
    rw [nameIn?_append_of_isBlank hblanks]
    have hfeed : isBlank [lineFeed] := by decide
    exact nameIn?_append_of_isBlank hfeed rest
  by_cases hblank : isBlank line
  · rw [waits, if_pos hblank] at h
    rw [readFrom?, if_pos h]
    exact hskip line hblank
  · rw [waits, if_neg hblank, Bool.and_eq_true, Bool.not_eq_true'] at h
    obtain ⟨_, trail, rfl, rfl, htrail⟩ := isBare_iff.1 h.2
    have hafter : Text.after? kind.keyword (kind.keyword ++ (trail ++ lineFeed :: rest)) =
        some (trail ++ lineFeed :: rest) := Text.after?_eq_some_iff.2 rfl
    have hhead : (trail ++ lineFeed :: rest).head?.any CodePoint.isBlank := by
      cases trail with
      | nil => exact Text.isBlank_lineFeed
      | cons c trail => exact Text.isBlank_iff.1 htrail c List.mem_cons_self
    rw [readFrom?, h.1, if_neg Bool.false_ne_true, List.append_assoc, read?_eq_bind, hafter]
    exact (if_pos hhead).trans (hskip trail htrail)

/-- All other lines are read on their own. -/
theorem readsAlone_of_waits_eq_false {waiting : Bool} {line : Text} (hline : lineFeed ∉ line)
    (h : kind.waits waiting line = false) : ReadsAlone (kind.readFrom? waiting) line := by
  by_cases hblank : isBlank line
  · rw [waits, if_pos hblank] at h
    have hbare : kind.isBare line = false := by
      rw [Bool.eq_false_iff]
      intro hbare
      refine Block.not_isBlank_of_trailed ?_ (isBare_iff.1 hbare) hblank
      exact fun _ heq => heq ▸ Block.endsVisibly_of_isName kind.isName_keyword
    rw [h]
    exact readsAlone_read? hline hbare
  · rw [waits, if_neg hblank] at h
    cases waiting with
    | true => exact readsAlone_nameIn? hline (Bool.eq_false_iff.2 hblank)
    | false => exact readsAlone_read? hline h

theorem resume_false (text : Text) : kind.resume false text = kind.names text := by
  rw [resume]
  cases h : kind.readFrom? false text with
  | none => exact (namesFrom_of_read?_eq_none h).symm
  | some found => exact (namesFrom_of_read? h).symm

/-- A keyword that finds no name makes no difference. -/
theorem resume_true_of_nameIn?_eq_none {text : Text} (h : kind.nameIn? text = none) :
    kind.resume true text = kind.names text := by
  have hread : kind.read? text = none := by
    cases hread : kind.read? text with
    | none => rfl
    | some found =>
      obtain ⟨after, hname⟩ := nameIn?_of_read? hread
      exact absurd (h.symm.trans hname) (Option.some_ne_none _).symm
  have hreads : kind.readFrom? true text = none := h
  rw [resume, hreads, names, namesFrom_of_read?_eq_none hread]

/-- One step of the scan: a line adds its name, and the search goes on behind the line. -/
theorem resume_append_lineFeed (waiting : Bool) {line : Text} (hline : lineFeed ∉ line)
    (rest : Text) :
    kind.resume waiting (line ++ lineFeed :: rest) =
      kind.entry waiting (line ++ [lineFeed]) ++ kind.resume (kind.waits waiting line) rest := by
  cases hwaits : kind.waits waiting line with
  | true =>
    have hentry : kind.entry waiting (line ++ [lineFeed]) = [] := by
      rw [entry, readFrom?_of_waits hwaits, nameIn?_of_isBlank rfl]
      rfl
    rw [hentry, List.nil_append]
    cases hname : kind.nameIn? rest with
    | none =>
      rw [resume, readFrom?_of_waits hwaits, hname, resume_true_of_nameIn?_eq_none hname]
      exact namesFrom_append_lineFeed hline rest
    | some found =>
      have hreads : kind.readFrom? true rest = some found := hname
      rw [resume, readFrom?_of_waits hwaits, hname, resume, hreads]
  | false =>
    obtain ⟨found, hfound, hreads⟩ := readsAlone_of_waits_eq_false hline hwaits
    rw [resume, entry, hreads, hreads, resume_false]
    cases found with
    | none => exact namesFrom_append_lineFeed hline rest
    | some part =>
      exact congrArg (part.1 :: ·) (namesFrom_append_lineFeed (hfound part rfl) rest)

/-- What is left behind a name is the end of the text. -/
theorem suffix_of_readFrom? {waiting : Bool} {text name rest : Text}
    (h : kind.readFrom? waiting text = some (name, rest)) : rest <:+ text := by
  cases waiting with
  | true =>
    obtain ⟨hword, -⟩ := nameIn?_eq_some_iff.1 h
    obtain ⟨-, hdrop, -, -⟩ := Text.word?_eq_some_iff.1 hword
    exact (List.suffix_append name rest).trans (hdrop ▸ List.dropWhile_suffix _)
  | false =>
    obtain ⟨gap, after, rfl, hgap, hword, -⟩ := read?_eq_some_iff.1 h
    obtain ⟨blanks, -, rfl, -, -⟩ := Text.afterBlanks?_eq_some_iff.1 hgap
    obtain ⟨-, rfl, -, -⟩ := Text.word?_eq_some_iff.1 hword
    exact ⟨kind.keyword ++ blanks ++ name, by simp⟩

/-- The last line adds its name, and nothing follows. -/
theorem resume_of_not_mem (waiting : Bool) {line : Text} (hline : lineFeed ∉ line) :
    kind.resume waiting line = kind.entry waiting line := by
  have hnone : ∀ rest : Text, lineFeed ∉ rest → kind.namesFrom false rest = [] := by
    intro rest hrest
    induction rest with
    | nil => exact namesFrom_nil kind false
    | cons c rest ih =>
      obtain ⟨hc, hrest⟩ := List.ne_and_not_mem_of_not_mem_cons hrest
      rw [namesFrom_false_cons, beq_eq_false_iff_ne.2 (Ne.symm hc)]
      exact ih hrest
  rw [resume, entry]
  cases hread : kind.readFrom? waiting line with
  | none => exact hnone line hline
  | some found =>
    have hmem : lineFeed ∉ found.2 := fun hmem => hline ((suffix_of_readFrom? hread).subset hmem)
    exact congrArg (found.1 :: ·) (hnone found.2 hmem)

theorem resume_eq_scan (waiting : Bool) (text : Text) :
    kind.resume waiting text = kind.scan waiting text.pieces := by
  induction text using Text.line_induction generalizing waiting with
  | last line hline => rw [Text.pieces_of_not_mem hline, resume_of_not_mem waiting hline, scan]
  | more line rest hline ih =>
    obtain ⟨next, lines, hpieces⟩ :=
      List.exists_cons_of_ne_nil (show rest.pieces ≠ [] from List.splitOn_ne_nil lineFeed rest)
    rw [Text.pieces_append, Text.pieces_of_not_mem hline, hpieces, List.singleton_append, scan,
      resume_append_lineFeed waiting hline, ih, hpieces]

/-- The search over a whole text finds what a scan of its lines finds. -/
theorem names_eq_scan (kind : Declaration) (text : Text) :
    kind.names text = kind.scan false text.pieces := by
  rw [← resume_false, resume_eq_scan]

end Declaration

end FishScript
