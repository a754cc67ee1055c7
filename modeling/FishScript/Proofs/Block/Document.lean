import FishScript.Proofs.Block.Scan
import Mathlib.Computability.Language

/-!
# Function blocks in a document

The scan for a function block sees lines. Here it is compared with two ways to say on the
whole text, without lines, that it holds a block: one spells the block out, and one is a
regular language whose members are searched for between line boundaries.

## Main definitions

- `Block.WrittenIn` — a text in which a block is spelled out
- `Block.pattern` — the texts of blocks, as a regular language
- `Block.MatchedIn` — a text in which a member of the language fills whole lines

## Main results

- `Block.hasBlock_pieces_iff` — a block among the pieces of a text is one in the text
- `Block.occursIn_document_iff` — the scan agrees with both readings, on every text
-/

namespace FishScript

namespace Block

open Text (IsName LineStart LineEnd lineFeed isBlank joined led ended)
open scoped Computability

/-- A block is spelled out in a text: at the start of a line the keyword, a gap and a name,
then blanks up to the end of a line, and on a later line the closing word with blanks up to
the end of a line. Gap and blanks may cross lines, and any lines may stand between. -/
def WrittenIn (text : Text) : Prop :=
  ∃ pre gap name trail mid tail post : Text,
    text = pre ++ Keyword.function ++ gap ++ name ++ trail ++ mid ++
      (lineFeed :: Keyword.blockEnd) ++ tail ++ post ∧
    LineStart pre ∧ (gap ≠ [] ∧ isBlank gap) ∧ IsName name ∧ isBlank trail ∧ LineEnd mid ∧
      isBlank tail ∧ LineEnd post

/-- The texts of one code point out of a class. -/
def letter (p : CodePoint → Bool) : Language CodePoint :=
  {text | ∃ c, text = [c] ∧ p c}

/-- The texts of function blocks: the keyword, blanks, a name, blanks; any number of line
feeds, each followed by the rest of its line; a line feed, the closing word, blanks. -/
def pattern : Language CodePoint :=
  {Keyword.function} * (letter CodePoint.isBlank * (letter CodePoint.isBlank)∗) *
    (letter CodePoint.isWord * (letter CodePoint.isWord)∗) * (letter CodePoint.isBlank)∗ *
    ({[lineFeed]} * (letter (· != lineFeed))∗)∗ * {lineFeed :: Keyword.blockEnd} *
    (letter CodePoint.isBlank)∗

/-- A member of the language starts where a line starts and ends where a line ends. -/
def MatchedIn (text : Text) : Prop :=
  ∃ pre body post : Text, text = pre ++ body ++ post ∧ LineStart pre ∧ body ∈ pattern ∧
    LineEnd post

/-! ### Headings on the text -/

/-- The lines of a heading make up one text with the body of a header in front. -/
theorem Heading.trailed_joined {heading : List Text} (h : Heading heading) :
    Trailed HeaderBody (joined heading) := by
  obtain ⟨header, rfl, hheader⟩ | ⟨bare, blanks, line, rfl, hbare, hblanks, hline⟩ := h
  · rw [Text.joined_singleton]
    exact isHeader_iff.1 hheader
  · obtain ⟨_, gap, rfl, rfl, hgap⟩ := isBareKeyword_iff.1 hbare
    obtain ⟨_, trail, rfl, ⟨lead, name, rfl, hlead, hname⟩, htrail⟩ := isName_iff.1 hline
    refine ⟨Keyword.function ++ ((gap ++ lineFeed :: (ended blanks ++ lead)) ++ name), trail,
      ?_, ⟨_, name, rfl, by simp, ?_, hname⟩, htrail⟩
    · rw [← List.singleton_append, Text.joined_append (List.cons_ne_nil _ []) (by simp),
        Text.joined_singleton, Text.joined_append_left blanks (List.cons_ne_nil _ []),
        Text.joined_singleton]
      simp
    · have hended : isBlank (ended blanks) := Text.isBlank_ended hblanks
      refine (Text.isBlank_append_lineFeed gap (ended blanks ++ lead)).2 ⟨hgap, ?_⟩
      rw [Text.isBlank_append, hended, hlead, Bool.true_and]

/-- The body of a header with blanks on its last line is cut into the lines of a heading. -/
theorem heading_pieces {gap name trail : Text} (hgap : gap ≠ []) (hblank : isBlank gap)
    (hname : IsName name) (htrail : isBlank trail) (hline : lineFeed ∉ trail) :
    Heading (Text.pieces (Keyword.function ++ (gap ++ (name ++ trail)))) := by
  have hrest : lineFeed ∉ name ++ trail := by
    rw [List.mem_append]
    exact fun h => h.elim hname.lineFeed_not_mem hline
  have hkeyword : lineFeed ∉ Keyword.function := isName_function.lineFeed_not_mem
  by_cases hmem : lineFeed ∈ gap
  · -- the keyword stands alone on its line
    right
    obtain ⟨first, later, rfl, hfirst⟩ := List.eq_append_cons_of_mem hmem
    obtain ⟨hbare, hlater⟩ := (Text.isBlank_append_lineFeed first later).1 hblank
    obtain ⟨blanks, lead, heq, hblanks, hlead⟩ := Text.exists_blank_pieces hlater hrest
    refine ⟨Keyword.function ++ first, blanks, lead ++ (name ++ trail), ?_, ?_, hblanks, ?_⟩
    · have hsplit : Keyword.function ++ (first ++ lineFeed :: later ++ (name ++ trail)) =
          (Keyword.function ++ first) ++ lineFeed :: (later ++ (name ++ trail)) := by simp
      rw [hsplit, Text.pieces_append, heq, Text.pieces_of_not_mem (by simp [hkeyword, hfirst])]
      rfl
    · exact isBareKeyword_iff.2 ⟨_, first, rfl, rfl, hbare⟩
    · exact isName_iff.2 ⟨lead ++ name, trail, by simp, ⟨lead, name, rfl, hlead, hname⟩, htrail⟩
  · left
    refine ⟨Keyword.function ++ (gap ++ (name ++ trail)), Text.pieces_of_not_mem ?_, ?_⟩
    · rw [List.mem_append, List.mem_append]
      exact fun h => h.elim hkeyword fun h => h.elim hmem hrest
    · exact isHeader_iff.2 ⟨Keyword.function ++ (gap ++ name), trail, by simp,
        ⟨gap, name, rfl, hgap, hblank, hname⟩, htrail⟩

/-! ### Blocks on the text -/

/-- A block among the pieces of a text is a block that the text spells out. -/
theorem writtenIn_of_hasBlock_pieces {text : Text} (h : HasBlock text.pieces) :
    WrittenIn text := by
  obtain ⟨before, heading, rest, heq, hheading, line, hmem, hend⟩ := h
  obtain ⟨between, back, rfl⟩ := List.append_of_mem hmem
  obtain ⟨_, trail, hjoined, ⟨gap, name, rfl, hgap, hblank, hname⟩, htrail⟩ :=
    hheading.trailed_joined
  obtain ⟨_, tail, rfl, rfl, htail⟩ := isEnd_iff.1 hend
  have hne : heading ≠ [] := by
    rintro rfl
    simp [Heading] at hheading
  refine ⟨ended before, gap, name, trail, led between, tail, led back, ?_,
    Text.lineStart_ended before, ⟨hgap, hblank⟩, hname, htrail, Text.lineEnd_led between, htail,
    Text.lineEnd_led back⟩
  calc text
      = joined text.pieces := (Text.joined_pieces text).symm
    _ = joined (before ++ ((heading ++ between) ++ ((Keyword.blockEnd ++ tail) :: back))) := by
        rw [heq, List.append_assoc]
    _ = ended before ++ (joined heading ++ led between ++
          lineFeed :: (Keyword.blockEnd ++ tail ++ led back)) := by
        rw [Text.joined_append_left before (by simp), Text.joined_append (by simp [hne]) (by simp),
          Text.joined_append_right hne, Text.joined_cons]
    _ = _ := by
        rw [hjoined]
        simp

/-- A block that a text spells out is a block among its pieces. -/
theorem hasBlock_pieces_of_writtenIn {text : Text} (h : WrittenIn text) :
    HasBlock text.pieces := by
  obtain ⟨pre, gap, name, trail, mid, tail, post, rfl, hpre, ⟨hgap, hblank⟩, hname, htrail, hmid,
    htail, hpost⟩ := h
  -- both runs of blanks before the end of a line may be taken to stay on one line
  obtain ⟨trail', mid', htrailMid, htrail', hline, hmid'⟩ := Text.exists_blank_lineEnd htrail hmid
  obtain ⟨tail', post', htailPost, htail', htailLine, hpost'⟩ :=
    Text.exists_blank_lineEnd htail hpost
  obtain ⟨before, hbefore⟩ := hpre.pieces
  obtain ⟨between, hbetween⟩ := hmid'.pieces
  obtain ⟨back, hback⟩ := hpost'.pieces
  have hend : lineFeed ∉ Keyword.blockEnd ++ tail' := by
    simp [isName_blockEnd.lineFeed_not_mem, htailLine]
  refine ⟨before, Text.pieces (Keyword.function ++ (gap ++ (name ++ trail'))),
    between ++ ((Keyword.blockEnd ++ tail') :: back), ?_,
    heading_pieces hgap hblank hname htrail' hline, Keyword.blockEnd ++ tail', by simp,
    isEnd_iff.2 ⟨_, tail', rfl, rfl, htail'⟩⟩
  have hsplit : pre ++ Keyword.function ++ gap ++ name ++ trail ++ mid ++
        (lineFeed :: Keyword.blockEnd) ++ tail ++ post =
      pre ++ ((Keyword.function ++ (gap ++ (name ++ trail'))) ++ mid' ++
        lineFeed :: (Keyword.blockEnd ++ tail' ++ post')) := by
    calc pre ++ Keyword.function ++ gap ++ name ++ trail ++ mid ++
          (lineFeed :: Keyword.blockEnd) ++ tail ++ post
        = pre ++ (Keyword.function ++ (gap ++ (name ++ (trail ++ mid ++
            lineFeed :: (Keyword.blockEnd ++ (tail ++ post)))))) := by simp
      _ = _ := by
        rw [htrailMid, htailPost]
        simp
  rw [hsplit, hbefore, Text.pieces_append, hbetween, hback, Text.pieces_of_not_mem hend]
  simp

theorem hasBlock_pieces_iff (text : Text) : HasBlock text.pieces ↔ WrittenIn text :=
  ⟨writtenIn_of_hasBlock_pieces, hasBlock_pieces_of_writtenIn⟩

/-! ### Blocks as a regular language -/

theorem mem_kstar_letter {p : CodePoint → Bool} {text : Text} :
    text ∈ (letter p)∗ ↔ ∀ c ∈ text, p c := by
  rw [Language.mem_kstar]
  constructor
  · rintro ⟨parts, rfl, hparts⟩ c hc
    obtain ⟨part, hpart, hcpart⟩ := List.mem_flatten.1 hc
    obtain ⟨d, rfl, hd⟩ := hparts part hpart
    rw [List.mem_singleton.1 hcpart]
    exact hd
  · intro h
    refine ⟨text.map fun c => [c], ?_, ?_⟩
    · rw [← List.flatMap_def, List.flatMap_singleton']
    · intro part hpart
      obtain ⟨c, hc, rfl⟩ := List.mem_map.1 hpart
      exact ⟨c, rfl, h c hc⟩

theorem mem_letter_mul_kstar {p : CodePoint → Bool} {text : Text} :
    text ∈ letter p * (letter p)∗ ↔ text ≠ [] ∧ ∀ c ∈ text, p c := by
  simp only [Language.mem_mul, mem_kstar_letter]
  constructor
  · rintro ⟨_, ⟨c, rfl, hc⟩, rest, hrest, rfl⟩
    exact ⟨List.cons_ne_nil c rest, List.forall_mem_cons.2 ⟨hc, hrest⟩⟩
  · rintro ⟨hne, h⟩
    obtain ⟨c, rest, rfl⟩ := List.exists_cons_of_ne_nil hne
    obtain ⟨hc, hrest⟩ := List.forall_mem_cons.1 h
    exact ⟨[c], ⟨c, rfl, hc⟩, rest, hrest, rfl⟩

/-- Line feeds with the rest of a line behind each are what starts at the end of a line. -/
theorem mem_kstar_lines {text : Text} :
    text ∈ (({[lineFeed]} : Language CodePoint) * (letter (· != lineFeed))∗)∗ ↔ LineEnd text := by
  rw [Language.mem_kstar]
  constructor
  · rintro ⟨parts, rfl, hparts⟩
    cases parts with
    | nil => exact Or.inl rfl
    | cons part parts =>
      obtain ⟨_, rfl, line, -, rfl⟩ := Language.mem_mul.1 (hparts part List.mem_cons_self)
      exact Or.inr ⟨line ++ parts.flatten, by simp⟩
  · rintro (rfl | ⟨rest, rfl⟩)
    · exact ⟨[], rfl, by simp⟩
    · refine ⟨rest.pieces.map (lineFeed :: ·), ?_, ?_⟩
      · rw [← Text.led_pieces rest, led, List.flatMap_def]
      · intro part hpart
        obtain ⟨line, hline, rfl⟩ := List.mem_map.1 hpart
        refine Language.mem_mul.2 ⟨[lineFeed], rfl, line, mem_kstar_letter.2 fun c hc => ?_, rfl⟩
        have hne : c ≠ lineFeed := fun h => Text.lineFeed_not_mem_of_mem_pieces hline (h ▸ hc)
        exact bne_iff_ne.2 hne

theorem mem_pattern_iff {body : Text} :
    body ∈ pattern ↔
      ∃ gap name trail mid tail : Text,
        body = Keyword.function ++ gap ++ name ++ trail ++ mid ++
          (lineFeed :: Keyword.blockEnd) ++ tail ∧
        (gap ≠ [] ∧ isBlank gap) ∧ IsName name ∧ isBlank trail ∧ LineEnd mid ∧ isBlank tail := by
  simp only [Text.isBlank_iff, IsName]
  constructor
  · intro h
    obtain ⟨_, h₁, tail, htail, rfl⟩ := Language.mem_mul.1 h
    obtain ⟨_, h₂, _, rfl, rfl⟩ := Language.mem_mul.1 h₁
    obtain ⟨_, h₃, mid, hmid, rfl⟩ := Language.mem_mul.1 h₂
    obtain ⟨_, h₄, trail, htrail, rfl⟩ := Language.mem_mul.1 h₃
    obtain ⟨_, h₅, name, hname, rfl⟩ := Language.mem_mul.1 h₄
    obtain ⟨_, rfl, gap, hgap, rfl⟩ := Language.mem_mul.1 h₅
    exact ⟨gap, name, trail, mid, tail, rfl, mem_letter_mul_kstar.1 hgap,
      mem_letter_mul_kstar.1 hname, mem_kstar_letter.1 htrail, mem_kstar_lines.1 hmid,
      mem_kstar_letter.1 htail⟩
  · rintro ⟨gap, name, trail, mid, tail, rfl, hgap, hname, htrail, hmid, htail⟩
    have hkeyword : Keyword.function ∈ ({Keyword.function} : Language CodePoint) := rfl
    have hclose : lineFeed :: Keyword.blockEnd ∈
        ({lineFeed :: Keyword.blockEnd} : Language CodePoint) := rfl
    apply Language.append_mem_mul _ (mem_kstar_letter.2 htail)
    apply Language.append_mem_mul _ hclose
    apply Language.append_mem_mul _ (mem_kstar_lines.2 hmid)
    apply Language.append_mem_mul _ (mem_kstar_letter.2 htrail)
    apply Language.append_mem_mul _ (mem_letter_mul_kstar.2 hname)
    exact Language.append_mem_mul hkeyword (mem_letter_mul_kstar.2 hgap)

theorem matchedIn_iff_writtenIn (text : Text) : MatchedIn text ↔ WrittenIn text := by
  constructor
  · rintro ⟨pre, body, post, rfl, hpre, hbody, hpost⟩
    obtain ⟨gap, name, trail, mid, tail, rfl, hgap, hname, htrail, hmid, htail⟩ :=
      mem_pattern_iff.1 hbody
    exact ⟨pre, gap, name, trail, mid, tail, post, by simp, hpre, hgap, hname, htrail, hmid,
      htail, hpost⟩
  · rintro ⟨pre, gap, name, trail, mid, tail, post, rfl, hpre, hgap, hname, htrail, hmid, htail,
      hpost⟩
    refine ⟨pre, _, post, ?_, hpre, mem_pattern_iff.2 ⟨gap, name, trail, mid, tail, rfl, hgap,
      hname, htrail, hmid, htail⟩, hpost⟩
    simp

/-- The scan for a function block accepts a document exactly when the document spells one
out, which is to say when a search for the regular language of blocks finds a member that
fills whole lines. The carriage returns that lines lose before the scan play no part. -/
theorem occursIn_document_iff (text : Text) :
    (occursIn text.lines ↔
      ∃ pre gap name trail mid tail post : Text,
        text = pre ++ Keyword.function ++ gap ++ name ++ trail ++ mid ++
          (lineFeed :: Keyword.blockEnd) ++ tail ++ post ∧
        LineStart pre ∧ (gap ≠ [] ∧ isBlank gap) ∧ (name ≠ [] ∧ ∀ c ∈ name, c.isWord) ∧
          isBlank trail ∧ LineEnd mid ∧ isBlank tail ∧ LineEnd post) ∧
    (occursIn text.lines ↔ MatchedIn text) := by
  have hscan : occursIn text.lines ↔ WrittenIn text := by
    rw [occursIn_lines, occursIn_iff_hasBlock, hasBlock_pieces_iff]
  exact ⟨hscan, hscan.trans (matchedIn_iff_writtenIn text).symm⟩

/-- The gap behind the keyword may cross lines, and names may be keywords. -/
example : occursIn (Text.ofString "function\n \n end\nend \n").lines := by
  decide +kernel

end Block

end FishScript
