import FishScript.Proofs.Declaration.Occurrences

/-!
# Which declarations are listed

The names of a text are those of the occurrences that the search meets: the first one, then
the first behind the place where that one stops, and so on. What is passed over can be told
without a search. An occurrence counts unless it starts where the name of a counted one
starts. There is only one way to count the occurrences of a text like that, since each
depends on earlier ones alone.

## Main definitions

- `Declaration.Searched` — the occurrences that a search meets from some place on
- `Declaration.Counted` — all occurrences but those that start at a counted name

## Main results

- `Declaration.exists_searched` — the names are those of the occurrences that a search meets
- `Declaration.Searched.counted` — a search meets the occurrences that count
- `Declaration.Counted.unique` — there is one way to count
- `Declaration.function_names`, `Declaration.variable_names` — the names of a text
-/

namespace FishScript

namespace Declaration

open Text (IsName isBlank lineFeed)

variable {kind : Declaration} {text : Text}

/-- The occurrences that a search meets from a place on. Each is the first one there is, and
the search goes on where it stops. -/
inductive Searched (kind : Declaration) (text : Text) : Nat → List Occurrence → Prop
  | done {start : Nat} (h : ∀ found, kind.OccursIn text found → found.position < start) :
    Searched kind text start []
  | next {start : Nat} {found : Occurrence} {later : List Occurrence}
    (hfound : kind.OccursIn text found) (hstart : start ≤ found.position)
    (hfirst : ∀ other, kind.OccursIn text other → start ≤ other.position →
      found.position ≤ other.position)
    (hlater : Searched kind text found.stop later) : Searched kind text start (found :: later)

/-- The occurrences from a place on that count: all of them, except for those that start
where the name of an earlier one that counts starts. -/
structure CountedFrom (kind : Declaration) (text : Text) (start : Nat)
    (counted : List Occurrence) : Prop where
  ordered : counted.Pairwise fun a b => a.position < b.position
  mem_iff : ∀ found, found ∈ counted ↔ kind.OccursIn text found ∧ start ≤ found.position ∧
    ∀ earlier ∈ counted, earlier.position < found.position → earlier.nameStart ≠ found.position

/-- The occurrences in a text that count, in order. -/
structure Counted (kind : Declaration) (text : Text) (counted : List Occurrence) : Prop where
  ordered : counted.Pairwise fun a b => a.position < b.position
  mem_iff : ∀ found, found ∈ counted ↔ kind.OccursIn text found ∧
    ∀ earlier ∈ counted, earlier.position < found.position → earlier.nameStart ≠ found.position

/-! ### The search meets occurrences -/

/-- Where no occurrence starts, a search makes no difference between places. -/
theorem Searched.move {start start' : Nat} {met : List Occurrence}
    (h : kind.Searched text start met)
    (hsame : ∀ found, kind.OccursIn text found →
      (start ≤ found.position ↔ start' ≤ found.position)) :
    kind.Searched text start' met := by
  cases h with
  | done h =>
    refine .done fun found hfound => ?_
    have := h found hfound
    have := hsame found hfound
    omega
  | next hfound hstart hfirst hlater =>
    refine .next hfound ((hsame _ hfound).1 hstart) (fun other hother hle => ?_) hlater
    exact hfirst other hother ((hsame other hother).2 hle)

/-- The names found from a place on are those of the occurrences that a search meets. -/
theorem exists_searched_append (lineStart : Bool) (before text : Text)
    (h : lineStart ↔ Text.LineStart before) :
    ∃ met, kind.Searched (before ++ text) before.length met ∧
      kind.namesFrom lineStart text = met.map Occurrence.name := by
  induction lineStart, text using search_induction kind generalizing before with
  | nil lineStart =>
    refine ⟨[], .done fun found hfound => ?_, namesFrom_nil kind lineStart⟩
    have hposition := hfound.position_lt_nameStart
    have hstop := hfound.nameStart_lt_stop
    have hlength := hfound.stop_le_length
    rw [List.append_nil] at hlength
    omega
  | read text name rest hread ih =>
    obtain ⟨gap, found, htext, hfound, hposition, hname, rfl⟩ :=
      exists_occursIn_of_read? (h.1 rfl) hread
    have hisName := hfound.isName
    -- the search of the names goes on behind the name, where no line starts
    obtain ⟨met, hmet, hnames⟩ := ih (before ++ kind.keyword ++ gap ++ found.name)
      (iff_of_false Bool.false_ne_true
        (Text.not_lineStart_append hisName.1 hisName.lineFeed_not_mem _))
    have hwhole : before ++ kind.keyword ++ gap ++ found.name ++ rest = before ++ text := by
      rw [htext]
      simp
    rw [hwhole] at hmet
    have hnameEnd : (before ++ kind.keyword ++ gap ++ found.name).length =
        found.nameStart + found.name.length := by
      simp only [List.length_append, hname]
    rw [hnameEnd] at hmet
    refine ⟨found :: met, .next hfound hposition.ge (fun other _ hle => hposition ▸ hle)
      (hmet.move fun other hother => ?_), ?_⟩
    · have hbefore := hfound.position_lt_nameStart
      have hlength := List.length_pos_iff.2 hisName.1
      have hstop := hfound.nameEnd_le_stop
      constructor
      · intro hle
        have := hfound.eq_nameStart_or_stop_le hother (by omega)
        omega
      · intro hle
        omega
    · rw [namesFrom_of_read? hread, hnames, List.map_cons]
  | pass lineStart c text hread ih =>
    have hnext : (c == lineFeed) ↔ Text.LineStart (before ++ [c]) := by
      rw [Text.lineStart_concat_iff, beq_iff_eq]
    obtain ⟨met, hmet, hnames⟩ := ih (before ++ [c]) hnext
    have hwhole : before ++ [c] ++ text = before ++ c :: text := by simp
    rw [hwhole, List.length_append, List.length_singleton] at hmet
    refine ⟨met, hmet.move fun found hfound => ?_, ?_⟩
    · -- what starts here would have been read
      have hne : found.position ≠ before.length := by
        intro heq
        obtain ⟨hstart, rest, hreads⟩ := hfound.exists_read? heq
        rw [hread (h.2 hstart)] at hreads
        cases hreads
      omega
    · rw [namesFrom_cons hread, hnames]

/-- The names of a text are those of the occurrences that a search meets. -/
theorem exists_searched (kind : Declaration) (text : Text) :
    ∃ met, kind.Searched text 0 met ∧ kind.names text = met.map Occurrence.name :=
  exists_searched_append true [] text (iff_of_true rfl (Or.inl rfl))

/-! ### What counts -/

/-- A search meets what counts. -/
theorem Searched.countedFrom {start : Nat} {met : List Occurrence}
    (h : kind.Searched text start met) : kind.CountedFrom text start met := by
  induction h with
  | @done start h =>
    refine ⟨List.Pairwise.nil, fun found => iff_of_false List.not_mem_nil ?_⟩
    rintro ⟨hfound, hle, -⟩
    exact Nat.not_le_of_lt (h found hfound) hle
  | @next start first later hfirst hstart hleast _ ih =>
    have hposition := hfirst.position_lt_nameStart
    have hstop := hfirst.nameStart_lt_stop
    have hbehind : ∀ found ∈ later, first.stop ≤ found.position :=
      fun found hfound => ((ih.mem_iff found).1 hfound).2.1
    refine ⟨List.pairwise_cons.2 ⟨fun found hfound => ?_, ih.ordered⟩, fun found => ?_⟩
    · have := hbehind found hfound
      omega
    rw [List.mem_cons]
    constructor
    · rintro (rfl | hfound)
      · refine ⟨hfirst, hstart, List.forall_mem_cons.2 ⟨fun hlt => by omega, ?_⟩⟩
        intro earlier hearlier hlt
        have := hbehind earlier hearlier
        omega
      · obtain ⟨hoccurs, hle, hearlier⟩ := (ih.mem_iff found).1 hfound
        exact ⟨hoccurs, by omega, List.forall_mem_cons.2 ⟨fun _ => by omega, hearlier⟩⟩
    · rintro ⟨hoccurs, hle, hearlier⟩
      obtain ⟨hname, hearlier⟩ := List.forall_mem_cons.1 hearlier
      obtain heq | hlt := Nat.eq_or_lt_of_le (hleast found hoccurs hle)
      · exact Or.inl (hoccurs.unique hfirst heq.symm)
      · -- not at the name of the first, hence behind it
        refine Or.inr ((ih.mem_iff found).2 ⟨hoccurs, ?_, hearlier⟩)
        obtain hat | hbehind := hfirst.eq_nameStart_or_stop_le hoccurs hlt
        · exact absurd hat.symm (hname hlt)
        · exact hbehind

theorem Searched.counted {met : List Occurrence} (h : kind.Searched text 0 met) :
    kind.Counted text met := by
  refine ⟨h.countedFrom.ordered, fun found => ?_⟩
  rw [h.countedFrom.mem_iff found]
  simp

/-- There is only one way to count. -/
theorem Counted.unique {a b : List Occurrence} (ha : kind.Counted text a)
    (hb : kind.Counted text b) : a = b := by
  have hmem : ∀ n found, found.position = n → (found ∈ a ↔ found ∈ b) := by
    intro n
    induction n using Nat.strongRecOn with
    | _ n ih =>
      intro found hn
      rw [ha.mem_iff, hb.mem_iff]
      -- what is earlier counts in both
      refine and_congr_right fun _ => ?_
      constructor
      · intro h earlier hearlier hlt
        exact h earlier ((ih _ (hn ▸ hlt) earlier rfl).2 hearlier) hlt
      · intro h earlier hearlier hlt
        exact h earlier ((ih _ (hn ▸ hlt) earlier rfl).1 hearlier) hlt
  have hperm : a.Perm b := by
    refine (List.perm_ext_iff_of_nodup ?_ ?_).2 fun found => hmem _ found rfl
    · exact ha.ordered.imp fun hlt heq => Nat.ne_of_lt hlt (congrArg Occurrence.position heq)
    · exact hb.ordered.imp fun hlt heq => Nat.ne_of_lt hlt (congrArg Occurrence.position heq)
  refine hperm.eq_of_pairwise (fun x y _ _ hxy hyx => ?_) ha.ordered hb.ordered
  exact absurd (Nat.lt_trans hxy hyx) (Nat.lt_irrefl _)

/-! ### The names of a text -/

/-- The names of the functions of a text are those of its occurrences, in order, without the
occurrences that start at the name of an earlier one that is listed. They are the ones that a
search meets which goes on behind each name. -/
theorem function_names (text : Text) :
    ∃ counted : List Occurrence, Declaration.function.Counted text counted ∧
      (∀ other, Declaration.function.Counted text other → other = counted) ∧
      Declaration.function.Searched text 0 counted ∧
      Declaration.function.names text = counted.map Occurrence.name := by
  obtain ⟨counted, hsearched, hnames⟩ := exists_searched .function text
  exact ⟨counted, hsearched.counted, fun _ hother => hother.unique hsearched.counted, hsearched,
    hnames⟩

/-- In a chain of keywords each second one is a name, and the others are listed with it. -/
example :
    Declaration.function.names (Text.ofString "function\nfunction\nfunction foo-bar") =
      [Text.ofString "function", Text.ofString "foo"] := by
  decide +kernel

/-- The names of the variables of a text are those of its occurrences, in order, without the
occurrences that start at the name of an earlier one that is listed. They are the ones that a
search meets which goes on behind the blanks that follow each name. No occurrence starts
among these blanks, so none is lost there, and a name that ends the text is no occurrence. -/
theorem variable_names (text : Text) :
    ∃ counted : List Occurrence, Declaration.variable.Counted text counted ∧
      (∀ other, Declaration.variable.Counted text other → other = counted) ∧
      Declaration.variable.Searched text 0 counted ∧
      Declaration.variable.names text = counted.map Occurrence.name ∧
      (∀ found ∈ counted, ∀ other, Declaration.variable.OccursIn text other →
        found.nameStart + found.name.length ≤ other.position → found.stop ≤ other.position) ∧
      ∀ found ∈ counted, found.nameStart + found.name.length < text.length := by
  obtain ⟨counted, hsearched, hnames⟩ := exists_searched .variable text
  have hcounted := hsearched.counted
  refine ⟨counted, hcounted, fun _ hother => hother.unique hcounted, hsearched, hnames, ?_, ?_⟩
  · intro found hfound other hother hle
    have hoccurs := ((hcounted.mem_iff found).1 hfound).1
    have hbefore := hoccurs.position_lt_nameStart
    have hlength := List.length_pos_iff.2 hoccurs.isName.1
    have hplace := hoccurs.eq_nameStart_or_stop_le hother (by omega)
    omega
  · intro found hfound
    exact ((hcounted.mem_iff found).1 hfound).1.nameEnd_lt_length

end Declaration

end FishScript
