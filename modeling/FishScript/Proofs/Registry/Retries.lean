import FishScript.Proofs.Registry.Attempts
import Mathlib.Data.List.Range
import Mathlib.Logic.Function.Iterate

/-!
# Attempts that are repeated

An attempt that is refused leaves the hooks of the capabilities that it got past, and the next
attempt starts from the front again. So until one goes through, a capability is hooked as often
as those behind it refuse, and the attempt that goes through hooks it once more.

## Main definitions

- `Registry.hooked` — the hooks that several attempts add
- `Registry.repeated` — those that the refused attempts add, by capability

## Main results

- `Registry.hooked_perm` — how often the refused attempts hook each capability
- `Registry.forall_hooked_sublist_iff` — when nothing is hooked twice
- `Assembly.after_replicate_registerAll` — an assembly after several attempts
- `Assembly.hooked_once_iff` — all of this in one
-/

namespace FishScript

namespace Registry

/-- The hooks that the first `n` attempts add. -/
def hooked (entries : List (String × Capability)) (n : Nat) : List Hook :=
  (List.range n).flatMap fun k => hooks (accepted (worn^[k] entries))

/-- The hooks of the capabilities that analyze, each as often as refusals are to come behind it. -/
def repeated : List (String × Capability) → List Hook
  | [] => []
  | (_, capability) :: rest =>
    (List.replicate (refusals rest) capability.hook?.toList).flatten ++ repeated rest

variable {entries : List (String × Capability)}

theorem refusals_iterate_worn (entries : List (String × Capability)) (n : Nat) :
    refusals (worn^[n] entries) = refusals entries - n := by
  induction n with
  | zero => rfl
  | succ n ih => rw [Function.iterate_succ_apply', refusals_worn, ih, Nat.sub_sub]

theorem hooks_iterate_worn (entries : List (String × Capability)) (n : Nat) :
    hooks (worn^[n] entries) = hooks entries := by
  induction n with
  | zero => rfl
  | succ n ih => rw [Function.iterate_succ_apply', hooks_worn, ih]

theorem hooked_one (entries : List (String × Capability)) :
    hooked entries 1 = hooks (accepted entries) :=
  List.append_nil _

theorem hooked_add (entries : List (String × Capability)) (m n : Nat) :
    hooked entries (m + n) = hooked entries m ++ hooked (worn^[m] entries) n := by
  simp only [hooked, List.range_add, List.flatMap_append, List.flatMap_map,
    ← Function.iterate_add_apply, Nat.add_comm]

/-- The attempt that goes through adds the hooks of all capabilities that analyze. -/
theorem hooked_refusals_add_one (entries : List (String × Capability)) :
    hooked entries (refusals entries + 1) = hooked entries (refusals entries) ++ hooks entries := by
  rw [hooked_add, hooked_one, accepted_of_refusals_eq_zero, hooks_iterate_worn]
  rw [refusals_iterate_worn, Nat.sub_self]

/-- An attempt that is refused hooks what it gets past once more. -/
theorem repeated_perm (h : 0 < refusals entries) :
    (repeated entries).Perm (hooks (accepted entries) ++ repeated (worn entries)) := by
  induction entries with
  | nil => exact absurd h (Nat.lt_irrefl 0)
  | cons entry rest ih =>
    obtain ⟨key, capability⟩ := entry
    by_cases hzero : capability.refusals = 0
    · have hrest : 0 < refusals rest := by rwa [refusals, hzero, Nat.zero_add] at h
      obtain ⟨r, hr⟩ := Nat.exists_eq_add_one.2 hrest
      have hworn : refusals (worn rest) = r := by rw [refusals_worn, hr, Nat.add_sub_cancel]
      have haccepted : accepted ((key, capability) :: rest) = (key, capability) :: accepted rest :=
        List.takeWhile_cons_of_pos (beq_iff_eq.2 hzero)
      rw [worn, if_pos hzero, haccepted, hooks_cons, repeated, repeated, hr, hworn,
        List.replicate_succ, List.flatten_cons, List.append_assoc, List.append_assoc]
      exact (((ih hrest).append_left _).trans (List.perm_append_comm_assoc ..)).append_left _
    · have haccepted : accepted ((key, capability) :: rest) = [] :=
        List.takeWhile_cons_of_neg (by simpa using hzero)
      rw [worn, if_neg hzero, haccepted, repeated, repeated, Capability.hook?_worn]
      exact List.Perm.refl _

/-- Nothing is hooked twice if no refusal is to come behind a capability that analyzes. -/
theorem repeated_eq_nil_iff :
    repeated entries = [] ↔ entries.Pairwise fun a b => a.2.hook?.isSome → b.2.refusals = 0 := by
  induction entries with
  | nil => simp [repeated]
  | cons entry rest ih =>
    obtain ⟨key, capability⟩ := entry
    rw [repeated, List.append_eq_nil_iff, ih, List.pairwise_cons]
    refine and_congr_left' ?_
    cases hhook : capability.hook? with
    | none => simp
    | some hook => simpa using refusals_eq_zero_iff

/-- As long as attempts are refused, each capability that analyzes is hooked as often as a
capability behind it refuses. -/
theorem hooked_perm (entries : List (String × Capability)) :
    (hooked entries (refusals entries)).Perm (repeated entries) := by
  generalize hn : refusals entries = n
  induction n generalizing entries with
  | zero =>
    have hnone : repeated entries = [] :=
      repeated_eq_nil_iff.2 (List.pairwise_of_forall_mem_list fun _ _ b hb _ =>
        refusals_eq_zero_iff.1 hn b hb)
    rw [hnone]
    exact List.Perm.refl _
  | succ n ih =>
    have hworn : refusals (worn entries) = n := by rw [refusals_worn, hn, Nat.add_sub_cancel]
    have hrefused : 0 < refusals entries := hn ▸ Nat.succ_pos n
    rw [Nat.add_comm, hooked_add, hooked_one]
    exact ((ih (worn entries) hworn).append_left _).trans (repeated_perm hrefused).symm

theorem hooked_mono (entries : List (String × Capability)) {m n : Nat} (h : m ≤ n) :
    (hooked entries m).IsPrefix (hooked entries n) := by
  rw [← Nat.add_sub_cancel' h, hooked_add]
  exact List.prefix_append _ _

/-- The attempt that goes through is the first to hook anything if no refusal is to come behind a
capability that analyzes. -/
theorem hooked_refusals_add_one_sublist_iff :
    (hooked entries (refusals entries + 1)).Sublist (hooks entries) ↔
      entries.Pairwise fun a b => a.2.hook?.isSome → b.2.refusals = 0 := by
  have hperm := hooked_perm entries
  rw [hooked_refusals_add_one, ← repeated_eq_nil_iff]
  constructor
  · intro h
    have hlength := h.length_le
    rw [List.length_append, hperm.length_eq] at hlength
    exact List.eq_nil_of_length_eq_zero (by omega)
  · intro h
    rw [h] at hperm
    rw [hperm.eq_nil]
    exact List.Sublist.refl _

/-- If nothing is hooked twice in the end, nothing is hooked twice on the way. -/
theorem forall_hooked_sublist_iff :
    (∀ n, (hooked entries (min n (refusals entries + 1))).Sublist (hooks entries)) ↔
      entries.Pairwise fun a b => a.2.hook?.isSome → b.2.refusals = 0 := by
  rw [← hooked_refusals_add_one_sublist_iff]
  constructor
  · intro h
    simpa using h (refusals entries + 1)
  · intro h n
    exact (hooked_mono entries (Nat.min_le_right ..)).sublist.trans h

end Registry

namespace Assembly

open Registry (refusals worn hooked)

/-- Attempts add hooks up to the one that goes through. -/
theorem after_replicate_registerAll (symbols : Symbols) (hooks : List Hook)
    (entries : List (String × Capability)) (n : Nat) :
    (Assembly.mk symbols (some hooks) ⟨entries, false⟩).after (List.replicate n .registerAll) =
      ⟨symbols, some (hooks ++ hooked entries (min n (refusals entries + 1))),
        ⟨worn^[n] entries, decide (refusals entries < n)⟩⟩ := by
  induction n generalizing hooks entries with
  | zero => simp [after, hooked]
  | succ n ih =>
    rw [List.replicate_succ, after_cons, step_registerAll]
    cases hrefusals : refusals entries with
    | zero =>
      rw [Nat.min_eq_right (Nat.le_add_left 1 n), Registry.hooked_one]
      refine (after_registered ..).trans ?_
      have hworn : worn entries = entries := Registry.worn_of_refusals_eq_zero hrefusals
      rw [Function.iterate_fixed hworn, hworn]
      simp
    | succ r =>
      refine (ih _ (worn entries)).trans ?_
      rw [Registry.refusals_worn, hrefusals, Nat.add_sub_cancel, Nat.add_min_add_right,
        Nat.add_comm (min n _), Registry.hooked_add, Registry.hooked_one, List.append_assoc]
      simp

/-- An attempt after others is refused as long as there are refusals to come. -/
theorem reply_after_replicate (symbols : Symbols) (hooks : List Hook)
    (entries : List (String × Capability)) (n : Nat) :
    (((Assembly.mk symbols (some hooks) ⟨entries, false⟩).after
        (List.replicate n .registerAll)).step .registerAll).reply =
      ((Registry.refusing? (worn^[n] entries)).map (Reply.failure ·.2.refusal)).getD .nothing := by
  rw [after_replicate_registerAll]
  by_cases h : refusals entries < n
  · have hnone : Registry.refusing? (worn^[n] entries) = none := by
      rw [Registry.refusing?_eq_none_iff, Registry.refusals_iterate_worn]
      exact Nat.sub_eq_zero_of_le (Nat.le_of_lt h)
    rw [decide_eq_true h, step_registered, hnone]
    rfl
  · rw [decide_eq_false h, step_registerAll]

/-- Registration may be tried until it goes through, which it does as soon as there are no
refusals left. Each attempt before adds the hooks of all capabilities in front of the one that
refuses. In the end each capability that analyzes has been hooked once for every refusal behind
it, and then once more, in order. So nothing is hooked twice if and only if no capability behind
one that analyzes refuses. -/
theorem hooked_once_iff (symbols : Symbols) (hooks : List Hook)
    (entries : List (String × Capability)) :
    let refusals := Registry.refusals entries
    let after (n : Nat) := (Assembly.mk symbols (some hooks) ⟨entries, false⟩).after
      (List.replicate n .registerAll)
    (∀ n, ((after n).step .registerAll).reply = .nothing ↔ refusals ≤ n) ∧
    (∀ n, (after n).sync = some (hooks ++ hooked entries (min n (refusals + 1)))) ∧
    (∃ early, early.Perm (Registry.repeated entries) ∧
      ∀ m, (after (refusals + 1 + m)).sync =
        some (hooks ++ (early ++ Registry.hooks entries))) ∧
    ((∀ n, ∃ added, (after n).sync = some (hooks ++ added) ∧
      added.Sublist (Registry.hooks entries)) ↔
        entries.Pairwise fun a b => a.2.hook?.isSome → b.2.refusals = 0) := by
  intro refusals after
  have hsync : ∀ n, (after n).sync = some (hooks ++ hooked entries (min n (refusals + 1))) :=
    fun n => congrArg Assembly.sync (after_replicate_registerAll symbols hooks entries n)
  refine ⟨fun n => ?_, hsync, ⟨hooked entries refusals, Registry.hooked_perm entries, fun m => ?_⟩,
    ?_⟩
  · rw [← Nat.sub_eq_zero_iff_le, ← Registry.refusals_iterate_worn, ← Registry.refusing?_eq_none_iff,
      reply_after_replicate]
    cases Registry.refusing? (worn^[n] entries) <;> simp
  · rw [hsync, Nat.min_eq_right (Nat.le_add_right ..), Registry.hooked_refusals_add_one]
  · rw [← Registry.forall_hooked_sublist_iff]
    refine forall_congr' fun n => ?_
    rw [hsync]
    constructor
    · rintro ⟨added, hadded, h⟩
      rwa [List.append_cancel_left (Option.some.inj hadded)]
    · intro h
      exact ⟨_, rfl, h⟩

/-- With one refusal behind it, `a` is hooked twice. -/
theorem hooked_twice_after_refusal :
    ((Assembly.ofRegistry (.ofList [("a", .extension ⟨"a", "", 0, .analysis none⟩),
      ("b", .extension ⟨"b", "", 1, .none⟩)])).run
        [.installTextSync, .registerAll, .registerAll, .hooks]).map Outcome.reply =
      [.nothing, .failure ⟨.runtime, "register failed: b"⟩, .nothing, .names ["a", "a"]] := by
  decide +kernel

end Assembly

end FishScript
