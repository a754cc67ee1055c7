import FishScript.Server.Assembly
import Mathlib.Data.List.TakeWhile

/-!
# One attempt to register

Each registration of all capabilities gets past those in front of the first one that refuses,
and takes one refusal away from that one. Here this is said of a single capability, of a list of
capabilities, and of an assembly with text synchronization.

## Main definitions

- `Capability.refusals`, `Capability.worn` — the refusals to come, and one of them less
- `Registry.refusals` — the refusals to come of all capabilities
- `Registry.accepted`, `Registry.refusing?` — what one attempt gets past, and what stops it
- `Registry.worn` — the capabilities after one attempt
- `Registry.hooks` — the text hooks of capabilities
- `Assembly.after` — an assembly after several steps

## Main results

- `Enrollment.ofEntries_some` — what one attempt leaves behind
- `Assembly.step_registerAll` — an attempt as a step of an assembly
- `Assembly.after_registered` — nothing is registered after an attempt that has gone through
-/

namespace FishScript

namespace Capability

/-- How many of the next registrations of a capability are refused. -/
def refusals : Capability → Nat
  | .extension e => e.refusals
  | _ => 0

/-- A capability after a registration that it has refused. -/
def worn : Capability → Capability
  | .extension e => .extension { e with refusals := e.refusals - 1 }
  | capability => capability

/-- The fault of a capability that refuses to register. -/
def refusal (capability : Capability) : Fault :=
  ⟨.runtime, "register failed: " ++ capability.name⟩

@[simp]
theorem hook?_worn (capability : Capability) : capability.worn.hook? = capability.hook? := by
  cases capability <;> rfl

@[simp]
theorem refusals_worn (capability : Capability) :
    capability.worn.refusals = capability.refusals - 1 := by
  cases capability <;> rfl

theorem refusal?_of_refusals_eq_zero {capability : Capability} (h : capability.refusals = 0) :
    capability.refusal? = none := by
  cases capability with
  | extension e => rw [refusal?, show e.refusals = 0 from h]
  | _ => rfl

theorem register_of_refusals_eq_zero {capability : Capability} (h : capability.refusals = 0)
    (hooks : List Hook) :
    capability.register (some hooks) =
      ⟨capability, some (hooks ++ capability.hook?.toList), capability.announcement, none⟩ := by
  unfold register attach
  rw [refusal?_of_refusals_eq_zero h]
  cases capability.hook? <;> simp

/-- A refusal comes before anything is asked of text synchronization. -/
theorem register_of_refusals_pos {capability : Capability} (h : 0 < capability.refusals)
    (sync : TextSync) :
    capability.register sync =
      ⟨capability.worn, sync, capability.announcement, some capability.refusal⟩ := by
  cases capability with
  | extension e =>
    obtain ⟨n, hn⟩ : ∃ n, e.refusals = n + 1 := Nat.exists_eq_add_one.2 h
    simp [register, refusal?, hn, worn, refusal, name]
  | _ => exact absurd h (Nat.lt_irrefl 0)

end Capability

namespace Registry

/-- How many attempts are refused before one goes through. -/
def refusals : List (String × Capability) → Nat
  | [] => 0
  | (_, capability) :: rest => capability.refusals + refusals rest

/-- The capabilities that an attempt gets past. -/
def accepted (entries : List (String × Capability)) : List (String × Capability) :=
  entries.takeWhile (·.2.refusals == 0)

/-- The capability at which an attempt stops. -/
def refusing? (entries : List (String × Capability)) : Option (String × Capability) :=
  entries.find? (·.2.refusals != 0)

/-- The capabilities after an attempt. Only the one at which it has stopped is changed. -/
def worn : List (String × Capability) → List (String × Capability)
  | [] => []
  | (key, capability) :: rest =>
    if capability.refusals = 0 then (key, capability) :: worn rest
    else (key, capability.worn) :: rest

/-- The text hooks of the capabilities that analyze, in order. -/
def hooks (entries : List (String × Capability)) : List Hook :=
  entries.filterMap (·.2.hook?)

variable {entries rest : List (String × Capability)} {key : String} {capability : Capability}

theorem hooks_cons : hooks ((key, capability) :: rest) = capability.hook?.toList ++ hooks rest := by
  unfold hooks
  rw [List.filterMap_cons]
  cases capability.hook? <;> rfl

theorem refusals_worn (entries : List (String × Capability)) :
    refusals (worn entries) = refusals entries - 1 := by
  induction entries with
  | nil => rfl
  | cons entry rest ih =>
    obtain ⟨key, capability⟩ := entry
    rw [worn, refusals]
    split
    case isTrue h => rw [refusals, ih, h, Nat.zero_add, Nat.zero_add]
    case isFalse h =>
      rw [refusals, Capability.refusals_worn]
      exact (Nat.sub_add_comm (Nat.pos_of_ne_zero h)).symm

theorem hooks_worn (entries : List (String × Capability)) : hooks (worn entries) = hooks entries := by
  induction entries with
  | nil => rfl
  | cons entry rest ih =>
    obtain ⟨key, capability⟩ := entry
    rw [worn]
    split
    · rw [hooks_cons, hooks_cons, ih]
    · rw [hooks_cons, hooks_cons, Capability.hook?_worn]

theorem refusals_eq_zero_iff : refusals entries = 0 ↔ ∀ entry ∈ entries, entry.2.refusals = 0 := by
  induction entries with
  | nil => simp [refusals]
  | cons entry rest ih =>
    obtain ⟨key, capability⟩ := entry
    rw [refusals, Nat.add_eq_zero_iff, ih, List.forall_mem_cons]

theorem refusing?_eq_none_iff : refusing? entries = none ↔ refusals entries = 0 := by
  simp [refusing?, refusals_eq_zero_iff]

theorem worn_of_refusals_eq_zero (h : refusals entries = 0) : worn entries = entries := by
  induction entries with
  | nil => rfl
  | cons entry rest ih =>
    obtain ⟨hentry, hrest⟩ := Nat.add_eq_zero_iff.1 h
    rw [worn, if_pos hentry, ih hrest]

theorem accepted_of_refusals_eq_zero (h : refusals entries = 0) : accepted entries = entries :=
  List.takeWhile_eq_self_iff.2 fun entry hentry =>
    beq_iff_eq.2 (refusals_eq_zero_iff.1 h entry hentry)

end Registry

/-- What one attempt leaves behind where there is text synchronization: it adds the hooks of the
capabilities that it gets past, and asks nothing of those behind the one at which it stops. -/
theorem Enrollment.ofEntries_some (entries : List (String × Capability)) (hooks : List Hook) :
    Enrollment.ofEntries entries (some hooks) =
      { entries := Registry.worn entries
        sync := some (hooks ++ Registry.hooks (Registry.accepted entries))
        journal := (Registry.accepted entries ++ (Registry.refusing? entries).toList).flatMap
          (·.2.announcement)
        fault := (Registry.refusing? entries).map (·.2.refusal) } := by
  induction entries generalizing hooks with
  | nil => simp [ofEntries, Registry.worn, Registry.accepted, Registry.refusing?, Registry.hooks]
  | cons entry rest ih =>
    obtain ⟨key, capability⟩ := entry
    rw [ofEntries]
    by_cases h : capability.refusals = 0
    · rw [Capability.register_of_refusals_eq_zero h]
      simp [ih, Registry.worn, Registry.accepted, Registry.refusing?, Registry.hooks_cons, h]
    · rw [Capability.register_of_refusals_pos (Nat.pos_of_ne_zero h)]
      simp [Registry.worn, Registry.accepted, Registry.refusing?, Registry.hooks, h]

namespace Assembly

/-- An assembly after several steps. -/
def after (assembly : Assembly) (steps : List Step) : Assembly :=
  steps.foldl (fun known step => (known.step step).assembly) assembly

theorem after_cons (assembly : Assembly) (step : Step) (steps : List Step) :
    assembly.after (step :: steps) = (assembly.step step).assembly.after steps := rfl

/-- In a run each step is made on what the steps before have left. -/
theorem getElem?_run (assembly : Assembly) (before : List Step) (step : Step) (later : List Step) :
    (assembly.run (before ++ step :: later))[before.length]? =
      some ((assembly.after before).step step) := by
  induction before generalizing assembly with
  | nil => rfl
  | cons first before ih => exact ih (assembly.step first).assembly

variable (symbols : Symbols) (entries : List (String × Capability))

/-- An attempt, as a step of an assembly that has not been registered. -/
theorem step_registerAll (hooks : List Hook) :
    (Assembly.mk symbols (some hooks) ⟨entries, false⟩).step .registerAll =
      { assembly := ⟨symbols, some (hooks ++ Registry.hooks (Registry.accepted entries)),
          ⟨Registry.worn entries, Registry.refusals entries == 0⟩⟩
        journal := (Registry.accepted entries ++ (Registry.refusing? entries).toList).flatMap
          (·.2.announcement)
        reply := ((Registry.refusing? entries).map (Reply.failure ·.2.refusal)).getD .nothing } := by
  have hdone : (Registry.refusing? entries).isNone = (Registry.refusals entries == 0) := by
    rw [Bool.eq_iff_iff, Option.isNone_iff_eq_none, Registry.refusing?_eq_none_iff, beq_iff_eq]
  simp [step, Registry.registerAll, Enrollment.ofEntries_some, hdone, Function.comp_def]

/-- After an attempt that has gone through, further ones do nothing. -/
theorem step_registered (sync : TextSync) :
    (Assembly.mk symbols sync ⟨entries, true⟩).step .registerAll =
      ⟨⟨symbols, sync, ⟨entries, true⟩⟩, [], .nothing⟩ := rfl

theorem after_registered (sync : TextSync) (n : Nat) :
    (Assembly.mk symbols sync ⟨entries, true⟩).after (List.replicate n .registerAll) =
      ⟨symbols, sync, ⟨entries, true⟩⟩ := by
  induction n with
  | zero => rfl
  | succ n ih => rw [List.replicate_succ, after_cons, step_registered, ih]

end Assembly

end FishScript
