import FishScript.Proofs.Registry.Attempts

/-!
# Histories of registration

Text synchronization may be missing, set up or replaced, and registration may be called at any
time and repeatedly. A call gets past the capabilities in front of the first that raises a
fault, and adds their hooks to the text synchronization of the moment. Once a call has
returned, later ones do nothing, even where the hooks have been lost since.

## Main definitions

- `Capability.raises` — whether a capability raises a fault when it registers
- `Assembly.Attempt` — what a call does that is not idle
- `Assembly.calls` — the calls of a history, each with the assembly that it finds
- `Assembly.attempts` — those up to the first that returns

## Main results

- `Capability.raises_iff` — when a capability raises a fault
- `Assembly.attempt_step` — a call before the first that has returned
- `Assembly.sync_after` — the hooks after steps that keep text synchronization
- `Assembly.registered_by_history` — all of this for a whole history
-/

namespace FishScript

namespace Capability

/-- Whether a capability raises a fault when it registers. -/
def raises (sync : TextSync) (capability : Capability) : Bool :=
  (capability.register sync).fault.isSome

variable {capability : Capability} {sync : TextSync}

theorem worn_of_refusals_eq_zero (h : capability.refusals = 0) : capability.worn = capability := by
  match capability, h with
  | .extension e, h =>
    have hrefusals : e.refusals = 0 := h
    rw [worn, hrefusals, Nat.zero_sub, ← hrefusals]
  | .syntaxDiagnostics, _ => rfl
  | .symbolIndex, _ => rfl
  | .fishCompletion, _ => rfl

theorem register_none_of_refusals_eq_zero (h : capability.refusals = 0) :
    capability.register none =
      { capability := capability
        sync := none
        journal := capability.announcement
        fault := capability.hook?.map fun _ => ⟨.runtime,
          capability.name ++ " requires the text sync manager to be registered first"⟩ } := by
  unfold register attach
  rw [refusal?_of_refusals_eq_zero h]
  cases capability.hook? <;> rfl

/-- A capability raises a fault as long as it has refusals to come, and one that analyzes texts
does so without text synchronization. -/
theorem raises_iff :
    capability.raises sync ↔ 0 < capability.refusals ∨ capability.hook?.isSome ∧ sync = none := by
  unfold raises
  obtain hzero | hpos := Nat.eq_zero_or_pos capability.refusals
  · cases sync with
    | none => simp [register_none_of_refusals_eq_zero hzero, hzero]
    | some hooks => simp [register_of_refusals_eq_zero hzero, hzero]
  · simp [register_of_refusals_pos hpos, hpos]

/-- What the hooks are makes no difference, only whether they can be added to. -/
theorem fault_register_map (f : List Hook → List Hook) :
    (capability.register (sync.map f)).fault = (capability.register sync).fault := by
  obtain hzero | hpos := Nat.eq_zero_or_pos capability.refusals
  · cases sync with
    | none => rfl
    | some hooks =>
      rw [Option.map_some, register_of_refusals_eq_zero hzero, register_of_refusals_eq_zero hzero]
  · rw [register_of_refusals_pos hpos, register_of_refusals_pos hpos]

theorem raises_map (f : List Hook → List Hook) :
    capability.raises (sync.map f) = capability.raises sync :=
  congrArg Option.isSome (fault_register_map f)

theorem register_of_not_raises (h : ¬capability.raises sync) :
    capability.register sync =
      ⟨capability, sync.map (· ++ capability.hook?.toList), capability.announcement, none⟩ := by
  rw [raises_iff, not_or, Nat.pos_iff_ne_zero, not_not] at h
  obtain ⟨hzero, hhook⟩ := h
  cases sync with
  | none =>
    have hnone : capability.hook? = none := by simpa using hhook
    rw [register_none_of_refusals_eq_zero hzero, hnone]
    rfl
  | some hooks => exact register_of_refusals_eq_zero hzero hooks

theorem register_of_fault {fault : Fault} (h : (capability.register sync).fault = some fault) :
    capability.register sync = ⟨capability.worn, sync, capability.announcement, some fault⟩ ∧
      fault.kind = .runtime := by
  obtain hzero | hpos := Nat.eq_zero_or_pos capability.refusals
  · cases sync with
    | none =>
      rw [register_none_of_refusals_eq_zero hzero] at h ⊢
      obtain ⟨hook, hhook, rfl⟩ := Option.map_eq_some_iff.1 h
      rw [hhook, worn_of_refusals_eq_zero hzero]
      exact ⟨rfl, rfl⟩
    | some hooks =>
      rw [register_of_refusals_eq_zero hzero] at h
      cases h
  · rw [register_of_refusals_pos hpos] at h ⊢
    obtain rfl : capability.refusal = fault := Option.some.inj h
    exact ⟨rfl, rfl⟩

end Capability

/-- A registration goes through the capabilities that raise no fault, and then goes on. -/
theorem Enrollment.ofEntries_append {passed : List (String × Capability)} {sync : TextSync}
    (h : ∀ entry ∈ passed, ¬entry.2.raises sync) (rest : List (String × Capability)) :
    Enrollment.ofEntries (passed ++ rest) sync =
      let later := Enrollment.ofEntries rest (sync.map (· ++ Registry.hooks passed))
      { later with
        entries := passed ++ later.entries
        journal := passed.flatMap (·.2.announcement) ++ later.journal } := by
  induction passed generalizing sync with
  | nil => simp [Registry.hooks, Option.map_id']
  | cons entry passed ih =>
    obtain ⟨key, capability⟩ := entry
    obtain ⟨hfirst, hlater⟩ := List.forall_mem_cons.1 h
    have hkept : ∀ entry ∈ passed, ¬entry.2.raises (sync.map (· ++ capability.hook?.toList)) :=
      fun entry hentry => by rw [Capability.raises_map]; exact hlater entry hentry
    rw [List.cons_append, ofEntries, Capability.register_of_not_raises hfirst]
    simp [ih hkept, Registry.hooks_cons, Function.comp_def]

namespace Assembly

/-- What a call of registration does as long as none has returned before. It asks the
capabilities in order and stops at the first that raises a fault, which has one refusal less
afterwards. Those in front of it have added their hooks; those behind it are not asked. -/
inductive Attempt (assembly : Assembly) : Outcome → Prop
  | through (h : ∀ entry ∈ assembly.registry.entries, ¬entry.2.raises assembly.sync) :
    Attempt assembly
      { assembly := { assembly with
          sync := assembly.sync.map (· ++ Registry.hooks assembly.registry.entries)
          registry := ⟨assembly.registry.entries, true⟩ }
        journal := assembly.registry.entries.flatMap (·.2.announcement)
        reply := .nothing }
  | stopped {passed behind : List (String × Capability)} {key : String} {capability : Capability}
    {fault : Fault}
    (hentries : assembly.registry.entries = passed ++ (key, capability) :: behind)
    (hpassed : ∀ entry ∈ passed, ¬entry.2.raises assembly.sync)
    (hfault : (capability.register assembly.sync).fault = some fault) :
    Attempt assembly
      { assembly := { assembly with
          sync := assembly.sync.map (· ++ Registry.hooks passed)
          registry := ⟨passed ++ (key, capability.worn) :: behind, false⟩ }
        journal := (passed ++ [(key, capability)]).flatMap (·.2.announcement)
        reply := .failure fault }

/-- The calls of registration in a history, each with the assembly that it finds. -/
def calls (assembly : Assembly) : List Step → List Assembly
  | [] => []
  | step :: steps =>
    (if step = .registerAll then [assembly] else []) ++ (assembly.step step).assembly.calls steps

/-- Whether a call of registration returns without a fault. -/
def returns (assembly : Assembly) : Bool :=
  (assembly.step .registerAll).reply == .nothing

/-- The calls of a history up to the first that returns. -/
def attempts (assembly : Assembly) (history : List Step) : List Assembly :=
  (assembly.calls history).take ((assembly.calls history).findIdx returns + 1)

/-- The hooks of the capabilities in front of the first that raises a fault. -/
def added (assembly : Assembly) : List Hook :=
  Registry.hooks (assembly.registry.entries.takeWhile fun entry => !entry.2.raises assembly.sync)

theorem after_append (assembly : Assembly) (a b : List Step) :
    assembly.after (a ++ b) = (assembly.after a).after b :=
  List.foldl_append

/-! ### One step -/

/-- Where no call has returned before, a call asks the capabilities. -/
theorem attempt_step {assembly : Assembly} (h : assembly.registry.registered = false) :
    assembly.Attempt (assembly.step .registerAll) := by
  obtain ⟨symbols, sync, entries, registered⟩ := assembly
  obtain rfl : registered = false := h
  cases hfirst : entries.find? fun entry => entry.2.raises sync with
  | none =>
    have hentries := List.find?_eq_none.1 hfirst
    have hthrough := Enrollment.ofEntries_append hentries []
    simp only [List.append_nil, Enrollment.ofEntries] at hthrough
    simpa [step, Registry.registerAll, hthrough] using Attempt.through hentries
  | some entry =>
    obtain ⟨key, capability⟩ := entry
    obtain ⟨hraises, passed, behind, rfl, hpassed⟩ := List.find?_eq_some_iff_append.1 hfirst
    have hpassed : ∀ entry ∈ passed, ¬entry.2.raises sync := by simpa using hpassed
    obtain ⟨fault, hfault⟩ := Option.isSome_iff_exists.1 hraises
    have hstopped := Enrollment.ofEntries_append hpassed ((key, capability) :: behind)
    have hlast := (Capability.register_of_fault ((Capability.fault_register_map
      (· ++ Registry.hooks passed)).trans hfault)).1
    simp only [Enrollment.ofEntries, hlast] at hstopped
    simpa [step, Registry.registerAll, hstopped] using Attempt.stopped rfl hpassed hfault

/-- Where a call has returned before, a call is idle. -/
theorem step_registerAll_of_registered {assembly : Assembly}
    (h : assembly.registry.registered = true) :
    assembly.step .registerAll = ⟨assembly, [], .nothing⟩ := by
  obtain ⟨symbols, sync, entries, registered⟩ := assembly
  obtain rfl : registered = true := h
  rfl

/-- Only registration changes the registry, and only it and a new text synchronization change the
hooks. -/
theorem step_of_ne (assembly : Assembly) {step : Step} (hcall : step ≠ .registerAll) :
    (assembly.step step).assembly.registry = assembly.registry ∧
      (step ≠ .installTextSync → (assembly.step step).assembly.sync = assembly.sync) := by
  cases step with
  | registerAll => exact absurd rfl hcall
  | installTextSync => exact ⟨rfl, fun h => absurd rfl h⟩
  | get key => exact ⟨rfl, fun _ => rfl⟩
  | ofFamily family => exact ⟨rfl, fun _ => rfl⟩
  | completion =>
    rw [Assembly.step]
    split <;> exact ⟨rfl, fun _ => rfl⟩
  | broadcast text => exact ⟨rfl, fun _ => rfl⟩
  | hooks => exact ⟨rfl, fun _ => rfl⟩

/-- An attempt that returns is the last that is made, and one that is stopped is not. -/
theorem Attempt.registered {assembly : Assembly} {outcome : Outcome}
    (h : assembly.Attempt outcome) :
    outcome.assembly.registry.registered = (outcome.reply == .nothing) := by
  cases h with
  | through h => rfl
  | stopped hentries hpassed hfault => rfl

theorem Attempt.sync {assembly : Assembly} {outcome : Outcome} (h : assembly.Attempt outcome) :
    outcome.assembly.sync = assembly.sync.map (· ++ assembly.added) := by
  cases h with
  | through h =>
    rw [added, List.takeWhile_eq_self_iff.2]
    simpa using h
  | @stopped passed behind key capability fault hentries hpassed hfault =>
    have hraises : capability.raises assembly.sync := by rw [Capability.raises, hfault]; rfl
    have hfront : ∀ entry ∈ passed, (!entry.2.raises assembly.sync) = true := by simpa using hpassed
    rw [added, hentries, List.takeWhile_append_of_pos hfront, List.takeWhile_cons_of_neg (by simpa),
      List.append_nil]

theorem returns_of_registered {assembly : Assembly} (h : assembly.registry.registered = true) :
    assembly.returns := by
  rw [returns, step_registerAll_of_registered h]
  rfl

/-- Registration is done as soon as a call has returned. -/
theorem registered_step (assembly : Assembly) :
    (assembly.step .registerAll).assembly.registry.registered = assembly.returns := by
  cases h : assembly.registry.registered with
  | true => rw [step_registerAll_of_registered h, h, returns_of_registered h]
  | false => exact (attempt_step h).registered

/-! ### Histories -/

theorem calls_append (assembly : Assembly) (a b : List Step) :
    assembly.calls (a ++ b) = assembly.calls a ++ (assembly.after a).calls b := by
  induction a generalizing assembly with
  | nil => rfl
  | cons step a ih => rw [List.cons_append, calls, calls, after_cons, ih, List.append_assoc]

theorem length_calls (assembly : Assembly) (history : List Step) :
    (assembly.calls history).length = history.count .registerAll := by
  induction history generalizing assembly with
  | nil => rfl
  | cons step history ih =>
    rw [calls, List.length_append, ih, List.count_cons, Nat.add_comm]
    by_cases h : step = .registerAll <;> simp [h]

theorem attempts_append (assembly : Assembly) (a b : List Step) :
    assembly.attempts (a ++ b) =
      assembly.attempts a ++
        if (assembly.calls a).any returns then [] else (assembly.after a).attempts b := by
  unfold attempts
  rw [calls_append]
  induction assembly.calls a with
  | nil => simp
  | cons call calls ih =>
    rw [List.cons_append, List.findIdx_cons, List.findIdx_cons, List.any_cons]
    cases hcall : call.returns <;> simp_all

theorem attempts_registerAll (assembly : Assembly) (steps : List Step) :
    assembly.attempts (.registerAll :: steps) =
      assembly :: if assembly.returns then []
        else (assembly.step .registerAll).assembly.attempts steps := by
  rw [attempts, calls, if_pos rfl, List.singleton_append, List.findIdx_cons]
  cases assembly.returns <;> rfl

theorem attempts_of_ne (assembly : Assembly) {step : Step} (hcall : step ≠ .registerAll)
    (steps : List Step) :
    assembly.attempts (step :: steps) = (assembly.step step).assembly.attempts steps := by
  rw [attempts, calls, if_neg hcall, List.nil_append]
  rfl

/-- If no call returns, all calls are attempts; otherwise nothing behind them is. -/
theorem drop_attempts (assembly : Assembly) (history : List Step) (later : List Assembly) :
    (assembly.attempts history ++
        if (assembly.calls history).any returns then [] else later).drop
          (history.count .registerAll) =
      if (assembly.calls history).any returns then [] else later := by
  rw [← assembly.length_calls history, attempts]
  split
  · rw [List.append_nil]
    exact List.drop_of_length_le (List.length_take_le' ..)
  · next h =>
    have hnone : (assembly.calls history).findIdx returns = (assembly.calls history).length :=
      List.findIdx_eq_length.2 (by simpa using h)
    rw [hnone, List.take_of_length_le (Nat.le_succ _), List.drop_left]

theorem registered_after (assembly : Assembly) (history : List Step) :
    (assembly.after history).registry.registered =
      (assembly.registry.registered || (assembly.calls history).any returns) := by
  induction history generalizing assembly with
  | nil => simp [calls, after]
  | cons step history ih =>
    rw [after_cons, ih, calls, List.any_append]
    by_cases hcall : step = .registerAll
    · rw [hcall, registered_step, if_pos rfl, List.any_cons, List.any_nil, Bool.or_false]
      cases hregistered : assembly.registry.registered with
      | true => rw [returns_of_registered hregistered]; rfl
      | false => rfl
    · rw [(assembly.step_of_ne hcall).1, if_neg hcall]
      rfl

/-- As long as text synchronization stays, so do the hooks, and attempts add to them. -/
theorem sync_after {assembly : Assembly} {history : List Step}
    (hkept : Step.installTextSync ∉ history) :
    (assembly.after history).sync = assembly.sync.map (· ++
      (if assembly.registry.registered then [] else assembly.attempts history).flatMap added) := by
  induction history generalizing assembly with
  | nil => simp [after, attempts, calls, Option.map_id']
  | cons step history ih =>
    obtain ⟨hstep, hlater⟩ := List.ne_and_not_mem_of_not_mem_cons hkept
    rw [after_cons, ih hlater]
    by_cases hcall : step = .registerAll
    · rw [hcall, registered_step, attempts_registerAll]
      cases hregistered : assembly.registry.registered with
      | true => simp [step_registerAll_of_registered hregistered, returns_of_registered hregistered]
      | false =>
        rw [(attempt_step hregistered).sync, Option.map_map]
        cases assembly.returns <;> simp [Function.comp_def]
    · obtain ⟨hregistry, hsync⟩ := assembly.step_of_ne hcall
      rw [attempts_of_ne assembly hcall, hregistry, hsync hstep.symm]

/-- What registration comes to, whatever has happened before. A capability raises a fault as
long as it refuses, or where it analyzes texts and there is no text synchronization. A call gets
past the capabilities in front of the first that raises a fault, and returns if there is none.
It adds the hooks of those that it gets past to the text synchronization of the moment, so the
hooks there are those that the attempts have added since it was set up, up to the first call of
the whole history that has returned. Every later call is idle. -/
theorem registered_by_history (entries : List (String × Capability)) (history : List Step) :
    let start := Assembly.ofRegistry ⟨entries, false⟩
    (.installTextSync ∉ history → (start.after history).sync = none) ∧
    (∀ before since, history = before ++ .installTextSync :: since → .installTextSync ∉ since →
      (start.after history).sync =
        some (((start.attempts history).drop (before.count .registerAll)).flatMap added)) ∧
    (∀ before later, history = before ++ .registerAll :: later →
      ∃ outcome, (start.run history)[before.length]? = some outcome ∧
        if (start.calls before).any returns then outcome = ⟨start.after before, [], .nothing⟩
        else (start.after before).Attempt outcome) ∧
    ∀ (capability : Capability) (sync : TextSync),
      (capability.raises sync ↔
        0 < capability.refusals ∨ capability.hook?.isSome ∧ sync = none) ∧
      ∀ fault, (capability.register sync).fault = some fault → fault.kind = .runtime := by
  intro start
  refine ⟨fun hnone => ?_, ?_, ?_, fun capability sync => ⟨Capability.raises_iff, fun fault h =>
    (Capability.register_of_fault h).2⟩⟩
  · rw [sync_after hnone]
    rfl
  · rintro before since rfl hsince
    let installed : Assembly := { start.after before with sync := some [] }
    have hafter : start.after (before ++ .installTextSync :: since) = installed.after since :=
      start.after_append before _
    have hattempts : start.attempts (before ++ .installTextSync :: since) = start.attempts before ++
        if (start.calls before).any returns then [] else installed.attempts since := by
      rw [attempts_append, attempts_of_ne _ (by decide)]
      rfl
    have hregistered : installed.registry.registered = (start.calls before).any returns :=
      registered_after start before
    rw [hafter, sync_after hsince, hregistered, hattempts, drop_attempts]
    rfl
  · rintro before later rfl
    refine ⟨_, getElem?_run start before .registerAll later, ?_⟩
    have hregistered : (start.after before).registry.registered =
        (start.calls before).any returns := registered_after start before
    split
    · next h => exact step_registerAll_of_registered (hregistered.trans h)
    · next h =>
      exact attempt_step (hregistered.trans (Bool.eq_false_iff.2 h))

/-- Without text synchronization `a` raises a fault, then `b` refuses once behind it, and the
third call is the first to return. A text synchronization that is set up later has no hooks. -/
theorem hooks_of_five_calls :
    let start := Assembly.ofRegistry ⟨[("a", .extension ⟨"a", "", 0, .analysis none⟩),
      ("b", .extension ⟨"b", "", 1, .none⟩)], false⟩
    let early : List Step := [.registerAll, .installTextSync, .registerAll, .registerAll,
      .registerAll]
    Step.installTextSync ∉ [Step.registerAll, .registerAll, .registerAll] ∧
    (start.after early).sync = some [.extension "a" none, .extension "a" none] ∧
    (start.after (early ++ [.installTextSync, .registerAll])).sync = some [] := by
  intro start early
  refine ⟨by decide, ?_, ?_⟩
  · refine ((registered_by_history _ early).2.1 [.registerAll] _ rfl (by decide)).trans ?_
    decide +kernel
  · refine ((registered_by_history _ _).2.1 early _ rfl (by decide)).trans ?_
    decide +kernel

end Assembly

end FishScript
