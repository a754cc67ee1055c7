import FishScript.Proofs.Session.Passes

/-!
# What a session publishes

Each pass checks the syntax of its text once. What the check finds is published, unless
publishing fails, and it is recorded in either case; a check that fails finds nothing and
says so. Nothing else that happens in a session shows in the list of these events and
records.

## Main definitions

- `Check` — one syntax check: its text, and what failed meanwhile
- `Check.ofActions`, `Check.ofBatches`, `Check.ofSteps` — the checks of a history
- `Check.published`, `Check.records` — what becomes of a check
- `Entry.concernsCheck` — the entries of a journal that stem from checks
- `bearingOnChecks` — the actions of a history that the checks depend on

## Main results

- `Session.Sound.check_broadcast` — the entries of one pass
- `Session.Sound.check_step` — the entries of one step
- `Session.Sound.published_journalOf`, `Session.Sound.recorded_journalOf` — the events and the
  records of a history
- `Check.ofSteps_eq_of_bearing` — the other actions make no difference
- `Session.published_pass_for_pass` — the events and records of a whole run
-/

namespace FishScript

/-- One syntax check: the text, and whether checking and publishing fail meanwhile. -/
structure Check where
  text : Text
  validateFails : Bool
  publishFails : Bool

namespace Check

/-- Whether a check comes to no result: it fails by itself, or at a line without an
encoding. -/
def failed (check : Check) : Bool :=
  check.validateFails || !(Diagnostic.ofText check.text).isOk

/-- What a check finds. A failed one finds nothing. -/
def diagnostics (check : Check) : List Diagnostic :=
  match check.validateFails, Diagnostic.ofText check.text with
  | false, .ok found => found
  | _, _ => []

/-- The event of a check, which is sent unless publishing fails. -/
def published (check : Check) : List Event :=
  if check.publishFails then [] else [.publish "file://dummy.fish" check.diagnostics]

/-- The records of a check: first that it failed, if it did, then how much it found. -/
def records (check : Check) : List Record :=
  (if check.failed then
    [⟨.error, .analysis, "Syntax validation failed, clearing diagnostics"⟩] else []) ++
  [⟨.debug, .analysis, "Publishing " ++ toString check.diagnostics.length ++ " diagnostics"⟩]

/-- Everything that a check writes into the journal. -/
def entries (check : Check) : Journal :=
  check.records.map Entry.record ++ check.published.map Entry.event

def ofPass (pass : Pass) : Check where
  text := pass.text
  validateFails := pass.outages.failing .validate
  publishFails := pass.outages.failing .publish

/-- The checks of actions that are started together. The first begins when its text
arrives, the others when all has arrived, and all of them publish after that. -/
def ofActions (validateFails publishFails : Bool) (actions : List Action) : List Check :=
  let publishFails' := Operation.publish.failsAfterAll publishFails actions
  match actions.filterMap Action.broughtText? with
  | [] => []
  | first :: later =>
    ⟨first, Operation.validate.failsAfterAll validateFails
      (actions.takeWhile Action.isTextless), publishFails'⟩ ::
      later.map fun text =>
        ⟨text, Operation.validate.failsAfterAll validateFails actions, publishFails'⟩

/-- The checks of actions that arrive batch by batch, if the two values tell what fails
before them. -/
def ofBatches (validateFails publishFails : Bool) : List (List Action) → List Check
  | [] => []
  | actions :: later =>
    ofActions validateFails publishFails actions ++
      ofBatches (Operation.validate.failsAfterAll validateFails actions)
        (Operation.publish.failsAfterAll publishFails actions) later

/-- The checks of a history, if the two values tell what fails before it. -/
def ofSteps (validateFails publishFails : Bool) (steps : List Step) : List Check :=
  ofBatches validateFails publishFails (steps.map Batch.order)

theorem ofSteps_cons (validateFails publishFails : Bool) (step : Step) (steps : List Step) :
    ofSteps validateFails publishFails (step :: steps) =
      ofActions validateFails publishFails step.order ++
        ofSteps (Operation.validate.failsAfterAll validateFails step.order)
          (Operation.publish.failsAfterAll publishFails step.order) steps := rfl

end Check

/-! ### The entries of checks -/

def Event.isPublish : Event → Bool
  | .publish _ _ => true
  | _ => false

/-- Whether a record stems from a check, which its first words tell. -/
def Record.isCheck (record : Record) : Bool :=
  record.source == .analysis &&
    ("Syntax validation failed".toList.isPrefixOf record.content.toList ||
      "Publishing ".toList.isPrefixOf record.content.toList)

/-- Whether an entry of a journal stems from a check. -/
def Entry.concernsCheck : Entry → Bool
  | .event sent => sent.isPublish
  | .record written => written.isCheck

theorem Check.events_entries (checks : List Check) :
    Journal.events (checks.flatMap Check.entries) = checks.flatMap Check.published := by
  induction checks with
  | nil => rfl
  | cons check checks ih =>
    rw [List.flatMap_cons, Journal.events_append, ih, List.flatMap_cons]
    congr 1
    simp [Check.entries]

theorem Check.records_entries (checks : List Check) :
    Journal.records (checks.flatMap Check.entries) = checks.flatMap Check.records := by
  induction checks with
  | nil => rfl
  | cons check checks ih =>
    rw [List.flatMap_cons, Journal.records_append, ih, List.flatMap_cons]
    congr 1
    simp [Check.entries]

/-! ### Passes -/

/-- The report of a fault is no entry of a check. -/
theorem filter_report (hook : Hook) (fault : Fault) :
    (hook.report fault).filter Entry.concernsCheck = [] := by
  have hsource : (Record.Source.textSync == .analysis) = false := by decide
  simp [Hook.report, Entry.concernsCheck, Record.isCheck, Event.isPublish, hsource]

/-- What a hook has of a check is what it does itself, whatever fault it ends with. -/
theorem filter_attempt (pass : Pass) (hook : Hook) (symbols : Symbols) :
    (hook.attempt pass symbols).journal.filter Entry.concernsCheck =
      (hook.run pass symbols).journal.filter Entry.concernsCheck := by
  rw [Hook.attempt, List.filter_append]
  cases hook.fault? pass.outages with
  | none => simp
  | some fault => simp [filter_report]

theorem filter_broadcast_listeners (pass : Pass) (added : List (String × Option Fault))
    (symbols : Symbols) :
    (broadcast pass (added.map fun listener => .listener listener.1 listener.2)
      symbols).journal.filter Entry.concernsCheck = [] := by
  induction added generalizing symbols with
  | nil => rfl
  | cons listener added ih =>
    rw [List.map_cons, broadcast, List.filter_append, ih, filter_attempt]
    rfl

/-- The index writes no entry of a check. -/
theorem filter_indexSymbols (pass : Pass) (symbols : Symbols) :
    (Hook.indexSymbols pass symbols).journal.filter Entry.concernsCheck = [] := by
  unfold Hook.indexSymbols
  cases pass.outages.extract with
  | some fault => rfl
  | none => simp [Entry.concernsCheck, Record.isCheck, String.toList_append]

/-- A check that ends without a result is one that failed. -/
theorem found_eq (pass : Pass) :
    Hook.published pass =
      if (Check.ofPass pass).failed then none else some (Check.ofPass pass).diagnostics := by
  unfold Hook.published Check.failed Check.diagnostics Check.ofPass Outages.failing
  cases pass.outages.validate with
  | some fault => rfl
  | none => cases Diagnostic.ofText pass.text <;> rfl

theorem Check.diagnostics_of_failed {check : Check} (h : check.failed) :
    check.diagnostics = [] := by
  unfold Check.failed at h
  unfold Check.diagnostics
  cases hvalidate : check.validateFails with
  | true => rfl
  | false =>
    cases hfound : Diagnostic.ofText check.text with
    | error cause => rfl
    | ok found => simp [hvalidate, hfound, Except.isOk, Except.toBool] at h

theorem checkSyntax_eq_entries (pass : Pass) :
    Hook.checkSyntax pass = (Check.ofPass pass).entries := by
  have hpublish : (Check.ofPass pass).publishFails = pass.outages.publish.isSome := rfl
  unfold Hook.checkSyntax Check.entries Check.records Check.published
  rw [found_eq, hpublish]
  by_cases hfailed : (Check.ofPass pass).failed
  · rw [Check.diagnostics_of_failed hfailed, if_pos hfailed, if_pos hfailed]
    cases pass.outages.publish <;> rfl
  · rw [if_neg hfailed, if_neg hfailed]
    cases pass.outages.publish <;> rfl

theorem filter_entries (check : Check) :
    check.entries.filter Entry.concernsCheck = check.entries := by
  have hlist : Record.isCheck ⟨.debug, .analysis,
      "Publishing " ++ toString check.diagnostics.length ++ " diagnostics"⟩ := by
    simp [Record.isCheck, String.toList_append]
  have hfailed : Record.isCheck ⟨.error, .analysis,
      "Syntax validation failed, clearing diagnostics"⟩ := by decide
  rw [List.filter_eq_self]
  intro entry hentry
  rw [Check.entries, List.mem_append] at hentry
  obtain hrecord | hevent := hentry
  · obtain ⟨record, hwritten, rfl⟩ := List.mem_map.1 hrecord
    obtain hmem | hmem := List.mem_append.1 hwritten
    · split at hmem
      · rw [List.mem_singleton.1 hmem]
        exact hfailed
      · exact absurd hmem List.not_mem_nil
    · rw [List.mem_singleton.1 hmem]
      exact hlist
  · obtain ⟨event, hsent, rfl⟩ := List.mem_map.1 hevent
    unfold Check.published at hsent
    split at hsent
    · exact absurd hsent List.not_mem_nil
    · rw [List.mem_singleton.1 hsent]
      rfl

namespace Session.Sound

variable {session : Session}

/-- One pass has one check, and nothing else that looks like one. -/
theorem check_broadcast (h : session.Sound) (pass : Pass) (symbols : Symbols) :
    (broadcast pass session.hooks symbols).journal.filter Entry.concernsCheck =
      (Check.ofPass pass).entries := by
  -- only the first hook checks; the index and all later hooks write other entries
  obtain ⟨added, hadded⟩ := h.hooks
  rw [hadded, broadcast, List.filter_append, filter_attempt, broadcast, List.filter_append,
    filter_attempt, filter_broadcast_listeners, Hook.run, Hook.run, filter_indexSymbols,
    checkSyntax_eq_entries, filter_entries]
  exact List.append_nil _

theorem check_broadcastAll (h : session.Sound) (passes : List Pass) (symbols : Symbols) :
    (broadcastAll session.hooks passes symbols).journal.filter Entry.concernsCheck =
      (passes.map Check.ofPass).flatMap Check.entries := by
  induction passes generalizing symbols with
  | nil => rfl
  | cons pass passes ih =>
    rw [broadcastAll, List.filter_append, h.check_broadcast, ih, List.map_cons, List.flatMap_cons]

end Session.Sound

/-! ### Steps and histories -/

theorem filter_notices (actions : List Action) :
    (actions.flatMap Action.notices).filter Entry.concernsCheck = [] := by
  rw [List.filter_eq_nil_iff]
  intro entry hentry
  obtain ⟨action, -, hentry⟩ := List.mem_flatMap.1 hentry
  cases action with
  | request received =>
    obtain ⟨notice, -, rfl⟩ := Option.map_eq_some_iff.1 (Option.mem_toList.1 hentry)
    exact Bool.false_ne_true
  | addHook name fault => exact absurd hentry List.not_mem_nil
  | fail operation fault => exact absurd hentry List.not_mem_nil
  | mend operation => exact absurd hentry List.not_mem_nil
  | dropRegistry => exact absurd hentry List.not_mem_nil
  | registerAgain => exact absurd hentry List.not_mem_nil

/-- The passes that are due have the checks of the actions that arrived. -/
theorem Check.ofPass_passes (session : Session) (actions : List Action) :
    (Intake.ofActions session actions).passes.map Check.ofPass =
      Check.ofActions (session.outages.failing .validate) (session.outages.failing .publish)
        actions := by
  have htexts := Intake.text_texts session actions
  have hfirst := Intake.failing_first_text session actions
  have hleft := Intake.failing_ofActions session actions
  rw [Check.ofActions, ← htexts, Intake.passes]
  generalize (Intake.ofActions session actions).texts = texts at hfirst
  cases texts with
  | nil => rfl
  | cons first later =>
    rw [← hleft, ← hleft, ← hfirst first rfl]
    simp only [List.map_cons, List.map_map]
    rfl

namespace Session

theorem Sound.check_step {session : Session} (h : session.Sound) (step : Step) :
    (session.step step).journal.filter Entry.concernsCheck =
      (Check.ofActions (session.outages.failing .validate) (session.outages.failing .publish)
        step.order).flatMap Check.entries := by
  rw [Session.step, List.filter_append, h.journal_intake, filter_notices, List.nil_append,
    (h.intake step.order).check_broadcastAll, Check.ofPass_passes]

theorem Sound.check_journalOf {session : Session} (h : session.Sound) (history : List Step) :
    (session.journalOf history).filter Entry.concernsCheck =
      (Check.ofSteps (session.outages.failing .validate) (session.outages.failing .publish)
        history).flatMap Check.entries := by
  induction history generalizing session with
  | nil => rfl
  | cons step history ih =>
    rw [journalOf_cons, List.filter_append, h.check_step, ih (h.step step), session.failing_step,
      session.failing_step, Check.ofSteps_cons, List.flatMap_append]

/-- The events that a history publishes are those of its checks. -/
theorem Sound.published_journalOf {session : Session} (h : session.Sound) (history : List Step) :
    (session.journalOf history).events.filter Event.isPublish =
      (Check.ofSteps (session.outages.failing .validate) (session.outages.failing .publish)
        history).flatMap Check.published := by
  rw [← Check.events_entries, ← h.check_journalOf]
  exact (Journal.events_filter Entry.concernsCheck _).symm

/-- The records of checks in a history are those of its checks. -/
theorem Sound.recorded_journalOf {session : Session} (h : session.Sound) (history : List Step) :
    (session.journalOf history).records.filter Record.isCheck =
      (Check.ofSteps (session.outages.failing .validate) (session.outages.failing .publish)
        history).flatMap Check.records := by
  rw [← Check.records_entries, ← h.check_journalOf]
  exact (Journal.records_filter Entry.concernsCheck _).symm

end Session

/-! ### What the checks depend on -/

/-- Whether an action has to do with the syntax check: it brings a text, or it makes
checking or publishing fail or work. -/
def Action.concernsCheck : Action → Bool
  | .request received => received.text?.isSome
  | .fail operation _ => operation != .extract
  | .mend operation => operation != .extract
  | _ => false

/-- The actions of a history that have to do with the syntax check, batch by batch. -/
def bearingOnChecks (steps : List Step) : List (List Action) :=
  (steps.map fun step => step.order.filter Action.concernsCheck).filter fun batch =>
    !batch.isEmpty

theorem broughtText?_of_not_concernsCheck {action : Action} (h : ¬action.concernsCheck) :
    action.broughtText? = none := by
  rw [← action.text?_eq]
  cases action with
  | request received => exact Option.not_isSome_iff_eq_none.1 h
  | addHook name fault => rfl
  | fail operation fault => rfl
  | mend operation => rfl
  | dropRegistry => rfl
  | registerAgain => rfl

theorem failsAfter_of_not_concernsCheck {operation : Operation} (hoperation : operation ≠ .extract)
    (failing : Bool) {action : Action} (h : ¬action.concernsCheck) :
    operation.failsAfter failing action = failing := by
  cases action with
  | fail other fault =>
    have hother : other = .extract := by simpa [Action.concernsCheck] using h
    exact if_neg fun heq => hoperation (heq.symm.trans hother)
  | mend other =>
    have hother : other = .extract := by simpa [Action.concernsCheck] using h
    exact if_neg fun heq => hoperation (heq.symm.trans hother)
  | request received => rfl
  | addHook name fault => rfl
  | dropRegistry => rfl
  | registerAgain => rfl

theorem failsAfterAll_filter {operation : Operation} (hoperation : operation ≠ .extract)
    (failing : Bool) (actions : List Action) :
    operation.failsAfterAll failing (actions.filter Action.concernsCheck) =
      operation.failsAfterAll failing actions := by
  induction actions generalizing failing with
  | nil => rfl
  | cons action actions ih =>
    by_cases h : action.concernsCheck
    · rw [List.filter_cons_of_pos h]
      exact ih _
    · rw [List.filter_cons_of_neg h, ih]
      exact congrArg (operation.failsAfterAll · actions)
        (failsAfter_of_not_concernsCheck hoperation failing h).symm

theorem filterMap_filter_concernsCheck (actions : List Action) :
    (actions.filter Action.concernsCheck).filterMap Action.broughtText? =
      actions.filterMap Action.broughtText? := by
  induction actions with
  | nil => rfl
  | cons action actions ih =>
    by_cases h : action.concernsCheck
    · rw [List.filter_cons_of_pos h, List.filterMap_cons, List.filterMap_cons, ih]
    · rw [List.filter_cons_of_neg h, ih,
        List.filterMap_cons_none (broughtText?_of_not_concernsCheck h)]

/-- The actions that precede the first text are the same ones with or without a filter. -/
theorem takeWhile_filter_concernsCheck (actions : List Action) :
    (actions.filter Action.concernsCheck).takeWhile Action.isTextless =
      (actions.takeWhile Action.isTextless).filter Action.concernsCheck := by
  induction actions with
  | nil => rfl
  | cons action actions ih =>
    by_cases h : action.concernsCheck
    · by_cases htext : action.isTextless
      · rw [List.filter_cons_of_pos h, List.takeWhile_cons_of_pos htext, ih,
          List.takeWhile_cons_of_pos htext, List.filter_cons_of_pos h]
      · rw [List.filter_cons_of_pos h, List.takeWhile_cons_of_neg htext,
          List.takeWhile_cons_of_neg htext, List.filter_nil]
    · have htext : action.isTextless := by
        rw [Action.isTextless, broughtText?_of_not_concernsCheck h]
        rfl
      rw [List.filter_cons_of_neg h, ih, List.takeWhile_cons_of_pos htext,
        List.filter_cons_of_neg h]

namespace Check

theorem ofActions_filter (validateFails publishFails : Bool) (actions : List Action) :
    ofActions validateFails publishFails (actions.filter Action.concernsCheck) =
      ofActions validateFails publishFails actions := by
  have hvalidate : Operation.validate ≠ .extract := by decide
  have hpublish : Operation.publish ≠ .extract := by decide
  simp only [ofActions, filterMap_filter_concernsCheck, takeWhile_filter_concernsCheck,
    failsAfterAll_filter hvalidate, failsAfterAll_filter hpublish]

/-- What has no bearing on checks may be left out of a history. -/
theorem ofSteps_eq_of_bearing (validateFails publishFails : Bool) (steps : List Step) :
    ofSteps validateFails publishFails steps =
      ofBatches validateFails publishFails (bearingOnChecks steps) := by
  have hvalidate : Operation.validate ≠ .extract := by decide
  have hpublish : Operation.publish ≠ .extract := by decide
  induction steps generalizing validateFails publishFails with
  | nil => rfl
  | cons step steps ih =>
    rw [ofSteps_cons, ih, ← ofActions_filter, ← failsAfterAll_filter hvalidate _ step.order,
      ← failsAfterAll_filter hpublish _ step.order]
    by_cases hnone : step.order.filter Action.concernsCheck = []
    · -- a step without such actions is left out as a whole, not kept as an empty batch
      have hskip : bearingOnChecks (step :: steps) = bearingOnChecks steps := by
        simp [bearingOnChecks, hnone]
      rw [hskip, hnone]
      rfl
    · have hkeep : bearingOnChecks (step :: steps) =
          step.order.filter Action.concernsCheck :: bearingOnChecks steps := by
        simp [bearingOnChecks, hnone]
      rw [hkeep, ofBatches]

end Check

/-- In every run the events that publish and the records of checks are those of the passes,
one after another: a pass publishes once, unless publishing fails, and is recorded once in
any case. Other actions change neither: failing extractions, hooks from outside, and the
loss of the registry. -/
theorem Session.published_pass_for_pass (steps : List Step) :
    (start.journalOf steps).events.filter Event.isPublish =
      (Check.ofSteps false false steps).flatMap (fun check =>
        if check.publishFails then [] else [.publish "file://dummy.fish" check.diagnostics]) ∧
    (start.journalOf steps).records.filter Record.isCheck =
      (Check.ofSteps false false steps).flatMap (fun check =>
        (if check.failed then
          [⟨.error, .analysis, "Syntax validation failed, clearing diagnostics"⟩] else []) ++
        [⟨.debug, .analysis,
          "Publishing " ++ toString check.diagnostics.length ++ " diagnostics"⟩]) ∧
    ∀ others : List Step, bearingOnChecks others = bearingOnChecks steps →
      (start.journalOf others).events.filter Event.isPublish =
          (start.journalOf steps).events.filter Event.isPublish ∧
        (start.journalOf others).records.filter Record.isCheck =
          (start.journalOf steps).records.filter Record.isCheck := by
  have hevents : ∀ history : List Step, (start.journalOf history).events.filter Event.isPublish =
      (Check.ofSteps false false history).flatMap Check.published :=
    sound_start.published_journalOf
  have hrecords : ∀ history : List Step, (start.journalOf history).records.filter Record.isCheck =
      (Check.ofSteps false false history).flatMap Check.records :=
    sound_start.recorded_journalOf
  refine ⟨hevents steps, hrecords steps, fun others hothers => ?_⟩
  -- the history enters both lists only by its checks
  have hchecks : Check.ofSteps false false others = Check.ofSteps false false steps := by
    rw [Check.ofSteps_eq_of_bearing, hothers, ← Check.ofSteps_eq_of_bearing]
  constructor
  · rw [hevents, hevents, hchecks]
  · rw [hrecords, hrecords, hchecks]

/-- Hooks that fail and the loss of the index and of the registry do not show. -/
theorem published_despite_failures :
    let opened : Step := .single (.request (.opened "file:///a.fish" (Text.ofString "function a")))
    let unchecked : Step := .single (.fail .validate ⟨.value, "no check"⟩)
    let changed : Step := .single (.request (.changed "file:///a.fish" []))
    let steps := [opened, unchecked, changed]
    let others := [.single (.addHook "lint" (some ⟨.type, "bad"⟩)), opened,
      .single (.fail .extract ⟨.runtime, "no index"⟩), unchecked, .single .dropRegistry, changed]
    bearingOnChecks others = bearingOnChecks steps ∧
    (Session.start.journalOf others).events.filter Event.isPublish =
      [.publish "file://dummy.fish" [⟨.function, 0, 10⟩], .publish "file://dummy.fish" []] ∧
    (Session.start.journalOf others).records.filter Record.isCheck =
      [⟨.debug, .analysis, "Publishing 1 diagnostics"⟩,
        ⟨.error, .analysis, "Syntax validation failed, clearing diagnostics"⟩,
        ⟨.debug, .analysis, "Publishing 0 diagnostics"⟩] := by
  intro opened unchecked changed steps others
  have hbearing : bearingOnChecks others = bearingOnChecks steps := by
    simp [bearingOnChecks, others, steps, opened, unchecked, changed, Batch.order_single,
      Action.concernsCheck, Request.text?]
  have hchecks : Check.ofSteps false false steps =
      [⟨Text.ofString "function a", false, false⟩, ⟨[], true, false⟩] := by
    simp only [Check.ofSteps, steps, opened, unchecked, changed, List.map_cons, List.map_nil,
      Batch.order_single]
    rfl
  obtain ⟨hevents, hrecords, hothers⟩ := Session.published_pass_for_pass steps
  obtain ⟨hsameEvents, hsameRecords⟩ := hothers others hbearing
  refine ⟨hbearing, ?_, ?_⟩
  · rw [hsameEvents, hevents, hchecks]
    decide +kernel
  · rw [hsameRecords, hrecords, hchecks]
    decide +kernel

end FishScript
