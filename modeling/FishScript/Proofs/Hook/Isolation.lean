import FishScript.Server.Hook

/-!
# Faults of hooks stay with the hooks

A hook that is called does its work and may then raise a fault. A pass calls the hooks in
turn; it catches each fault where it is raised, reports it, and goes on. Here this is said
with computations that raise and catch. The one for a pass never ends with a fault, and what it
leaves behind is the effect of the pass, in which each hook has a part of its own.

## Main definitions

- `Work` — a computation of a server, which may end with a fault
- `Work.guarded` — calls in turn, the fault of each caught and reported
- `Hook.call` — a hook that is called
- `Hook.reported` — the report that a hook leaves, if it ends with a fault
- `Entry.isReport`, `Event.isCall` — reports, and the events of hooks that announce their calls

## Main results

- `Work.run_guarded` — calls in turn raise no fault, whatever each of them does
- `run_guarded_calls` — a pass is the calls of its hooks in turn
- `journal_broadcast` — each hook has its part in what a pass writes, the report behind it
- `reports_broadcast`, `calls_broadcast` — the reports alone, and the calls alone
- `broadcast_isolates` — all of this in one
-/

namespace FishScript

/-- A computation that has an effect and may end with a fault. What was done before the fault
stays done. -/
abbrev Work := EStateM Fault Effect

/-- What is reported if a hook called `name` ends with a fault: a record, and a message with the
name, the kind and the message of the fault. -/
def Fault.report (name : String) (fault : Fault) : Journal :=
  [.record ⟨.error, .textSync, "Text hook " ++ name ++ " failed"⟩,
    .event (.message .error
      ("Error in text hook " ++ name ++ ": " ++ fault.kind.name ++ ": " ++ fault.message))]

namespace Work

def write (entries : Journal) : Work Unit :=
  modify fun effect => { effect with journal := effect.journal ++ entries }

/-- Calls in turn, each under a name. A fault is caught before the next call and reported under
the name of the call that raised it. -/
def guarded (calls : List (String × Work Unit)) : Work Unit :=
  forM calls fun call => tryCatch call.2 fun fault => write (fault.report call.1)

/-- What one call leaves behind, with the report of its fault. -/
def handled (before : Effect) (call : String × Work Unit) : Effect :=
  match call.2.run before with
  | .ok _ after => after
  | .error fault after => { after with journal := after.journal ++ fault.report call.1 }

theorem run_tryCatch_report (call : String × Work Unit) (before : Effect) :
    (tryCatch call.2 fun fault => write (fault.report call.1)).run before =
      .ok () (handled before call) := by
  show EStateM.tryCatch call.2 (fun fault => write (fault.report call.1)) before = _
  unfold EStateM.tryCatch handled EStateM.run
  cases call.2 before <;> rfl

/-- Calls in turn end without a fault, whatever each of them does. Each is made once, on what
the calls before have left behind. -/
theorem run_guarded (calls : List (String × Work Unit)) (before : Effect) :
    (guarded calls).run before = .ok () (calls.foldl handled before) := by
  induction calls generalizing before with
  | nil => rfl
  | cons call calls ih =>
    rw [guarded, List.forM_cons, EStateM.run_bind, run_tryCatch_report]
    exact ih (handled before call)

end Work

/-- A hook is called: it does its work, and then raises its fault, if it has one. -/
def Hook.call (pass : Pass) (hook : Hook) : Work Unit := do
  modify fun before =>
    let effect := hook.run pass before.symbols
    ⟨effect.symbols, before.journal ++ effect.journal⟩
  match hook.fault? pass.outages with
  | none => pure ()
  | some fault => throw fault

/-- The report that a hook leaves, if it ends with a fault. -/
def Hook.reported (outages : Outages) (hook : Hook) : Journal :=
  match hook.fault? outages with
  | none => []
  | some fault => fault.report hook.name

/-- Whether an entry reports the fault of a hook. -/
def Entry.isReport : Entry → Bool
  | .record written => written.source == .textSync
  | .event (.message severity _) => severity == .error
  | .event _ => false

/-- Whether an event tells that a hook is called. -/
def Event.isCall : Event → Bool
  | .hook _ _ => true
  | .analyze _ _ => true
  | _ => false

/-- The event with which a hook tells that it is called, if it does. -/
def Hook.announced? (text : Text) : Hook → Option Event
  | .listener name _ => some (.hook name text)
  | .extension name _ => some (.analyze name text)
  | _ => none

/-! ### One hook -/

theorem Hook.report_eq (hook : Hook) (fault : Fault) :
    hook.report fault = fault.report hook.name := by
  simp [Hook.report, Fault.report, Fault.description, String.append_assoc]

theorem Hook.attempt_eq (pass : Pass) (hook : Hook) (known : Symbols) :
    hook.attempt pass known =
      ⟨(hook.run pass known).symbols,
        (hook.run pass known).journal ++ hook.reported pass.outages⟩ := by
  unfold Hook.attempt Hook.reported
  cases hook.fault? pass.outages with
  | none => rfl
  | some fault => simp [Hook.report_eq]

/-- What a hook writes depends on the text alone, not on the symbols that are known. -/
theorem Hook.journal_run (pass : Pass) (hook : Hook) (known other : Symbols) :
    (hook.run pass known).journal = (hook.run pass other).journal := by
  cases hook with
  | symbolIndex =>
    unfold Hook.run Hook.indexSymbols
    cases pass.outages.extract <;> rfl
  | syntaxDiagnostics => rfl
  | extension name fault => rfl
  | listener name fault => rfl

/-- A hook that is called leaves behind what the pass has of it. -/
theorem Hook.handled_call (pass : Pass) (hook : Hook) (before : Effect) :
    Work.handled before (hook.name, hook.call pass) =
      ⟨(hook.attempt pass before.symbols).symbols,
        before.journal ++ (hook.attempt pass before.symbols).journal⟩ := by
  rw [Hook.attempt_eq]
  unfold Work.handled Hook.reported Hook.call
  cases hook.fault? pass.outages with
  | none => simp
  | some fault => simp [EStateM.run_bind]

/-- A hook does nothing by itself that looks like the report of a fault. -/
theorem Hook.reports_run (pass : Pass) (hook : Hook) (known : Symbols) :
    (hook.run pass known).journal.filter Entry.isReport = [] := by
  have hsource : (Record.Source.analysis == .textSync) = false := by decide
  cases hook with
  | syntaxDiagnostics =>
    unfold Hook.run Hook.checkSyntax
    cases Hook.published pass <;> cases pass.outages.publish <;> simp [Entry.isReport, hsource]
  | symbolIndex =>
    unfold Hook.run Hook.indexSymbols
    cases pass.outages.extract <;> simp [Entry.isReport, hsource]
  | extension name fault => rfl
  | listener name fault => rfl

theorem Hook.reports_reported (outages : Outages) (hook : Hook) :
    (hook.reported outages).filter Entry.isReport = hook.reported outages := by
  unfold Hook.reported
  cases hook.fault? outages <;> rfl

/-- A hook announces its call once, if it does so at all. -/
theorem Hook.calls_attempt (pass : Pass) (hook : Hook) (known : Symbols) :
    (hook.attempt pass known).journal.events.filter Event.isCall =
      (hook.announced? pass.text).toList := by
  have hreported : (hook.reported pass.outages).events.filter Event.isCall = [] := by
    unfold Hook.reported
    cases hook.fault? pass.outages <;> rfl
  rw [Hook.attempt_eq, Journal.events_append, List.filter_append, hreported, List.append_nil]
  cases hook with
  | syntaxDiagnostics =>
    unfold Hook.run Hook.checkSyntax
    cases Hook.published pass <;> cases pass.outages.publish <;> rfl
  | symbolIndex =>
    unfold Hook.run Hook.indexSymbols
    cases pass.outages.extract <;> rfl
  | extension name fault => rfl
  | listener name fault => rfl

/-! ### One pass -/

theorem symbols_broadcast_eq_foldl (pass : Pass) (hooks : List Hook) (symbols : Symbols) :
    (broadcast pass hooks symbols).symbols =
      hooks.foldl (fun known hook => (hook.run pass known).symbols) symbols := by
  induction hooks generalizing symbols with
  | nil => rfl
  | cons hook hooks ih => exact ih _

/-- In what a pass writes each hook has one part, and the report of its fault is the end of it. -/
theorem journal_broadcast (pass : Pass) (hooks : List Hook) (symbols known : Symbols) :
    (broadcast pass hooks symbols).journal =
      hooks.flatMap fun hook => (hook.run pass known).journal ++ hook.reported pass.outages := by
  induction hooks generalizing symbols with
  | nil => rfl
  | cons hook hooks ih =>
    rw [broadcast, List.flatMap_cons, ih, Hook.attempt_eq, hook.journal_run pass symbols known]

/-- What a pass writes does not depend on the symbols that it starts from. -/
theorem journal_broadcast_congr (pass : Pass) (hooks : List Hook) (symbols known : Symbols) :
    (broadcast pass hooks symbols).journal = (broadcast pass hooks known).journal := by
  rw [journal_broadcast pass hooks symbols known, ← journal_broadcast pass hooks known known]

theorem reports_broadcast (pass : Pass) (hooks : List Hook) (symbols : Symbols) :
    (broadcast pass hooks symbols).journal.filter Entry.isReport =
      hooks.flatMap (Hook.reported pass.outages) := by
  induction hooks generalizing symbols with
  | nil => rfl
  | cons hook hooks ih =>
    rw [broadcast, List.filter_append, ih, List.flatMap_cons, Hook.attempt_eq, List.filter_append,
      Hook.reports_run, Hook.reports_reported, List.nil_append]

theorem calls_broadcast (pass : Pass) (hooks : List Hook) (symbols : Symbols) :
    (broadcast pass hooks symbols).journal.events.filter Event.isCall =
      hooks.filterMap (Hook.announced? pass.text) := by
  induction hooks generalizing symbols with
  | nil => rfl
  | cons hook hooks ih =>
    rw [broadcast, Journal.events_append, List.filter_append, ih, Hook.calls_attempt,
      List.filterMap_cons]
    cases hook.announced? pass.text <;> rfl

/-- The calls of all hooks in turn, with their faults caught, are the pass. -/
theorem run_guarded_calls (pass : Pass) (hooks : List Hook) (before : Effect) :
    (Work.guarded (hooks.map fun hook => (hook.name, hook.call pass))).run before =
      .ok () ⟨(broadcast pass hooks before.symbols).symbols,
        before.journal ++ (broadcast pass hooks before.symbols).journal⟩ := by
  rw [Work.run_guarded]
  congr 1
  induction hooks generalizing before with
  | nil => simp [broadcast]
  | cons hook hooks ih => simp [broadcast, Hook.handled_call, ih]

/-- Faults of hooks are isolated. The computation that calls the hooks on a text, one after
another, and catches their faults ends without a fault. Its effect is that of the pass: each
hook is called once, in order and on this text, works on the symbols that it finds, and writes
what it would write alone; behind that stands the report of its fault, if it has one, and nothing
else is reported. So a pass through more hooks writes what it writes for these and then what it
writes for the others. -/
theorem broadcast_isolates (text : Text) (outages : Outages) (hooks : List Hook)
    (symbols : Symbols) :
    let pass : Pass := ⟨text, outages⟩
    let effect := broadcast pass hooks symbols
    let reported : Hook → Journal := fun hook =>
      match hook.fault? outages with
      | none => []
      | some fault =>
        [.record ⟨.error, .textSync, "Text hook " ++ hook.name ++ " failed"⟩,
          .event (.message .error ("Error in text hook " ++ hook.name ++ ": " ++ fault.kind.name ++
            ": " ++ fault.message))]
    (Work.guarded (hooks.map fun hook => (hook.name, hook.call pass))).run ⟨symbols, []⟩ =
      .ok () effect ∧
    effect.symbols = hooks.foldl (fun known hook => (hook.run pass known).symbols) symbols ∧
    (∀ known, effect.journal =
      hooks.flatMap fun hook => (hook.run pass known).journal ++ reported hook) ∧
    effect.journal.filter Entry.isReport = hooks.flatMap reported ∧
    effect.journal.events.filter Event.isCall = hooks.filterMap (Hook.announced? text) ∧
    ∀ more, (broadcast pass (hooks ++ more) symbols).journal =
      effect.journal ++ (broadcast pass more symbols).journal := by
  intro pass effect reported
  refine ⟨run_guarded_calls pass hooks ⟨symbols, []⟩, symbols_broadcast_eq_foldl pass hooks symbols,
    journal_broadcast pass hooks symbols, reports_broadcast pass hooks symbols,
    calls_broadcast pass hooks symbols, fun more => ?_⟩
  -- The others go on from the symbols that these leave behind.
  have hmore : (broadcast pass more effect.symbols).journal =
      (broadcast pass more symbols).journal :=
    journal_broadcast_congr pass more effect.symbols symbols
  rw [broadcast_append]
  exact congrArg (effect.journal ++ ·) hmore

end FishScript
