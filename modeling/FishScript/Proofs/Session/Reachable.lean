import FishScript.Server.Session

/-!
# The sessions that a run comes through

Whatever happens to a running server, two of its parts keep their shape: the built in
hooks stay in front of the hooks from outside, and the registry is the standard one, all
of it registered, until it is dropped.

## Main definitions

- `Session.after` — the session after a history of steps
- `Session.journalOf` — everything that a history of steps writes
- `Session.Sound` — the shape that the parts of a session keep
- `Session.answer` — what a session answers to a request

## Main results

- `Session.getElem?_run` — an outcome of a run is that of its step after the history before
- `Session.Sound.step` — a step keeps the shape
- `Session.sound_after` — so every session of a run has it
- `Session.Sound.registry_after` — only one action takes the registry away, for good
- `Session.Sound.reply_single` — the answer to a request that is made alone
-/

namespace FishScript

namespace Session

/-- The session after a history of steps. -/
def after (session : Session) (history : List Step) : Session :=
  history.foldl (fun current step => (current.step step).session) session

/-- Everything that a history of steps writes into the journal. -/
def journalOf (session : Session) (history : List Step) : Journal :=
  (session.run history).flatMap Outcome.journal

/-- The built in hooks come first and all others are listeners; the registry is the
standard one and has been registered, unless it was dropped. -/
structure Sound (session : Session) : Prop where
  hooks : ∃ added : List (String × Option Fault), session.hooks =
    .syntaxDiagnostics :: .symbolIndex :: added.map fun listener => .listener listener.1 listener.2
  registry : ∀ registry, session.registry = some registry →
    registry = ⟨Registry.standard.entries, true⟩

/-! ### Runs and histories -/

@[simp]
theorem after_cons (session : Session) (step : Step) (steps : List Step) :
    session.after (step :: steps) = (session.step step).session.after steps := rfl

theorem after_append (session : Session) (a b : List Step) :
    session.after (a ++ b) = (session.after a).after b :=
  List.foldl_append

@[simp]
theorem journalOf_cons (session : Session) (step : Step) (steps : List Step) :
    session.journalOf (step :: steps) =
      (session.step step).journal ++ (session.step step).session.journalOf steps := rfl

theorem getElem?_run (session : Session) (history : List Step) (step : Step)
    (later : List Step) :
    (session.run (history ++ step :: later))[history.length]? =
      some ((session.after history).step step) := by
  induction history generalizing session with
  | nil => rfl
  | cons first history ih => exact ih (session.step first).session

/-! ### Sound sessions -/

theorem sound_start : Sound start where
  hooks := ⟨[], rfl⟩
  registry := by
    intro registry h
    exact (Option.some.inj h).symm

theorem Sound.withSymbols {session : Session} (h : session.Sound) (symbols : Symbols) :
    Sound { session with symbols := symbols } :=
  ⟨h.hooks, h.registry⟩

/-- A request changes nothing on its arrival. -/
theorem receive_session (session : Session) (request : Request) :
    (session.receive request).session = session := by
  unfold receive
  split <;> rfl

/-- Registering once more does nothing, since everything has been registered. -/
theorem Sound.registerAgain_eq {session : Session} (h : session.Sound) :
    session.registerAgain = ⟨session, [], .nothing⟩ := by
  obtain ⟨symbols, hooks, registry, outages⟩ := session
  cases registry with
  | none => rfl
  | some registry =>
    have hregistry : registry = ⟨Registry.standard.entries, true⟩ := h.registry registry rfl
    rw [hregistry]
    rfl

theorem Sound.arrive {session : Session} (h : session.Sound) (action : Action) :
    (session.arrive action).session.Sound := by
  cases action with
  | request request =>
    rw [Session.arrive, receive_session]
    exact h
  | addHook name fault =>
    obtain ⟨added, hadded⟩ := h.hooks
    refine ⟨⟨added ++ [(name, fault)], ?_⟩, h.registry⟩
    simp [Session.arrive, hadded]
  | fail operation fault => exact ⟨h.hooks, h.registry⟩
  | mend operation => exact ⟨h.hooks, h.registry⟩
  | dropRegistry => exact ⟨h.hooks, fun _ hnone => nomatch hnone⟩
  | registerAgain =>
    rw [Session.arrive, h.registerAgain_eq]
    exact h

theorem Sound.intake {session : Session} (h : session.Sound) (actions : List Action) :
    (Intake.ofActions session actions).session.Sound := by
  induction actions generalizing session with
  | nil => exact h
  | cons action actions ih => exact ih (h.arrive action)

theorem Sound.step {session : Session} (h : session.Sound) (step : Step) :
    (session.step step).session.Sound :=
  (h.intake step.order).withSymbols _

theorem Sound.after {session : Session} (h : session.Sound) (history : List Step) :
    (session.after history).Sound := by
  induction history generalizing session with
  | nil => exact h
  | cons step history ih => exact ih (h.step step)

theorem sound_after (history : List Step) : (start.after history).Sound :=
  sound_start.after history

/-! ### The registry -/

/-- Only one action takes the registry away, and none brings it back. -/
theorem Sound.registry_arrive {session : Session} (h : session.Sound) (action : Action) :
    (session.arrive action).session.registry =
      if action = .dropRegistry then none else session.registry := by
  cases action with
  | request request => rw [Session.arrive, receive_session, if_neg nofun]
  | addHook name fault => rfl
  | fail operation fault => rfl
  | mend operation => rfl
  | dropRegistry => rfl
  | registerAgain => rw [Session.arrive, h.registerAgain_eq, if_neg nofun]

theorem Sound.registry_intake {session : Session} (h : session.Sound) (actions : List Action) :
    (Intake.ofActions session actions).session.registry =
      if Action.dropRegistry ∈ actions then none else session.registry := by
  induction actions generalizing session with
  | nil => rfl
  | cons action actions ih =>
    have hlater := ih (h.arrive action)
    rw [h.registry_arrive] at hlater
    refine hlater.trans ?_
    by_cases hlast : Action.dropRegistry ∈ actions
    · rw [if_pos hlast, if_pos (List.mem_cons_of_mem _ hlast)]
    · rw [if_neg hlast]
      simp [hlast, eq_comm]

theorem Sound.registry_after {session : Session} (h : session.Sound) (history : List Step) :
    (session.after history).registry =
      if ∃ step ∈ history, Action.dropRegistry ∈ step.order then none else session.registry := by
  induction history generalizing session with
  | nil => rfl
  | cons step history ih =>
    have hlater := ih (h.step step)
    have hstep : (session.step step).session.registry =
        if Action.dropRegistry ∈ step.order then none else session.registry :=
      h.registry_intake step.order
    rw [after_cons, hlater, hstep]
    by_cases hlast : ∃ step ∈ history, Action.dropRegistry ∈ step.order
    · obtain ⟨last, hmem, hdrop⟩ := hlast
      rw [if_pos ⟨last, hmem, hdrop⟩, if_pos ⟨last, List.mem_cons_of_mem step hmem, hdrop⟩]
    · rw [if_neg hlast]
      simp [hlast]

/-! ### Answers -/

/-- While there is a registry, completion offers the catalog and the names of the symbols;
without one it offers nothing. -/
theorem Sound.complete_eq {session : Session} (h : session.Sound) :
    session.complete =
      ([], .ok (if session.registry.isSome then session.symbols.completion else [])) := by
  obtain ⟨symbols, hooks, registry, outages⟩ := session
  cases registry with
  | none => rfl
  | some registry =>
    have hregistry : registry = ⟨Registry.standard.entries, true⟩ := h.registry registry rfl
    have hoffers : Registry.completeWith symbols
        [.syntaxDiagnostics, .symbolIndex, .fishCompletion] = ([], .ok symbols.completion) := by
      simp [Registry.completeWith, Capability.offer, Except.map]
    rw [hregistry]
    exact hoffers

/-- The answer to a request that arrives at a session. -/
def answer (session : Session) : Request → Reply
  | .completion => .items (if session.registry.isSome then session.symbols.completion else [])
  | _ => .nothing

theorem Sound.receive_reply {session : Session} (h : session.Sound) (request : Request) :
    (session.receive request).reply = session.answer request := by
  cases request with
  | initialized => rfl
  | opened uri text => rfl
  | changed uri contents => rfl
  | completion =>
    rw [receive, Request.notice?, h.complete_eq]
    rfl

theorem Sound.reply_single {session : Session} (h : session.Sound) (request : Request) :
    (session.step (.single (.request request))).reply = .single (session.answer request) := by
  have hreplies : (Intake.ofActions session [.request request]).replies =
      [session.answer request] := by
    rw [Intake.ofActions, Session.arrive, h.receive_reply]
    rfl
  rw [Session.step, Batch.order_single, hreplies, Batch.answered_single]

end Session

end FishScript
