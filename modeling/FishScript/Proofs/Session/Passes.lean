import FishScript.Proofs.Session.Reachable

/-!
# The passes of a history

Which texts pass through the hooks, and which operations fail meanwhile, can be read off
the actions of a history. Actions that are started together all arrive before a pass goes
on, so a pass meets what the last of them left behind; only the syntax check of the first
pass begins at once.

## Main definitions

- `Action.broughtText?` — the text that an action brings
- `Operation.failsAfter`, `Operation.failsAfterAll` — which operations fail after actions
- `Outages.failing` — which operations fail in a session

## Main results

- `Intake.failing_ofActions` — a session keeps account of the failing operations
- `Intake.text_passes` — the texts that are due, in the order of their arrival
- `Intake.failing_of_mem_passes` — what they meet
-/

namespace FishScript

/-- The text that an action brings: that of a document which is opened, or the first
content of a change, which is empty if there is none. -/
def Action.broughtText? : Action → Option Text
  | .request (.opened _ text) => some text
  | .request (.changed _ (text :: _)) => some text
  | .request (.changed _ []) => some []
  | _ => none

theorem Action.text?_eq (action : Action) : action.text? = action.broughtText? := by
  rcases action with ((_ | _ | ⟨_, _ | _⟩ | _) | _ | _ | _ | _ | _) <;> rfl

def Action.isTextless (action : Action) : Bool :=
  action.broughtText?.isNone

namespace Operation

/-- Whether an operation fails after an action, if `failing` tells about before. -/
def failsAfter (operation : Operation) (failing : Bool) : Action → Bool
  | .fail other _ => if other = operation then true else failing
  | .mend other => if other = operation then false else failing
  | _ => failing

/-- Whether an operation fails after some actions, if `failing` tells about before. -/
def failsAfterAll (operation : Operation) (failing : Bool) (actions : List Action) : Bool :=
  actions.foldl operation.failsAfter failing

end Operation

namespace Outages

def failing (outages : Outages) : Operation → Bool
  | .validate => outages.validate.isSome
  | .extract => outages.extract.isSome
  | .publish => outages.publish.isSome

theorem failing_set (outages : Outages) (operation : Operation) (fault : Option Fault)
    (other : Operation) :
    (outages.set operation fault).failing other =
      if operation = other then fault.isSome else outages.failing other := by
  cases operation <;> cases other <;> rfl

end Outages

/-- What an action writes when it arrives at a sound session. -/
def Action.notices : Action → Journal
  | .request received =>
    (received.notice?.map fun notice => .event (.message .info notice)).toList
  | _ => []

namespace Session

theorem Sound.journal_arrive {session : Session} (h : session.Sound) (action : Action) :
    (session.arrive action).journal = action.notices := by
  cases action with
  | request request =>
    cases request with
    | initialized => rfl
    | opened uri text => rfl
    | changed uri contents => rfl
    | completion =>
      rw [Session.arrive, receive, Request.notice?, h.complete_eq]
      rfl
  | addHook name fault => rfl
  | fail operation fault => rfl
  | mend operation => rfl
  | dropRegistry => rfl
  | registerAgain =>
    rw [Session.arrive, h.registerAgain_eq]
    rfl

theorem Sound.journal_intake {session : Session} (h : session.Sound) (actions : List Action) :
    (Intake.ofActions session actions).journal = actions.flatMap Action.notices := by
  induction actions generalizing session with
  | nil => rfl
  | cons action actions ih =>
    rw [List.flatMap_cons, ← h.journal_arrive action, ← ih (h.arrive action)]
    rfl

theorem symbols_arrive (session : Session) (action : Action) :
    (session.arrive action).session.symbols = session.symbols := by
  cases action with
  | request request => rw [arrive, receive_session]
  | addHook name fault => rfl
  | fail operation fault => rfl
  | mend operation => rfl
  | dropRegistry => rfl
  | registerAgain =>
    rw [arrive, registerAgain]
    split <;> rfl

/-- A session keeps account of the operations that fail. -/
theorem failing_arrive (session : Session) (action : Action) (operation : Operation) :
    (session.arrive action).session.outages.failing operation =
      operation.failsAfter (session.outages.failing operation) action := by
  cases action with
  | request request =>
    rw [arrive, receive_session]
    rfl
  | addHook name fault => rfl
  | fail other fault => exact Outages.failing_set session.outages other (some fault) operation
  | mend other => exact Outages.failing_set session.outages other none operation
  | dropRegistry => rfl
  | registerAgain =>
    rw [arrive, registerAgain]
    split <;> rfl

end Session

namespace Intake

theorem symbols_ofActions (session : Session) (actions : List Action) :
    (ofActions session actions).session.symbols = session.symbols := by
  induction actions generalizing session with
  | nil => rfl
  | cons action actions ih => exact (ih _).trans (session.symbols_arrive action)

theorem failing_ofActions (session : Session) (actions : List Action) (operation : Operation) :
    (ofActions session actions).session.outages.failing operation =
      operation.failsAfterAll (session.outages.failing operation) actions := by
  induction actions generalizing session with
  | nil => rfl
  | cons action actions ih =>
    calc (ofActions (session.arrive action).session actions).session.outages.failing operation
        = operation.failsAfterAll ((session.arrive action).session.outages.failing operation)
            actions := ih _
      _ = operation.failsAfterAll (operation.failsAfter (session.outages.failing operation) action)
            actions := by rw [session.failing_arrive]

theorem text_texts (session : Session) (actions : List Action) :
    (ofActions session actions).texts.map Pass.text = actions.filterMap Action.broughtText? := by
  induction actions generalizing session with
  | nil => rfl
  | cons action actions ih =>
    rw [List.filterMap_cons, ← ih (session.arrive action).session, ofActions, action.text?_eq]
    cases action.broughtText? <;> rfl

theorem text_passes (session : Session) (actions : List Action) :
    (ofActions session actions).passes.map Pass.text = actions.filterMap Action.broughtText? := by
  rw [← text_texts session actions, passes]
  split
  · next h => rw [h]
  · next first later h =>
    rw [h]
    simp

/-- The syntax check of the first text begins on its arrival. -/
theorem failing_first_text (session : Session) (actions : List Action) :
    ∀ first ∈ (ofActions session actions).texts.head?, first.outages.failing .validate =
      Operation.validate.failsAfterAll (session.outages.failing .validate)
        (actions.takeWhile Action.isTextless) := by
  induction actions generalizing session with
  | nil => exact fun first h => nomatch h
  | cons action actions ih =>
    intro first hfirst
    rw [ofActions, action.text?_eq] at hfirst
    cases htext : action.broughtText? with
    | none =>
      -- the first text comes later, and meets what this action leaves behind
      rw [htext] at hfirst
      rw [List.takeWhile_cons_of_pos (by rw [Action.isTextless, htext]; rfl), ih _ first hfirst,
        session.failing_arrive]
      rfl
    | some text =>
      rw [htext] at hfirst
      rw [List.takeWhile_cons_of_neg (by rw [Action.isTextless, htext]; exact Bool.false_ne_true)]
      rw [← Option.some.inj hfirst]
      rfl

/-- Nothing but the syntax check of the first pass begins before the last arrival. -/
theorem failing_of_mem_passes {session : Session} {actions : List Action} {pass : Pass}
    (h : pass ∈ (ofActions session actions).passes) {operation : Operation}
    (hoperation : operation ≠ .validate) :
    pass.outages.failing operation =
      operation.failsAfterAll (session.outages.failing operation) actions := by
  rw [← failing_ofActions]
  unfold passes at h
  split at h
  · exact absurd h List.not_mem_nil
  · next first later _ =>
    obtain rfl | hlater := List.mem_cons.1 h
    · rw [Outages.failing_set, if_neg (Ne.symm hoperation)]
    · obtain ⟨_, -, rfl⟩ := List.mem_map.1 hlater
      rfl

end Intake

theorem Session.failing_step (session : Session) (step : Step) (operation : Operation) :
    (session.step step).session.outages.failing operation =
      operation.failsAfterAll (session.outages.failing operation) step.order :=
  Intake.failing_ofActions session step.order operation

end FishScript
