import FishScript.Server.Assembly

/-!
# Completion by several capabilities

A completion request goes to the capabilities that complete, in order. Each is first asked
whether it handles the request, and then, if it does, for its items. The first fault ends the
request: nobody behind it is asked, and what has been collected is dropped.

## Main definitions

- `Capability.handles` — whether a capability handles completion requests
- `Capability.questions` — what it announces when it is asked
- `Capability.completionFault?`, `Capability.served` — the fault or the items it answers

## Main results

- `Capability.offer_of_completes` — one capability
- `Registry.completeWith_eq` — several, one after another
- `Assembly.completion_asks_in_turn` — a request to an assembly
-/

namespace FishScript

namespace Capability

/-- Whether a capability handles completion requests. -/
def handles : Capability → Bool
  | .fishCompletion => true
  | .extension e =>
    match e.service with
    | .completion handles _ _ => handles
    | _ => false
  | _ => false

/-- What a capability that completes announces when it is asked: the question whether it handles
the request and, behind that if it does, the question for its items. -/
def questions : Capability → List Event
  | .extension e =>
    .canHandle e.name :: if (Capability.extension e).handles then [.complete e.name] else []
  | _ => []

/-- The fault with which a capability answers a request that it handles. -/
def completionFault? : Capability → Option Fault
  | .extension e =>
    match e.service with
    | .completion true _ fault => fault
    | _ => none
  | _ => none

/-- The items with which a capability answers a request that it handles. -/
def served (symbols : Symbols) : Capability → List Item
  | .fishCompletion => symbols.completion
  | .extension e =>
    match e.service with
    | .completion true items _ => items
    | _ => []
  | _ => []

theorem offer_of_completes {capability : Capability} (h : capability.completes)
    (symbols : Symbols) :
    capability.offer symbols =
      (capability.questions.map .event,
        capability.completionFault?.elim (.ok (capability.served symbols)) .error) := by
  match capability, h with
  | .fishCompletion, _ => rfl
  | .extension ⟨name, description, refusals, .completion handles items fault⟩, _ =>
    cases handles <;> cases fault <;> rfl

theorem offer_of_not_completes {capability : Capability} (h : ¬capability.completes)
    (symbols : Symbols) : capability.offer symbols = ([], .ok []) := by
  match capability, h with
  | .syntaxDiagnostics, _ => rfl
  | .symbolIndex, _ => rfl
  | .extension ⟨name, description, refusals, .none⟩, _ => rfl
  | .extension ⟨name, description, refusals, .analysis fault⟩, _ => rfl

end Capability

namespace Registry

open Capability (questions completionFault? served)

/-- Capabilities that do not complete are passed over. -/
theorem completeWith_filter (symbols : Symbols) (capabilities : List Capability) :
    completeWith symbols (capabilities.filter Capability.completes) =
      completeWith symbols capabilities := by
  induction capabilities with
  | nil => rfl
  | cons capability rest ih =>
    by_cases h : capability.completes
    · rw [List.filter_cons_of_pos h, completeWith, completeWith, ih]
    · rw [List.filter_cons_of_neg h, completeWith, ih, Capability.offer_of_not_completes h]
      cases completeWith symbols rest with
      | mk journal answer => cases answer <;> rfl

/-- Capabilities that complete are asked up to the first that answers with a fault. That fault is
the answer, or else the items of all of them are. -/
theorem completeWith_eq (symbols : Symbols) {asked : List Capability}
    (h : ∀ capability ∈ asked, capability.completes) :
    completeWith symbols asked =
      (((asked.take (asked.findIdx (·.completionFault?.isSome) + 1)).flatMap questions).map .event,
        (asked.findSome? completionFault?).elim (.ok (asked.flatMap (served symbols))) .error) := by
  induction asked with
  | nil => rfl
  | cons capability rest ih =>
    obtain ⟨hfirst, hrest⟩ := List.forall_mem_cons.1 h
    rw [completeWith, Capability.offer_of_completes hfirst, List.findIdx_cons, List.findSome?_cons]
    cases hfault : capability.completionFault? with
    | some fault => simp
    | none =>
      rw [ih hrest]
      cases rest.findSome? completionFault? <;> simp [Except.map]

end Registry

/-- Completion asks those of the capabilities in the registry that complete, in the order of their
entries, and no others. Each is asked whether it handles the request and, right behind that, for
its items if it does. If none answers with a fault, the reply has the items of all of them, one
after another; otherwise it is the first fault, and nobody is asked behind it. Nothing else
changes. -/
theorem Assembly.completion_asks_in_turn (assembly : Assembly) :
    let asked := (assembly.registry.entries.map Prod.snd).filter Capability.completes
    let outcome := assembly.step .completion
    outcome.assembly = assembly ∧
    outcome.journal = ((asked.take (asked.findIdx (·.completionFault?.isSome) + 1)).flatMap
      Capability.questions).map .event ∧
    outcome.reply = (asked.findSome? Capability.completionFault?).elim
      (.items (asked.flatMap (Capability.served assembly.symbols))) .failure := by
  intro asked outcome
  have hcompletes : ∀ capability ∈ asked, capability.completes := fun capability h =>
    (List.mem_filter.1 h).2
  have hcomplete : assembly.registry.complete assembly.symbols =
      Registry.completeWith assembly.symbols asked :=
    (Registry.completeWith_filter assembly.symbols (assembly.registry.entries.map Prod.snd)).symm
  rw [Registry.completeWith_eq assembly.symbols hcompletes] at hcomplete
  have houtcome : outcome = assembly.step .completion := rfl
  rw [houtcome, step, hcomplete]
  cases asked.findSome? Capability.completionFault? <;> exact ⟨rfl, rfl, rfl⟩

end FishScript
