import FishScript.Server.Registry

/-!
# Assembling a server

Before a server runs, its parts are put together: text synchronization is set up
and capabilities are registered, in any order and repeatedly. An assembly is a
server in that stage, and each of its parts can be tried out.

## Main definitions

- `Assembly` — a server that is being put together
- `Assembly.Step` — the things that can be done with it
- `Assembly.step` — what each of them does
-/

namespace FishScript

/-- A server that is being put together. -/
structure Assembly where
  symbols : Symbols
  sync : TextSync
  registry : Registry
deriving DecidableEq

namespace Assembly

/-- An assembly that has a registry and nothing else. -/
def ofRegistry (registry : Registry) : Assembly where
  symbols := .empty
  sync := none
  registry := registry

/-- The things that can be done with an assembly. -/
inductive Step where
  | registerAll
  /-- Sets up text synchronization afresh, without any hook. -/
  | installTextSync
  | get (key : String)
  | ofFamily (family : Capability.Family)
  | completion
  | broadcast (text : Text)
  | hooks
deriving DecidableEq

inductive Reply where
  | nothing
  | capability (capability : Option Capability)
  | names (names : List String)
  | items (items : List Item)
  | failure (fault : Fault)
deriving DecidableEq

structure Outcome where
  assembly : Assembly
  journal : Journal
  reply : Reply
deriving DecidableEq

def step (assembly : Assembly) : Step → Outcome
  | .registerAll =>
    let (registry, enrollment) := assembly.registry.registerAll assembly.sync
    { assembly := { assembly with registry := registry, sync := enrollment.sync }
      journal := enrollment.journal
      reply := (enrollment.fault.map Reply.failure).getD .nothing }
  | .installTextSync => ⟨{ assembly with sync := some [] }, [], .nothing⟩
  | .get key => ⟨assembly, [], .capability (assembly.registry.get? key)⟩
  | .ofFamily family =>
    ⟨assembly, [], .names ((assembly.registry.ofFamily family).map Capability.name)⟩
  | .completion =>
    match assembly.registry.complete assembly.symbols with
    | (journal, .ok items) => ⟨assembly, journal, .items items⟩
    | (journal, .error fault) => ⟨assembly, journal, .failure fault⟩
  | .broadcast text =>
    let effect := FishScript.broadcast ⟨text, .none⟩ (assembly.sync.getD []) assembly.symbols
    ⟨{ assembly with symbols := effect.symbols }, effect.journal, .nothing⟩
  | .hooks =>
    ⟨assembly, [], .names ((assembly.sync.getD []).filterMap Capability.nameOfHook?)⟩

def run (assembly : Assembly) : List Step → List Outcome
  | [] => []
  | step :: steps =>
    let outcome := assembly.step step
    outcome :: run outcome.assembly steps

end Assembly

end FishScript
