import FishScript.Server.Capability

/-!
# The registry of capabilities

A registry holds capabilities under keys, in the order in which the keys were
first given. All of them are registered in that order; a capability that fails
stops the registration, which may then be tried again. Once a registration has
gone through, further ones do nothing.

## Main definitions

- `Registry` — capabilities under keys
- `Registry.standard` — the registry with the built in capabilities
- `Registry.registerAll` — registers the capabilities in order
- `Registry.complete` — joins what the capabilities offer for completion
-/

namespace FishScript

/-- Capabilities under keys, and whether they have been registered. -/
structure Registry where
  entries : List (String × Capability)
  registered : Bool
deriving DecidableEq

/-- What a registration of several capabilities leaves behind. -/
structure Enrollment where
  entries : List (String × Capability)
  sync : TextSync
  journal : Journal
  fault : Option Fault
deriving DecidableEq

namespace Enrollment

/-- Registers capabilities in order, up to and including the first that fails. -/
def ofEntries : List (String × Capability) → TextSync → Enrollment
  | [], sync => ⟨[], sync, [], none⟩
  | (key, capability) :: rest, sync =>
    let first := capability.register sync
    match first.fault with
    | some fault => ⟨(key, first.capability) :: rest, first.sync, first.journal, some fault⟩
    | none =>
      let later := ofEntries rest first.sync
      ⟨(key, first.capability) :: later.entries, later.sync, first.journal ++ later.journal,
        later.fault⟩

end Enrollment

namespace Registry

/-- Puts a capability under a key. A key that is there already keeps its place. -/
def put (entries : List (String × Capability)) (key : String) (capability : Capability) :
    List (String × Capability) :=
  if entries.any (·.1 == key) then
    entries.map fun entry => if entry.1 == key then (key, capability) else entry
  else entries ++ [(key, capability)]

/-- A registry with the given capabilities, none of them registered yet. -/
def ofList (entries : List (String × Capability)) : Registry where
  entries := entries.foldl (fun known entry => put known entry.1 entry.2) []
  registered := false

def standard : Registry :=
  .ofList [("syntax_diagnostics", .syntaxDiagnostics), ("symbol_index", .symbolIndex),
    ("fish_completion", .fishCompletion)]

def capabilities (registry : Registry) : List Capability :=
  registry.entries.map Prod.snd

/-- Registers all capabilities, unless that has been done. -/
def registerAll (registry : Registry) (sync : TextSync) : Registry × Enrollment :=
  if registry.registered then (registry, ⟨registry.entries, sync, [], none⟩)
  else
    let enrollment := Enrollment.ofEntries registry.entries sync
    (⟨enrollment.entries, enrollment.fault.isNone⟩, enrollment)

def get? (registry : Registry) (key : String) : Option Capability :=
  registry.entries.lookup key

def ofFamily (registry : Registry) (family : Capability.Family) : List Capability :=
  registry.capabilities.filter (·.belongsTo family)

/-- Joins what capabilities offer, in order. The first fault ends the request. -/
def completeWith (symbols : Symbols) : List Capability → Journal × Except Fault (List Item)
  | [] => ([], .ok [])
  | capability :: rest =>
    match capability.offer symbols with
    | (journal, .error fault) => (journal, .error fault)
    | (journal, .ok items) =>
      let later := completeWith symbols rest
      (journal ++ later.1, later.2.map (items ++ ·))

def complete (registry : Registry) (symbols : Symbols) : Journal × Except Fault (List Item) :=
  completeWith symbols registry.capabilities

end Registry

end FishScript
