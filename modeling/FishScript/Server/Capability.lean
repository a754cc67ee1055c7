import FishScript.Completion.Catalog
import FishScript.Server.Hook

/-!
# Capabilities

A capability contributes to the server: it may analyze every text through a text
hook, or answer completion requests. Three capabilities are built in. Extensions
are added from outside; they announce each call in the journal, and they may
refuse to register a number of times.

## Main definitions

- `Capability` — the built in capabilities and the extensions
- `Capability.hook?` — the text hook of a capability that analyzes
- `Capability.register` — adds the text hook of a capability to those of the server
- `Capability.offer` — the completion items of a capability
- `Capability.Family` — the groups by which capabilities are looked up
-/

namespace FishScript

/-- What an extension does for the server. -/
inductive Service where
  /-- Nothing beyond its registration. -/
  | none
  /-- Answers completion requests, if it handles them at all. -/
  | completion (handles : Bool) (items : List Item) (fault : Option Fault)
  /-- Analyzes every text. -/
  | analysis (fault : Option Fault)
deriving DecidableEq

/-- A capability that is added from outside. -/
structure Extension where
  name : String
  description : String
  /-- How many of its next registrations fail. -/
  refusals : Nat
  service : Service
deriving DecidableEq

/-- A part of the server that analyzes texts or completes input. -/
inductive Capability where
  | syntaxDiagnostics
  | symbolIndex
  | fishCompletion
  | extension (extension : Extension)
deriving DecidableEq

/-- The text hooks of a server; there are none to add to before text
synchronization is set up. -/
abbrev TextSync := Option (List Hook)

/-- What the registration of one capability leaves behind. -/
structure Registration where
  capability : Capability
  sync : TextSync
  journal : Journal
  fault : Option Fault
deriving DecidableEq

namespace Capability

def name : Capability → String
  | .syntaxDiagnostics => "syntax_diagnostics"
  | .symbolIndex => "symbol_index"
  | .fishCompletion => "fish_completion"
  | .extension e => e.name

def description : Capability → String
  | .syntaxDiagnostics => "Report malformed function blocks and variable declarations"
  | .symbolIndex => "Index user-defined functions and variables for completion"
  | .fishCompletion => "Autocomplete fish builtins and user-defined functions and variables"
  | .extension e => e.description

/-- The text hook of a capability that analyzes texts. -/
def hook? : Capability → Option Hook
  | .syntaxDiagnostics => some .syntaxDiagnostics
  | .symbolIndex => some .symbolIndex
  | .fishCompletion => none
  | .extension e =>
    match e.service with
    | .analysis fault => some (.extension e.name fault)
    | _ => none

/-- The capability behind a text hook, by name. -/
def nameOfHook? : Hook → Option String
  | .syntaxDiagnostics => some (name .syntaxDiagnostics)
  | .symbolIndex => some (name .symbolIndex)
  | .extension owner _ => some owner
  | .listener _ _ => none

/-- Adds the text hook of a capability behind the existing ones. A capability that
analyzes texts cannot do without text synchronization. -/
def attach (capability : Capability) (sync : TextSync) : Except Fault TextSync :=
  match capability.hook?, sync with
  | none, _ => .ok sync
  | some hook, some hooks => .ok (some (hooks ++ [hook]))
  | some _, none => .error ⟨.runtime,
      capability.name ++ " requires the text sync manager to be registered first"⟩

/-- What a capability announces when it is asked to register. -/
def announcement : Capability → Journal
  | .extension e => [.event (.register e.name)]
  | _ => []

/-- The fault of a capability that refuses to register, and the capability as it
is afterwards. -/
def refusal? : Capability → Option (Fault × Capability)
  | .extension e =>
    match e.refusals with
    | 0 => none
    | n + 1 => some (⟨.runtime, "register failed: " ++ e.name⟩,
        .extension { e with refusals := n })
  | _ => none

/-- Registers one capability. Nothing is added to the text hooks if it fails. -/
def register (capability : Capability) (sync : TextSync) : Registration :=
  match capability.refusal? with
  | some (fault, capability') => ⟨capability', sync, capability.announcement, some fault⟩
  | none =>
    match capability.attach sync with
    | .ok sync' => ⟨capability, sync', capability.announcement, none⟩
    | .error fault => ⟨capability, sync, capability.announcement, some fault⟩

/-- What a capability contributes to a completion list. One that does not answer
completion requests is not asked and contributes nothing. -/
def offer (symbols : Symbols) : Capability → Journal × Except Fault (List Item)
  | .fishCompletion => ([], .ok symbols.completion)
  | .extension e =>
    match e.service with
    | .completion false _ _ => ([.event (.canHandle e.name)], .ok [])
    | .completion true items fault =>
      ([.event (.canHandle e.name), .event (.complete e.name)],
        match fault with
        | some fault => .error fault
        | none => .ok items)
    | _ => ([], .ok [])
  | _ => ([], .ok [])

def completes : Capability → Bool
  | .fishCompletion => true
  | .extension e =>
    match e.service with
    | .completion _ _ _ => true
    | _ => false
  | _ => false

/-- The groups by which capabilities are looked up. -/
inductive Family where
  | any
  | completion
  | analysis
  | syntaxDiagnostics
  | symbolIndex
  | fishCompletion
deriving DecidableEq

def belongsTo (capability : Capability) : Family → Bool
  | .any => true
  | .completion => capability.completes
  | .analysis => capability.hook?.isSome
  | .syntaxDiagnostics => capability == .syntaxDiagnostics
  | .symbolIndex => capability == .symbolIndex
  | .fishCompletion => capability == .fishCompletion

end Capability

end FishScript
