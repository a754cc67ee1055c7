import FishScript.Server.Fault
import FishScript.Server.Journal
import FishScript.Script.Symbols

/-!
# Text hooks

Whenever a document is opened or changed, its whole text goes through every text
hook, in the order of their registration: this is one pass. The two hooks of the
server check the syntax and index the symbols. A hook that fails is reported and
does not keep the later ones from running.

## Main definitions

- `Hook` — what runs on a text
- `Outages` — the operations of the server that are failing
- `Pass` — a text on its way through the hooks, and the outages that it meets
- `Hook.run` — what one hook does, and the fault it ends with, if any
- `Hook.attempt` — one hook together with the report of its fault
- `broadcast` — one pass through a list of hooks
- `broadcastAll` — several passes, one after another

## Main results

- `broadcast_append` — a pass through two lists of hooks is a pass through one
  and then through the other
-/

namespace FishScript

/-- The operations that may be failing. -/
inductive Operation where
  | validate
  | extract
  | publish
deriving DecidableEq

/-- For each operation the fault it ends with, or nothing while it works. -/
structure Outages where
  validate : Option Fault
  extract : Option Fault
  publish : Option Fault
deriving DecidableEq

namespace Outages

def none : Outages where
  validate := .none
  extract := .none
  publish := .none

/-- From now on an operation ends with the given fault, or works. -/
def set (outages : Outages) (operation : Operation) (fault : Option Fault) : Outages :=
  match operation with
  | .validate => { outages with validate := fault }
  | .extract => { outages with extract := fault }
  | .publish => { outages with publish := fault }

end Outages

/-- What runs on the text of a document. -/
inductive Hook where
  /-- Checks the syntax and publishes the diagnostics. -/
  | syntaxDiagnostics
  /-- Puts the symbols of the text in place of the previous ones. -/
  | symbolIndex
  /-- Analyzes the text on behalf of an extension. -/
  | extension (name : String) (fault : Option Fault)
  /-- Was added from outside. -/
  | listener (name : String) (fault : Option Fault)
deriving DecidableEq

/-- A text on its way through the hooks, and the outages that it meets there. -/
structure Pass where
  text : Text
  outages : Outages
deriving DecidableEq

/-- What has happened: the symbols that are known now, and the journal. -/
structure Effect where
  symbols : Symbols
  journal : Journal
deriving DecidableEq

/-- The identifier under which diagnostics are published, whatever the document. -/
def diagnosticsUri : String := "file://dummy.fish"

namespace Hook

/-- The name under which the fault of a hook is reported. -/
def name : Hook → String
  | .syntaxDiagnostics => "analyze"
  | .symbolIndex => "analyze"
  | .extension _ _ => "analyze"
  | .listener name _ => name

/-- What is published in a pass: the diagnostics of its text, or none of them while
the check fails, whether by an outage or at a line without an encoding. -/
def published (pass : Pass) : Option (List Diagnostic) :=
  match pass.outages.validate with
  | some _ => none
  | none => (Diagnostic.ofText pass.text).toOption

/-- Checks the syntax of a text. A failing check is recorded and clears the
diagnostics. -/
def checkSyntax (pass : Pass) : Journal :=
  let found := published pass
  let diagnostics := found.getD []
  (match found with
    | some _ => []
    | none => [.record ⟨.error, .analysis, "Syntax validation failed, clearing diagnostics"⟩]) ++
  [.record ⟨.debug, .analysis, "Publishing " ++ toString diagnostics.length ++ " diagnostics"⟩] ++
  (match pass.outages.publish with
    | some _ => []
    | none => [.event (.publish diagnosticsUri diagnostics)])

/-- Indexes the symbols of a text. While extraction fails the previous symbols
stay. -/
def indexSymbols (pass : Pass) (symbols : Symbols) : Effect :=
  match pass.outages.extract with
  | some _ =>
    ⟨symbols,
      [.record ⟨.error, .analysis, "Symbol extraction failed, keeping previous symbols"⟩]⟩
  | none =>
    let found := Symbols.ofText pass.text
    ⟨found, [.record ⟨.debug, .analysis, "Indexed " ++ toString found.functionNames.length ++
      " functions and " ++ toString found.variableNames.length ++ " variables"⟩]⟩

def run (pass : Pass) (hook : Hook) (symbols : Symbols) : Effect :=
  match hook with
  | .syntaxDiagnostics => ⟨symbols, checkSyntax pass⟩
  | .symbolIndex => indexSymbols pass symbols
  | .extension name _ => ⟨symbols, [.event (.analyze name pass.text)]⟩
  | .listener name _ => ⟨symbols, [.event (.hook name pass.text)]⟩

/-- The fault that a hook ends with. Failing checks and extractions are dealt with
inside the hook; a failing transmission is not. -/
def fault? (outages : Outages) : Hook → Option Fault
  | .syntaxDiagnostics => outages.publish
  | .symbolIndex => none
  | .extension _ fault => fault
  | .listener _ fault => fault

/-- How the fault of a hook is reported: by a record, then by a message to the
client. -/
def report (hook : Hook) (fault : Fault) : Journal :=
  [.record ⟨.error, .textSync, "Text hook " ++ hook.name ++ " failed"⟩,
    .event (.message .error ("Error in text hook " ++ hook.name ++ ": " ++ fault.description))]

/-- A hook together with the report of its fault, if it ends with one. -/
def attempt (pass : Pass) (hook : Hook) (symbols : Symbols) : Effect :=
  let effect := hook.run pass symbols
  { effect with
    journal := effect.journal ++ ((hook.fault? pass.outages).map hook.report).getD [] }

end Hook

/-- One pass: its text goes through all hooks in order. -/
def broadcast (pass : Pass) : List Hook → Symbols → Effect
  | [], symbols => ⟨symbols, []⟩
  | hook :: hooks, symbols =>
    let first := hook.attempt pass symbols
    let later := broadcast pass hooks first.symbols
    ⟨later.symbols, first.journal ++ later.journal⟩

/-- Several passes: each goes through all hooks before the next one does. -/
def broadcastAll (hooks : List Hook) : List Pass → Symbols → Effect
  | [], symbols => ⟨symbols, []⟩
  | pass :: passes, symbols =>
    let first := broadcast pass hooks symbols
    let later := broadcastAll hooks passes first.symbols
    ⟨later.symbols, first.journal ++ later.journal⟩

theorem broadcast_append (pass : Pass) (h₁ h₂ : List Hook) (symbols : Symbols) :
    broadcast pass (h₁ ++ h₂) symbols =
      let first := broadcast pass h₁ symbols
      let later := broadcast pass h₂ first.symbols
      ⟨later.symbols, first.journal ++ later.journal⟩ := by
  induction h₁ generalizing symbols with
  | nil => rfl
  | cons hook h₁ ih => simp [broadcast, ih]

theorem broadcastAll_append (hooks : List Hook) (p₁ p₂ : List Pass) (symbols : Symbols) :
    broadcastAll hooks (p₁ ++ p₂) symbols =
      let first := broadcastAll hooks p₁ symbols
      let later := broadcastAll hooks p₂ first.symbols
      ⟨later.symbols, first.journal ++ later.journal⟩ := by
  induction p₁ generalizing symbols with
  | nil => rfl
  | cons pass p₁ ih => simp [broadcastAll, ih]

end FishScript
