import FishScript.Script.Diagnostic

/-!
# The journal of a server

Everything that a server lets the outside know goes into one journal, in the order
in which it happens: the events that concern a client, and the records that the
server writes for its operators.

## Main definitions

- `Event` — a message to the client, or the call of an extension
- `Record` — one line of the server's own log
- `Journal` — events and records in order, with the views `Journal.events` and
  `Journal.records`
-/

namespace FishScript

inductive Event.Severity where
  | error
  | info
deriving DecidableEq

/-- The number of a severity in the language server protocol. -/
def Event.Severity.code : Event.Severity → Nat
  | .error => 1
  | .info => 3

/-- Something that concerns the client, or that an extension announces. -/
inductive Event where
  /-- A message for the client's log. -/
  | message (severity : Event.Severity) (content : String)
  /-- The list of diagnostics which replaces the one sent before. -/
  | publish (uri : String) (diagnostics : List Diagnostic)
  /-- A text hook added from outside is called. -/
  | hook (name : String) (text : Text)
  /-- An extension is asked to register. -/
  | register (name : String)
  /-- An extension is asked whether it handles a completion request. -/
  | canHandle (name : String)
  /-- An extension is asked for completion items. -/
  | complete (name : String)
  /-- An extension is handed a text to analyze. -/
  | analyze (name : String) (text : Text)
deriving DecidableEq

inductive Record.Level where
  | debug
  | error
deriving DecidableEq

/-- The name of a level as the log shows it. -/
def Record.Level.name : Record.Level → String
  | .debug => "DEBUG"
  | .error => "ERROR"

inductive Record.Source where
  /-- The checks and the index that run on a text. -/
  | analysis
  /-- The part that hands a text to the hooks. -/
  | textSync
deriving DecidableEq

/-- The name of a source as the log shows it. -/
def Record.Source.name : Record.Source → String
  | .analysis => "fishls.lsp.capabilities.analysis_capabilities"
  | .textSync => "fishls.lsp.text_sync_manager"

structure Record where
  level : Record.Level
  source : Record.Source
  content : String
deriving DecidableEq

inductive Entry where
  | event (event : Event)
  | record (record : Record)
deriving DecidableEq

/-- Events and records in the order in which they happened. -/
abbrev Journal := List Entry

namespace Journal

def events (journal : Journal) : List Event :=
  journal.filterMap fun
    | .event event => some event
    | .record _ => none

def records (journal : Journal) : List Record :=
  journal.filterMap fun
    | .event _ => none
    | .record record => some record

@[simp]
theorem events_append (a b : Journal) : events (a ++ b) = events a ++ events b :=
  List.filterMap_append

@[simp]
theorem records_append (a b : Journal) : records (a ++ b) = records a ++ records b :=
  List.filterMap_append

@[simp]
theorem events_map_event (events : List Event) : Journal.events (events.map .event) = events := by
  rw [Journal.events, List.filterMap_map]
  exact List.filterMap_some

@[simp]
theorem events_map_record (records : List Record) : events (records.map .record) = [] := by
  rw [events, List.filterMap_map, List.filterMap_eq_nil_iff]
  exact fun _ _ => rfl

@[simp]
theorem records_map_event (events : List Event) : records (events.map .event) = [] := by
  rw [records, List.filterMap_map, List.filterMap_eq_nil_iff]
  exact fun _ _ => rfl

@[simp]
theorem records_map_record (records : List Record) :
    Journal.records (records.map .record) = records := by
  rw [Journal.records, List.filterMap_map]
  exact List.filterMap_some

theorem events_filter (p : Entry → Bool) (journal : Journal) :
    events (journal.filter p) = (events journal).filter fun event => p (.event event) := by
  simp only [events, List.filterMap_filter, List.filter_filterMap]
  congr 1
  funext entry
  cases entry with
  | event sent => cases h : p (.event sent) <;> simp [Option.filter, h]
  | record written => cases h : p (.record written) <;> simp

theorem records_filter (p : Entry → Bool) (journal : Journal) :
    records (journal.filter p) = (records journal).filter fun record => p (.record record) := by
  simp only [records, List.filterMap_filter, List.filter_filterMap]
  congr 1
  funext entry
  cases entry with
  | event sent => cases h : p (.event sent) <;> simp
  | record written => cases h : p (.record written) <;> simp [Option.filter, h]

end Journal

end FishScript
