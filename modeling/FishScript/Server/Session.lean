import FishScript.Server.Request

/-!
# Sessions

A session is one run of the server with a client. An action takes place in two phases.
On arrival it is logged, answered, or changes the server. Later a text that came with
it goes through the text hooks.

Actions that are started together all arrive before any hook comes to an end, and their
texts pass through the hooks one after another, in the order of arrival. So a pass meets
the hooks and the outages that the last arrival left behind, with one exception: nothing
holds up the first of the passes, whose syntax check begins at the arrival of its text.

## Main definitions

- `Session` — the state of a running server
- `Session.arrive` — the first phase of an action
- `Intake` — what has arrived, and the passes that are due
- `Session.step` — actions that are started together
- `Session.run` — a sequence of steps
-/

namespace FishScript

structure Session where
  /-- The symbols of the text that was indexed last. -/
  symbols : Symbols
  hooks : List Hook
  registry : Option Registry
  outages : Outages
deriving DecidableEq

/-- What the arrival of an action brings about. -/
structure Arrival where
  session : Session
  journal : Journal
  reply : Reply
deriving DecidableEq

namespace Session

/-- A session that starts: text synchronization is set up, then the built in
capabilities are registered. -/
def start : Session :=
  let (registry, enrollment) := Registry.standard.registerAll (some [])
  { symbols := .empty
    hooks := enrollment.sync.getD []
    registry := some registry
    outages := .none }

/-- The completion list of a session, which is empty without a registry. -/
def complete (session : Session) : Journal × Except Fault (List Item) :=
  match session.registry with
  | some registry => registry.complete session.symbols
  | none => ([], .ok [])

/-- The arrival of a request. It changes no state. -/
def receive (session : Session) (request : Request) : Arrival :=
  match request.notice? with
  | some notice => ⟨session, [.event (.message .info notice)], .nothing⟩
  | none =>
    let (journal, items) := session.complete
    ⟨session, journal, .ofItems items⟩

def registerAgain (session : Session) : Arrival :=
  match session.registry with
  | none => ⟨session, [], .nothing⟩
  | some registry =>
    let (registry', enrollment) := registry.registerAll (some session.hooks)
    { session := { session with
        registry := some registry'
        hooks := enrollment.sync.getD session.hooks }
      journal := enrollment.journal
      reply := (enrollment.fault.map Reply.failure).getD .nothing }

def arrive (session : Session) : Action → Arrival
  | .request request => session.receive request
  | .addHook name fault =>
    ⟨{ session with hooks := session.hooks ++ [.listener name fault] }, [], .nothing⟩
  | .fail operation fault =>
    ⟨{ session with outages := session.outages.set operation (some fault) }, [], .nothing⟩
  | .mend operation =>
    ⟨{ session with outages := session.outages.set operation none }, [], .nothing⟩
  | .dropRegistry => ⟨{ session with registry := none }, [], .nothing⟩
  | .registerAgain => session.registerAgain

end Session

/-- What has arrived: the session as it is now, what was written and answered, and for
each text the outages at its arrival. -/
structure Intake where
  session : Session
  journal : Journal
  replies : List Reply
  texts : List Pass
deriving DecidableEq

namespace Intake

def ofActions (session : Session) : List Action → Intake
  | [] => ⟨session, [], [], []⟩
  | action :: actions =>
    let arrival := session.arrive action
    let later := ofActions arrival.session actions
    { session := later.session
      journal := arrival.journal ++ later.journal
      replies := arrival.reply :: later.replies
      texts := (action.text?.map fun text => ⟨text, session.outages⟩).toList ++ later.texts }

/-- The passes that are due. They meet the outages that are left behind, but the first
of them had its syntax check begun on arrival. -/
def passes (intake : Intake) : List Pass :=
  match intake.texts with
  | [] => []
  | first :: later =>
    ⟨first.text, intake.session.outages.set .validate first.outages.validate⟩ ::
      later.map fun pass => ⟨pass.text, intake.session.outages⟩

end Intake

structure Outcome where
  session : Session
  journal : Journal
  reply : Batch Reply

namespace Session

/-- One step: the actions arrive, then their texts pass through the hooks. -/
def step (session : Session) (step : Step) : Outcome :=
  let intake := Intake.ofActions session step.order
  let effect := broadcastAll intake.session.hooks intake.passes intake.session.symbols
  { session := { intake.session with symbols := effect.symbols }
    journal := intake.journal ++ effect.journal
    reply := step.answered .nothing intake.replies }

def run (session : Session) : List Step → List Outcome
  | [] => []
  | step :: steps =>
    let outcome := session.step step
    outcome :: run outcome.session steps

end Session

end FishScript
