import FishScript.Server.Batch
import FishScript.Server.Registry

/-!
# Requests and other actions

What happens to a running server: a client sends a request, or someone intervenes from
outside. Several actions may be started together.

## Main definitions

- `Request` — what a client sends
- `Reply` — the answer to it
- `Action` — a request, or an intervention from outside
- `Step` — an action, or several that are started together
-/

namespace FishScript

inductive Request where
  | initialized
  | opened (uri : String) (text : Text)
  /-- A document has changed. The first of the contents is its whole new text. -/
  | changed (uri : String) (contents : List Text)
  | completion
deriving DecidableEq

namespace Request

/-- The text that goes through the hooks. A change without contents empties the
document. -/
def text? : Request → Option Text
  | .initialized => none
  | .opened _ text => some text
  | .changed _ contents => some (contents.head?.getD [])
  | .completion => none

/-- The message with which the client learns that a request has arrived. -/
def notice? : Request → Option String
  | .initialized => some "Fish Language Server initialized!"
  | .opened uri _ => some ("Document opened: " ++ uri)
  | .changed uri _ => some ("Document changed: " ++ uri)
  | .completion => none

end Request

inductive Reply where
  | nothing
  | items (items : List Item)
  | failure (fault : Fault)
deriving DecidableEq

namespace Reply

/-- The answer with the items of a completion list, or with the fault. -/
def ofItems : Except Fault (List Item) → Reply
  | .ok offers => .items offers
  | .error cause => .failure cause

end Reply

/-- What happens to a running server. -/
inductive Action where
  | request (request : Request)
  /-- A text hook is added behind the existing ones. -/
  | addHook (name : String) (fault : Option Fault)
  /-- From now on an operation ends with a fault. -/
  | fail (operation : Operation) (fault : Fault)
  /-- From now on an operation works. -/
  | mend (operation : Operation)
  /-- The server loses its capabilities; the text hooks stay. -/
  | dropRegistry
  /-- The capabilities are registered once more. -/
  | registerAgain
deriving DecidableEq

namespace Action

def text? : Action → Option Text
  | .request received => received.text?
  | _ => none

end Action

/-- An action, or several that are started together. -/
abbrev Step := Batch Action

end FishScript
