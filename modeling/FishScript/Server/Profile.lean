import FishScript.Server.Session

/-!
# The profile of the server

What the server tells about itself and what it announces to a client.

## Main definitions

- `Profile.name`, `Profile.version` — who the server is
- `Profile.features` — the notifications and requests that it answers
- `Profile.triggerCharacters` — what makes an editor ask for completion
-/

namespace FishScript

namespace Profile

def name : String := "fish-lsp"

def version : String := "1.0"

def title : String := name ++ " " ++ version

/-- On whose behalf the program itself writes to the log. -/
def logger : String := "fishls.main"

/-- How documents are synchronized: number 1 of the language server protocol, the
whole text each time. -/
def syncKind : Nat := 1

/-- The notifications and requests that the server answers, in alphabetical
order. -/
def features : List String :=
  ["initialized", "textDocument/completion", "textDocument/didChange", "textDocument/didOpen"]

/-- The characters after which an editor asks for completion. -/
def triggerCharacters : List String := ["."]

/-- Items are complete when they are listed; none is resolved later. -/
def resolvesItems : Bool := false

end Profile

end FishScript
