import FishScript.CommandLine.Settings
import FishScript.Server.Profile

/-!
# Running the command line

What a run of the program writes and with which code it exits. If the command line is
accepted, logging is set up and the server starts; otherwise a text is shown.

## Main definitions

- `Report` — the visible results of a run
- `Report.ofArguments` — the results for a command line
-/

namespace FishScript

/-- The visible results of a run of the program. -/
structure Report where
  /-- The exit code, if the program has exited by itself. -/
  exit : Option Nat
  stdout : Text
  stderr : Text
  /-- The level of the log, once logging has been set up. -/
  level : Option Level
  /-- The name and the version of each server that has been started. -/
  started : List (String × String)
deriving DecidableEq

namespace Report

def usage : String :=
  "usage: fish-lsp [-h] [-l \x7bdebug,info,warning,error,critical\x7d] [-V]\n"

def help : String :=
  usage ++
  "\nFish Language Server Protocol\n\n" ++
  "options:\n" ++
  "  -h, --help            show this help message and exit\n" ++
  "  -l \x7bdebug,info,warning,error,critical\x7d, --log-level " ++
    "\x7bdebug,info,warning,error,critical\x7d\n" ++
  "                        logging level (default: info)\n" ++
  "  -V, --version         show program's version number and exit\n"

def shown (text : String) : Report where
  exit := some 0
  stdout := .ofString text
  stderr := []
  level := none
  started := []

/-- The results of a command line that is turned down. -/
def turnedDown (problem : Problem) : Report where
  exit := some 2
  stdout := []
  stderr := .ofString (usage ++ Profile.name ++ ": error: ") ++ problem.message ++ .ofString "\n"
  level := none
  started := []

def ofRefusal : Refusal → Report
  | .help => shown help
  | .version => shown (Profile.title ++ "\n")
  | .problem problem => turnedDown problem

/-- The record which tells that the server starts, written on behalf of `logger`. -/
def startLine (logger : String) : String :=
  "[" ++ Level.info.label ++ "] " ++ logger ++ ": Starting " ++ Profile.title ++ " on stdio\n"

/-- The results of a server that has been started. -/
def running (logger : String) (level : Level) : Report where
  exit := none
  stdout := []
  stderr := if level.shows .info then .ofString (startLine logger) else []
  level := some level
  started := [(Profile.name, Profile.version)]

/-- The results for a command line. Without a level logging cannot be set up. -/
def ofArguments (logger : String) (arguments : List Text) : Except Fault Report :=
  match Settings.ofArguments arguments with
  | .error refusal => .ok (ofRefusal refusal)
  | .ok (some level) => .ok (running logger level)
  | .ok none => .error ⟨.attribute, "'list' object has no attribute 'upper'"⟩

end Report

end FishScript
