import FishScript.CommandLine.Report

/-!
# The program

Writes what a run of the command line shows and exits with its code.
-/

namespace FishScript

/-- The characters of a text; code points that are no characters are left out. -/
def Text.shown (text : Text) : String :=
  String.ofList (text.filterMap fun c =>
    if h : c.val.isValidChar then some (Char.ofNatAux c.val h) else none)

end FishScript

open FishScript in
def main (arguments : List String) : IO UInt32 := do
  match Report.ofArguments Profile.logger (arguments.map Text.ofString) with
  | .ok report =>
    (← IO.getStdout).putStr report.stdout.shown
    (← IO.getStderr).putStr report.stderr.shown
    return UInt32.ofNat (report.exit.getD 0)
  | .error fault =>
    (← IO.getStderr).putStrLn fault.description
    return 1
