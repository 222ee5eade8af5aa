import Gantry.Cli
import Gantry.Cli.Arguments

/-
  This file is the command line. It reads the files that are
  named and prints what is answered.

  Key definitions include:
    * `main`
-/

------------------------------------------------------------
-- The Command Line
------------------------------------------------------------

namespace Gantry

namespace Cli

/- A file, with its text if it can be read. -/
def attach
    (path : String) : IO Attachment := do
  try
    return ⟨path, some (← IO.FS.readFile path)⟩
  catch _ =>
    return ⟨path, none⟩

/- A file, if one is named. -/
def attach? :
    Option String → IO (Option Attachment)
| none => return none
| some path => return some (← attach path)

/- The request of some arguments for a script. -/
def request
    (arguments : Arguments)
    (script : String) : IO Request := do
  return {
    script := ← attach script
    stdin? := ← attach? arguments.stdin?
    level? := ← attach? arguments.level?
    config? := ← attach? arguments.config?
    json := arguments.json }

/- The answer to arguments that cannot be read. -/
def misuse : Answer :=
  { stderr := printed [usage], exitCode := 2 }

/- Print an answer and exit with its code. -/
def reply
    (answer : Answer) : IO UInt32 := do
  (← IO.getStdout).putStr answer.stdout
  (← IO.getStderr).putStr answer.stderr
  return answer.exitCode.toUInt32

end Cli

end Gantry

def main
    (words : List String) : IO UInt32 := do
  match Gantry.Cli.Arguments.ofList? words with
  | some (script, arguments) =>
      Gantry.Cli.reply
        (Gantry.Cli.answer
          (← Gantry.Cli.request arguments script))
  | none => Gantry.Cli.reply Gantry.Cli.misuse
