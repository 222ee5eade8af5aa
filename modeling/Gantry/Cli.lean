import Gantry.Session

/-
  This file decides what the command line answers: what it
  prints, what it complains about, and its exit code. Files
  come with their texts, or without them if they cannot be
  read.

  Key definitions include:
    * `Gantry.Cli.Attachment`
    * `Gantry.Cli.Request`
    * `Gantry.Cli.Complaint`
    * `Gantry.Cli.Answer`
    * `Gantry.Cli.answer`
-/

------------------------------------------------------------
-- Requests
------------------------------------------------------------

namespace Gantry

namespace Cli

/- A file, with its text if it can be read. -/
structure Attachment where
  path : String
  text? : Option String
deriving DecidableEq, Repr

/- What the command line is asked to do. -/
structure Request where
  script : Attachment
  stdin? : Option Attachment := none
  level? : Option Attachment := none
  config? : Option Attachment := none
  json : Bool := false
deriving DecidableEq, Repr

/- What is answered on each stream, and the exit code. -/
structure Answer where
  stdout : String := ""
  stderr : String := ""
  exitCode : Nat := 0
deriving DecidableEq, Repr

end Cli

end Gantry

------------------------------------------------------------
-- Files
------------------------------------------------------------

namespace Gantry

namespace Cli

/- What a file is for. -/
inductive Role where
  | script
  | stdin
  | level
  | config
deriving DecidableEq, Repr

/- A role in words. -/
def Role.text :
    Role → String
| .script => "script"
| .stdin => "stdin file"
| .level => "level"
| .config => "config"

/- What is wrong with a file. -/
inductive Complaint where
  | unreadable (role : Role) (path : String)
  | invalid (role : Role) (path : String)
deriving DecidableEq, Repr

/- A complaint in words. -/
def Complaint.message :
    Complaint → String
| .unreadable role path =>
    s!"failed to read {role.text} '{path}'"
| .invalid role path => s!"invalid {role.text} '{path}'"

/- The text of a file. -/
def fileText
    (role : Role)
    (file : Attachment) : Except Complaint String :=
  match file.text? with
  | some text => .ok text
  | none => .error (.unreadable role file.path)

/- What a file describes, or the usual if there is none. -/
def described
    {α : Type}
    (role : Role)
    (read? : String → Option α)
    (usual : α) :
    Option Attachment → Except Complaint α
| none => .ok usual
| some file =>
    match fileText role file with
    | .error complaint => .error complaint
    | .ok text =>
        match read? text with
        | some value => .ok value
        | none => .error (.invalid role file.path)

/-
  The script of a request and the session to run it in. The
  files are looked at one by one, up to the first complaint.
-/
def Request.prepare
    (request : Request) :
    Except Complaint (String × Session) := do
  let script ← fileText .script request.script
  let _ ← described .stdin some "" request.stdin?
  let level ← described .level Level.read? {} request.level?
  let config ←
    described .config Config.read? {} request.config?
  return (script, Session.start level config)

end Cli

end Gantry

------------------------------------------------------------
-- Answers
------------------------------------------------------------

namespace Gantry

namespace Cli

/- Where the crane is and what it carries, in words. -/
def craneLine
    (crane : Crane) : String :=
  let carried := crane.carried?.getD "nothing"
  s!"crane at ({crane.pose.x}, {crane.pose.y}) facing " ++
    s!"{crane.pose.direction.letter}, carrying {carried}"

/- How the goals stand, in words. -/
def goalLine
    (goals : GoalReport) : String :=
  if goals.met then
    "goal complete"
  else
    s!"goal incomplete: {goals.missing.length} " ++
      "block(s) missing"

/- What is said about a run besides what it printed. -/
def notes
    (report : Report)
    (session : Session) : List String :=
  report.warnings.map ("warning: " ++ ·) ++
    (report.error?.map ("error: " ++ ·)).toList ++
    [craneLine session.crane] ++
    (if session.level.goals.isEmpty then
      []
    else
      [goalLine session.goalReport])

/- Everything about a run as one document. -/
def document
    (report : Report)
    (session : Session) : Json :=
  .obj [
    ("outcome", report.toJson),
    ("crane", session.crane.toJson),
    ("goals", session.goalReport.toJson)]

/- Lines as they are printed. -/
def printed
    (lines : List String) : String :=
  String.join (lines.map (· ++ "\n"))

/- The answer to a run. -/
def report
    (json : Bool)
    (report : Report)
    (session : Session) : Answer :=
  let exitCode := if report.isSuccess then 0 else 1
  if json then
    { stdout := printed [(document report session).pretty]
      exitCode := exitCode }
  else
    { stdout := report.stdout
      stderr := printed (notes report session)
      exitCode := exitCode }

/- The answer to a run whose clock overflows. -/
def overflow : Answer :=
  { stderr := printed ["overflow when adding durations"]
    exitCode := 101 }

/- The answer to a request. -/
def answer
    (request : Request) : Answer :=
  match request.prepare with
  | .error complaint =>
      { stderr := printed ["Error: " ++ complaint.message]
        exitCode := 1 }
  | .ok (script, session) =>
      match session.run? script with
      | some (outcome, after) =>
          report request.json outcome after
      | none => overflow

end Cli

end Gantry
