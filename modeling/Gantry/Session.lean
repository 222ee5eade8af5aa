import Gantry.Config
import Gantry.Level
import Gantry.Machine.Evaluation
import Gantry.Parser.Statement
import Gantry.Report

/-
  This file runs scripts on a level. A script is read, then
  evaluated, and at last its commands are replayed until they
  have settled. Runs build on one another until the level is
  set up anew.

  The clock of a replay holds 64 bits of seconds, and a run
  that takes longer is cut off: `Session.run?` and
  `Session.check?` are what is offered to others. Beside them
  stand `Session.run` and `Session.check`, on a clock that
  counts as far as it must, and the two are compared in
  `Gantry.Proofs.Session.Clock`.

  Key definitions include:
    * `Gantry.Session`
    * `Gantry.Session.start`
    * `Gantry.Session.resetLevel`
    * `Gantry.Session.run`
    * `Gantry.Session.check`
    * `Gantry.Session.run?`
    * `Gantry.Session.check?`
    * `Gantry.runScript?`
-/

------------------------------------------------------------
-- Sessions
------------------------------------------------------------

namespace Gantry

/- A level, a configuration, and the replay they started. -/
structure Session where
  level : Level
  config : Config
  replay : Replay
deriving DecidableEq

namespace Session

/- Set up the yard of the level. -/
def resetLevel
    (session : Session) : Session :=
  let level := session.level
  { session with
    replay :=
      ((session.replay.loadWorld level.world).station
        level.crane.pose level.crane.supply).setCarried
          level.carried? }

/- A new session on a level. -/
def start
    (level : Level)
    (config : Config) : Session :=
  resetLevel
    { level := level
      config := config
      replay :=
        { Replay.ofWorld level.world with
          step := config.step } }

/- The world as it is now. -/
def world
    (session : Session) : World :=
  session.replay.yard.world

/- The crane as it is now. -/
def crane
    (session : Session) : Crane :=
  session.replay.yard.crane

/- What a script runs against now. -/
def stage
    (session : Session) : Stage :=
  { world := session.world
    pose := session.crane.pose
    limits := session.config.limits }

/- How the goals stand now. -/
def goalReport
    (session : Session) : GoalReport :=
  session.world.goalReport

end Session

end Gantry

------------------------------------------------------------
-- Runs
------------------------------------------------------------

namespace Gantry

namespace Session

/- The name under which scripts are reported. -/
def scriptName : String := "main.py"

/- Why a replay did not carry out all of its commands. -/
def replayError? :
    Option Outcome → Option String
| some .resolved => none
| some (.rejected failure) => some failure.message
| some .cancelled => some "replay was cancelled"
| some .pending => some "replay did not settle"
| none => some "replay outcome was lost"

/- The report on a script that cannot be read. -/
def unreadable
    (log : Log Diagnostic) : Report :=
  { error? := log.first?.map Diagnostic.text
    diagnostics := log.kept }

/- The report on a script that has been evaluated. -/
def evaluated
    (transcript : Transcript) : Report :=
  { stdout := transcript.stdout
    warnings := transcript.warnings.toList }

/-
  Replay the commands of a script until they settle, however
  long it takes.
-/
def replayAll
    (session : Session)
    (transcript : Transcript) : Report × Session :=
  let (run, queued) :=
    session.replay.enqueueAll transcript.commands.toList
  let (_, settled) := queued.wait
  ({ evaluated transcript with
      error? := replayError? (settled.poll run)
      applied := settled.resolvedCount run },
    { session with replay := settled })

/-
  Run a program, however long it takes. If a fault ends it,
  none of its commands is replayed.
-/
def runProgram
    (session : Session)
    (program : Program) : Report × Session :=
  let evaluation := program.evaluate session.stage
  match evaluation.crash? with
  | some crash =>
      ({ evaluated evaluation.transcript with
          error? := some crash.message },
        session)
  | none => session.replayAll evaluation.transcript

/- Run a script, however long its replay takes. -/
def run
    (session : Session)
    (text : String) : Report × Session :=
  let source := Source.ofText scriptName text
  let parsed := source.parse
  match parsed.program? with
  | some program => session.runProgram program
  | none =>
      (unreadable (parsed.log.map source.diagnose), session)

/- Run a script on the level as it was, and see its goals. -/
def check
    (session : Session)
    (text : String) : (Report × GoalReport) × Session :=
  let (report, after) := session.resetLevel.run text
  ((report, after.goalReport), after)

end Session

end Gantry

------------------------------------------------------------
-- Runs That Can Be Cut Off
------------------------------------------------------------

namespace Gantry

namespace Session

/-
  Replay the commands of a script until they settle, unless
  the clock overflows.
-/
def replayAll?
    (session : Session)
    (transcript : Transcript) : Option (Report × Session) :=
  let (run, queued) :=
    session.replay.enqueueAll transcript.commands.toList
  queued.wait?.map fun (_, settled) =>
    ({ evaluated transcript with
        error? := replayError? (settled.poll run)
        applied := settled.resolvedCount run },
      { session with replay := settled })

/- Run a program, unless the clock overflows. -/
def runProgram?
    (session : Session)
    (program : Program) : Option (Report × Session) :=
  let evaluation := program.evaluate session.stage
  match evaluation.crash? with
  | some crash =>
      some
        ({ evaluated evaluation.transcript with
            error? := some crash.message },
          session)
  | none => session.replayAll? evaluation.transcript

/- Run a script, unless the clock overflows. -/
def run?
    (session : Session)
    (text : String) : Option (Report × Session) :=
  let source := Source.ofText scriptName text
  let parsed := source.parse
  match parsed.program? with
  | some program => session.runProgram? program
  | none =>
      some
        (unreadable (parsed.log.map source.diagnose), session)

/- Run a script on the level as it was. -/
def check?
    (session : Session)
    (text : String) :
    Option ((Report × GoalReport) × Session) :=
  (session.resetLevel.run? text).map fun (report, after) =>
    ((report, after.goalReport), after)

end Session

/- Run one script on the level that nothing is said about. -/
def runScript?
    (text : String) : Option Report :=
  ((Session.start {} {}).run? text).map (·.1)

end Gantry
