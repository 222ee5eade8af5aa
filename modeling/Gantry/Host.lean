import Gantry.Session
import Gantry.Text.Blank

/-
  This file serves hosts that give texts and take texts. A
  blank text stands for the usual level or configuration.

  Key definitions include:
    * `Gantry.Host.version`
    * `Gantry.Host.session`
    * `Gantry.Host.run`
    * `Gantry.Host.runText`
    * `Gantry.Host.checkText`
-/

------------------------------------------------------------
-- Opening
------------------------------------------------------------

namespace Gantry

namespace Host

/- What a host can be refused. -/
inductive Refusal where
  | level
  | config
deriving DecidableEq, Repr

/- The version of the program. -/
def version : String := "0.1.0"

/- The level of a text. -/
def level?
    (text : String) : Option Level :=
  if Text.isAllBlank text then
    some {}
  else
    Level.read? text

/- The configuration of a text, without blanks around it. -/
def config?
    (text : String) : Option Config :=
  if Text.isAllBlank text then
    some {}
  else
    Config.read? (Text.trim text)

/- A session for the texts of a level and a configuration. -/
def session
    (levelText configText : String) :
    Except Refusal Session :=
  match level? levelText, config? configText with
  | none, _ => .error .level
  | some _, none => .error .config
  | some level, some config =>
      .ok (Session.start level config)

/- Run one script on a level, unless the clock overflows. -/
def run
    (levelText text : String) :
    Except Refusal (Option String) :=
  (session levelText "").map fun session =>
    (session.run? text).map (·.1.toJson.compact)

end Host

end Gantry

------------------------------------------------------------
-- Serving
------------------------------------------------------------

namespace Gantry

namespace Host

/- Run a script and report on it. -/
def runText
    (session : Session)
    (text : String) : Option (String × Session) :=
  (session.run? text).map fun (report, after) =>
    (report.toJson.compact, after)

/- Run a script on the level as it was and report on it. -/
def checkText
    (session : Session)
    (text : String) : Option (String × Session) :=
  (session.check? text).map fun ((report, goals), after) =>
    ((Json.obj [
        ("outcome", report.toJson),
        ("goals", goals.toJson)]).compact,
      after)

/- The crane as it is now. -/
def craneText
    (session : Session) : String :=
  session.crane.toJson.compact

/- The blocks as they are now. -/
def blocksText
    (session : Session) : String :=
  (Placement.listJson session.world.blocks).compact

/- How the goals stand now. -/
def goalsText
    (session : Session) : String :=
  session.goalReport.toJson.compact

end Host

end Gantry
