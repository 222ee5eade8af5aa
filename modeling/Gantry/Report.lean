import Gantry.Fault
import Gantry.Json.Yard

/-
  This file defines what a host is told about a run and about
  the goals of a level, and writes the documents for it.

  Key definitions include:
    * `Gantry.Report`
    * `Gantry.Report.isSuccess`
    * `Gantry.Report.toJson`
    * `Gantry.GoalReport`
    * `Gantry.World.goalReport`
-/

------------------------------------------------------------
-- Diagnostics
------------------------------------------------------------

namespace Gantry

namespace Diagnostic

/- The field for a suggestion, where there is one. -/
def suggestionFields :
    Option String → List (String × Json)
| some suggestion => [("suggestion", .str suggestion)]
| none => []

/- A diagnostic is an object. -/
def toJson
    (diagnostic : Diagnostic) : Json :=
  .obj ([
    ("file", .str diagnostic.file),
    ("code", Json.ofNat diagnostic.code),
    ("category", .str diagnostic.category.text),
    ("message", .str diagnostic.message),
    ("line", Json.ofNat diagnostic.span.start.line),
    ("column", Json.ofNat diagnostic.span.start.column),
    ("end_line", Json.ofNat diagnostic.span.stop.line),
    ("end_column", Json.ofNat diagnostic.span.stop.column),
    ("source_line", .str diagnostic.sourceLine)] ++
    suggestionFields diagnostic.suggestion?)

end Diagnostic

end Gantry

------------------------------------------------------------
-- Runs
------------------------------------------------------------

namespace Gantry

/-
  What came of a run: what was printed, why it ended early,
  what was noticed on the way, what is wrong with the
  script's text, and how many commands were carried out.
-/
structure Report where
  stdout : String := ""
  error? : Option String := none
  warnings : List String := []
  diagnostics : List Diagnostic := []
  applied : Nat := 0
deriving DecidableEq, Repr

namespace Report

/- The run did not end early. -/
def isSuccess
    (report : Report) : Bool :=
  report.error?.isNone

/- An array as a field, unless it is empty. -/
def listField
    (key : String) :
    List Json → List (String × Json)
| [] => []
| items => [(key, .arr items)]

/- A report is an object. -/
def toJson
    (report : Report) : Json :=
  .obj ([
    ("stdout", .str report.stdout),
    ("error", Json.ofText? report.error?)] ++
    listField "warnings"
      (report.warnings.map Json.str) ++
    listField "diagnostics"
      (report.diagnostics.map Diagnostic.toJson) ++
    [("commands_applied", Json.ofNat report.applied)])

end Report

end Gantry

------------------------------------------------------------
-- Goals
------------------------------------------------------------

namespace Gantry

/- Whether the goals are met, and which ones are not. -/
structure GoalReport where
  met : Bool
  missing : List Placement
deriving DecidableEq, Repr

namespace GoalReport

/- A report on goals is an object. -/
def toJson
    (report : GoalReport) : Json :=
  .obj [
    ("met", .bool report.met),
    ("missing", Placement.listJson report.missing)]

end GoalReport

/- How a world stands with respect to its goals. -/
def World.goalReport
    (world : World) : GoalReport :=
  { met := world.goalsMet
    missing := world.unmetGoals }

end Gantry
