import Gantry.Json.Reader
import Gantry.Machine
import Gantry.Replay

/-
  This file defines how scripts are run: the limits that hold
  for them and the time for which each command is shown.

  Key definitions include:
    * `Gantry.Config`
    * `Gantry.Config.step`
    * `Gantry.Config.toJson`
    * `Gantry.Config.read?`
-/

------------------------------------------------------------
-- Configurations
------------------------------------------------------------

namespace Gantry

/- The limits of scripts, and the step of their replay. -/
structure Config where
  limits : Limits := {}
  stepMillis : Nat := standardStepMillis
deriving DecidableEq, Repr

namespace Config

/- The nanoseconds for which a command is shown. -/
def step
    (config : Config) : Nat :=
  config.stepMillis * millisecond

/- A configuration is an object. -/
def toJson
    (config : Config) : Json :=
  .obj [
    ("max_iterations",
      Json.ofNat config.limits.maxIterations),
    ("max_call_depth",
      Json.ofNat config.limits.maxCallDepth),
    ("step_ms", Json.ofNat config.stepMillis)]

/- Read a configuration. Every field may be left out. -/
def ofJson?
    (json : Json) : Option Config := do
  match ← json.record?
      ["max_iterations", "max_call_depth", "step_ms"] with
  | [iterations, depth, step] =>
      let standard : Config := {}
      let iterations ←
        Json.orDefault iterations
          standard.limits.maxIterations Json.count?
      let depth ←
        Json.orDefault depth standard.limits.maxCallDepth
          Json.count?
      let step ←
        Json.orDefault step standard.stepMillis Json.count?
      return ⟨⟨iterations, depth⟩, step⟩
  | _ => none

/- Read the text of a configuration. -/
def read?
    (text : String) : Option Config :=
  (Json.read? text).bind ofJson?

end Config

end Gantry
