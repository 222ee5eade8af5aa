import Mathlib
import Gantry.Proofs.Machine.Invariant
import Gantry.Proofs.Session.Clock

/-
  This file says how many commands a run can apply before the
  clock overflows. With the longest step that a configuration
  can ask for, a thousand commands still fit, and a script
  that turns the crane once more is cut off.

  Key definitions include:
    * `Gantry.Session.turning`

  Main statements:
    * `Gantry.Session.Timed.run?_turning`
    * `Gantry.Session.run_fits_the_clock`
    * `Gantry.Session.turning_overflows`
-/

------------------------------------------------------------
-- A Script That Turns
------------------------------------------------------------

namespace Gantry

namespace Session

/- A script that turns the crane for as long as it may. -/
def turning : String :=
  "while True:\n    turn_left()\n"

/- The statement that turns the crane. -/
def turnStmt : Stmt :=
  .expr
    (.call (.name "turn_left" ⟨⟨2, 5⟩, ⟨2, 13⟩⟩) []
      ⟨⟨2, 5⟩, ⟨2, 15⟩⟩)
    ⟨⟨2, 5⟩, ⟨2, 15⟩⟩

/- The program of the script. -/
def turningProgram : Program :=
  ⟨[.whileLoop (.literal (.bool true) ⟨⟨1, 7⟩, ⟨1, 10⟩⟩)
      (.mk [turnStmt] ⟨⟨2, 1⟩, ⟨2, 15⟩⟩)
      ⟨⟨1, 1⟩, ⟨2, 15⟩⟩],
    ⟨⟨1, 1⟩, ⟨3, 1⟩⟩⟩

theorem parse_turning :
    (Source.ofText scriptName turning).parse.program? =
      some turningProgram := by
  cbv

/- The command to turn. -/
def turn : Command := ⟨.turnLeft, none⟩

/- A machine that has recorded one turn more. -/
def turned
    (machine : Machine) : Machine :=
  { machine with
    current := ⟨⟨2, 5⟩, ⟨2, 15⟩⟩
    transcript := { machine.transcript with
      commands := machine.transcript.commands.push turn } }

variable {stage : Stage}
variable {enter : Run.Enter}
variable {machine : Machine}

/- To turn is to record a turn. -/
theorem on_turnStmt
    (hScopes : machine.scopes = #[Bindings.initial]) :
    Run.on
        (Run.block stage enter Machine.globals
          (.mk [turnStmt] ⟨⟨2, 1⟩, ⟨2, 15⟩⟩))
        machine =
      (.ok .normal, turned machine) := by
  have hFind :
      ({ machine with
          current := ⟨⟨2, 5⟩, ⟨2, 15⟩⟩ } : Machine).find?
          Machine.globals "turn_left" =
        some (.builtin (.crane .turnLeft)) := by
    simp only [Machine.find?, Machine.globals,
      Machine.bindings, hScopes]
    rfl
  simp only [turnStmt, Run.block, Run.stmts, Run.stmt,
    Run.expr, Run.exprs, Run.begin, Run.lookup, Run.on_bind,
    Run.on_modify, Run.on_get, hFind]
  rfl

/- The loop turns in every round until it is cut short. -/
theorem on_whileLoop_turning
    (rounds : Nat)
    (hScopes : machine.scopes = #[Bindings.initial]) :
    ∃ after,
      Run.on
          (Run.whileLoop
            (Run.truth stage enter Machine.globals
              (.literal (.bool true) ⟨⟨1, 7⟩, ⟨1, 10⟩⟩))
            (Run.block stage enter Machine.globals
              (.mk [turnStmt] ⟨⟨2, 1⟩, ⟨2, 15⟩⟩))
            (Run.warnLimit stage ⟨⟨1, 1⟩, ⟨2, 15⟩⟩) rounds)
          machine =
        (.ok .normal, after) ∧
      after.transcript.commands.toList =
        machine.transcript.commands.toList ++
          List.replicate rounds turn := by
  have hTest :
      ∀ machine,
        Run.on
            (Run.truth stage enter Machine.globals
              (.literal (.bool true) ⟨⟨1, 7⟩, ⟨1, 10⟩⟩))
            machine =
          (.ok true, machine) :=
    fun _ => rfl
  induction rounds generalizing machine with
  | zero =>
      refine
        ⟨(Run.on (Run.warnLimit stage ⟨⟨1, 1⟩, ⟨2, 15⟩⟩)
          machine).2, ?_, ?_⟩
      · rw [Run.whileLoop, Run.on_bind, hTest]
        rfl
      · simp [Run.warnLimit, Run.warn]
  | succ rounds ih =>
      have hTurned :
          (turned machine).scopes = #[Bindings.initial] :=
        hScopes
      rcases ih hTurned with ⟨after, hLater, hCommands⟩
      refine ⟨after, ?_, ?_⟩
      · rw [Run.whileLoop, Run.on_bind, hTest]
        dsimp only
        rw [if_pos rfl, Run.on_bind, on_turnStmt hScopes]
        exact hLater
      · rw [hCommands, List.replicate_succ]
        simp [turned]

/- The script records as many turns as rounds are allowed. -/
theorem evaluate_turning
    (stage : Stage) :
    (turningProgram.evaluate stage).crash? = none ∧
      (turningProgram.evaluate
          stage).transcript.commands.toList =
        List.replicate stage.limits.maxIterations turn := by
  let begun : Machine := { current := ⟨⟨1, 1⟩, ⟨2, 15⟩⟩ }
  have hScopes : begun.scopes = #[Bindings.initial] := rfl
  rcases on_whileLoop_turning stage.limits.maxIterations
      hScopes with
    ⟨after, hLoop, hCommands⟩
  have hEnds :
      (Machine.topLevel stage turningProgram.body).run.run
          {} =
        (.ok (), after) := by
    change Run.on (Machine.topLevel stage _) {} = _
    rw [turningProgram, Machine.topLevel, Run.on_bind,
      Run.stmt, Run.on_bind, Run.begin, Run.on_modify]
    dsimp only
    rw [hLoop]
    rfl
  unfold Program.evaluate Machine.run
  rw [hEnds]
  exact ⟨rfl, hCommands⟩

variable {config : Config} {session : Session}

/- All of the turns are applied. -/
theorem applied_turning
    (hTimed : session.Timed config) :
    (session.run turning).1.applied =
      config.limits.maxIterations := by
  rcases evaluate_turning session.stage with
    ⟨hDone, hCommands⟩
  have hLimits :
      session.stage.limits = config.limits :=
    congrArg Config.limits hTimed.config_eq
  rw [hLimits] at hCommands
  have hReports :=
    hTimed.ready.run_reports_replay parse_turning hDone
  dsimp only at hReports
  rw [hCommands, List.length_replicate] at hReports
  rcases hReports with ⟨-, hAll, hFails⟩
  apply hAll.mp
  by_contra hError
  rcases hFails hError with
    ⟨command, failure, hCommand, hPerform, -⟩
  cases (List.mem_replicate.mp
    (List.mem_of_getElem? hCommand)).2
  cases hPerform

/- The turns are cut off if they take too long together. -/
theorem Timed.run?_turning
    (hTimed : session.Timed config)
    (hStep : IsCount config.stepMillis) :
    session.run? turning =
      if config.limits.maxIterations * config.stepMillis <
          1000 * 2 ^ 64 then
        some (session.run turning)
      else
        none := by
  rw [hTimed.run?_eq hStep, applied_turning hTimed]

end Session

end Gantry

------------------------------------------------------------
-- Runs That Are Cut Off
------------------------------------------------------------

namespace Gantry

namespace Session

/-
  Runs of a session with any configuration that can be read.
  A run is cut off just when it applies so many commands that
  their steps are too long together, which are more than a
  thousand. The time for which a command has been shown never
  is too long.
-/
theorem run_fits_the_clock
    {text : String}
    {config : Config}
    (hConfig : Config.read? text = some config)
    (level : Level)
    (actions : List Action)
    (script : String) :
    let session := (start level config).actAll actions
    let applied := (session.run script).1.applied
    (session.run? script =
        if applied * config.stepMillis < 1000 * 2 ^ 64 then
          some (session.run script)
        else
          none) ∧
      (applied ≤ 1000 →
        session.run? script = some (session.run script)) ∧
      ∀ replay : Replay, replay.step = session.replay.step →
        ∀ elapsed,
          replay.tick? elapsed =
            some (replay.tick elapsed) := by
  intro session applied
  have hStep : IsCount config.stepMillis := by
    rcases Option.bind_eq_some_iff.mp hConfig with
      ⟨json, -, hJson⟩
    exact (Config.lawful.fits hJson).step
  have hTimed := timed_actAll level config actions
  have hRun := hTimed.run?_eq hStep script
  refine
    ⟨hRun, fun hFew => ?_, fun replay hSame elapsed => ?_⟩
  · have hShort :
        applied * config.stepMillis < 1000 * 2 ^ 64 :=
      calc
        applied * config.stepMillis
        _ ≤ 1000 * config.stepMillis :=
          Nat.mul_le_mul_right _ hFew
        _ < 1000 * 2 ^ 64 :=
          Nat.mul_lt_mul_of_pos_left hStep (by decide)
    exact hRun.trans (if_pos hShort)
  · apply Replay.tick?_eq
    rw [hSame, hTimed.step_eq]
    exact step_le_longestTime hStep

/- A configuration that asks for the longest steps. -/
def slowest
    (rounds : String) : String :=
  "\x7b\"max_iterations\": " ++ rounds ++
    ", \"step_ms\": 18446744073709551615\x7d"

/-
  With the longest step that can be asked for, a thousand
  turns take less than a second less than the longest time.
-/
theorem run_fits_the_clock_thousand :
    let config : Config := ⟨⟨1000, 200⟩, 2 ^ 64 - 1⟩
    let session := start {} config
    Config.read? (slowest "1000") = some config ∧
      session.run? turning = some (session.run turning) := by
  intro config session
  have hRead :
      Config.read? (slowest "1000") = some config := by
    decide +kernel
  have hApplied : (session.run turning).1.applied = 1000 :=
    applied_turning (timed_start {} config)
  exact ⟨hRead,
    (run_fits_the_clock hRead {} [] turning).2.1
      (Nat.le_of_eq hApplied)⟩

/- One turn more is too much. -/
theorem turning_overflows :
    let config : Config := ⟨⟨1001, 200⟩, 2 ^ 64 - 1⟩
    Config.read? (slowest "1001") = some config ∧
      (start {} config).run? turning = none := by
  intro config
  have hStep : IsCount config.stepMillis := by decide
  have hRun := (timed_start {} config).run?_turning hStep
  exact ⟨by decide +kernel, hRun.trans (if_neg (by decide))⟩

end Session

end Gantry
