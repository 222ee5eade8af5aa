import Gantry.Proofs.Session.Overflow

/-
  This file states what a run of a session is held to,
  whatever was run on it before. A script that cannot be read
  or that crashes leaves the session alone; any other is
  carried out up to the first command that fails, and the
  report says how far it got. Only here the clock can stand
  in the way, and it does so just when the commands carried
  out take too long together.

  Key definitions include:
    * `Gantry.Yard.Reaches`
    * `Gantry.Session.TellsIssue`
    * `Gantry.Session.TellsCrash`
    * `Gantry.Session.TellsCount`

  Main statements:
    * `Gantry.Session.Ready.run_reaches`
    * `Gantry.Session.Timed.run?_of_done`
    * `Gantry.Session.run_reports_how_far_it_got`
-/

------------------------------------------------------------
-- What Reports Tell
------------------------------------------------------------

namespace Gantry

/-
  The first `count` of some commands lead from one yard to
  another, where the next command fails if there is any.
-/
structure Yard.Reaches
    (yard : Yard)
    (commands : List Command)
    (count : Nat)
    (reached : Yard) : Prop where
  performed :
    yard.performAll (commands.take count) = .ok reached
  count_le : count ≤ commands.length
  next :
    ∀ command, commands[count]? = some command →
      ∃ failure, reached.perform command = .error failure

namespace Session

/- The report on a script that cannot be read. -/
structure TellsIssue
    (source : Source)
    (report : Report) : Prop where
  issue :
    ∃ issue,
      source.parse.log.first? = some issue ∧
        report.diagnostics.head? =
          some (source.diagnose issue) ∧
        report.error? = some (source.diagnose issue).text
  stdout : report.stdout = ""
  applied : report.applied = 0

/- The report on a script that crashes. -/
structure TellsCrash
    (transcript : Transcript)
    (crash : Crash)
    (report : Report) : Prop where
  error : report.error? = some crash.message
  stdout : report.stdout = transcript.stdout
  warnings : report.warnings = transcript.warnings.toList
  applied : report.applied = 0

/-
  The report on a script of whose commands just the first
  `count` have been carried out. There is no error if these
  are all of them, and else it is why the next one fails.
-/
structure TellsCount
    (transcript : Transcript)
    (count : Nat)
    (reached : Yard)
    (report : Report) : Prop where
  stdout : report.stdout = transcript.stdout
  warnings : report.warnings = transcript.warnings.toList
  applied : report.applied = count
  complete :
    report.error? = none ↔
      report.applied = transcript.commands.toList.length
  failed :
    ∀ command,
      transcript.commands.toList[count]? = some command →
        ∃ failure,
          reached.perform command = .error failure ∧
            report.error? = some failure.message

end Session

end Gantry

------------------------------------------------------------
-- The Ways A Run Ends
------------------------------------------------------------

namespace Gantry

namespace Session

variable {config : Config} {session : Session}
variable {text : String} {program : Program}

/- A run that applies no command is never cut off. -/
theorem Timed.run?_of_applied
    (hTimed : session.Timed config)
    (hStep : IsCount config.stepMillis)
    (hApplied : (session.run text).1.applied = 0) :
    session.run? text = some (session.run text) := by
  rw [hTimed.run?_eq hStep, hApplied, Nat.zero_mul]
  exact if_pos (by decide)

theorem Timed.run?_of_unread
    (hTimed : session.Timed config)
    (hStep : IsCount config.stepMillis)
    (hUnread :
      (Source.ofText scriptName text).parse.program? =
        none) :
    ∃ report,
      session.run? text = some (report, session) ∧
        TellsIssue (Source.ofText scriptName text) report := by
  have hRun := run_of_unread session hUnread
  have hApplied : (session.run text).1.applied = 0 := by
    rw [hRun]
    rfl
  have hEnds := hTimed.run?_of_applied hStep hApplied
  have hIssue := run_reports_issue session hUnread
  rw [hRun] at hEnds hIssue
  exact ⟨_, hEnds, hIssue, rfl, rfl⟩

theorem Timed.run?_of_crash
    (hTimed : session.Timed config)
    (hStep : IsCount config.stepMillis)
    (hRead :
      (Source.ofText scriptName text).parse.program? =
        some program)
    {crash : Crash}
    (hCrash :
      (program.evaluate session.stage).crash? =
        some crash) :
    ∃ report,
      session.run? text = some (report, session) ∧
        TellsCrash
          (program.evaluate session.stage).transcript crash
          report := by
  have hRun :=
    (run_of_read session hRead).trans
      (runProgram_of_crash session hCrash)
  have hApplied : (session.run text).1.applied = 0 := by
    rw [hRun]
    rfl
  have hEnds := hTimed.run?_of_applied hStep hApplied
  rw [hRun] at hEnds
  exact ⟨_, hEnds, rfl, rfl, rfl, rfl⟩

/- On a clock without bounds a run gets as far as it can. -/
theorem Ready.run_reaches
    (hReady : session.Ready)
    (hRead :
      (Source.ofText scriptName text).parse.program? =
        some program)
    (hDone :
      (program.evaluate session.stage).crash? = none) :
    let transcript :=
      (program.evaluate session.stage).transcript
    let report := (session.run text).1
    let after := (session.run text).2
    session.replay.yard.Reaches transcript.commands.toList
        report.applied after.replay.yard ∧
      TellsCount transcript report.applied
        after.replay.yard report := by
  intro transcript
  have hTranscript := transcript_of_done session hDone
  rw [← run_of_read session hRead] at hTranscript
  have hReports := hReady.run_reports_replay hRead hDone
  generalize session.run text = ended
    at hTranscript hReports ⊢
  rcases ended with ⟨report, after⟩
  rcases hReports with ⟨hPerformed, hAll, hFails⟩
  have hFailed :
      ∀ command,
        transcript.commands.toList[report.applied]? =
            some command →
          ∃ failure,
            after.replay.yard.perform command =
                .error failure ∧
              report.error? = some failure.message := by
    intro command hCommand
    have hError : report.error? ≠ none := by
      intro hNone
      rw [hAll.mp hNone,
        List.getElem?_eq_none (Nat.le_refl _)] at hCommand
      cases hCommand
    rcases hFails hError with
      ⟨other, failure, hOther, hPerform, hText⟩
    cases hCommand.symm.trans hOther
    exact ⟨failure, hPerform, hText⟩
  have hCount :
      report.applied ≤ transcript.commands.toList.length := by
    by_cases hNone : report.error? = none
    · exact Nat.le_of_eq (hAll.mp hNone)
    · rcases hFails hNone with ⟨command, _, hCommand, -⟩
      exact
        Nat.le_of_lt (List.getElem?_eq_some_iff.mp hCommand).1
  constructor
  · exact ⟨hPerformed, hCount, fun command hCommand =>
      (hFailed command hCommand).imp fun _ => And.left⟩
  · exact ⟨hTranscript.1, hTranscript.2, rfl, hAll, hFailed⟩

theorem Timed.run?_of_done
    (hTimed : session.Timed config)
    (hStep : IsCount config.stepMillis)
    (hRead :
      (Source.ofText scriptName text).parse.program? =
        some program)
    (hDone :
      (program.evaluate session.stage).crash? = none) :
    let transcript :=
      (program.evaluate session.stage).transcript
    ∃ count reached,
      session.replay.yard.Reaches transcript.commands.toList
          count reached ∧
        if count * config.stepMillis < 1000 * 2 ^ 64 then
          ∃ report after,
            session.run? text = some (report, after) ∧
              after.replay.isSettled ∧
              after.replay.yard = reached ∧
              TellsCount transcript count reached report
        else
          session.run? text = none := by
  intro transcript
  rcases hTimed.ready.run_reaches hRead hDone with
    ⟨hReaches, hTells⟩
  have hSettled := (hTimed.ready.run text).1
  rw [hTimed.run?_eq hStep]
  generalize session.run text = ended
    at hReaches hTells hSettled ⊢
  rcases ended with ⟨report, after⟩
  refine ⟨report.applied, after.replay.yard, hReaches, ?_⟩
  by_cases hFits :
      report.applied * config.stepMillis < 1000 * 2 ^ 64
  · rw [if_pos hFits, if_pos hFits]
    exact ⟨report, after, rfl, hSettled, rfl, hTells⟩
  · rw [if_neg hFits, if_neg hFits]

/- No report says that a replay got lost on the way. -/
theorem Timed.error_of_run?
    (hTimed : session.Timed config)
    (hStep : IsCount config.stepMillis)
    {report : Report}
    {after : Session}
    (hRun : session.run? text = some (report, after))
    {lost : String}
    (hLost :
      lost ∈
        ["replay was cancelled", "replay did not settle",
          "replay outcome was lost"]) :
    report.error? ≠ some lost := by
  intro hError
  have hSame : (session.run text).1 = report := by
    rw [hTimed.run?_eq hStep] at hRun
    split at hRun
    · exact congrArg Prod.fst (Option.some.inj hRun)
    · contradiction
  have hColon :=
    hTimed.ready.colon_mem_error text lost (hSame ▸ hError)
  simp only [List.mem_cons, List.not_mem_nil, or_false]
    at hLost
  rcases hLost with rfl | rfl | rfl
  · revert hColon
    decide
  · revert hColon
    decide
  · revert hColon
    decide

end Session

end Gantry

------------------------------------------------------------
-- What A Run Is Held To
------------------------------------------------------------

namespace Gantry

namespace Session

/-
  A script on a session, whatever has been asked of it, if
  the step of its configuration has 64 bits. If the script
  cannot be read, the report gives its first diagnostic
  and nothing else has happened. If it crashes, the report
  keeps what it printed and what it was warned of, and
  again nothing else has happened. Otherwise its commands
  are carried out up to the first that fails. If their steps
  fit the clock together, everything has settled, and the
  report gives their number, which is that of all commands
  just when there is no error, and else why the next one
  fails. If they do not fit, the run is cut off. A replay
  never gets lost on the way.
-/
theorem run_reports_how_far_it_got
    {config : Config}
    (hStep : IsCount config.stepMillis)
    (level : Level)
    {actions : List Action}
    {session : Session}
    (hPast :
      (start level config).actAll? actions = some session)
    (text : String) :
    let source := Source.ofText scriptName text
    (source.parse.program? = none →
      ∃ report,
        session.run? text = some (report, session) ∧
          TellsIssue source report) ∧
    (∀ program, source.parse.program? = some program →
      let evaluation := program.evaluate session.stage
      let transcript := evaluation.transcript
      (∀ crash, evaluation.crash? = some crash →
        ∃ report,
          session.run? text = some (report, session) ∧
            TellsCrash transcript crash report) ∧
      (evaluation.crash? = none →
        ∃ count reached,
          session.replay.yard.Reaches
              transcript.commands.toList count reached ∧
            if count * config.stepMillis <
                1000 * 2 ^ 64 then
              ∃ report after,
                session.run? text = some (report, after) ∧
                  after.replay.isSettled ∧
                  after.replay.yard = reached ∧
                  TellsCount transcript count reached report
            else
              session.run? text = none)) ∧
    (∀ report after,
      session.run? text = some (report, after) →
        ∀ lost ∈
          ["replay was cancelled", "replay did not settle",
            "replay outcome was lost"],
          report.error? ≠ some lost) := by
  intro source
  have hTimed : session.Timed config :=
    (timed_start level config).actAll? hStep hPast
  refine ⟨hTimed.run?_of_unread hStep, ?_, ?_⟩
  · intro program hRead
    exact
      ⟨fun crash hCrash =>
        hTimed.run?_of_crash hStep hRead hCrash,
      hTimed.run?_of_done hStep hRead⟩
  · intro report after hRun lost hLost
    exact hTimed.error_of_run? hStep hRun hLost

/-
  With the longest step, a thousand turns can be run after a
  thousand others.
-/
theorem run_reports_how_far_it_got_again :
    let config : Config := ⟨⟨1000, 200⟩, 2 ^ 64 - 1⟩
    IsCount config.stepMillis ∧
      ∃ session,
        (start {} config).actAll? [.run turning] =
            some session ∧
          ∃ report after,
            session.run? turning = some (report, after) ∧
              after.replay.isSettled ∧
              report.applied = 1000 ∧
              report.error? = none := by
  intro config
  have hStep : IsCount config.stepMillis := by decide
  have hStart := timed_start {} config
  have hFirst :
      (start {} config).run? turning =
        some ((start {} config).run turning) :=
    (hStart.run?_turning hStep).trans (if_pos (by decide))
  generalize (start {} config).run turning = ended at hFirst
  rcases ended with ⟨_, session⟩
  have hPast :
      (start {} config).actAll? [.run turning] =
        some session := by
    rw [actAll?, List.foldlM_cons, act?, hFirst]
    rfl
  have hTimed : session.Timed config :=
    hStart.actAll? hStep hPast
  rcases evaluate_turning session.stage with
    ⟨hDone, hCommands⟩
  have hLimits : session.stage.limits = config.limits :=
    congrArg Config.limits hTimed.config_eq
  rw [hLimits] at hCommands
  rcases (run_reports_how_far_it_got hStep {} hPast
      turning).2.1 turningProgram parse_turning with
    ⟨-, hCarriedOut⟩
  rcases hCarriedOut hDone with
    ⟨count, reached, hReaches, hEnds⟩
  have hCount : count = 1000 := by
    have hMost := hReaches.count_le
    have hNext := hReaches.next turn
    rw [hCommands] at hMost hNext
    rw [List.length_replicate] at hMost
    apply Nat.le_antisymm hMost
    apply Nat.le_of_not_lt
    intro hFew
    rcases hNext (List.getElem?_replicate_of_lt hFew) with
      ⟨failure, hFails⟩
    cases hFails
  subst hCount
  rw [if_pos (by decide)] at hEnds
  rcases hEnds with
    ⟨report, after, hRun, hSettled, -, hTells⟩
  have hError : report.error? = none := by
    rw [hTells.complete, hTells.applied, hCommands,
      List.length_replicate]
  exact ⟨hStep, session, hPast, report, after, hRun,
    hSettled, hTells.applied, hError⟩

/-
  A script that can be read and does not crash, and still
  there is no report on it: it turns once too often.
-/
theorem overflow_leaves_no_report :
    let config : Config := ⟨⟨1001, 200⟩, 2 ^ 64 - 1⟩
    let session := start {} config
    let source := Source.ofText scriptName turning
    Config.read? (slowest "1001") = some config ∧
      ∃ program,
        source.parse.program? = some program ∧
          (program.evaluate session.stage).crash? = none ∧
          session.run? turning = none := by
  intro config session source
  have hStep : IsCount config.stepMillis := by decide
  have hRun := (timed_start {} config).run?_turning hStep
  exact ⟨by decide +kernel, turningProgram, parse_turning,
    (evaluate_turning session.stage).1,
    hRun.trans (if_neg (by decide))⟩

end Session

end Gantry
