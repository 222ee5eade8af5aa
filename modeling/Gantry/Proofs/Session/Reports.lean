import Gantry.Proofs.Replay.Sequence
import Gantry.Proofs.Token.Layout
import Gantry.Session

/-
  This file tells what a session reports on a run, whatever
  was run on it before. A script that cannot be read or that
  crashes leaves the session alone; any other is replayed to
  its end, and the report says how far it got and why it got
  no further. Time is no matter here: the clock counts as far
  as it must.

  Key definitions include:
    * `Gantry.Session.Action`
    * `Gantry.Session.actAll`
    * `Gantry.Session.Ready`

  Main statements:
    * `Gantry.Session.Ready.run`
    * `Gantry.Source.exists_first_of_unread`
    * `Gantry.Session.Ready.replayAll_reports`
    * `Gantry.Session.run_reports_issue`
    * `Gantry.Session.Ready.run_reports_replay`
    * `Gantry.Session.Ready.colon_mem_error`
-/

------------------------------------------------------------
-- Sessions That Are Ready
------------------------------------------------------------

namespace Gantry

namespace Session

/- What can be asked of a session. -/
inductive Action where
  | run (text : String)
  | check (text : String)
  | resetLevel

/- The session after an action. -/
def act
    (session : Session) :
    Action → Session
| .run text => (session.run text).2
| .check text => (session.check text).2
| .resetLevel => session.resetLevel

/- The session after several actions. -/
def actAll
    (session : Session)
    (actions : List Action) : Session :=
  actions.foldl act session

/-
  Nothing is under way in a session, and its replay has come
  about by operations alone.
-/
def Ready
    (session : Session) : Prop :=
  session.replay.isSettled ∧
    ∃ world operations,
      session.replay =
        (Replay.ofWorld world).actAll operations

theorem Ready.orderly
    {session : Session}
    (hReady : session.Ready) :
    session.replay.Orderly := by
  rcases hReady with ⟨_, world, operations, hReplay⟩
  rw [hReplay]
  exact Replay.orderly_actAll world operations

theorem isSettled_resetLevel
    (session : Session) :
    session.resetLevel.replay.isSettled := by
  simp [resetLevel, Replay.isSettled, Replay.setCarried,
    Replay.station, Replay.loadWorld,
    Replay.cancelPending_eq]

theorem ready_resetLevel
    {session : Session}
    {world : World}
    {operations : List Replay.Operation}
    (hReplay :
      session.replay =
        (Replay.ofWorld world).actAll operations) :
    session.resetLevel.Ready := by
  refine ⟨isSettled_resetLevel session, world,
    operations ++
      [.loadWorld session.level.world,
        .station session.level.crane.pose
          session.level.crane.supply,
        .setCarried session.level.carried?], ?_⟩
  unfold Replay.actAll at hReplay ⊢
  rw [List.foldl_append, ← hReplay]
  rfl

theorem ready_start
    (level : Level)
    (config : Config) :
    (start level config).Ready :=
  @ready_resetLevel _ level.world [.setStep config.step] rfl

/- The replay after the commands of a script. -/
theorem replay_replayAll
    (session : Session)
    (transcript : Transcript) :
    (session.replayAll transcript).2.replay =
      (session.replay.enqueueAll
        transcript.commands.toList).2.wait.2 := rfl

theorem Ready.replayAll
    {session : Session}
    (hReady : session.Ready)
    (transcript : Transcript) :
    (session.replayAll transcript).2.Ready := by
  rcases hReady with ⟨_, world, operations, hReplay⟩
  constructor
  · rw [replay_replayAll]
    exact
      (Replay.prompt_enqueueAll _ _).isSettled_wait
  · refine ⟨world,
      operations ++
        [.enqueueAll transcript.commands.toList, .wait], ?_⟩
    rw [replay_replayAll]
    unfold Replay.actAll at hReplay ⊢
    rw [List.foldl_append, ← hReplay]
    rfl

theorem Ready.runProgram
    {session : Session}
    (hReady : session.Ready)
    (program : Program) :
    (session.runProgram program).2.Ready := by
  unfold Session.runProgram
  dsimp only
  split
  · exact hReady
  · exact hReady.replayAll _

theorem Ready.run
    {session : Session}
    (hReady : session.Ready)
    (text : String) :
    (session.run text).2.Ready := by
  unfold Session.run
  dsimp only
  split
  · exact hReady.runProgram _
  · exact hReady

theorem Ready.resetLevel
    {session : Session}
    (hReady : session.Ready) :
    session.resetLevel.Ready := by
  rcases hReady with ⟨_, world, operations, hReplay⟩
  exact ready_resetLevel hReplay

/- A check runs a script on the level as it was set up. -/
theorem check_eq
    (session : Session)
    (text : String) :
    session.check text =
      (((session.resetLevel.run text).1,
        (session.resetLevel.run text).2.goalReport),
        (session.resetLevel.run text).2) := by
  rw [check]

theorem act_check
    (session : Session)
    (text : String) :
    session.act (.check text) =
      (session.resetLevel.run text).2 := by
  rw [act, check_eq]

end Session

end Gantry

------------------------------------------------------------
-- Scripts That Cannot Be Read
------------------------------------------------------------

namespace Gantry

namespace Source

/- Of a script that cannot be read, something was reported. -/
theorem exists_first_of_unread
    (source : Source)
    (hUnread : source.parse.program? = none) :
    ∃ issue, source.parse.log.first? = some issue := by
  rw [← Option.isSome_iff_exists,
    ← Option.ne_none_iff_isSome]
  intro hNone
  unfold parse at hUnread hNone
  dsimp only at hUnread hNone
  split at hUnread
  · rename_i hLexed
    rw [if_pos hLexed] at hNone
    rw [Parser.parse_eq] at hUnread hNone
    dsimp only at hUnread hNone
    have hExtends :=
      Parser.extends_topLevel
        (Parser.boundFor source.lex.tokens)
        { rest := source.lex.tokens }
    rw [if_pos (hExtends.isEmpty_iff.mpr hNone)] at hUnread
    cases hUnread
  · rename_i hLexed
    rw [if_neg hLexed] at hNone
    have hExtends :=
      Lexer.extends_lexLines source.finish [] Log.empty
        source.numbered
    exact hLexed (hExtends.isEmpty_iff.mpr hNone)

end Source

end Gantry

------------------------------------------------------------
-- What Errors Say
------------------------------------------------------------

namespace Gantry

/-
  Every text that a report gives as its error has a colon in
  it. The texts for a replay that went astray have none.
-/
theorem Diagnostic.colon_mem_text
    (diagnostic : Diagnostic) :
    ':' ∈ diagnostic.text.toList := by
  simp [Diagnostic.text]

theorem Crash.colon_mem_message
    (crash : Crash) :
    ':' ∈ crash.message.toList := by
  unfold Crash.message
  rw [String.toList_append, String.toList_append]
  apply List.mem_append_left
  apply List.mem_append_right
  decide

theorem CraneFailure.colon_mem_message
    (failure : CraneFailure) :
    ':' ∈ failure.message.toList := by
  cases failure with
  | outOfBounds verb x y =>
      unfold CraneFailure.message
      rw [String.toList_append]
      apply List.mem_append_right
      decide
  | alreadyCarrying kind =>
      unfold CraneFailure.message
      rw [String.toList_append]
      apply List.mem_append_left
      decide
  | noBlock verb x y =>
      unfold CraneFailure.message
      simp only [String.toList_append, List.append_assoc]
      apply List.mem_append_right
      apply List.mem_append_right
      apply List.mem_append_left
      decide

end Gantry

------------------------------------------------------------
-- Reports
------------------------------------------------------------

namespace Gantry

namespace Session

/-
  The commands of a script are carried out up to the first
  that fails, and the report gives their number and why that
  one failed.
-/
theorem Ready.replayAll_reports
    {session : Session}
    (hReady : session.Ready)
    (transcript : Transcript) :
    let report := (session.replayAll transcript).1
    let after := (session.replayAll transcript).2
    ∃ done left,
      transcript.commands.toList = done ++ left ∧
        report.applied = done.length ∧
        session.replay.yard.performAll done =
          .ok after.replay.yard ∧
        (left = [] → report.error? = none) ∧
        (∀ command rest, left = command :: rest →
          ∃ failure,
            after.replay.yard.perform command =
                .error failure ∧
              report.error? = some failure.message) := by
  intro report after
  have hSettled : after.replay.isSettled :=
    (hReady.replayAll transcript).1
  let commands := transcript.commands.toList
  let run := (session.replay.enqueueAll commands).1
  rcases Replay.wait_eq_ticks
      (session.replay.enqueueAll commands).2 with
    ⟨ticks, hTicks⟩
  have hFinal :
      after.replay =
        ticks.foldl Replay.tick
          (session.replay.enqueueAll commands).2 := hTicks
  rw [hFinal] at hSettled
  rcases Replay.concluded_enqueueAll hReady.orderly hReady.1
      commands ticks hSettled with
    ⟨done, left, hParts, hCount, hConcluded⟩
  rw [← hFinal] at hConcluded
  have hRun : run = ⟨run.first, (done ++ left).length⟩ :=
    hCount
  have hError :
      report.error? = replayError? (after.replay.poll run) :=
    rfl
  have hApplied :
      report.applied = after.replay.resolvedCount run := rfl
  rw [hRun] at hError hApplied
  refine ⟨done, left, hParts, ?_, hConcluded.performed,
    ?_, ?_⟩
  · rw [hApplied]
    exact hConcluded.resolvedCount
  · intro hLeft
    rw [hError, hConcluded.poll.1 hLeft]
    rfl
  · intro command rest hLeft
    rcases hConcluded.poll.2 command rest hLeft with
      ⟨failure, hPerform, hPoll⟩
    refine ⟨failure, hPerform, ?_⟩
    rw [hError, hPoll]
    rfl

/- A script that cannot be read has its first issue told. -/
theorem unreadable_of_first
    {log : Log Diagnostic}
    {diagnostic : Diagnostic}
    (hFirst : log.first? = some diagnostic) :
    (unreadable log).diagnostics.head? = some diagnostic ∧
      (unreadable log).error? = some diagnostic.text := by
  refine ⟨hFirst, ?_⟩
  rw [unreadable, hFirst]
  rfl

theorem colon_mem_unreadable
    {log : Log Diagnostic}
    {error : String}
    (hError : (unreadable log).error? = some error) :
    ':' ∈ error.toList := by
  rcases Option.map_eq_some_iff.mp hError with
    ⟨diagnostic, _, rfl⟩
  exact diagnostic.colon_mem_text

theorem run_of_unread
    (session : Session)
    {text : String}
    (hUnread :
      (Source.ofText scriptName text).parse.program? =
        none) :
    session.run text =
      (unreadable
        ((Source.ofText scriptName text).parse.log.map
          (Source.ofText scriptName text).diagnose),
        session) := by
  unfold run
  dsimp only
  rw [hUnread]

theorem run_of_read
    (session : Session)
    {text : String}
    {program : Program}
    (hRead :
      (Source.ofText scriptName text).parse.program? =
        some program) :
    session.run text = session.runProgram program := by
  unfold run
  dsimp only
  rw [hRead]

theorem runProgram_of_crash
    (session : Session)
    {program : Program}
    {crash : Crash}
    (hCrash :
      (program.evaluate session.stage).crash? =
        some crash) :
    session.runProgram program =
      ({ evaluated
            (program.evaluate session.stage).transcript with
          error? := some crash.message },
        session) := by
  unfold runProgram
  dsimp only
  rw [hCrash]

theorem runProgram_of_done
    (session : Session)
    {program : Program}
    (hDone :
      (program.evaluate session.stage).crash? = none) :
    session.runProgram program =
      session.replayAll
        (program.evaluate session.stage).transcript := by
  unfold runProgram
  dsimp only
  rw [hDone]

/- The error of a report, if there is one, has a colon. -/
theorem Ready.colon_mem_error
    {session : Session}
    (hReady : session.Ready)
    (text error : String)
    (hError : (session.run text).1.error? = some error) :
    ':' ∈ error.toList := by
  cases hParse :
      (Source.ofText scriptName text).parse.program? with
  | none =>
      rw [run_of_unread session hParse] at hError
      exact colon_mem_unreadable hError
  | some program =>
      rw [run_of_read session hParse] at hError
      cases hCrash :
          (program.evaluate session.stage).crash? with
      | some crash =>
          rw [runProgram_of_crash session hCrash] at hError
          cases hError
          exact crash.colon_mem_message
      | none =>
          rw [runProgram_of_done session hCrash] at hError
          rcases hReady.replayAll_reports
              (program.evaluate
                session.stage).transcript with
            ⟨done, left, _, _, _, hNone, hSome⟩
          cases left with
          | nil =>
              rw [hNone rfl] at hError
              cases hError
          | cons command rest =>
              rcases hSome command rest rfl with
                ⟨failure, _, hFailure⟩
              rw [hFailure] at hError
              cases hError
              exact failure.colon_mem_message

/- The first issue of a script that cannot be read. -/
theorem run_reports_issue
    (session : Session)
    {text : String}
    (hUnread :
      (Source.ofText scriptName text).parse.program? =
        none) :
    let source := Source.ofText scriptName text
    ∃ issue,
      source.parse.log.first? = some issue ∧
        (session.run text).1.diagnostics.head? =
          some (source.diagnose issue) ∧
        (session.run text).1.error? =
          some (source.diagnose issue).text := by
  intro source
  rcases source.exists_first_of_unread hUnread with
    ⟨issue, hFirst⟩
  have hHead :
      (source.parse.log.map source.diagnose).first? =
        some (source.diagnose issue) := by
    unfold Log.first? at hFirst ⊢
    unfold Log.map
    rw [List.head?_map, hFirst]
    rfl
  refine ⟨issue, hFirst, ?_⟩
  rw [run_of_unread session hUnread]
  exact unreadable_of_first hHead

/- How far a script without a crash got. -/
theorem Ready.run_reports_replay
    {session : Session}
    (hReady : session.Ready)
    {text : String}
    {program : Program}
    (hRead :
      (Source.ofText scriptName text).parse.program? =
        some program)
    (hDone :
      (program.evaluate session.stage).crash? = none) :
    let report := (session.run text).1
    let after := (session.run text).2
    let commands :=
      (program.evaluate
        session.stage).transcript.commands.toList
    session.replay.yard.performAll
        (commands.take report.applied) =
      .ok after.replay.yard ∧
    (report.error? = none ↔
      report.applied = commands.length) ∧
    (report.error? ≠ none →
      ∃ command failure,
        commands[report.applied]? = some command ∧
          after.replay.yard.perform command =
            .error failure ∧
          report.error? = some failure.message) := by
  intro report after commands
  have hReports :=
    hReady.replayAll_reports
      (program.evaluate session.stage).transcript
  rw [← runProgram_of_done session hDone,
    ← run_of_read session hRead] at hReports
  rcases hReports with
    ⟨done, left, hParts, hApplied, hPerformed, hNone,
      hSome⟩
  have hParts : commands = done ++ left := hParts
  have hApplied : report.applied = done.length := hApplied
  rw [hParts, hApplied, List.take_left]
  refine ⟨hPerformed, ?_⟩
  cases left with
  | nil =>
      have hNone : report.error? = none := hNone rfl
      simp [hNone]
  | cons command rest =>
      rcases hSome command rest rfl with
        ⟨failure, hPerform, hError⟩
      have hError :
          report.error? = some failure.message := hError
      rw [hError]
      refine ⟨by simp, fun _ => ?_⟩
      refine ⟨command, failure, ?_, hPerform, rfl⟩
      rw [List.getElem?_append_right (Nat.le_refl _),
        Nat.sub_self]
      rfl

theorem transcript_of_done
    (session : Session)
    {program : Program}
    (hDone :
      (program.evaluate session.stage).crash? = none) :
    (session.runProgram program).1.stdout =
        (program.evaluate session.stage).transcript.stdout ∧
      (session.runProgram program).1.warnings =
        (program.evaluate
          session.stage).transcript.warnings.toList := by
  rw [runProgram_of_done session hDone]
  exact ⟨rfl, rfl⟩

end Session

end Gantry
