import Gantry.Proofs.Parser.CountingExpressions

/-
  This file follows the levels of indentation through the
  reading of statements. What is read or skipped in place of
  a statement opens no level that it does not close, closes
  none that it has not opened, and puts all counts back.

  Key definitions include:
    * `Gantry.Tally.Settled`
    * `Gantry.Trial.Sound`
    * `Gantry.Tally.Climbs`
    * `Gantry.Tally.Stays`
    * `Gantry.Counting.Runs`

  Main statements:
    * `Gantry.Tally.Climbs.trans`
    * `Gantry.Counting.runs_synchronize`
-/

------------------------------------------------------------
-- Levels Behind A Reading
------------------------------------------------------------

namespace Gantry

namespace Cursor

/- The tokens between two cursors do not end the file. -/
def Takes
    (cursor : Cursor)
    (taken : List Token)
    (after : Cursor) : Prop :=
  cursor.rest = taken ++ after.rest ∧
    ∀ token ∈ taken, token.kind ≠ .endOfFile

theorem Takes.refl
    (cursor : Cursor) :
    cursor.Takes [] cursor :=
  ⟨rfl, by simp⟩

theorem Takes.trans
    {cursor middle after : Cursor}
    {taken more : List Token}
    (hFirst : cursor.Takes taken middle)
    (hSecond : middle.Takes more after) :
    cursor.Takes (taken ++ more) after := by
  refine ⟨?_, ?_⟩
  · rw [hFirst.1, hSecond.1, List.append_assoc]
  · intro token hToken
    rcases List.mem_append.mp hToken with hHere | hThere
    · exact hFirst.2 token hHere
    · exact hSecond.2 token hThere

theorem Takes.closed
    {cursor after : Cursor}
    {taken : List Token}
    (hTakes : cursor.Takes taken after)
    (hClosed : Token.Closed cursor.rest) :
    Token.Closed after.rest := by
  rw [hTakes.1] at hClosed
  exact hClosed.of_append hTakes.2

theorem takes_next
    {cursor : Cursor}
    (hKind : cursor.kind ≠ .endOfFile) :
    ∃ token,
      token.kind = cursor.kind ∧
        cursor.Takes [token] cursor.next := by
  rcases rest_of_kind hKind with ⟨token, hRest, hToken⟩
  refine ⟨token, hToken, hRest, ?_⟩
  simpa [hToken] using hKind

end Cursor

/-
  Where a statement was tried to be read, all levels around
  it are still to be closed. What was taken there closes
  just the levels that it opens, unless reading has stopped.
-/
structure Trial.Sound
    (trial : Trial) : Prop where
  level :
    Token.climb trial.start.level
      trial.start.cursor.rest = some 0
  balanced :
    trial.stop.cursor.log.isFull = true ∨
      ∃ taken,
        trial.start.cursor.Takes taken trial.stop.cursor ∧
          Token.climb 0 taken = some 0

namespace Tally

/-
  So many levels are open, and all of them are still to be
  closed, unless reading is about to stop.
-/
def Settled
    (tally : Tally)
    (level : Nat) : Prop :=
  tally.cursor.log.isFull = true ∨
    Token.climb level tally.cursor.rest = some 0

/- No level is open at the end of the file. -/
theorem Settled.isFull_of_end
    {tally : Tally}
    {level : Nat}
    (hSettled : tally.Settled (level + 1))
    (hKind : tally.cursor.kind = .endOfFile) :
    tally.cursor.log.isFull = true := by
  rcases hSettled with hFull | hClimb
  · exact hFull
  · unfold Cursor.kind at hKind
    cases hRest : tally.cursor.rest with
    | nil => simp [hRest, Token.climb] at hClimb
    | cons token rest =>
        rw [hRest] at hClimb hKind
        rw [Token.climb_endOfFile hKind] at hClimb
        simp at hClimb

/-
  Reading has gone on from one level to another, counted
  from a level `base` which was never left. Nothing else has
  changed but for the trials that were noted on the way.
-/
structure Climbs
    (base first last : Nat)
    (before after : Tally) : Prop where
  counts : after.counts = before.counts
  level : after.level = before.level
  log : before.cursor.log.Extends after.cursor.log
  strays :
    before.Settled (base + first) →
      after.strays = before.strays
  taken :
    ∃ taken,
      before.cursor.Takes taken after.cursor ∧
        (before.Settled (base + first) →
          after.cursor.log.isFull = true ∨
            Token.climb first taken = some last)
  trials :
    ∃ noted,
      after.trials = before.trials ++ noted ∧
        ∀ trial ∈ noted,
          trial.stop.counts = trial.start.counts ∧
            (∃ earlier,
              before.cursor.Takes earlier
                trial.start.cursor) ∧
              (before.Settled (base + first) →
                trial.Sound)

variable {base first middle last : Nat}

/- Only the cursor has moved. -/
theorem climbs_of_takes
    {tally : Tally}
    {cursor : Cursor}
    {taken : List Token}
    (hLog : tally.cursor.log.Extends cursor.log)
    (hTakes : tally.cursor.Takes taken cursor)
    (hClimb :
      tally.Settled (base + first) →
        cursor.log.isFull = true ∨
          Token.climb first taken = some last) :
    Climbs base first last tally
      { tally with cursor := cursor } where
  counts := rfl
  level := rfl
  log := hLog
  strays _ := rfl
  taken := ⟨taken, hTakes, hClimb⟩
  trials := ⟨[], by simp, by simp⟩

theorem isFull_of_extends
    {log later : Log Issue}
    (hExtends : log.Extends later)
    (hFull : log.isFull = true) :
    later.isFull = true := by
  have hTotal := hExtends.total_le
  unfold Log.isFull at *
  rw [decide_eq_true_eq] at *
  omega

/- What is left to be closed behind a reading. -/
theorem Climbs.settled
    {before after : Tally}
    (hClimbs : Climbs base first last before after)
    (hSettled : before.Settled (base + first)) :
    after.Settled (base + last) := by
  rcases hClimbs.taken with ⟨taken, hTakes, hTaken⟩
  rcases hTaken hSettled with hFull | hClimb
  · exact Or.inl hFull
  rcases hSettled with hFull | hLevel
  · exact Or.inl (isFull_of_extends hClimbs.log hFull)
  · right
    rw [hTakes.1, Token.climb_append hTakes.2,
      Nat.add_comm, Token.climb_add hClimb] at hLevel
    rw [Nat.add_comm]
    exact hLevel

theorem Climbs.trans
    {before between after : Tally}
    (hFirst : Climbs base first middle before between)
    (hSecond : Climbs base middle last between after) :
    Climbs base first last before after where
  counts := hSecond.counts.trans hFirst.counts
  level := hSecond.level.trans hFirst.level
  log := hFirst.log.trans hSecond.log
  strays hSettled :=
    (hSecond.strays (hFirst.settled hSettled)).trans
      (hFirst.strays hSettled)
  taken := by
    rcases hFirst.taken with ⟨taken, hTakes, hTaken⟩
    rcases hSecond.taken with ⟨more, hMore, hClimb⟩
    refine ⟨taken ++ more, hTakes.trans hMore, ?_⟩
    intro hSettled
    rcases hTaken hSettled with hFull | hHere
    · exact Or.inl (isFull_of_extends hSecond.log hFull)
    rcases hClimb (hFirst.settled hSettled) with
      hFull | hThere
    · exact Or.inl hFull
    · right
      rw [Token.climb_append hTakes.2, hHere]
      exact hThere
  trials := by
    rcases hFirst.taken with ⟨taken, hTakes, _⟩
    rcases hFirst.trials with ⟨noted, hNoted, hFair⟩
    rcases hSecond.trials with ⟨others, hOthers, hMore⟩
    refine ⟨noted ++ others, ?_, ?_⟩
    · rw [hOthers, hNoted, List.append_assoc]
    · intro trial hTrial
      rcases List.mem_append.mp hTrial with hHere | hThere
      · exact hFair trial hHere
      · rcases hMore trial hThere with
          ⟨hCounts, ⟨earlier, hEarlier⟩, hSound⟩
        exact ⟨hCounts, ⟨_, hTakes.trans hEarlier⟩,
          fun hSettled =>
            hSound (hFirst.settled hSettled)⟩

theorem Climbs.length_le
    {before after : Tally}
    (hClimbs : Climbs base first last before after) :
    after.cursor.rest.length ≤
      before.cursor.rest.length := by
  rcases hClimbs.taken with ⟨taken, hTakes, _⟩
  rw [hTakes.1]
  simp

/- Levels that stay open may be counted as well. -/
theorem Climbs.above
    {outer : Nat}
    {before after : Tally}
    (hClimbs :
      Climbs (base + outer) first last before after) :
    Climbs base (first + outer) (last + outer) before
      after := by
  have hBase :
      base + (first + outer) = base + outer + first := by
    omega
  rcases hClimbs with
    ⟨hCounts, hLevel, hLog, hStrays, hTaken, hTrials⟩
  refine
    ⟨hCounts, hLevel, hLog, hBase ▸ hStrays, ?_,
      hBase ▸ hTrials⟩
  rcases hTaken with ⟨taken, hTakes, hClimb⟩
  refine ⟨taken, hTakes, ?_⟩
  intro hSettled
  rcases hClimb (hBase ▸ hSettled) with hFull | hClimb
  · exact Or.inl hFull
  · exact Or.inr (Token.climb_add hClimb outer)

/-
  What is counted around a reading does not matter to it, if
  it is put back behind it.
-/
theorem Climbs.restored
    {before after : Tally}
    {counts restored : Counts}
    {level outside : Nat}
    (hClimbs :
      Climbs base first last
        { before with counts := counts, level := level }
        after)
    (hCounts : restored = before.counts)
    (hLevel : outside = before.level) :
    Climbs base first last before
      { after with counts := restored, level := outside } :=
  { hClimbs with
    counts := hCounts
    level := hLevel }

/- Reading has come back to the level it started at. -/
def Stays
    (before after : Tally) : Prop :=
  Climbs before.level 0 0 before after

theorem Stays.trans
    {before between after : Tally}
    (hFirst : Stays before between)
    (hSecond : Stays between after) :
    Stays before after := by
  unfold Stays at hSecond
  rw [Climbs.level hFirst] at hSecond
  exact Climbs.trans hFirst hSecond

theorem Stays.refl
    (tally : Tally) :
    Stays tally tally := by
  apply climbs_of_takes (Log.Extends.refl _)
    (Cursor.Takes.refl _)
  exact fun _ => Or.inr rfl

instance : IsPreorder Tally Stays where
  refl := Stays.refl
  trans _ _ _ := Stays.trans

/- The same, seen from the level around it. -/
theorem Stays.inside
    {before after : Tally}
    (hStays : Stays before after)
    (hLevel : before.level = base + 1) :
    Climbs base 1 1 before after := by
  unfold Stays at hStays
  rw [hLevel] at hStays
  exact Climbs.above hStays

end Tally

end Gantry

------------------------------------------------------------
-- Steps
------------------------------------------------------------

namespace Gantry

namespace Tally

variable
    {base height : Nat}
    {tally after : Tally}

/- The next token was taken. -/
theorem climbs_next
    {last : Nat}
    (hKind : tally.cursor.kind ≠ .endOfFile)
    (hClimb :
      ∀ token : Token, token.kind = tally.cursor.kind →
        Token.climb height [token] = some last) :
    Climbs base height last tally tally.next := by
  rcases Cursor.takes_next hKind with ⟨token, hToken, hTakes⟩
  apply climbs_of_takes _ hTakes
  · exact fun _ => Or.inr (hClimb token hToken)
  · rw [Cursor.log_next]
    exact Log.Extends.refl _

theorem climbs_indent
    (hKind : tally.cursor.kind = .indent) :
    Climbs base height (height + 1) tally tally.next := by
  apply climbs_next (by rw [hKind]; simp)
  intro token hToken
  rw [Token.climb_indent (hToken.trans hKind)]
  rfl

theorem climbs_dedent
    (hKind : tally.cursor.kind = .dedent) :
    Climbs base (height + 1) height tally tally.next := by
  apply climbs_next (by rw [hKind]; simp)
  intro token hToken
  rw [Token.climb_dedent (hToken.trans hKind)]
  rfl

theorem climbs_other
    (hEnd : tally.cursor.kind ≠ .endOfFile)
    (hIndent : tally.cursor.kind ≠ .indent)
    (hDedent : tally.cursor.kind ≠ .dedent) :
    Climbs base height height tally tally.next := by
  apply climbs_next hEnd
  intro token hToken
  rw [← hToken] at hEnd hIndent hDedent
  rw [Token.climb_other hEnd hIndent hDedent]
  rfl

theorem stays_newline
    (hKind : tally.cursor.kind = .newline) :
    Stays tally tally.next := by
  apply climbs_other <;> simp [hKind]

theorem Inline.counts
    (hInline : tally.Inline after) :
    after.counts = tally.counts := by
  change
    Counts.mk after.counts.loops after.counts.functions
      after.counts.depth = tally.counts
  rw [hInline.loops, hInline.functions, hInline.depth]

/- A line is all on one level. -/
theorem Inline.climbs
    (hInline : tally.Inline after) :
    Climbs base height height tally after where
  counts := hInline.counts
  level := hInline.level
  log := hInline.log
  strays _ := hInline.strays
  taken := by
    rcases hInline.taken with ⟨taken, hTaken, hWords⟩
    have hFlat :
        ∀ token ∈ taken,
          token.kind ≠ .endOfFile ∧
            token.kind ≠ .indent ∧
              token.kind ≠ .dedent := by
      intro token hToken
      have hWord := hWords token hToken
      refine ⟨?_, ?_, ?_⟩ <;>
        (intro hKind; rw [hKind] at hWord; cases hWord)
    refine ⟨taken, ⟨hTaken, ?_⟩, fun _ => Or.inr ?_⟩
    · exact fun token hToken => (hFlat token hToken).1
    · exact Token.climb_flat
        (fun token hToken => (hFlat token hToken).2) height
  trials := ⟨[], by simp [hInline.trials], by simp⟩

theorem Inline.stays
    (hInline : tally.Inline after) :
    Stays tally after :=
  hInline.climbs

/- Reading stops only where all levels are closed. -/
theorem climbs_stop
    (hStop :
      tally.cursor.log.isFull = true ∨
        tally.cursor.kind = .endOfFile) :
    Climbs base (height + 1) 0 tally tally := by
  apply climbs_of_takes (Log.Extends.refl _)
    (Cursor.Takes.refl _)
  intro hSettled
  rcases hStop with hFull | hEnd
  · exact Or.inl hFull
  · exact Or.inl (hSettled.isFull_of_end hEnd)

/-
  The end of a region outside of all regions. There is none
  where no level is closed that is not open.
-/
def stray
    (tally : Tally) : Tally :=
  { tally.next with strays := tally.strays + 1 }

theorem stays_stray
    (hLevel : tally.level = 0)
    (hOpen : tally.cursor.log.isFull = false)
    (hDedent : tally.cursor.kind = .dedent) :
    Stays tally tally.stray := by
  have hEnd : tally.cursor.kind ≠ .endOfFile := by
    simp [hDedent]
  rcases Cursor.takes_next hEnd with ⟨token, hToken, hTakes⟩
  have hNever : ¬tally.Settled (tally.level + 0) := by
    rintro (hFull | hClimb)
    · rw [hOpen] at hFull
      cases hFull
    · rw [hLevel, hTakes.1, List.singleton_append,
        Token.climb_dedent_zero
          (hToken.trans hDedent)] at hClimb
      cases hClimb
  have hNext : Climbs 0 1 0 tally tally.next :=
    climbs_dedent hDedent
  exact
    { counts := rfl
      level := rfl
      log := hNext.log
      strays := fun hSettled => absurd hSettled hNever
      taken :=
        ⟨[token], hTakes,
          fun hSettled => absurd hSettled hNever⟩
      trials := ⟨[], by simp [stray, next], by simp⟩ }

/- A trial is noted behind what was read or skipped. -/
def note
    (tally : Tally)
    (start : Post) : Tally :=
  { tally with
    trials := tally.trials ++ [⟨start, tally.toPost⟩] }

theorem Stays.noted
    (hStays : Stays tally after)
    (hOpen : tally.cursor.log.isFull = false) :
    Stays tally (after.note tally.toPost) := by
  rcases hStays.trials with ⟨noted, hNoted, hFair⟩
  refine
    { hStays with
      trials :=
        ⟨noted ++ [⟨tally.toPost, after.toPost⟩], ?_, ?_⟩ }
  · change after.trials ++ _ = _
    rw [hNoted, List.append_assoc]
  · intro trial hTrial
    rcases List.mem_append.mp hTrial with hHere | hLast
    · exact hFair trial hHere
    · obtain rfl := List.mem_singleton.mp hLast
      refine
        ⟨hStays.counts, ⟨[], Cursor.Takes.refl _⟩, ?_⟩
      intro hSettled
      rcases hStays.taken with ⟨taken, hTakes, hTaken⟩
      refine ⟨?_, (hTaken hSettled).imp id ?_⟩
      · rcases hSettled with hFull | hLevel
        · rw [hOpen] at hFull
          cases hFull
        · exact hLevel
      · exact fun hClimb => ⟨taken, hTakes, hClimb⟩

end Tally

end Gantry

------------------------------------------------------------
-- Cursors That Skip
------------------------------------------------------------

namespace Gantry

namespace Cursor

variable {cursor : Cursor}

theorem rest_next
    {token : Token}
    {rest : List Token}
    (hRest : cursor.rest = token :: rest) :
    cursor.next.rest = rest := by
  unfold next
  rw [hRest]

theorem pastNewlines_of_newline
    (hKind : cursor.kind = .newline) :
    cursor.pastNewlines = cursor.next.pastNewlines := by
  rcases cursor with ⟨rest, previous, log⟩
  cases rest with
  | nil => cases hKind
  | cons token rest =>
      have hToken : token.kind = .newline := hKind
      change
        Cursor.mk
          (Parser.dropNewlines previous (token :: rest)).2
          (Parser.dropNewlines previous (token :: rest)).1
          log = _
      rw [Parser.dropNewlines, if_pos hToken]
      rfl

theorem kind_pastNewlines
    (cursor : Cursor) :
    cursor.pastNewlines.kind ≠ .newline := by
  induction hRest : cursor.rest generalizing cursor with
  | nil =>
      have hKind : cursor.kind ≠ .newline := by
        simp [kind, hRest]
      rwa [pastNewlines_of_kind hKind]
  | cons token rest ih =>
      by_cases hKind : cursor.kind = .newline
      · rw [pastNewlines_of_newline hKind]
        exact ih cursor.next (rest_next hRest)
      · rwa [pastNewlines_of_kind hKind]

/- Where an indented region ends. -/
def pastRegion
    (cursor : Cursor)
    (depth : Nat) : Cursor :=
  ((Parser.dropBy (Parser.dropRegion depth)).run cursor).2

theorem pastRegion_eq
    (cursor : Cursor)
    (depth : Nat) :
    cursor.pastRegion depth =
      match cursor.kind with
      | .endOfFile => cursor
      | .indent => cursor.next.pastRegion (depth + 1)
      | .dedent =>
          if depth ≤ 1 then
            cursor.next
          else
            cursor.next.pastRegion (depth - 1)
      | _ => cursor.next.pastRegion depth := by
  rcases cursor with ⟨rest, previous, log⟩
  cases rest with
  | nil => rfl
  | cons token rest =>
      change
        Cursor.mk
          (Parser.dropRegion depth previous
            (token :: rest)).2
          (Parser.dropRegion depth previous
            (token :: rest)).1
          log =
          match token.kind with
          | .endOfFile => _
          | .indent => _
          | .dedent => _
          | _ => _
      rw [Parser.dropRegion]
      cases token.kind with
      | dedent =>
          dsimp only
          split <;> rfl
      | _ => rfl

theorem synchronized_eq
    (cursor : Cursor) :
    cursor.synchronized =
      match cursor.kind with
      | .endOfFile => cursor
      | .indent => cursor
      | .dedent => cursor
      | .newline =>
          if cursor.next.kind = .indent then
            cursor.next.pastRegion 0
          else
            cursor.next
      | _ => cursor.next.synchronized := by
  rcases cursor with ⟨rest, previous, log⟩
  cases rest with
  | nil => rfl
  | cons token rest =>
      change
        Cursor.mk
          (Parser.dropLine previous (token :: rest)).2
          (Parser.dropLine previous (token :: rest)).1
          log =
          match token.kind with
          | .endOfFile => _
          | .indent => _
          | .dedent => _
          | .newline => _
          | _ => _
      rw [Parser.dropLine]
      cases token.kind with
      | newline =>
          dsimp only
          cases rest with
          | nil => rfl
          | cons next rest =>
              rw [List.head?_cons, Option.any_some]
              by_cases hIndent : next.kind = .indent
              · rw [if_pos (beq_iff_eq.mpr hIndent)]
                exact (if_pos hIndent).symm
              · rw [if_neg (mt beq_iff_eq.mp hIndent)]
                exact (if_neg hIndent).symm
      | _ => rfl

end Cursor

end Gantry

------------------------------------------------------------
-- Skipping
------------------------------------------------------------

namespace Gantry

namespace Counting

variable {α β : Type}

/-
  A step has an outcome, which is the given value at the
  given cursor, and leaves a tally behind as `post` says.
-/
def Runs
    (tally : Tally)
    (step : Steady α)
    (result : α × Cursor)
    (post : Tally → Prop) : Prop :=
  ∃ after,
    step.run tally = some (result.1, after) ∧
      after.cursor = result.2 ∧ post after

variable
    {tally : Tally}
    {step : Steady α}
    {result : α × Cursor}

theorem Runs.imp
    {post weaker : Tally → Prop}
    (hRuns : Runs tally step result post)
    (hWeaker : ∀ after, post after → weaker after) :
    Runs tally step result weaker := by
  rcases hRuns with ⟨after, hStep, hCursor, hPost⟩
  exact ⟨after, hStep, hCursor, hWeaker after hPost⟩

theorem Runs.bind
    {next : α → Steady β}
    {last : β × Cursor}
    {middle post : Tally → Prop}
    (hRuns : Runs tally step result middle)
    (hNext :
      ∀ after, after.cursor = result.2 → middle after →
        Runs after (next result.1) last post) :
    Runs tally (step >>= next) last post := by
  rcases hRuns with ⟨after, hStep, hCursor, hMiddle⟩
  rcases hNext after hCursor hMiddle with
    ⟨final, hNext, hLast, hPost⟩
  refine ⟨final, ?_, hLast, hPost⟩
  change (step.run tally).bind _ = _
  rw [hStep]
  exact hNext

theorem runs_pure
    {post : Tally → Prop}
    (value : α)
    (hPost : post tally) :
    Runs tally (pure value) (value, tally.cursor) post :=
  ⟨tally, rfl, rfl, hPost⟩

theorem Runs.take
    {next : Span → Steady α}
    {post : Tally → Prop}
    (hClosed : Token.Closed tally.cursor.rest)
    (hKind : tally.cursor.kind ≠ .endOfFile)
    (hNext :
      Runs tally.next (next tally.cursor.here) result post) :
    Runs tally (take >>= next) result post := by
  rcases hNext with ⟨after, hNext, hCursor, hPost⟩
  refine ⟨after, ?_, hCursor, hPost⟩
  change (Counting.take.run tally).bind _ = _
  rw [run_take hClosed hKind]
  exact hNext

/- A step that looks at the next token. -/
theorem Runs.kind
    {next : TokenKind → Steady α}
    {post : Tally → Prop}
    (hNext :
      Runs tally (next tally.cursor.kind) result post) :
    Runs tally (kind >>= next) result post :=
  hNext

/- A step that branches on the next token. -/
theorem Runs.check
    {expected : TokenKind}
    {yes no : Steady α}
    {post : Tally → Prop}
    (hYes :
      tally.cursor.kind = expected →
        Runs tally yes result post)
    (hNo :
      tally.cursor.kind ≠ expected →
        Runs tally no result post) :
    Runs tally (do if ← check expected then yes else no)
      result post := by
  change
    Runs tally
      (if (tally.cursor.kind == expected) = true then yes
        else no) result post
  by_cases hKind : tally.cursor.kind = expected
  · rw [if_pos (beq_iff_eq.mpr hKind)]
    exact hYes hKind
  · rw [if_neg (mt beq_iff_eq.mp hKind)]
    exact hNo hKind

theorem runs_skipNewlines
    (fuel : Nat)
    (hSupplied : tally.Supplied fuel) :
    Runs tally (skipNewlines fuel)
      ((), tally.cursor.pastNewlines) tally.Stays := by
  induction fuel generalizing tally with
  | zero => exact absurd rfl hSupplied.fuel_ne_zero
  | succ fuel ih =>
      rw [skipNewlines]
      apply Runs.check
      · intro hNewline
        have hEnd : tally.cursor.kind ≠ .endOfFile := by
          rw [hNewline]
          simp
        rw [Cursor.pastNewlines_of_newline hNewline]
        apply Runs.take hSupplied.closed hEnd
        refine (ih (hSupplied.next hEnd)).imp ?_
        exact fun _ => (Tally.stays_newline hNewline).trans
      · intro hOther
        rw [Cursor.pastNewlines_of_kind hOther]
        exact runs_pure () (Tally.Stays.refl tally)

/-
  A region is skipped through the token that closes it. Its
  end is missing only where levels are left open.
-/
theorem runs_skipRegion
    (fuel base depth : Nat)
    (hSupplied : tally.Supplied fuel) :
    Runs tally (skipRegion fuel (depth + 1))
      ((), tally.cursor.pastRegion (depth + 1))
      (tally.Climbs base (depth + 1) 0) := by
  induction fuel generalizing tally depth with
  | zero => exact absurd rfl hSupplied.fuel_ne_zero
  | succ fuel ih =>
      rw [skipRegion.eq_def, Cursor.pastRegion_eq]
      apply Runs.kind
      cases hKind : tally.cursor.kind with
      | endOfFile =>
          apply runs_pure
          apply Tally.climbs_of_takes (Log.Extends.refl _)
            (Cursor.Takes.refl _)
          exact fun hSettled =>
            Or.inl (hSettled.isFull_of_end hKind)
      | indent =>
          have hEnd : tally.cursor.kind ≠ .endOfFile := by
            simp [hKind]
          apply Runs.take hSupplied.closed hEnd
          refine (ih (depth + 1) (hSupplied.next hEnd)).imp ?_
          exact fun _ => (Tally.climbs_indent hKind).trans
      | dedent =>
          have hEnd : tally.cursor.kind ≠ .endOfFile := by
            simp [hKind]
          cases depth with
          | zero =>
              apply Runs.take hSupplied.closed hEnd
              exact runs_pure () (Tally.climbs_dedent hKind)
          | succ depth =>
              apply Runs.take hSupplied.closed hEnd
              refine (ih depth (hSupplied.next hEnd)).imp ?_
              exact fun _ =>
                (Tally.climbs_dedent hKind).trans
      | _ =>
          have hEnd : tally.cursor.kind ≠ .endOfFile := by
            simp [hKind]
          apply Runs.take hSupplied.closed hEnd
          refine (ih depth (hSupplied.next hEnd)).imp ?_
          refine fun _ => (Tally.climbs_other hEnd ?_ ?_).trans
          · simp [hKind]
          · simp [hKind]

theorem runs_skipWhole
    {fuel : Nat}
    (hSupplied : tally.Supplied fuel)
    (hIndent : tally.cursor.kind = .indent) :
    Runs tally (skipRegion fuel 0)
      ((), tally.cursor.pastRegion 0) tally.Stays := by
  obtain ⟨fuel, rfl⟩ :=
    Nat.exists_eq_succ_of_ne_zero hSupplied.fuel_ne_zero
  have hEnd : tally.cursor.kind ≠ .endOfFile := by
    simp [hIndent]
  rw [skipRegion, Cursor.pastRegion_eq]
  apply Runs.kind
  rw [hIndent]
  apply Runs.take hSupplied.closed hEnd
  refine (runs_skipRegion fuel tally.level 0
    (hSupplied.next hEnd)).imp ?_
  exact fun _ => (Tally.climbs_indent hIndent).trans

/- Skipping to the next line stays on one level. -/
theorem runs_synchronize
    (fuel : Nat)
    (hSupplied : tally.Supplied fuel) :
    Runs tally (synchronize fuel)
      ((), tally.cursor.synchronized) tally.Stays := by
  induction fuel generalizing tally with
  | zero => exact absurd rfl hSupplied.fuel_ne_zero
  | succ fuel ih =>
      rw [synchronize, Cursor.synchronized_eq]
      apply Runs.kind
      cases hKind : tally.cursor.kind with
      | endOfFile =>
          exact runs_pure () (Tally.Stays.refl tally)
      | indent =>
          exact runs_pure () (Tally.Stays.refl tally)
      | dedent =>
          exact runs_pure () (Tally.Stays.refl tally)
      | newline =>
          have hEnd : tally.cursor.kind ≠ .endOfFile := by
            simp [hKind]
          have hLine := Tally.stays_newline hKind
          have hBehind := hSupplied.next hEnd
          apply Runs.take hSupplied.closed hEnd
          apply Runs.check
          · intro (hIndent : tally.cursor.next.kind = .indent)
            rw [if_pos hIndent]
            refine (runs_skipWhole hBehind hIndent).imp ?_
            exact fun _ => hLine.trans
          · intro (hOther : tally.cursor.next.kind ≠ .indent)
            rw [if_neg hOther]
            exact runs_pure () hLine
      | _ =>
          have hEnd : tally.cursor.kind ≠ .endOfFile := by
            simp [hKind]
          apply Runs.take hSupplied.closed hEnd
          refine (ih (hSupplied.next hEnd)).imp ?_
          refine fun _ => Tally.Stays.trans
            (Tally.climbs_other hEnd ?_ ?_)
          · simp [hKind]
          · simp [hKind]

/- A line that starts with a word is not skipped in vain. -/
theorem runs_skipLine
    {fuel : Nat}
    (hSupplied : tally.Supplied (fuel + 1))
    (hWord : tally.cursor.kind.isLayout = false) :
    Runs tally (synchronize (fuel + 1))
      ((), tally.cursor.synchronized)
      fun after =>
        tally.Stays after ∧
          after.cursor.rest.length <
            tally.cursor.rest.length := by
  have hEnd := endOfFile_of_isLayout hWord
  have hNext := Tally.inline_next hWord
  have hLess := Cursor.length_next_lt hEnd
  have hSkip :
      Runs tally
        (do
          let _ ← take
          synchronize fuel)
        ((), tally.cursor.next.synchronized)
        fun after =>
          tally.Stays after ∧
            after.cursor.rest.length <
              tally.cursor.rest.length := by
    apply Runs.take hSupplied.closed hEnd
    refine (runs_synchronize fuel
      (hSupplied.next hEnd)).imp ?_
    intro after hAfter
    refine ⟨hNext.stays.trans hAfter, ?_⟩
    exact Nat.lt_of_le_of_lt hAfter.length_le hLess
  rw [synchronize, Cursor.synchronized_eq]
  apply Runs.kind
  cases hKind : tally.cursor.kind with
  | newline => simp [hKind, TokenKind.isLayout] at hWord
  | indent => simp [hKind, TokenKind.isLayout] at hWord
  | dedent => simp [hKind, TokenKind.isLayout] at hWord
  | endOfFile => contradiction
  | _ => exact hSkip

end Counting

end Gantry
