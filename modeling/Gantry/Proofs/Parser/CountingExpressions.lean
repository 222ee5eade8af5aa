import Mathlib.Order.Defs.Unbundled
import Gantry.Proofs.Parser.Counting
import Gantry.Proofs.Parser.Faithful
import Gantry.Proofs.Token.Levels

/-
  This file compares the two ways in which expressions are
  read. The depth that one of them counts and the room that
  is handed down to the other always make up the same sum,
  so that both give up at the same token. Neither leaves the
  line it is on.

  Key definitions include:
    * `Gantry.Counting.exec`
    * `Gantry.Counting.Reads`
    * `Gantry.Counting.Mirrors`
    * `Gantry.Tally.Inline`
    * `Gantry.Tally.Ready`
    * `Gantry.Counting.Follows`

  Main statements:
    * `Gantry.Counting.Mirrors.bind`
    * `Gantry.Counting.follows_chain`
    * `Gantry.Counting.follows_expressionWithin`
    * `Gantry.Counting.mirrors_expression`
-/

------------------------------------------------------------
-- Readings That Agree
------------------------------------------------------------

namespace Gantry

namespace Tally

/- Take the next token. -/
def next
    (tally : Tally) : Tally :=
  { tally with cursor := tally.cursor.next }

/- Report an issue. -/
def report
    (tally : Tally)
    (fault : Fault)
    (span : Span) : Tally :=
  { tally with cursor := tally.cursor.report fault span }

/- Set the depth of the expression. -/
def withDepth
    (tally : Tally)
    (depth : Nat) : Tally :=
  { tally with counts := { tally.counts with depth := depth } }

/- One more level of the expression. -/
def deeper
    (tally : Tally) : Tally :=
  tally.withDepth (tally.counts.depth + 1)

end Tally

namespace Counting

variable {α β : Type}

/- What a reading yields, and what it leaves behind. -/
def exec
    (reader : Counting α)
    (tally : Tally) : Option (Option α × Tally) :=
  reader.run.run tally

/- A reading goes on where the one before it has stopped. -/
theorem exec_bind
    (reader : Counting α)
    (next : α → Counting β)
    (tally : Tally) :
    exec (reader >>= next) tally =
      (exec reader tally).bind fun
      | (some value, after) => exec (next value) after
      | (none, after) => some (none, after) := by
  change exec (OptionT.bind reader next) tally = _
  simp only [exec, OptionT.bind, OptionT.mk, OptionT.run,
    StateT.run, bind, StateT.bind]
  cases hRun : reader tally with
  | none => rfl
  | some result =>
      rcases result with ⟨value?, after⟩
      cases value? with
      | none => rfl
      | some value => rfl

/- A part of a reading that cannot fail. -/
theorem exec_lift
    (step : Steady α)
    (tally : Tally) :
    exec (liftM step) tally =
      (step.run tally).map fun result =>
        (some result.1, result.2) := by
  change
    (step.run tally).bind
      (fun result => some (some result.1, result.2)) = _
  cases step.run tally with
  | none => rfl
  | some result => rfl

/-
  A reading has an outcome, which is what a parser yields at
  the same cursor. It leaves a tally behind as `post` says.
-/
def Reads
    (tally : Tally)
    (reader : Counting α)
    (parser : Parser α)
    (post : Option α → Tally → Prop) : Prop :=
  ∃ value? after,
    exec reader tally = some (value?, after) ∧
      Parser.exec parser tally.cursor =
          (value?, after.cursor) ∧
        post value? after

variable
    {tally : Tally}
    {reader : Counting α}
    {parser : Parser α}

theorem Reads.imp
    {post weaker : Option α → Tally → Prop}
    (hReads : Reads tally reader parser post)
    (hWeaker :
      ∀ value? after, post value? after →
        weaker value? after) :
    Reads tally reader parser weaker := by
  rcases hReads with ⟨value?, after, hReader, hParser, hPost⟩
  exact
    ⟨value?, after, hReader, hParser, hWeaker _ _ hPost⟩

theorem Reads.bind
    {next : α → Counting β}
    {nextParser : α → Parser β}
    {middle : Option α → Tally → Prop}
    {post : Option β → Tally → Prop}
    (hReads : Reads tally reader parser middle)
    (hNone : ∀ after, middle none after → post none after)
    (hSome :
      ∀ value after, middle (some value) after →
        Reads after (next value) (nextParser value) post) :
    Reads tally (reader >>= next) (parser >>= nextParser)
      post := by
  rcases hReads with
    ⟨value?, after, hReader, hParser, hMiddle⟩
  cases value? with
  | none =>
      refine ⟨none, after, ?_, ?_, hNone after hMiddle⟩
      · rw [exec_bind, hReader]
        rfl
      · rw [Parser.exec_bind, hParser]
  | some value =>
      rcases hSome value after hMiddle with
        ⟨last?, last, hNext, hNextParser, hPost⟩
      refine ⟨last?, last, ?_, ?_, hPost⟩
      · rw [exec_bind, hReader]
        exact hNext
      · rw [Parser.exec_bind, hParser]
        exact hNextParser

/- Two readings that both look at the next token. -/
theorem Reads.kind
    {next : TokenKind → Counting α}
    {nextParser : TokenKind → Parser α}
    {post : Option α → Tally → Prop}
    (hNext :
      Reads tally (next tally.cursor.kind)
        (nextParser tally.cursor.kind) post) :
    Reads tally (liftM kind >>= next)
      (Parser.peek >>= nextParser) post :=
  hNext

theorem Reads.here
    {next : Span → Counting α}
    {nextParser : Span → Parser α}
    {post : Option α → Tally → Prop}
    (hNext :
      Reads tally (next tally.cursor.here)
        (nextParser tally.cursor.here) post) :
    Reads tally (liftM here >>= next)
      (Parser.here >>= nextParser) post :=
  hNext

/- Two readings that branch on the next token. -/
theorem Reads.check
    {expected : TokenKind}
    {yes no : Counting α}
    {yesParser noParser : Parser α}
    {post : Option α → Tally → Prop}
    (hYes :
      tally.cursor.kind = expected →
        Reads tally yes yesParser post)
    (hNo :
      tally.cursor.kind ≠ expected →
        Reads tally no noParser post) :
    Reads tally
      (do if ← liftM (check expected) then yes else no)
      (do if ← Parser.check expected then yesParser
          else noParser) post := by
  change
    Reads tally
      (if (tally.cursor.kind == expected) = true then yes
        else no)
      (if (tally.cursor.kind == expected) = true then
          yesParser
        else noParser) post
  by_cases hKind : tally.cursor.kind = expected
  · rw [if_pos (beq_iff_eq.mpr hKind),
      if_pos (beq_iff_eq.mpr hKind)]
    exact hYes hKind
  · rw [if_neg (mt beq_iff_eq.mp hKind),
      if_neg (mt beq_iff_eq.mp hKind)]
    exact hNo hKind

end Counting

end Gantry

------------------------------------------------------------
-- Relations Between Tallies
------------------------------------------------------------

namespace Gantry

namespace Counting

variable {α β : Type}

/-
  A reading agrees with a parser, and the tally behind it is
  related to the one in front of it.
-/
def Mirrors
    (relation : Tally → Tally → Prop)
    (tally : Tally)
    (reader : Counting α)
    (parser : Parser α) : Prop :=
  Reads tally reader parser fun _ => relation tally

variable
    {relation : Tally → Tally → Prop}
    {tally : Tally}
    {reader : Counting α}
    {parser : Parser α}

theorem Mirrors.imp
    {weaker : Tally → Tally → Prop}
    (hMirrors : Mirrors relation tally reader parser)
    (hWeaker :
      ∀ after, relation tally after → weaker tally after) :
    Mirrors weaker tally reader parser :=
  Reads.imp hMirrors fun _ => hWeaker

variable [IsPreorder Tally relation]

theorem mirrors_pure
    (value : α) :
    Mirrors relation tally (pure value) (pure value) :=
  ⟨some value, tally, rfl, rfl, refl_of relation tally⟩

theorem Mirrors.bind
    {next : α → Counting β}
    {nextParser : α → Parser β}
    (hMirrors : Mirrors relation tally reader parser)
    (hNext :
      ∀ value after, relation tally after →
        Mirrors relation after (next value)
          (nextParser value)) :
    Mirrors relation tally (reader >>= next)
      (parser >>= nextParser) := by
  refine Reads.bind hMirrors (fun _ hAfter => hAfter) ?_
  intro value after hAfter
  refine Reads.imp (hNext value after hAfter) ?_
  intro _ last hLast
  exact trans_of relation hAfter hLast

end Counting

end Gantry

------------------------------------------------------------
-- Along A Line
------------------------------------------------------------

namespace Gantry

theorem endOfFile_of_isLayout
    {kind : TokenKind}
    (hKind : kind.isLayout = false) :
    kind ≠ .endOfFile := by
  rintro rfl
  cases hKind

namespace Tally

/-
  Reading has gone on along one line. Only the cursor and
  the depth of the expression may have changed.
-/
structure Along
    (before after : Tally) : Prop where
  loops : after.counts.loops = before.counts.loops
  functions : after.counts.functions = before.counts.functions
  level : after.level = before.level
  strays : after.strays = before.strays
  trials : after.trials = before.trials
  log : before.cursor.log.Extends after.cursor.log
  taken :
    ∃ taken,
      before.cursor.rest = taken ++ after.cursor.rest ∧
        ∀ token ∈ taken, token.kind.isLayout = false

/- The depth is the same again. -/
structure Inline
    (before after : Tally) : Prop extends
    Along before after where
  depth : after.counts.depth = before.counts.depth

theorem Along.refl
    (tally : Tally) :
    Along tally tally :=
  { loops := rfl
    functions := rfl
    level := rfl
    strays := rfl
    trials := rfl
    log := Log.Extends.refl _
    taken := ⟨[], rfl, by simp⟩ }

theorem Along.trans
    {before middle after : Tally}
    (hFirst : Along before middle)
    (hSecond : Along middle after) :
    Along before after where
  loops := hSecond.loops.trans hFirst.loops
  functions := hSecond.functions.trans hFirst.functions
  level := hSecond.level.trans hFirst.level
  strays := hSecond.strays.trans hFirst.strays
  trials := hSecond.trials.trans hFirst.trials
  log := hFirst.log.trans hSecond.log
  taken := by
    rcases hFirst.taken with ⟨taken, hTaken, hWords⟩
    rcases hSecond.taken with ⟨more, hMore, hOthers⟩
    refine ⟨taken ++ more, ?_, ?_⟩
    · rw [hTaken, hMore, List.append_assoc]
    · intro token hToken
      rcases List.mem_append.mp hToken with hHere | hThere
      · exact hWords token hHere
      · exact hOthers token hThere

instance : IsPreorder Tally Along where
  refl := Along.refl
  trans _ _ _ := Along.trans

instance : IsPreorder Tally Inline where
  refl tally := ⟨Along.refl tally, rfl⟩
  trans _ _ _ hFirst hSecond :=
    ⟨hFirst.toAlong.trans hSecond.toAlong,
      hSecond.depth.trans hFirst.depth⟩

/- One word of the line was taken. -/
theorem inline_next
    {tally : Tally}
    (hKind : tally.cursor.kind.isLayout = false) :
    tally.Inline tally.next where
  loops := rfl
  functions := rfl
  level := rfl
  strays := rfl
  trials := rfl
  depth := rfl
  log := by
    rw [next, Cursor.log_next]
    exact Log.Extends.refl _
  taken := by
    rcases Cursor.rest_of_kind
        (endOfFile_of_isLayout hKind) with
      ⟨token, hRest, hToken⟩
    refine ⟨[token], hRest, ?_⟩
    simpa [hToken] using hKind

theorem inline_report
    (tally : Tally)
    (fault : Fault)
    (span : Span) :
    tally.Inline (tally.report fault span) :=
  { loops := rfl
    functions := rfl
    level := rfl
    strays := rfl
    trials := rfl
    depth := rfl
    log := Cursor.extends_report _ _ _
    taken := ⟨[], rfl, by simp⟩ }

theorem along_withDepth
    (tally : Tally)
    (depth : Nat) :
    tally.Along (tally.withDepth depth) :=
  { Along.refl tally with }

/- The depth is put back to what it was. -/
theorem Along.restored
    {before after : Tally}
    (hAlong : Along before after) :
    before.Inline (after.withDepth before.counts.depth) :=
  { hAlong with depth := rfl }

/-
  The end of the file is ahead, and there is fuel for all
  tokens through it.
-/
structure Supplied
    (tally : Tally)
    (fuel : Nat) : Prop where
  closed : Token.Closed tally.cursor.rest
  fuel : tally.cursor.rest.length ≤ fuel

/- The depth of the expression leaves room for more levels. -/
structure Ready
    (tally : Tally)
    (fuel room : Nat) : Prop extends
    Supplied tally fuel where
  room : tally.counts.depth + room = maxNesting

variable
    {tally after : Tally}
    {fuel room : Nat}

theorem Along.closed
    (hAlong : tally.Along after)
    (hClosed : Token.Closed tally.cursor.rest) :
    Token.Closed after.cursor.rest := by
  rcases hAlong.taken with ⟨taken, hTaken, hWords⟩
  rw [hTaken] at hClosed
  apply hClosed.of_append
  intro token hToken hEnd
  have hWord := hWords token hToken
  rw [hEnd] at hWord
  cases hWord

theorem Along.length_le
    (hAlong : tally.Along after) :
    after.cursor.rest.length ≤ tally.cursor.rest.length := by
  rcases hAlong.taken with ⟨taken, hTaken, _⟩
  rw [hTaken]
  simp

/- There is always the token that ends the file. -/
theorem Supplied.fuel_ne_zero
    (hSupplied : tally.Supplied fuel) :
    fuel ≠ 0 := by
  have := hSupplied.closed.length_pos
  have := hSupplied.fuel
  omega

theorem Ready.inline
    (hReady : tally.Ready fuel room)
    (hInline : tally.Inline after) :
    after.Ready fuel room where
  closed := hInline.closed hReady.closed
  fuel := Nat.le_trans hInline.length_le hReady.fuel
  room := by
    rw [hInline.depth]
    exact hReady.room

theorem length_next_lt
    (hWord : tally.cursor.kind.isLayout = false) :
    tally.next.cursor.rest.length <
      tally.cursor.rest.length :=
  Cursor.length_next_lt (endOfFile_of_isLayout hWord)

/- A token that is taken leaves fewer of them. -/
theorem Supplied.next
    (hSupplied : tally.Supplied (fuel + 1))
    (hKind : tally.cursor.kind ≠ .endOfFile) :
    tally.next.Supplied fuel where
  closed := by
    have hClosed := hSupplied.closed
    rcases Cursor.rest_of_kind hKind with
      ⟨token, hRest, hToken⟩
    rw [hRest, ← List.singleton_append] at hClosed
    apply hClosed.of_append
    simpa [hToken] using hKind
  fuel :=
    Nat.le_of_lt_succ
      (Nat.lt_of_lt_of_le (Cursor.length_next_lt hKind)
        hSupplied.fuel)

theorem Ready.next
    (hReady : tally.Ready (fuel + 1) room)
    (hWord : tally.cursor.kind.isLayout = false) :
    tally.next.Ready fuel room :=
  { hReady.toSupplied.next (endOfFile_of_isLayout hWord) with
    room := hReady.room }

theorem Ready.deeper
    (hReady : tally.Ready fuel (room + 1)) :
    tally.deeper.Ready fuel room where
  closed := hReady.closed
  fuel := hReady.fuel
  room := by
    have := hReady.room
    change tally.counts.depth + 1 + room = _
    omega

end Tally

end Gantry

------------------------------------------------------------
-- Taking Tokens
------------------------------------------------------------

namespace Gantry

namespace Counting

variable
    {α : Type}
    {relation : Tally → Tally → Prop}
    {tally : Tally}

/- A token that does not end the file is not the last. -/
theorem run_take
    (hClosed : Token.Closed tally.cursor.rest)
    (hKind : tally.cursor.kind ≠ .endOfFile) :
    take.run tally =
      some (tally.cursor.here, tally.next) := by
  have hLength : ¬tally.cursor.rest.length ≤ 1 := by
    rcases Cursor.rest_of_kind hKind with
      ⟨token, hRest, hToken⟩
    rw [hRest] at hClosed ⊢
    rcases hClosed.two_le_length (hToken ▸ hKind) with
      ⟨_, _, hNext⟩
    simp [hNext]
  change
    (if tally.cursor.rest.length ≤ 1 then lost
      else do
        set { tally with cursor := tally.cursor.next }
        return tally.cursor.here : Steady Span).run tally = _
  rw [if_neg hLength]
  rfl

theorem exec_take
    (hClosed : Token.Closed tally.cursor.rest)
    (hKind : tally.cursor.kind ≠ .endOfFile) :
    exec (liftM take) tally =
      some (some tally.cursor.here, tally.next) := by
  rw [exec_lift, run_take hClosed hKind]
  rfl

theorem mirrors_take
    (hClosed : Token.Closed tally.cursor.rest)
    (hKind : tally.cursor.kind ≠ .endOfFile)
    (hTake : relation tally tally.next) :
    Mirrors relation tally (liftM take) Parser.advance :=
  ⟨_, _, exec_take hClosed hKind, rfl, hTake⟩

theorem Reads.take
    {next : Span → Counting α}
    {nextParser : Span → Parser α}
    {post : Option α → Tally → Prop}
    (hClosed : Token.Closed tally.cursor.rest)
    (hKind : tally.cursor.kind ≠ .endOfFile)
    (hNext :
      Reads tally.next (next tally.cursor.here)
        (nextParser tally.cursor.here) post) :
    Reads tally (liftM take >>= next)
      (Parser.advance >>= nextParser) post := by
  rcases hNext with ⟨value?, after, hNext, hParser, hPost⟩
  refine ⟨value?, after, ?_, hParser, hPost⟩
  rw [exec_bind, exec_take hClosed hKind]
  exact hNext

theorem Mirrors.take
    [IsPreorder Tally relation]
    {next : Span → Counting α}
    {nextParser : Span → Parser α}
    (hClosed : Token.Closed tally.cursor.rest)
    (hKind : tally.cursor.kind ≠ .endOfFile)
    (hTake : relation tally tally.next)
    (hNext :
      Mirrors relation tally.next (next tally.cursor.here)
        (nextParser tally.cursor.here)) :
    Mirrors relation tally (liftM take >>= next)
      (Parser.advance >>= nextParser) := by
  apply Reads.take hClosed hKind
  refine Reads.imp hNext ?_
  exact fun _ _ => trans_of relation hTake

/- An issue at the next token. -/
theorem mirrors_rejectHere
    (fault : Fault) :
    Mirrors Tally.Inline tally
      (rejectHere fault : Counting α)
      (Parser.rejectHere fault) :=
  ⟨none, _, rfl, rfl, tally.inline_report fault _⟩

section Words

variable
    {β : Type}
    {fuel room : Nat}

/- A word of the line. -/
theorem Mirrors.word
    {next : Span → Counting α}
    {nextParser : Span → Parser α}
    (hClosed : Token.Closed tally.cursor.rest)
    (hWord : tally.cursor.kind.isLayout = false)
    (hNext :
      Mirrors Tally.Inline tally.next
        (next tally.cursor.here)
        (nextParser tally.cursor.here)) :
    Mirrors Tally.Inline tally (liftM Counting.take >>= next)
      (Parser.advance >>= nextParser) :=
  Mirrors.take hClosed (endOfFile_of_isLayout hWord)
    (Tally.inline_next hWord) hNext

theorem mirrors_expect
    {expected : TokenKind}
    (hExpected : expected.isLayout = false)
    (hReady : tally.Ready fuel room) :
    Mirrors Tally.Inline tally (expect expected)
      (Parser.expect expected) := by
  rw [expect, Parser.expect]
  apply Reads.kind
  by_cases hKind : tally.cursor.kind = expected
  · rw [if_pos (beq_iff_eq.mpr hKind),
      if_pos (beq_iff_eq.mpr hKind)]
    have hWord := hKind ▸ hExpected
    exact mirrors_take hReady.closed
      (endOfFile_of_isLayout hWord)
      (Tally.inline_next hWord)
  · rw [if_neg (mt beq_iff_eq.mp hKind),
      if_neg (mt beq_iff_eq.mp hKind)]
    exact mirrors_rejectHere _

theorem mirrors_identifier
    (hReady : tally.Ready fuel room) :
    Mirrors Tally.Inline tally identifier
      Parser.identifier := by
  rw [identifier, Parser.identifier]
  apply Reads.kind
  cases hKind : tally.cursor.kind with
  | name word =>
      apply Mirrors.word hReady.closed (by rw [hKind]; rfl)
      exact mirrors_pure _
  | _ => exact mirrors_rejectHere _

/- Two readings, one behind the other, on one line. -/
theorem Mirrors.andThen
    {reader : Counting α}
    {parser : Parser α}
    {next : α → Counting β}
    {nextParser : α → Parser β}
    (hReady : tally.Ready fuel room)
    (hMirrors : Mirrors Tally.Inline tally reader parser)
    (hNext :
      ∀ value after, after.Ready fuel room →
        Mirrors Tally.Inline after (next value)
          (nextParser value)) :
    Mirrors Tally.Inline tally (reader >>= next)
      (parser >>= nextParser) :=
  hMirrors.bind fun value after hAfter =>
    hNext value after (hReady.inline hAfter)

/- The same, where the depth is not put back. -/
theorem Mirrors.thenAlong
    {reader : Counting α}
    {parser : Parser α}
    {next : α → Counting β}
    {nextParser : α → Parser β}
    (hReady : tally.Ready fuel room)
    (hMirrors : Mirrors Tally.Inline tally reader parser)
    (hNext :
      ∀ value after, after.Ready fuel room →
        Mirrors Tally.Along after (next value)
          (nextParser value)) :
    Mirrors Tally.Along tally (reader >>= next)
      (parser >>= nextParser) := by
  refine Reads.bind hMirrors
    (fun _ hAfter => hAfter.toAlong) ?_
  intro value after hAfter
  refine Reads.imp
    (hNext value after (hReady.inline hAfter)) ?_
  exact fun _ _ hLast => hAfter.toAlong.trans hLast

end Words

end Counting

end Gantry

------------------------------------------------------------
-- Depth And Room
------------------------------------------------------------

namespace Gantry

namespace Counting

variable
    {α : Type}
    {tally : Tally}
    {fuel room : Nat}

theorem run_eat
    {expected : TokenKind}
    (hClosed : Token.Closed tally.cursor.rest)
    (hExpected : expected ≠ .endOfFile) :
    (eat expected).run tally =
      if tally.cursor.kind = expected then
        some (true, tally.next)
      else
        some (false, tally) := by
  change
    (if (tally.cursor.kind == expected) = true then do
        let _ ← take
        return true
      else
        return false : Steady Bool).run tally = _
  by_cases hKind : tally.cursor.kind = expected
  · rw [if_pos (beq_iff_eq.mpr hKind), if_pos hKind]
    change
      (take.run tally).bind
        (fun result => some (true, result.2)) = _
    rw [run_take hClosed (hKind ▸ hExpected)]
    rfl
  · rw [if_neg (mt beq_iff_eq.mp hKind), if_neg hKind]
    rfl

/- A token that may be left out. -/
theorem Reads.eat
    {expected : TokenKind}
    {yes no : Counting α}
    {yesParser noParser : Parser α}
    {post : Option α → Tally → Prop}
    (hClosed : Token.Closed tally.cursor.rest)
    (hExpected : expected ≠ .endOfFile)
    (hYes :
      tally.cursor.kind = expected →
        Reads tally.next yes yesParser post)
    (hNo :
      tally.cursor.kind ≠ expected →
        Reads tally no noParser post) :
    Reads tally
      (do if ← liftM (eat expected) then yes else no)
      (do if ← Parser.eat expected then yesParser
          else noParser) post := by
  unfold Reads
  rw [exec_bind, exec_lift, run_eat hClosed hExpected,
    Parser.exec_eat_bind]
  by_cases hKind : tally.cursor.kind = expected
  · rw [if_pos hKind, if_pos hKind]
    exact hYes hKind
  · rw [if_neg hKind, if_neg hKind]
    exact hNo hKind

theorem Mirrors.eat
    {expected : TokenKind}
    {yes no : Counting α}
    {yesParser noParser : Parser α}
    (hClosed : Token.Closed tally.cursor.rest)
    (hExpected : expected.isLayout = false)
    (hYes :
      tally.cursor.kind = expected →
        Mirrors Tally.Inline tally.next yes yesParser)
    (hNo : Mirrors Tally.Inline tally no noParser) :
    Mirrors Tally.Inline tally
      (do if ← liftM (eat expected) then yes else no)
      (do if ← Parser.eat expected then yesParser
          else noParser) := by
  refine Reads.eat hClosed
    (endOfFile_of_isLayout hExpected) ?_ fun _ => hNo
  intro hKind
  have hNext := Tally.inline_next (hKind ▸ hExpected)
  refine Reads.imp (hYes hKind) ?_
  exact fun _ _ => trans_of Tally.Inline hNext

/- There is no room for one more level. -/
theorem exec_deeper_full
    (hReady : tally.Ready fuel 0) :
    exec deeper tally =
      some (none,
        tally.deeper.report .nestingTooDeep
          tally.cursor.here) := by
  have hFull : maxNesting < tally.counts.depth + 1 := by
    have := hReady.room
    omega
  change
    exec
      (if maxNesting < tally.counts.depth + 1 then
          rejectHere .nestingTooDeep
        else pure ())
      tally.deeper = _
  rw [if_pos hFull]
  rfl

theorem exec_deeper
    (hReady : tally.Ready fuel (room + 1)) :
    exec deeper tally = some (some (), tally.deeper) := by
  have hRoom : ¬maxNesting < tally.counts.depth + 1 := by
    have := hReady.room
    omega
  change
    exec
      (if maxNesting < tally.counts.depth + 1 then
          rejectHere .nestingTooDeep
        else pure ())
      tally.deeper = _
  rw [if_neg hRoom]
  rfl

theorem mirrors_deeper_full
    (hReady : tally.Ready fuel 0) :
    Mirrors Tally.Along tally deeper Parser.tooDeep := by
  refine ⟨none, _, exec_deeper_full hReady, rfl, ?_⟩
  exact (tally.along_withDepth _).trans
    (Tally.inline_report _ _ _).toAlong

/- What follows a reading that has failed is not read. -/
theorem Mirrors.fails
    {β : Type}
    {relation : Tally → Tally → Prop}
    {reader : Counting α}
    {next : α → Counting β}
    (hMirrors :
      Mirrors relation tally reader Parser.tooDeep) :
    Mirrors relation tally (reader >>= next)
      Parser.tooDeep := by
  rcases hMirrors with
    ⟨value?, after, hReader, hParser, hAfter⟩
  rw [Parser.exec_tooDeep, Prod.mk.injEq] at hParser
  rcases hParser with ⟨rfl, hCursor⟩
  refine ⟨none, after, ?_, ?_, hAfter⟩
  · rw [exec_bind, hReader]
    rfl
  · rw [Parser.exec_tooDeep, hCursor]

/- One more level takes up some of the room. -/
theorem Mirrors.deeper
    {next : Unit → Counting α}
    {parser : Parser α}
    (hReady : tally.Ready fuel (room + 1))
    (hNext :
      tally.deeper.Ready fuel room →
        Mirrors Tally.Along tally.deeper (next ()) parser) :
    Mirrors Tally.Along tally (deeper >>= next) parser := by
  rcases hNext hReady.deeper with
    ⟨value?, after, hNext, hParser, hAfter⟩
  refine ⟨value?, after, ?_, hParser,
    (tally.along_withDepth _).trans hAfter⟩
  rw [exec_bind, exec_deeper hReady]
  exact hNext

/- The depth is put back behind a reading. -/
theorem Mirrors.nested
    {body : Counting α}
    {parser : Parser α}
    (hBody : Mirrors Tally.Along tally body parser) :
    Mirrors Tally.Inline tally (nested body) parser := by
  rcases hBody with ⟨value?, after, hExec, hParser, hAfter⟩
  refine
    ⟨value?, after.withDepth tally.counts.depth, ?_, hParser,
      hAfter.restored⟩
  change
    (exec body tally).bind
      (fun result =>
        some (result.1,
          result.2.withDepth tally.counts.depth)) = _
  rw [hExec]
  rfl

end Counting

end Gantry

------------------------------------------------------------
-- Primaries And Suffixes
------------------------------------------------------------

namespace Gantry

namespace Counting

variable
    {α : Type}
    {limit fuel room : Nat}
    {tally : Tally}

/-
  A reading agrees with parsers that are told the room which
  the depth of the expression leaves, up to some limit.
-/
def Follows
    (limit fuel : Nat)
    (reader : Counting α)
    (parsers : Nat → Parser α) : Prop :=
  ∀ room ≤ limit, ∀ tally : Tally, tally.Ready fuel room →
    Mirrors Tally.Inline tally reader (parsers room)

/- A literal stands for itself, anything else is a fault. -/
theorem mirrors_literal
    (start : Span)
    (hReady : tally.Ready fuel room) :
    Mirrors Tally.Inline tally
      (match Parser.literal? tally.cursor.kind with
        | some value => do
            let _ ← liftM take
            return Expr.literal value start
        | none =>
            rejectHere
              (.expectedExpression tally.cursor.kind))
      (match Parser.literal? tally.cursor.kind with
        | some value => do
            let _ ← Parser.advance
            return Expr.literal value start
        | none =>
            Parser.rejectHere
              (.expectedExpression tally.cursor.kind)) := by
  cases hLiteral : Parser.literal? tally.cursor.kind with
  | none => exact mirrors_rejectHere _
  | some value =>
      refine Mirrors.word hReady.closed ?_ (mirrors_pure _)
      rw [(Parser.literal?_eq_some_iff _ _).mp hLiteral]
      cases value with
      | bool value => cases value <;> rfl
      | _ => rfl

theorem kind_of_startsSuffix
    {kind : TokenKind}
    (hStarts : Parser.startsSuffix kind = true) :
    kind = .symbol .leftParen ∨
      kind = .symbol .leftBracket ∨
        kind = .symbol .dot := by
  unfold Parser.startsSuffix at hStarts
  split at hStarts
  · exact Or.inl rfl
  · exact Or.inr (Or.inl rfl)
  · exact Or.inr (Or.inr rfl)
  · cases hStarts

theorem isLayout_of_startsSuffix
    {kind : TokenKind}
    (hStarts : Parser.startsSuffix kind = true) :
    kind.isLayout = false := by
  rcases kind_of_startsSuffix hStarts with
    rfl | rfl | rfl <;> rfl

section Brackets

variable
    {item : Counting Expr}
    {inner : Parser Expr}
    (hInner :
      ∀ tally : Tally, tally.Ready fuel room →
        Mirrors Tally.Inline tally item inner)

include hInner

/- No list has more items than there are tokens ahead. -/
theorem mirrors_commaList
    (close : Symbol)
    {rounds : Nat}
    (tokens : List Token)
    (hReady : tally.Ready fuel room)
    (hRounds : tally.cursor.rest.length ≤ rounds)
    (hTokens : tally.cursor.rest.length ≤ tokens.length) :
    Mirrors Tally.Inline tally (commaList item close rounds)
      (Parser.commaList inner close tokens) := by
  have hSome := hReady.closed.length_pos
  induction tokens generalizing tally rounds with
  | nil =>
      rw [List.length_nil] at hTokens
      omega
  | cons token tokens ih =>
      obtain ⟨rounds, rfl⟩ :=
        Nat.exists_eq_succ_of_ne_zero
          (show rounds ≠ 0 by omega)
      rw [commaList, Parser.commaList]
      refine Reads.check (fun _ => mirrors_pure []) ?_
      intro _
      refine (hInner tally hReady).bind ?_
      intro first after hAfter
      have hBehind := hReady.inline hAfter
      refine Mirrors.eat hBehind.closed rfl ?_
        (mirrors_pure [first])
      intro hComma
      have hWord : after.cursor.kind.isLayout = false := by
        rw [hComma]
        rfl
      have hNext :=
        hBehind.inline (Tally.inline_next hWord)
      have hLess := Tally.length_next_lt hWord
      have hLength := hAfter.toAlong.length_le
      rw [List.length_cons] at hTokens
      exact (ih hNext (by omega) (by omega)
          hNext.closed.length_pos).bind
        fun others _ _ => mirrors_pure (first :: others)

theorem mirrors_enclosed
    (close : Symbol)
    {rounds : Nat}
    (hReady : tally.Ready fuel room)
    (hRounds : tally.cursor.rest.length ≤ rounds) :
    Mirrors Tally.Inline tally (enclosed rounds item close)
      (Parser.enclosed inner close) := by
  rw [enclosed, Parser.enclosed]
  change
    Mirrors Tally.Inline tally _
      (Parser.commaList inner close tally.cursor.rest >>= _)
  refine Mirrors.andThen hReady
    (mirrors_commaList hInner close _ hReady hRounds
      Nat.le.refl) ?_
  intro items after hAfter
  refine Mirrors.andThen hAfter
    (mirrors_expect rfl hAfter) ?_
  exact fun stop _ _ => mirrors_pure (items, stop)

/- An expression up to the mark that closes it. -/
theorem mirrors_closed
    {α : Type}
    {close : Symbol}
    {make : Expr → Span → α}
    (hReady : tally.Ready fuel room) :
    Mirrors Tally.Inline tally
      (do let expr ← item
          let stop ← expect (.symbol close)
          return make expr stop)
      (do let expr ← inner
          let stop ← Parser.expect (.symbol close)
          return make expr stop) := by
  refine Mirrors.andThen hReady (hInner tally hReady) ?_
  intro expr after hAfter
  refine Mirrors.andThen hAfter
    (mirrors_expect rfl hAfter) ?_
  exact fun _ _ _ => mirrors_pure _

theorem mirrors_primary
    (hReady : tally.Ready (fuel + 1) room) :
    Mirrors Tally.Inline tally (primary (fuel + 1) item)
      (Parser.primary inner) := by
  rw [primary, Parser.primary]
  apply Reads.here
  apply Reads.kind
  have hLiteral :=
    mirrors_literal tally.cursor.here hReady
  cases hKind : tally.cursor.kind with
  | name word =>
      exact Mirrors.word hReady.closed
        (by rw [hKind]; rfl) (mirrors_pure _)
  | symbol symbol =>
      have hWord : tally.cursor.kind.isLayout = false := by
        rw [hKind]
        rfl
      have hNext := hReady.next hWord
      cases symbol with
      | leftBracket =>
          refine Mirrors.word hReady.closed hWord ?_
          refine Mirrors.andThen hNext
            (mirrors_enclosed hInner .rightBracket hNext
              (Nat.le_succ_of_le hNext.fuel)) ?_
          exact fun _ _ _ => mirrors_pure _
      | leftParen =>
          exact Mirrors.word hReady.closed hWord
            (mirrors_closed hInner hNext)
      | _ => rwa [hKind] at hLiteral
  | _ => rwa [hKind] at hLiteral

/- A suffix takes at least the symbol it starts with. -/
theorem reads_suffix
    (object : Expr)
    {rounds : Nat}
    (hReady : tally.Ready (fuel + 1) room)
    (hRounds : tally.cursor.rest.length ≤ rounds + 1)
    (hStarts : Parser.startsSuffix tally.cursor.kind = true) :
    Reads tally (suffix rounds item object)
      (Parser.suffix inner object)
      fun _ => tally.next.Inline := by
  rw [suffix, Parser.suffix]
  apply Reads.kind
  rcases kind_of_startsSuffix hStarts with
    hKind | hKind | hKind
  all_goals
    have hWord : tally.cursor.kind.isLayout = false := by
      rw [hKind]
      rfl
    have hNext := hReady.next hWord
    rw [hKind]
    apply Reads.take hReady.closed
      (endOfFile_of_isLayout hWord)
  · have hLess := Tally.length_next_lt hWord
    refine Mirrors.andThen hNext
      (mirrors_enclosed hInner .rightParen hNext
        (by omega)) ?_
    exact fun _ _ _ => mirrors_pure _
  · exact mirrors_closed hInner hNext
  · refine Mirrors.andThen hNext
      (mirrors_identifier hNext) ?_
    exact fun _ _ _ => mirrors_pure _

end Brackets

/- Each suffix takes room from the ones behind it. -/
theorem mirrors_suffixes
    {item : Counting Expr}
    {inner : Nat → Parser Expr}
    (hInner : Follows limit fuel item inner)
    (hRoom : room ≤ limit)
    (object : Expr)
    {rounds : Nat}
    (hReady : tally.Ready (fuel + 1) room)
    (hRounds : tally.cursor.rest.length ≤ rounds) :
    Mirrors Tally.Along tally (suffixes item rounds object)
      (Parser.suffixes inner room object) := by
  induction rounds generalizing object tally room with
  | zero =>
      have := hReady.closed.length_pos
      omega
  | succ rounds ih =>
      cases room with
      | zero =>
          rw [suffixes, Parser.suffixes]
          apply Reads.kind
          split
          · exact (mirrors_deeper_full hReady).fails
          · exact mirrors_pure object
      | succ room =>
          have hLess : room ≤ limit := by omega
          rw [suffixes, Parser.suffixes]
          apply Reads.kind
          split
          · rename_i hStarts
            have hWord := isLayout_of_startsSuffix hStarts
            have hShort := Tally.length_next_lt hWord
            refine Mirrors.deeper hReady ?_
            intro hDeeper
            have hSuffix :=
              reads_suffix (hInner room hLess) object
                hDeeper hRounds hStarts
            have hTake :
                tally.deeper.Inline tally.deeper.next :=
              Tally.inline_next hWord
            refine Reads.bind hSuffix ?_ ?_
            · exact fun _ hAfter =>
                (trans_of Tally.Inline hTake hAfter).toAlong
            · intro longer after hAfter
              have hInline :=
                trans_of Tally.Inline hTake hAfter
              have hLength := hAfter.toAlong.length_le
              refine Reads.imp
                (ih hLess longer (hDeeper.inline hInline)
                  ?_) ?_
              · exact Nat.le_of_lt_succ
                  (Nat.lt_of_le_of_lt hLength
                    (Nat.lt_of_lt_of_le hShort hRounds))
              · exact fun _ _ => hInline.toAlong.trans
          · exact mirrors_pure object

theorem follows_operand
    {item : Counting Expr}
    {inner : Nat → Parser Expr}
    (hInner : Follows limit fuel item inner) :
    Follows limit (fuel + 1) (operand (fuel + 1) item)
      (Parser.operand inner) := by
  intro room hRoom tally hReady
  rw [operand, Parser.operand]
  apply Mirrors.nested
  refine Mirrors.thenAlong hReady
    (mirrors_primary (hInner room hRoom) hReady) ?_
  exact fun object _ hAfter =>
    mirrors_suffixes hInner hRoom object hAfter hAfter.fuel

end Counting

end Gantry

------------------------------------------------------------
-- Operators
------------------------------------------------------------

namespace Gantry

namespace Counting

variable
    {limit fuel room : Nat}
    {tally : Tally}
    {item : Counting Expr}
    {operands : Nat → Parser Expr}
    (hOperand : Follows limit fuel item operands)

include hOperand

section Chains

variable
    {op? : TokenKind → Option BinaryOp}
    (hOp :
      ∀ {kind op}, op? kind = some op →
        kind = BinaryOp.kind op)

omit hOperand in
include hOp in
/- Operators are written as words or symbols. -/
theorem isLayout_of_op
    {kind : TokenKind}
    {op : BinaryOp}
    (hKind : op? kind = some op) :
    kind.isLayout = false := by
  rw [hOp hKind]
  cases op <;> rfl

include hOp

/- Each link takes room from the ones behind it. -/
theorem mirrors_links
    (hRoom : room ≤ limit)
    (left : Expr)
    {rounds : Nat}
    (hReady : tally.Ready fuel room)
    (hRounds : tally.cursor.rest.length ≤ rounds) :
    Mirrors Tally.Along tally (links op? item rounds left)
      (Parser.chain op? operands room left) := by
  induction rounds generalizing left tally room with
  | zero =>
      have := hReady.closed.length_pos
      omega
  | succ rounds ih =>
      cases room with
      | zero =>
          rw [links, Parser.chain]
          apply Reads.kind
          cases hKind : op? tally.cursor.kind with
          | none => exact mirrors_pure left
          | some op =>
              have hWord := isLayout_of_op hOp hKind
              have hNext := Tally.inline_next hWord
              exact Mirrors.take hReady.closed
                (endOfFile_of_isLayout hWord) hNext.toAlong
                (mirrors_deeper_full
                  (hReady.inline hNext)).fails
      | succ room =>
          have hLess : room ≤ limit := by omega
          rw [links, Parser.chain]
          apply Reads.kind
          cases hKind : op? tally.cursor.kind with
          | none => exact mirrors_pure left
          | some op =>
              have hWord := isLayout_of_op hOp hKind
              have hNext := Tally.inline_next hWord
              have hShort := Tally.length_next_lt hWord
              refine Mirrors.take hReady.closed
                (endOfFile_of_isLayout hWord)
                hNext.toAlong ?_
              refine Mirrors.deeper (hReady.inline hNext) ?_
              intro hDeeper
              refine Reads.bind
                (hOperand room hLess _ hDeeper)
                (fun _ hAfter => hAfter.toAlong) ?_
              intro right after hAfter
              have hLength := hAfter.toAlong.length_le
              refine Reads.imp
                (ih hLess _ (hDeeper.inline hAfter) ?_) ?_
              · exact Nat.le_of_lt_succ
                  (Nat.lt_of_le_of_lt hLength
                    (Nat.lt_of_lt_of_le hShort hRounds))
              · exact fun _ _ => hAfter.toAlong.trans

theorem follows_chain :
    Follows limit fuel (chain fuel op? item)
      (Parser.level op? operands) := by
  intro room hRoom tally hReady
  rw [chain, Parser.level]
  apply Mirrors.nested
  refine Mirrors.thenAlong hReady
    (hOperand room hRoom tally hReady) ?_
  exact fun left _ hAfter =>
    mirrors_links hOperand hOp hRoom left hAfter
      hAfter.fuel

end Chains

/- Each operator takes room from what stands behind it. -/
theorem mirrors_prefixed
    {op : UnaryOp}
    {mark : TokenKind}
    (hMark : mark.isLayout = false)
    (hRoom : room ≤ limit)
    {rounds : Nat}
    (hReady : tally.Ready fuel room)
    (hRounds : tally.cursor.rest.length ≤ rounds) :
    Mirrors Tally.Inline tally
      (prefixed op mark item rounds)
      (Parser.prefixed op mark operands room) := by
  induction rounds generalizing tally room with
  | zero =>
      have := hReady.closed.length_pos
      omega
  | succ rounds ih =>
      cases room with
      | zero =>
          rw [prefixed, Parser.prefixed]
          refine Reads.check ?_ fun _ =>
            hOperand 0 hRoom tally hReady
          intro hKind
          have hWord := hKind ▸ hMark
          have hNext :=
            hReady.inline (Tally.inline_next hWord)
          refine Mirrors.word hReady.closed hWord ?_
          exact
            (mirrors_deeper_full hNext).fails.nested.fails
      | succ room =>
          rw [prefixed, Parser.prefixed]
          refine Reads.check ?_ fun _ =>
            hOperand _ hRoom tally hReady
          intro hKind
          have hWord := hKind ▸ hMark
          have hNext :=
            hReady.inline (Tally.inline_next hWord)
          have hShort := Tally.length_next_lt hWord
          refine Mirrors.word hReady.closed hWord ?_
          refine Mirrors.andThen hNext (Mirrors.nested ?_)
            fun _ _ _ => mirrors_pure _
          refine Mirrors.deeper hNext ?_
          intro hDeeper
          have hInner := ih (by omega) hDeeper
            (Nat.le_of_lt_succ
              (Nat.lt_of_lt_of_le hShort hRounds))
          exact hInner.imp fun _ hAfter => hAfter.toAlong

theorem follows_prefixed
    {op : UnaryOp}
    {mark : TokenKind}
    (hMark : mark.isLayout = false) :
    Follows limit fuel (prefixed op mark item fuel)
      (Parser.prefixed op mark operands) :=
  fun _ hRoom _ hReady =>
    mirrors_prefixed hOperand hMark hRoom hReady
      hReady.fuel

end Counting

end Gantry

------------------------------------------------------------
-- Expressions
------------------------------------------------------------

namespace Gantry

namespace Counting

theorem follows_disjunction
    {limit fuel : Nat}
    {item : Counting Expr}
    {inner : Nat → Parser Expr}
    (hInner : Follows limit fuel item inner) :
    Follows limit (fuel + 1) (disjunction (fuel + 1) item)
      (Parser.disjunction inner) := by
  have hSigned :
      Follows limit (fuel + 1) (signed (fuel + 1) item)
        (Parser.signed inner) :=
    follows_prefixed (follows_operand hInner) rfl
  have hProduct :
      Follows limit (fuel + 1) (product (fuel + 1) item)
        (Parser.product inner) :=
    follows_chain hSigned Parser.kind_of_productOp?
  have hSum :
      Follows limit (fuel + 1) (sum (fuel + 1) item)
        (Parser.sum inner) :=
    follows_chain hProduct Parser.kind_of_sumOp?
  have hComparison :
      Follows limit (fuel + 1) (comparison (fuel + 1) item)
        (Parser.comparison inner) :=
    follows_chain hSum Parser.kind_of_comparisonOp?
  have hNegation :
      Follows limit (fuel + 1) (negation (fuel + 1) item)
        (Parser.negation inner) :=
    follows_prefixed hComparison rfl
  have hConjunction :
      Follows limit (fuel + 1) (conjunction (fuel + 1) item)
        (Parser.conjunction inner) :=
    follows_chain hNegation Parser.kind_of_andOp?
  exact follows_chain hConjunction Parser.kind_of_orOp?

/-
  Where the brackets are bounded, the room runs out first;
  and there is fuel for all brackets, since each of them
  takes a token.
-/
theorem follows_expressionWithin
    (fuel brackets : Nat) :
    Follows brackets fuel (expression fuel)
      (Parser.expressionWithin brackets) := by
  induction brackets generalizing fuel with
  | zero =>
      intro room hRoom tally hReady
      obtain ⟨fuel, rfl⟩ :=
        Nat.exists_eq_succ_of_ne_zero hReady.fuel_ne_zero
      obtain rfl := Nat.le_zero.mp hRoom
      rw [expression, Parser.expressionWithin]
      exact (mirrors_deeper_full hReady).fails.nested
  | succ brackets ih =>
      intro room hRoom tally hReady
      obtain ⟨fuel, rfl⟩ :=
        Nat.exists_eq_succ_of_ne_zero hReady.fuel_ne_zero
      rw [expression]
      cases room with
      | zero =>
          rw [Parser.expressionWithin]
          exact (mirrors_deeper_full hReady).fails.nested
      | succ room =>
          rw [Parser.expressionWithin]
          refine Mirrors.nested (Mirrors.deeper hReady ?_)
          intro hDeeper
          have hInner :=
            follows_disjunction (ih fuel) room (by omega) _
              hDeeper
          exact hInner.imp fun _ hAfter => hAfter.toAlong

/- Both ways of reading an expression agree. -/
theorem mirrors_expression
    {tally : Tally}
    {fuel : Nat}
    (hReady : tally.Ready fuel maxNesting) :
    Mirrors Tally.Inline tally (expression fuel)
      Parser.expression :=
  follows_expressionWithin fuel maxNesting maxNesting
    Nat.le.refl tally hReady

end Counting

end Gantry
