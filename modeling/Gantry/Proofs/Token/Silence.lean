import Gantry.Proofs.Token.Passage

/-
  This file puts a silent line into a script: one of blanks,
  or of blanks and a comment. The lexer finds the same as
  before, and only the lines behind the new one are counted
  on from it.

  Key definitions include:
    * `Gantry.Span.lower`
    * `Gantry.Token.lower`
    * `Gantry.Issue.lower`
    * `Gantry.Lexer.Line.lower`

  Main statements:
    * `Gantry.Lexer.lexLine_lower`
    * `Gantry.Lexer.Line.addAll_lower`
    * `Gantry.Source.passage_insert`
    * `Gantry.Source.lex_insert_silent`
-/

------------------------------------------------------------
-- Making Room For A Line
------------------------------------------------------------

namespace Gantry

/-
  The place once there is one more line behind the first
  `kept` ones.
-/
def Position.lower
    (kept : Nat)
    (p : Position) : Position :=
  if kept < p.line then p.down 1 else p

/- The span once there is one more line. -/
def Span.lower
    (kept : Nat)
    (span : Span) : Span :=
  ⟨span.start.lower kept, span.stop.lower kept⟩

/- The token once there is one more line. -/
def Token.lower
    (kept : Nat)
    (token : Token) : Token :=
  { token with span := token.span.lower kept }

/- The issue once there is one more line. -/
def Issue.lower
    (kept : Nat)
    (issue : Issue) : Issue :=
  { issue with span := issue.span.lower kept }

namespace Span

theorem lower_of_lt
    {kept line : Nat}
    (hLine : kept < line)
    {span : Span}
    (hOn : span.On line) :
    span.lower kept = span.down 1 := by
  have hStart : kept < span.start.line := hOn.1 ▸ hLine
  have hStop : kept < span.stop.line := hOn.2 ▸ hLine
  rw [lower, Position.lower, Position.lower, if_pos hStart,
    if_pos hStop]
  rfl

theorem lower_of_le
    {kept line : Nat}
    (hLine : line ≤ kept)
    {span : Span}
    (hOn : span.On line) :
    span.lower kept = span := by
  have hStart : ¬ kept < span.start.line :=
    Nat.not_lt_of_le (hOn.1 ▸ hLine)
  have hStop : ¬ kept < span.stop.line :=
    Nat.not_lt_of_le (hOn.2 ▸ hLine)
  rw [lower, Position.lower, Position.lower, if_neg hStart,
    if_neg hStop]

end Span

namespace Log

variable {α β : Type}

theorem map_push
    (f : α → β)
    (log : Log α)
    (entry : α) :
    (log.push entry).map f = (log.map f).push (f entry) := by
  unfold push map
  dsimp only
  rw [List.length_map]
  split
  · rw [List.map_append]
    rfl
  · rfl

theorem map_pushAll
    (f : α → β)
    (log : Log α)
    (entries : List α) :
    (log.pushAll entries).map f =
      (log.map f).pushAll (entries.map f) := by
  induction entries generalizing log with
  | nil => rfl
  | cons entry entries ih =>
      change ((log.push entry).pushAll entries).map f = _
      rw [ih, map_push]
      rfl

end Log

end Gantry

------------------------------------------------------------
-- Lines Further Down
------------------------------------------------------------

namespace Gantry

namespace Lexer

namespace Line

/- What was found, once there is one more line. -/
def lower
    (kept : Nat)
    (passed : Line) : Line :=
  ⟨passed.tokens.map (Token.lower kept),
    passed.issues.map (Issue.lower kept), passed.levels⟩

theorem lower_append
    (kept : Nat)
    (passed next : Line) :
    (passed.append next).lower kept =
      (passed.lower kept).append (next.lower kept) := by
  unfold append lower
  dsimp only
  rw [List.map_append, List.map_append]

/- What was found in front of the new line stays there. -/
theorem On.lower_eq
    {kept : Nat}
    {numbers : List Nat}
    (hNumbers : ∀ number ∈ numbers, number ≤ kept)
    {passed : Line}
    (hOn : passed.On numbers) :
    passed.lower kept = passed := by
  have hTokens :
      ∀ token ∈ passed.tokens,
        token.lower kept = id token := by
    intro token hToken
    rcases hOn.tokens token hToken with
      ⟨number, hNumber, hLine⟩
    rw [Token.lower,
      Span.lower_of_le (hNumbers number hNumber) hLine]
    rfl
  have hIssues :
      ∀ issue ∈ passed.issues,
        issue.lower kept = id issue := by
    intro issue hIssue
    rcases hOn.issues issue hIssue with
      ⟨number, hNumber, hLine⟩
    rw [Issue.lower,
      Span.lower_of_le (hNumbers number hNumber) hLine]
    rfl
  rw [lower, List.map_congr_left hTokens,
    List.map_congr_left hIssues, List.map_id, List.map_id]

end Line

/- A line behind the new one stands one further down. -/
theorem lexLine_lower
    {kept number : Nat}
    (hBehind : kept < number)
    (levels : List Nat)
    (cs : List Char) :
    lexLine (number + 1) levels cs =
      (lexLine number levels cs).lower kept := by
  rcases on_lexLine number levels cs with
    ⟨hTokens, hIssues⟩
  rw [lexLine_down, Line.down, Line.lower, Line.mk.injEq]
  refine ⟨?_, ?_, rfl⟩
  · apply List.map_congr_left
    intro token hToken
    rw [Token.lower,
      Span.lower_of_lt hBehind (hTokens token hToken)]
    rfl
  · apply List.map_congr_left
    intro issue hIssue
    rw [Issue.lower,
      Span.lower_of_lt hBehind (hIssues issue hIssue)]
    rfl

namespace Line

theorem add_lower
    {kept number : Nat}
    (hBehind : kept < number)
    (passed : Line)
    (text : String) :
    (passed.lower kept).add (number + 1, text) =
      (passed.add (number, text)).lower kept := by
  have hLength :
      (passed.lower kept).issues.length =
        passed.issues.length :=
    List.length_map _
  rcases Nat.lt_or_ge passed.issues.length Log.capacity
    with hRoom | hFull
  · rw [add_of_room hRoom, add_of_room (hLength ▸ hRoom),
      lower_append, lexLine_lower hBehind]
    rfl
  · rw [add_of_full hFull, add_of_full (hLength ▸ hFull)]

/- The lines behind the new one. -/
theorem addAll_lower
    {kept used : Nat}
    (hBehind : kept ≤ used)
    (passed : Line)
    (lines : List String) :
    (passed.lower kept).addAll
        (Source.numberedFrom (used + 1) lines) =
      (passed.addAll
        (Source.numberedFrom used lines)).lower kept := by
  induction lines generalizing used passed with
  | nil => rfl
  | cons line lines ih =>
      rw [Source.numberedFrom_cons, Source.numberedFrom_cons,
        addAll_cons, addAll_cons,
        add_lower (Nat.lt_succ_of_le hBehind),
        ih (Nat.le_succ_of_le hBehind)]

/- The new line itself changes nothing. -/
theorem add_silent
    {text : String}
    (hSilent : Outline.Silent text.toList)
    (passed : Line)
    (number : Nat) :
    passed.add (number, text) = passed := by
  have hNothing :
      lexLine number passed.levels text.toList =
        ⟨[], [], passed.levels⟩ :=
    if_pos hSilent.isIdle
  rcases Nat.lt_or_ge passed.issues.length Log.capacity
    with hRoom | hFull
  · rw [add_of_room hRoom, hNothing]
    simp [append]
  · exact add_of_full hFull _

end Line

end Lexer

end Gantry

------------------------------------------------------------
-- Scripts
------------------------------------------------------------

namespace Gantry

open Lexer

namespace Source

/- What is found in a script with a silent line more. -/
theorem passage_insert
    {source edited : Source}
    {line : String}
    {before after : List String}
    (hLines : source.lines = before ++ after)
    (hEdited : edited.lines = before ++ line :: after)
    (hSilent : Outline.Silent line.toList) :
    edited.passage = source.passage.lower before.length := by
  let front := Line.start.addAll (numberedFrom 0 before)
  have hFront : front.lower before.length = front := by
    rcases Line.exists_addAll .start (numberedFrom 0 before)
      with ⟨more, hOn, hMore⟩
    have hMore : front = more := hMore
    rw [hMore]
    apply hOn.lower_eq
    intro number hNumber
    rcases List.mem_map.mp hNumber with ⟨found, hFound, rfl⟩
    have hBounds := bounds_numberedFrom _ _ found hFound
    omega
  rw [passage, passage, numbered_eq, numbered_eq, hLines,
    hEdited, numberedFrom_append, numberedFrom_append,
    numberedFrom_cons, Line.addAll_append,
    Line.addAll_append, Line.addAll_cons,
    Line.add_silent hSilent, Nat.zero_add]
  change front.addAll _ = (front.addAll _).lower _
  rw [← Line.addAll_lower (Nat.le_refl _), hFront]

/- The end of a script with one more line. -/
theorem finish_insert
    {source edited : Source}
    {line : String}
    {before after : List String}
    (hLines : source.lines = before ++ after)
    (hEdited : edited.lines = before ++ line :: after)
    (hSome : source.lines ≠ []) :
    (∃ column,
        edited.finish =
          Span.point (source.finish.start.line + 1)
            column) ∧
      (after ≠ [] →
        edited.finish = source.finish.down 1) := by
  have hOther : edited.lines ≠ [] := by
    simp [hEdited]
  have hLength :
      edited.lines.length = source.lines.length + 1 := by
    rw [hEdited, hLines, List.length_append,
      List.length_append, List.length_cons, Nat.add_assoc]
  rw [finish_eq hSome, finish_eq hOther, hLength]
  refine ⟨⟨_, rfl⟩, fun hAfter => ?_⟩
  have hLast :
      edited.lines.getLast hOther =
        source.lines.getLast hSome := by
    simp [hEdited, hLines, hAfter]
  rw [hLast]
  rfl

/-
  A silent line between the lines of a script changes
  neither the tokens nor the issues, but for their places:
  what stands behind the new line stands one line further
  down, and the end of the script may be in another column
  if the new line is the last one.
-/
theorem lex_insert_silent
    {name text edited line : String}
    {before after : List String}
    (hLines : (ofText name text).lines = before ++ after)
    (hEdited :
      (ofText name edited).lines = before ++ line :: after)
    (hSilent : Outline.Silent line.toList) :
    let source := ofText name text
    let other := ofText name edited
    let kept := before.length
    other.lex.tokens.map (·.kind) =
        source.lex.tokens.map (·.kind) ∧
      other.lex.log.kept.map (·.fault) =
          source.lex.log.kept.map (·.fault) ∧
        other.lex.log =
            source.lex.log.map (Issue.lower kept) ∧
          (∃ tokens levels,
            source.lex.tokens =
                tokens ++ closing source.finish levels ∧
              other.lex.tokens =
                  tokens.map (Token.lower kept) ++
                    closing other.finish levels) ∧
            (∃ column,
                other.finish =
                  Span.point (source.finish.start.line + 1)
                    column) ∧
              (after ≠ [] →
                other.finish = source.finish.down 1) := by
  intro source other kept
  have hPassage : other.passage = source.passage.lower kept :=
    passage_insert hLines hEdited hSilent
  have hTokens :
      source.lex.tokens =
        source.passage.tokens ++
          closing source.finish source.passage.levels :=
    congrArg Lexed.tokens source.lex_eq
  have hOther :
      other.lex.tokens =
        source.passage.tokens.map (Token.lower kept) ++
          closing other.finish source.passage.levels := by
    rw [lex_eq, hPassage]
    rfl
  have hLog :
      other.lex.log =
        source.lex.log.map (Issue.lower kept) := by
    rw [lex_eq, lex_eq, hPassage, Log.map_pushAll]
    rfl
  refine ⟨?_, ?_, hLog, ⟨_, _, hTokens, hOther⟩,
    finish_insert hLines hEdited (lines_ne_nil name text)⟩
  · rw [hTokens, hOther]
    simp [closing, Function.comp_def, Token.lower]
  · rw [hLog, Log.map]
    simp [Function.comp_def, Issue.lower]

/- A comment between a block and the line that closes it. -/
theorem lex_insert_silent_sample :
    let source := ofText "sample" "if x:\n  y $\nz ?"
    let other :=
      ofText "sample" "if x:\n  y $\n\t # !\nz ?"
    source.lines = ["if x:", "  y $"] ++ ["z ?"] ∧
      other.lines =
          ["if x:", "  y $"] ++ "\t # !" :: ["z ?"] ∧
        Outline.Silent "\t # !".toList ∧
          other.lex.tokens.map (·.kind) =
              source.lex.tokens.map (·.kind) ∧
            other.lex.log =
                source.lex.log.map (Issue.lower 2) ∧
              other.lex.log.kept.map (·.span.start) =
                [⟨2, 5⟩, ⟨4, 3⟩] := by
  intro source other
  have hLines :
      source.lines = ["if x:", "  y $"] ++ ["z ?"] := by
    decide
  have hOther :
      other.lines =
        ["if x:", "  y $"] ++ "\t # !" :: ["z ?"] := by
    decide
  have hSilent : Outline.Silent "\t # !".toList :=
    ⟨"\t ".toList, "# !".toList, by decide,
      List.all_eq_true.mp rfl, .inr rfl⟩
  rcases lex_insert_silent hLines hOther hSilent with
    ⟨hKinds, _, hLog, _⟩
  exact ⟨hLines, hOther, hSilent, hKinds, hLog,
    by decide +kernel⟩

end Source

end Gantry
