import Gantry.Proofs.Machine.Meaning
import Gantry.Proofs.Parser.Faithful
import Gantry.Proofs.Parser.Places

/-
  This file reads an expression twice: once with signs glued
  to the digits of numbers, and once with some of them split
  off as tokens of their own. Where the first reading
  accepts the tokens, the second one does as well, and both
  trees mean the same; or it runs out of room, since a sign
  of its own takes a level of it.

  The two readings part where an expression in the first one
  ends in front of a number: a sign would go on with it as a
  difference. Nothing follows an expression in this way, so
  that the first reading can only stop there or fail.

  Key definitions include:
    * `Gantry.Unglued`
    * `Gantry.Parser.Twins`
    * `Gantry.Parser.Matched`
    * `Gantry.Parser.Matches`
    * `Gantry.Parser.Accepts`

  Main statements:
    * `Gantry.Parser.Matched.bind`
    * `Gantry.Parser.matches_signed`
    * `Gantry.Parser.matches_expressionWithin`
    * `Gantry.Parser.accepts_unglued`
-/

------------------------------------------------------------
-- Signs Split Off
------------------------------------------------------------

namespace Gantry

/-
  The same tokens, except that some numbers with a sign are
  replaced by a minus and the number without it. Where the
  tokens stand makes no difference.
-/
inductive Unglued :
    List Token → List Token → Prop where
  | nil : Unglued [] []
  | same
      (kind : TokenKind)
      (span otherSpan : Span)
      {rest others : List Token}
      (hRest : Unglued rest others) :
      Unglued (⟨kind, span⟩ :: rest)
        (⟨kind, otherSpan⟩ :: others)
  | split
      {signed digits : Numeral}
      (hSigned : signed.value = -digits.value)
      (span mark place : Span)
      {rest others : List Token}
      (hRest : Unglued rest others) :
      Unglued (⟨.number signed, span⟩ :: rest)
        (⟨.symbol .minus, mark⟩ ::
          ⟨.number digits, place⟩ :: others)

/- No sign need be split off. -/
theorem Unglued.refl
    (tokens : List Token) :
    Unglued tokens tokens := by
  induction tokens with
  | nil => exact .nil
  | cons token rest ih =>
      exact .same token.kind token.span token.span ih

theorem Unglued.eq_nil
    {tokens others : List Token}
    (hUnglued : Unglued tokens others) :
    tokens = [] ↔ others = [] := by
  cases hUnglued with
  | nil => exact Iff.rfl
  | same => simp
  | split => simp

/- The next token is a number. -/
def Cursor.AtNumber
    (cursor : Cursor) : Prop :=
  ∃ numeral, cursor.kind = .number numeral

theorem Cursor.AtNumber.kind_ne
    {cursor : Cursor}
    (hNumber : cursor.AtNumber)
    (mark : Symbol) :
    cursor.kind ≠ .symbol mark := by
  rcases hNumber with ⟨numeral, hKind⟩
  rw [hKind]
  rintro ⟨⟩

namespace Parser

/-
  Two cursors with the same tokens ahead, up to signs. What
  was reported in the second reading is given.
-/
structure Twins
    (log : Log Issue)
    (one other : Cursor) : Prop where
  rest : Unglued one.rest other.rest
  logged : other.log = log

variable
    {log : Log Issue}
    {one other : Cursor}

/- The same token is next, or a sign that was split off. -/
theorem Twins.head
    (hTwins : Twins log one other) :
    other.kind = one.kind ∧ Twins log one.next other.next ∨
      ∃ signed digits : Numeral,
        signed.value = -digits.value ∧
          one.kind = .number signed ∧
            other.kind = .symbol .minus ∧
              other.next.kind = .number digits ∧
                Twins log one.next other.next.next := by
  rcases one with ⟨tokens, previous, issues⟩
  rcases other with ⟨others, otherPrevious, otherIssues⟩
  rcases hTwins with ⟨hRest, hLog⟩
  dsimp only at hRest
  cases hRest with
  | nil => exact .inl ⟨rfl, .nil, hLog⟩
  | same kind span otherSpan hRest =>
      exact .inl ⟨rfl, hRest, hLog⟩
  | split hSigned span mark place hRest =>
      exact .inr ⟨_, _, hSigned, rfl, rfl, rfl, hRest, hLog⟩

/- Only a number can differ from the token across. -/
theorem Twins.kind
    (hTwins : Twins log one other) :
    other.kind = one.kind ∨
      one.AtNumber ∧ other.kind = .symbol .minus := by
  rcases hTwins.head with
    ⟨hKind, _⟩ | ⟨signed, _, _, hOne, hOther, _⟩
  · exact .inl hKind
  · exact .inr ⟨⟨signed, hOne⟩, hOther⟩

theorem Twins.kind_of_word
    (hTwins : Twins log one other)
    (hWord : ¬ one.AtNumber) :
    other.kind = one.kind :=
  hTwins.kind.resolve_right fun hNumber =>
    hWord hNumber.1

theorem Twins.kind_of_symbol
    {mark : Symbol}
    (hTwins : Twins log one other)
    (hKind : one.kind = .symbol mark) :
    other.kind = one.kind :=
  hTwins.kind_of_word fun hNumber =>
    hNumber.kind_ne mark hKind

/- Neither reading is at a token that is not a minus. -/
theorem Twins.kind_ne
    {kind : TokenKind}
    (hTwins : Twins log one other)
    (hMinus : kind ≠ .symbol .minus)
    (hOne : one.kind ≠ kind) :
    other.kind ≠ kind := by
  rcases hTwins.kind with hSame | ⟨_, hOther⟩
  · rwa [hSame]
  · rw [hOther]
    exact hMinus.symm

/- What is no number is taken in both readings. -/
theorem Twins.next
    (hTwins : Twins log one other)
    (hKind : other.kind = one.kind) :
    Twins log one.next other.next := by
  rcases hTwins.head with
    ⟨_, hNext⟩ | ⟨signed, _, _, hOne, hOther, _⟩
  · exact hNext
  · rw [hOne, hOther] at hKind
    contradiction

end Parser

end Gantry

------------------------------------------------------------
-- Readings That Match
------------------------------------------------------------

namespace Gantry

namespace Parser

variable {α β γ δ : Type}

/-
  A reading that has stopped in front of a number, if it has
  yielded anything.
-/
def Halts
    (result : Option α × Cursor) : Prop :=
  ∀ value, result.1 = some value → result.2.AtNumber

/-
  How the two readings may go. Unless the first one fails or
  stops in front of a number, the second one runs out of
  room, or both yield related values and go on as twins.
-/
inductive Matched
    (log : Log Issue)
    (Pair : α → β → Prop) :
    Option α × Cursor → Option β × Cursor → Prop where
  | halted
      {result : Option α × Cursor}
      (hHalts : Halts result)
      (across : Option β × Cursor) :
      Matched log Pair result across
  | tooDeep
      (result : Option α × Cursor)
      {behind : Cursor}
      (span : Span)
      (hLog : behind.log = log.push ⟨.nestingTooDeep, span⟩) :
      Matched log Pair result (none, behind)
  | read
      {a : α}
      {b : β}
      {after behind : Cursor}
      (hPair : Pair a b)
      (hTwins : Twins log after behind) :
      Matched log Pair (some a, after) (some b, behind)

/- Two parsers match from any twins on. -/
def Matches
    (Pair : α → β → Prop)
    (parser : Parser α)
    (twin : Parser β) : Prop :=
  ∀ log one other,
    Twins log one other →
      Matched log Pair (exec parser one) (exec twin other)

variable
    {log : Log Issue}
    {Pair : α → β → Prop}
    {Next : γ → δ → Prop}
    {one other : Cursor}

theorem halts_none
    (cursor : Cursor) :
    Halts ((none, cursor) : Option α × Cursor) :=
  nofun

theorem halts_some
    (value : α)
    {cursor : Cursor}
    (hNumber : cursor.AtNumber) :
    Halts (some value, cursor) :=
  fun _ _ => hNumber

/- No symbol is found where a number is. -/
theorem halts_expect
    (mark : Symbol)
    {next : Span → Parser α}
    {cursor : Cursor}
    (hNumber : cursor.AtNumber) :
    Halts
      (exec (expect (.symbol mark) >>= next) cursor) := by
  rw [exec_bind, exec_expect, if_neg (hNumber.kind_ne mark)]
  exact halts_none _

/- What follows two readings that match. -/
theorem Matched.bind
    {parser : Parser α}
    {twin : Parser β}
    {next : α → Parser γ}
    {later : β → Parser δ}
    (hFirst :
      Matched log Pair (exec parser one) (exec twin other))
    (hHalts :
      ∀ value cursor, cursor.AtNumber →
        Halts (exec (next value) cursor))
    (hNext :
      ∀ a b after behind,
        exec parser one = (some a, after) →
          exec twin other = (some b, behind) →
            Pair a b → Twins log after behind →
              Matched log Next (exec (next a) after)
                (exec (later b) behind)) :
    Matched log Next (exec (parser >>= next) one)
      (exec (twin >>= later) other) := by
  rw [exec_bind, exec_bind]
  cases hOne : exec parser one with
  | mk value? after =>
      cases hOther : exec twin other with
      | mk other? behind =>
          rw [hOne, hOther] at hFirst
          cases hFirst with
          | halted hStopped =>
              cases value? with
              | none => exact .halted (halts_none _) _
              | some value =>
                  exact .halted (hHalts value after
                    (hStopped value rfl)) _
          | tooDeep _ span hLog => exact .tooDeep _ span hLog
          | read hPair hTwins =>
              exact hNext _ _ _ _ hOne hOther hPair hTwins

/- What is made of two values that are related. -/
theorem Matched.bind_return
    {parser : Parser α}
    {twin : Parser β}
    {f : α → γ}
    {g : β → δ}
    (hFirst :
      Matched log Pair (exec parser one) (exec twin other))
    (hPair : ∀ a b, Pair a b → Next (f a) (g b)) :
    Matched log Next
      (exec (do let a ← parser; return f a) one)
      (exec (do let b ← twin; return g b) other) := by
  refine hFirst.bind ?_ ?_
  · intro value cursor hNumber
    exact halts_some _ hNumber
  · intro a b _ _ _ _ hValues hAfter
    exact .read (hPair a b hValues) hAfter

/- The value of the second reading may be changed. -/
theorem Matched.map
    {result : Option α × Cursor}
    {twin : Parser β}
    {f : β → δ}
    {Other : α → δ → Prop}
    (hMatched : Matched log Pair result (exec twin other))
    (hPair : ∀ a b, Pair a b → Other a (f b)) :
    Matched log Other result
      (exec (do let found ← twin; return f found) other) := by
  rw [exec_bind]
  cases hOther : exec twin other with
  | mk other? behind =>
      rw [hOther] at hMatched
      cases hMatched with
      | halted hStopped => exact .halted hStopped _
      | tooDeep _ span hLog => exact .tooDeep _ span hLog
      | read hFound hTwins =>
          exact .read (hPair _ _ hFound) hTwins

/- The second reading runs out of room at the next token. -/
theorem matched_tooDeep
    (result : Option α × Cursor)
    (hLog : other.log = log) :
    Matched log Pair result
      (exec (tooDeep : Parser β) other) :=
  .tooDeep result other.here (by rw [← hLog]; rfl)

theorem matches_expect
    (mark : Symbol) :
    Matches (fun _ _ => True) (expect (.symbol mark))
      (expect (.symbol mark)) := by
  intro log one other hTwins
  rw [exec_expect]
  by_cases hFound : one.kind = .symbol mark
  · have hSame := hTwins.kind_of_symbol hFound
    rw [if_pos hFound, exec_expect,
      if_pos (hSame.trans hFound)]
    exact .read trivial (hTwins.next hSame)
  · rw [if_neg hFound]
    exact .halted (halts_none _) _

theorem matches_identifier :
    Matches (fun field twin => field.name = twin.name)
      identifier identifier := by
  intro log one other hTwins
  rw [identifier, exec_peek_bind, exec_peek_bind]
  rcases hTwins.kind with hSame | ⟨⟨numeral, hOne⟩, _⟩
  · rw [hSame]
    split
    · exact .read rfl (hTwins.next hSame)
    · exact .halted (halts_none _) _
    · exact .halted (halts_none _) _
  · rw [hOne]
    exact .halted (halts_none _) _

end Parser

end Gantry

------------------------------------------------------------
-- Chains And Prefixes
------------------------------------------------------------

namespace Gantry

namespace Parser

open Gantry.Expr (SameMeaning)

variable
    {log : Log Issue}
    {one other : Cursor}
    {operand twin : Nat → Parser Expr}

/- No room in the second reading exceeds the first one's. -/
def MatchesWithin
    (operand twin : Nat → Parser Expr) : Prop :=
  ∀ room small,
    small ≤ room →
      Matches SameMeaning (operand room) (twin small)

/- Where no operator follows, a chain ends. -/
theorem exec_chain_end
    {op? : TokenKind → Option BinaryOp}
    {cursor : Cursor}
    (hEnd : op? cursor.kind = none)
    (room : Nat)
    (left : Expr) :
    exec (chain op? operand room left) cursor =
      (some left, cursor) := by
  cases room with
  | zero => rw [chain, exec_peek_bind, hEnd, exec_pure]
  | succ room => rw [chain, exec_peek_bind, hEnd, exec_pure]

/- No number is an operator. -/
def Wordless
    (op? : TokenKind → Option BinaryOp) : Prop :=
  ∀ numeral, op? (.number numeral) = none

theorem wordless_of_kind
    {op? : TokenKind → Option BinaryOp}
    (hOp :
      ∀ kind op, op? kind = some op → kind = op.kind) :
    Wordless op? := by
  intro numeral
  cases hFound : op? (.number numeral) with
  | none => rfl
  | some op =>
      have hKind := hOp _ op hFound
      cases op <;> contradiction

theorem halts_chain
    {op? : TokenKind → Option BinaryOp}
    (hOp : Wordless op?)
    (room : Nat)
    (left : Expr)
    {cursor : Cursor}
    (hNumber : cursor.AtNumber) :
    Halts (exec (chain op? operand room left) cursor) := by
  rcases hNumber with ⟨numeral, hKind⟩
  rw [exec_chain_end (by rw [hKind, hOp])]
  exact halts_some left ⟨numeral, hKind⟩

/- Where no operator follows in the first reading. -/
theorem matched_chain_end
    {op? : TokenKind → Option BinaryOp}
    (hOp : Wordless op?)
    (hTwins : Twins log one other)
    (hEnd : op? one.kind = none)
    (room small : Nat)
    {left across : Expr}
    (hLeft : left.SameMeaning across) :
    Matched log SameMeaning
      (exec (chain op? operand room left) one)
      (exec (chain op? twin small across) other) := by
  rcases hTwins.kind with hSame | ⟨hNumber, _⟩
  · rw [exec_chain_end hEnd,
      exec_chain_end (by rw [hSame, hEnd])]
    exact .read hLeft hTwins
  · exact .halted (halts_chain hOp room left hNumber) _

/- The links of a chain, by induction on the room. -/
theorem matches_chain
    {op? : TokenKind → Option BinaryOp}
    (hOp : Wordless op?)
    (hOperand : MatchesWithin operand twin)
    {room small : Nat}
    (hRoom : small ≤ room)
    {left across : Expr}
    (hLeft : left.SameMeaning across) :
    Matches SameMeaning (chain op? operand room left)
      (chain op? twin small across) := by
  induction room generalizing small left across with
  | zero =>
      intro log one other hTwins
      cases hFound : op? one.kind with
      | none =>
          exact matched_chain_end hOp hTwins hFound 0 small
            hLeft
      | some op =>
          rw [chain, exec_peek_bind, hFound]
          exact .halted (halts_none _) _
  | succ room ih =>
      intro log one other hTwins
      cases hFound : op? one.kind with
      | none =>
          exact matched_chain_end hOp hTwins hFound
            (room + 1) small hLeft
      | some op =>
          have hSame : other.kind = one.kind := by
            refine hTwins.kind_of_word ?_
            rintro ⟨numeral, hNumber⟩
            rw [hNumber, hOp] at hFound
            contradiction
          have hNext := hTwins.next hSame
          cases small with
          | zero =>
              rw [chain.eq_1 _ twin, exec_peek_bind, hSame,
                hFound]
              exact matched_tooDeep _ hNext.logged
          | succ small =>
              rw [chain, chain, exec_peek_bind,
                exec_peek_bind, hSame, hFound]
              have hLess := Nat.le_of_succ_le_succ hRoom
              refine (hOperand room small hLess _ _ _
                hNext).bind ?_ ?_
              · intro right cursor hNumber
                exact halts_chain hOp room _ hNumber
              · intro right opposite _ _ _ _ hRight hAfter
                exact ih hLess
                  (Expr.sameMeaning_binary op hLeft hRight _
                    _) _ _ _ hAfter

theorem matches_level
    {op? : TokenKind → Option BinaryOp}
    (hOp : Wordless op?)
    (hOperand : MatchesWithin operand twin) :
    MatchesWithin (level op? operand)
      (level op? twin) := by
  intro room small hRoom log one other hTwins
  refine (hOperand room small hRoom log one other
    hTwins).bind ?_ ?_
  · intro left cursor hNumber
    exact halts_chain hOp room left hNumber
  · intro left across _ _ _ _ hLeft hAfter
    exact matches_chain hOp hOperand hRoom hLeft _ _ _ hAfter

/- Where the mark is missing, the operand is read. -/
theorem exec_prefixed_skip
    (op : UnaryOp)
    {mark : TokenKind}
    {cursor : Cursor}
    (hSkip : cursor.kind ≠ mark)
    (room : Nat) :
    exec (prefixed op mark operand room) cursor =
      exec (operand room) cursor := by
  cases room with
  | zero => rw [prefixed, exec_check_branch, if_neg hSkip]
  | succ room =>
      rw [prefixed, exec_check_branch, if_neg hSkip]

/-
  Any number of prefixes, by induction on the room. How the
  readings go where there is none in the first is left open.
-/
theorem matches_prefixed
    (op : UnaryOp)
    {mark : TokenKind}
    (hMark : ∀ numeral, mark ≠ .number numeral)
    (hSkip :
      ∀ room small log one other,
        small ≤ room →
          Twins log one other →
            one.kind ≠ mark →
              Matched log SameMeaning
                (exec (operand room) one)
                (exec (prefixed op mark twin small)
                  other)) :
    MatchesWithin (prefixed op mark operand)
      (prefixed op mark twin) := by
  intro room
  induction room with
  | zero =>
      intro small hRoom log one other hTwins
      by_cases hKind : one.kind = mark
      · rw [prefixed, exec_check_branch, if_pos hKind]
        exact .halted (halts_none _) _
      · rw [exec_prefixed_skip op hKind]
        exact hSkip 0 small _ _ _ hRoom hTwins hKind
  | succ room ih =>
      intro small hRoom log one other hTwins
      by_cases hKind : one.kind = mark
      · have hSame : other.kind = one.kind := by
          refine hTwins.kind_of_word ?_
          rintro ⟨numeral, hNumber⟩
          exact hMark numeral (hKind.symm.trans hNumber)
        have hOther := hSame.trans hKind
        have hNext := hTwins.next hSame
        cases small with
        | zero =>
            rw [prefixed.eq_1 _ _ twin, exec_check_branch,
              if_pos hOther]
            exact matched_tooDeep _ hNext.logged
        | succ small =>
            rw [prefixed, prefixed, exec_check_branch,
              exec_check_branch, if_pos hKind,
              if_pos hOther]
            exact (ih small (Nat.le_of_succ_le_succ hRoom)
              _ _ _ hNext).bind_return
                fun _ _ hInner =>
                  Expr.sameMeaning_unary op hInner _ _
      · rw [exec_prefixed_skip op hKind]
        exact hSkip (room + 1) small _ _ _ hRoom hTwins
          hKind

/- Negations in words are never split off. -/
theorem matches_negation
    (hOperand : MatchesWithin operand twin) :
    MatchesWithin
      (prefixed .not (.keyword .notWord) operand)
      (prefixed .not (.keyword .notWord) twin) := by
  refine matches_prefixed .not nofun ?_
  intro room small log one other hRoom hTwins hKind
  have hOther : other.kind ≠ .keyword .notWord :=
    hTwins.kind_ne nofun hKind
  rw [exec_prefixed_skip .not hOther]
  exact hOperand room small hRoom _ _ _ hTwins

end Parser

end Gantry

------------------------------------------------------------
-- Primaries And Suffixes
------------------------------------------------------------

namespace Gantry

namespace Parser

open Gantry.Expr
  (SameMeaning ListSameMeaning Stem SuffixClosed)

/- The parser never has more tokens left than before. -/
def Shrinks
    {α : Type}
    (parser : Parser α) : Prop :=
  ∀ cursor : Cursor,
    (exec parser cursor).2.rest <:+ cursor.rest

/- A cursor only moves on. -/
theorem invariant_suffix
    (tokens : List Token) :
    Invariant (fun cursor => cursor.rest <:+ tokens)
      fun _ => True where
  here _ := trivial
  next {cursor} hSuffix := by
    rcases cursor with ⟨rest, previous, log⟩
    cases rest with
    | nil => exact hSuffix
    | cons token rest =>
        exact (List.suffix_cons token rest).trans hSuffix
  report _ hSuffix _ := hSuffix
  pastNewlines hSuffix :=
    (dropNewlines_suffix _ _).trans hSuffix
  synchronized hSuffix :=
    (dropLine_suffix _ _).trans hSuffix
  merge _ _ := trivial

theorem shrinks_expressionWithin
    (brackets room : Nat) :
    Shrinks (expressionWithin brackets room) :=
  fun cursor =>
    (keeps_expressionWithin (invariant_suffix cursor.rest)
      brackets room cursor (List.suffix_refl _)).1

variable
    {log : Log Issue}
    {one other : Cursor}
    {item across : Parser Expr}
    {inner twin : Nat → Parser Expr}

/- A symbol that is taken leaves fewer tokens. -/
theorem length_next_of_symbol
    {cursor : Cursor}
    {mark : Symbol}
    (hKind : cursor.kind = .symbol mark) :
    cursor.next.rest.length < cursor.rest.length :=
  Cursor.length_next_lt (by rw [hKind]; rintro ⟨⟩)

/- Without tokens nothing depends on the rounds. -/
theorem exec_commaList_nil
    (hShrinks : Shrinks item)
    (close : Symbol)
    (rounds : List Token)
    {cursor : Cursor}
    (hRest : cursor.rest = []) :
    exec (commaList item close rounds) cursor =
      exec (do let last ← item; return [last]) cursor := by
  have hKind :
      ∀ reached : Cursor, reached.rest = [] →
        ∀ mark, reached.kind ≠ .symbol mark := by
    intro reached hReached mark
    rw [Cursor.kind, hReached]
    rintro ⟨⟩
  cases rounds with
  | nil => rfl
  | cons token rounds =>
      have hAfter := hShrinks cursor
      rw [commaList, exec_check_branch,
        if_neg (hKind cursor hRest close), exec_bind,
        exec_bind]
      cases hItem : exec item cursor with
      | mk first? after =>
          rw [hItem, hRest, List.suffix_nil] at hAfter
          cases first? with
          | none => rfl
          | some first =>
              dsimp only
              rw [exec_eat_bind,
                if_neg (hKind after hAfter .comma)]
              rfl

/- Nothing but a comma goes on with a list. -/
theorem halts_furtherItems
    (close : Symbol)
    (rounds : List Token)
    (first : Expr)
    {cursor : Cursor}
    (hNumber : cursor.AtNumber) :
    Halts
      (exec
        (do
          if ← eat (.symbol .comma) then
            let others ← commaList item close rounds
            return first :: others
          else
            return [first])
        cursor) := by
  rw [exec_eat_bind, if_neg (hNumber.kind_ne .comma)]
  exact halts_some _ hNumber

section Lists

variable
    (hItem : Matches SameMeaning item across)
    (hShrinks : Shrinks item)
    (hOther : Shrinks across)

include hItem hShrinks hOther

theorem matched_commaList_nil
    (close : Symbol)
    (rounds others : List Token)
    (hTwins : Twins log one other)
    (hNone : one.rest = []) :
    Matched log ListSameMeaning
      (exec (commaList item close rounds) one)
      (exec (commaList across close others) other) := by
  rw [exec_commaList_nil hShrinks close _ hNone,
    exec_commaList_nil hOther close _
      (hTwins.rest.eq_nil.mp hNone)]
  exact (hItem _ _ _ hTwins).bind_return fun _ _ hLast =>
    .cons hLast .nil

/-
  Expressions between commas, by induction on the rounds of
  the first reading. Neither reading runs out of them.
-/
theorem matched_commaList
    {close : Symbol}
    (hClose : close ≠ .minus)
    {rounds others : List Token}
    (hTwins : Twins log one other)
    (hRounds : one.rest.length ≤ rounds.length)
    (hOthers : other.rest.length ≤ others.length) :
    Matched log ListSameMeaning
      (exec (commaList item close rounds) one)
      (exec (commaList across close others) other) := by
  induction rounds generalizing others one other with
  | nil =>
      have hNone :=
        List.eq_nil_of_length_eq_zero (Nat.le_zero.mp hRounds)
      exact matched_commaList_nil hItem hShrinks hOther close
        _ _ hTwins hNone
  | cons token rounds ih =>
      by_cases hNone : other.rest = []
      · exact matched_commaList_nil hItem hShrinks hOther
          close _ _ hTwins (hTwins.rest.eq_nil.mpr hNone)
      rcases List.exists_cons_of_length_pos
        (Nat.lt_of_lt_of_le (List.length_pos_of_ne_nil hNone)
          hOthers) with ⟨opposite, others, rfl⟩
      rw [commaList, commaList, exec_check_branch,
        exec_check_branch]
      by_cases hEnd : one.kind = .symbol close
      · have hSame := hTwins.kind_of_symbol hEnd
        rw [if_pos hEnd, if_pos (hSame.trans hEnd)]
        exact .read .nil hTwins
      · have hOpen : other.kind ≠ .symbol close := by
          refine hTwins.kind_ne ?_ hEnd
          rintro ⟨⟩
          exact hClose rfl
        rw [if_neg hEnd, if_neg hOpen]
        refine (hItem _ _ _ hTwins).bind ?_ ?_
        · intro first cursor hNumber
          exact halts_furtherItems close rounds first hNumber
        intro first twin after behind hOne hAcross hFirst
          hAfter
        by_cases hComma : after.kind = .symbol .comma
        · have hSame := hAfter.kind_of_symbol hComma
          have hLength := (hShrinks one).length_le
          have hOtherLength := (hOther other).length_le
          rw [hOne] at hLength
          rw [hAcross] at hOtherLength
          have hLess := length_next_of_symbol hComma
          have hOtherLess :=
            length_next_of_symbol (hSame.trans hComma)
          rw [List.length_cons] at hRounds hOthers
          dsimp only at hLength hOtherLength
          rw [exec_eat_bind, exec_eat_bind, if_pos hComma,
            if_pos (hSame.trans hComma)]
          exact (ih (hAfter.next hSame) (by omega)
            (by omega)).bind_return fun _ _ hItems =>
              .cons hFirst hItems
        · rcases hAfter.kind with hSame | ⟨hNumber, _⟩
          · have hOtherComma :
                behind.kind ≠ .symbol .comma := by
              rwa [hSame]
            rw [exec_eat_bind, if_neg hComma, exec_eat_bind,
              if_neg hOtherComma]
            exact Matched.read
              (List.Forall₂.cons hFirst .nil) hAfter
          · exact .halted
              (halts_furtherItems close rounds first
                hNumber) _

/- A list with its closing mark. -/
theorem matches_enclosed
    (close : Symbol)
    (hClose : close ≠ .minus) :
    Matches
      (fun found opposite =>
        ListSameMeaning found.1 opposite.1)
      (enclosed item close) (enclosed across close) := by
  intro log one other hTwins
  rw [enclosed, enclosed, exec_get_bind, exec_get_bind]
  refine (matched_commaList hItem hShrinks hOther hClose
    hTwins (Nat.le_refl _) (Nat.le_refl _)).bind ?_ ?_
  · intro items cursor hNumber
    exact halts_expect _ hNumber
  · intro items opposites _ _ _ _ hItems hAfter
    exact (matches_expect _ _ _ _ hAfter).bind_return
      fun _ _ _ => hItems

/-
  The first token of a primary is the same in both readings.
-/
theorem matched_primary
    (hTwins : Twins log one other)
    (hSame : other.kind = one.kind) :
    Matched log SameMeaning (exec (primary item) one)
      (exec (primary across) other) := by
  have hNext := hTwins.next hSame
  rw [primary, primary, exec_here_bind, exec_here_bind,
    exec_peek_bind, exec_peek_bind, hSame]
  split
  · exact .read (Expr.sameMeaning_name _ _ _) hNext
  · rw [exec_advance_bind, exec_advance_bind]
    exact (matches_enclosed hItem hShrinks hOther
      .rightBracket (by decide) _ _ _ hNext).bind_return
        fun _ _ hFound => Expr.sameMeaning_list hFound _ _
  · rw [exec_advance_bind, exec_advance_bind]
    refine (hItem _ _ _ hNext).bind ?_ ?_
    · intro expr cursor hNumber
      exact halts_expect _ hNumber
    · intro expr opposite _ _ _ _ hExpr hAfter
      exact (matches_expect _ _ _ _ hAfter).bind_return
        fun _ _ _ => hExpr.withSpan _ _
  · split
    · exact .read (Expr.sameMeaning_literal _ _ _) hNext
    · exact .halted (halts_none _) _

/- One suffix, behind expressions that are related. -/
theorem matched_suffix
    {pair : Expr → Expr → Prop}
    (hClosed : SuffixClosed pair)
    {object twin : Expr}
    (hObject : pair object twin)
    (hTwins : Twins log one other)
    (hSame : other.kind = one.kind) :
    Matched log pair (exec (suffix item object) one)
      (exec (suffix across twin) other) := by
  have hNext := hTwins.next hSame
  rw [suffix, suffix, exec_peek_bind, exec_peek_bind, hSame]
  split
  · rw [exec_advance_bind, exec_advance_bind]
    exact (matches_enclosed hItem hShrinks hOther .rightParen
      (by decide) _ _ _ hNext).bind_return
        fun _ _ hFound => hClosed.call hObject hFound _ _
  · rw [exec_advance_bind, exec_advance_bind]
    refine (hItem _ _ _ hNext).bind ?_ ?_
    · intro key cursor hNumber
      exact halts_expect _ hNumber
    · intro key opposite _ _ _ _ hKey hAfter
      exact (matches_expect _ _ _ _ hAfter).bind_return
        fun _ _ _ => hClosed.index hObject hKey _ _
  · rw [exec_advance_bind, exec_advance_bind]
    exact (matches_identifier _ _ _ hNext).bind_return
      fun _ _ hField => hClosed.attr hObject hField _ _

end Lists

/- Where no suffix follows, an expression ends. -/
theorem exec_suffixes_end
    {cursor : Cursor}
    (hEnd : startsSuffix cursor.kind = false)
    (room : Nat)
    (object : Expr) :
    exec (suffixes inner room object) cursor =
      (some object, cursor) := by
  cases room with
  | zero => rw [suffixes, exec_peek_bind, hEnd]; rfl
  | succ room => rw [suffixes, exec_peek_bind, hEnd]; rfl

theorem halts_suffixes
    (room : Nat)
    (object : Expr)
    {cursor : Cursor}
    (hNumber : cursor.AtNumber) :
    Halts (exec (suffixes inner room object) cursor) := by
  rcases hNumber with ⟨numeral, hKind⟩
  rw [exec_suffixes_end (by rw [hKind]; rfl)]
  exact halts_some object ⟨numeral, hKind⟩

/- Where no suffix follows in the first reading. -/
theorem matched_suffixes_end
    {pair : Expr → Expr → Prop}
    (hTwins : Twins log one other)
    (hEnd : startsSuffix one.kind = false)
    (room small : Nat)
    {object opposite : Expr}
    (hObject : pair object opposite) :
    Matched log pair (exec (suffixes inner room object) one)
      (exec (suffixes twin small opposite) other) := by
  rcases hTwins.kind with hSame | ⟨hNumber, _⟩
  · rw [exec_suffixes_end hEnd,
      exec_suffixes_end (by rw [hSame, hEnd])]
    exact .read hObject hTwins
  · exact .halted (halts_suffixes room object hNumber) _

/- A number is read as a literal. -/
theorem exec_primary_number
    {inner : Parser Expr}
    {cursor : Cursor}
    {numeral : Numeral}
    (hKind : cursor.kind = .number numeral) :
    exec (primary inner) cursor =
      (some (.literal (.number numeral) cursor.here),
        cursor.next) := by
  rw [primary, exec_here_bind, exec_peek_bind, hKind]
  rfl

section Operands

variable
    (hInner : MatchesWithin inner twin)
    (hShrinks : ∀ room, Shrinks (inner room))
    (hOther : ∀ room, Shrinks (twin room))

include hInner hShrinks hOther

/- Suffixes one after the other, by induction on the room. -/
theorem matches_suffixes
    {pair : Expr → Expr → Prop}
    (hClosed : SuffixClosed pair)
    {room small : Nat}
    (hRoom : small ≤ room)
    {object opposite : Expr}
    (hObject : pair object opposite) :
    Matches pair (suffixes inner room object)
      (suffixes twin small opposite) := by
  induction room generalizing small object opposite with
  | zero =>
      intro log one other hTwins
      cases hStarts : startsSuffix one.kind with
      | false =>
          exact matched_suffixes_end hTwins hStarts 0 small
            hObject
      | true =>
          rw [suffixes, exec_peek_bind, hStarts]
          exact .halted (halts_none _) _
  | succ room ih =>
      intro log one other hTwins
      cases hStarts : startsSuffix one.kind with
      | false =>
          exact matched_suffixes_end hTwins hStarts
            (room + 1) small hObject
      | true =>
          have hSame : other.kind = one.kind := by
            refine hTwins.kind_of_word ?_
            rintro ⟨numeral, hNumber⟩
            rw [hNumber] at hStarts
            contradiction
          cases small with
          | zero =>
              rw [suffixes.eq_1 twin, exec_peek_bind, hSame,
                hStarts]
              exact matched_tooDeep _ hTwins.logged
          | succ small =>
              rw [suffixes, suffixes, exec_peek_bind,
                exec_peek_bind, hSame, hStarts]
              have hLess := Nat.le_of_succ_le_succ hRoom
              refine (matched_suffix (hInner room small hLess)
                (hShrinks room) (hOther small) hClosed hObject
                hTwins hSame).bind ?_ ?_
              · intro longer cursor hNumber
                exact halts_suffixes room longer hNumber
              · intro longer across _ _ _ _ hLonger hAfter
                exact ih hLess hLonger _ _ _ hAfter

/- An operand whose first token is the same. -/
theorem matched_operand
    {room small : Nat}
    (hRoom : small ≤ room)
    (hTwins : Twins log one other)
    (hSame : other.kind = one.kind) :
    Matched log SameMeaning (exec (operand inner room) one)
      (exec (operand twin small) other) := by
  refine (matched_primary (hInner room small hRoom)
    (hShrinks room) (hOther small) hTwins hSame).bind ?_ ?_
  · intro object cursor hNumber
    exact halts_suffixes room object hNumber
  · intro object opposite _ _ _ _ hObject hAfter
    exact matches_suffixes hInner hShrinks hOther
      Expr.suffixClosed_sameMeaning hRoom hObject _ _ _
      hAfter

/-
  A number with its sign in the one reading and without it in
  the other, each with the suffixes behind it.
-/
theorem matched_stem
    {signed digits : Numeral}
    (hSigned : signed.value = -digits.value)
    {room small : Nat}
    (hRoom : small ≤ room)
    (hOne : one.kind = .number signed)
    (hAcross : other.kind = .number digits)
    (hNext : Twins log one.next other.next) :
    Matched log (Stem signed digits)
      (exec (operand inner room) one)
      (exec (operand twin small) other) := by
  rw [operand, operand, exec_bind, exec_bind,
    exec_primary_number hOne, exec_primary_number hAcross]
  exact matches_suffixes hInner hShrinks hOther
    (Expr.suffixClosed_stem hSigned) hRoom
    (.literal one.here other.here) _ _ _ hNext

/-
  Signs in front of an operand. One that was split off leads
  to the negation of the number without it.
-/
theorem matches_signed :
    MatchesWithin (signed inner) (signed twin) := by
  refine matches_prefixed .neg nofun ?_
  intro room small log one other hRoom hTwins hKind
  rcases hTwins.head with
    ⟨hSame, _⟩ |
      ⟨signed, digits, hSigned, hOne, hMinus, hDigits, hNext⟩
  · rw [exec_prefixed_skip .neg (by rwa [hSame])]
    exact matched_operand hInner hShrinks hOther hRoom
      hTwins hSame
  · have hLog : other.next.log = log := by
      rw [Cursor.log_next, hTwins.logged]
    cases small with
    | zero =>
        rw [prefixed, exec_check_branch, if_pos hMinus]
        exact matched_tooDeep _ hLog
    | succ small =>
        have hNumber : other.next.AtNumber :=
          ⟨digits, hDigits⟩
        have hStem :=
          matched_stem hInner hShrinks hOther hSigned
            (Nat.le_of_succ_le hRoom) hOne hDigits hNext
        rw [← exec_prefixed_skip .neg
          (hNumber.kind_ne .minus)] at hStem
        rw [prefixed, exec_check_branch, if_pos hMinus]
        exact hStem.map fun _ _ hPair =>
          hPair.negated hSigned _

theorem matches_disjunction :
    MatchesWithin (disjunction inner)
      (disjunction twin) := by
  apply matches_level
    (wordless_of_kind fun _ _ => kind_of_orOp?)
  apply matches_level
    (wordless_of_kind fun _ _ => kind_of_andOp?)
  apply matches_negation
  apply matches_level
    (wordless_of_kind fun _ _ => kind_of_comparisonOp?)
  apply matches_level
    (wordless_of_kind fun _ _ => kind_of_sumOp?)
  apply matches_level
    (wordless_of_kind fun _ _ => kind_of_productOp?)
  exact matches_signed hInner hShrinks hOther

end Operands

/- Both readings go through the same brackets. -/
theorem matches_expressionWithin
    (brackets : Nat) :
    MatchesWithin (expressionWithin brackets)
      (expressionWithin brackets) := by
  induction brackets with
  | zero =>
      intro room small _ log one other _
      exact .halted (halts_none _) _
  | succ brackets ih =>
      intro room small hRoom log one other hTwins
      cases room with
      | zero => exact .halted (halts_none _) _
      | succ room =>
          cases small with
          | zero => exact matched_tooDeep _ hTwins.logged
          | succ small =>
              exact matches_disjunction ih
                (shrinks_expressionWithin brackets)
                (shrinks_expressionWithin brackets) room
                small (Nat.le_of_succ_le_succ hRoom) _ _ _
                hTwins

end Parser

end Gantry

------------------------------------------------------------
-- Expressions With Signs Split Off
------------------------------------------------------------

namespace Gantry

/- A number that a minus was glued to may be split. -/
theorem Unglued.of_minus
    {c : Char}
    {run : List Char}
    {signed : Numeral}
    (hDigit : Number.isDigit c = true)
    (hSigned :
      Lexer.numberLexeme ('-' :: c :: run) =
        .token (.number signed)) :
    ∃ digits : Numeral,
      Lexer.numberLexeme (c :: run) =
          .token (.number digits) ∧
        ∀ span mark place,
          Unglued [⟨.number signed, span⟩]
            [⟨.symbol .minus, mark⟩,
              ⟨.number digits, place⟩] := by
  rcases Lexer.number_of_minus hDigit hSigned with
    ⟨digits, hDigits, hValue⟩
  exact ⟨digits, hDigits, fun span mark place =>
    .split hValue span mark place .nil⟩

namespace Parser

open Gantry.Expr (SameMeaning)

/-
  The tokens are an expression, up to the one that ends the
  file, and nothing is reported about them.
-/
def Accepts
    (tokens : List Token)
    (expr : Expr) : Prop :=
  ∃ after : Cursor,
    exec expression { rest := tokens } =
        (some expr, after) ∧
      after.rest.map (·.kind) = [.endOfFile] ∧
        after.log = Log.empty

/- It is reported that there is no room for the tokens. -/
def RunsOutOfRoom
    (tokens : List Token) : Prop :=
  ∃ span after,
    exec expression { rest := tokens } = (none, after) ∧
      after.log = Log.empty.push ⟨.nestingTooDeep, span⟩

/-
  Signs may be split off the numbers of an expression. If
  there is still room for all of it, then it is an expression
  as before, and means the same.
-/
theorem accepts_unglued
    {tokens others : List Token}
    {expr : Expr}
    (hUnglued : Unglued tokens others)
    (hAccepts : Accepts tokens expr) :
    RunsOutOfRoom others ∨
      ∃ other, Accepts others other ∧
        expr.SameMeaning other := by
  rcases hAccepts with ⟨after, hExec, hEnd, _⟩
  have hMatched :=
    matches_expressionWithin maxNesting maxNesting maxNesting
      (Nat.le_refl _) Log.empty { rest := tokens }
      { rest := others } ⟨hUnglued, rfl⟩
  change
    Matched Log.empty SameMeaning
      (exec expression { rest := tokens })
      (exec expression { rest := others }) at hMatched
  rw [hExec] at hMatched
  rcases List.map_eq_singleton_iff.mp hEnd with
    ⟨⟨kind, span⟩, hRest, rfl⟩
  generalize hOther :
    exec expression { rest := others } = result at hMatched
  cases hMatched with
  | halted hHalts =>
      rcases hHalts expr rfl with ⟨numeral, hNumber⟩
      unfold Cursor.kind at hNumber
      rw [hRest] at hNumber
      contradiction
  | tooDeep _ span hLog =>
      exact .inl ⟨span, _, hOther, hLog⟩
  | read hPair hTwins =>
      rename_i other behind
      refine .inr ⟨other, ⟨behind, hOther, ?_,
        hTwins.logged⟩, hPair⟩
      have hLast := hTwins.rest
      rw [hRest] at hLast
      generalize behind.rest = last at hLast
      cases hLast with
      | same _ _ _ hNil =>
          cases hNil
          rfl

/-
  A number cannot be called. With its sign split off, it is
  the call that is negated, and what is wrong with it is the
  same.
-/
theorem accepts_unglued_call :
    ∃ (tokens others : List Token) (expr other : Expr),
      tokens.map (·.kind) =
          [.number ⟨0xBFF0000000000000⟩, .symbol .leftParen,
            .name "x", .symbol .rightParen, .endOfFile] ∧
        others.map (·.kind) =
            [.symbol .minus, .number ⟨0x3FF0000000000000⟩,
              .symbol .leftParen, .name "x",
              .symbol .rightParen, .endOfFile] ∧
          Accepts tokens expr ∧ Accepts others other ∧
            expr.SameMeaning other := by
  let place := Span.point 1 1
  let one : Numeral := ⟨0x3FF0000000000000⟩
  let minusOne : Numeral := ⟨0xBFF0000000000000⟩
  let rest : List Token :=
    [⟨.symbol .leftParen, place⟩, ⟨.name "x", place⟩,
      ⟨.symbol .rightParen, place⟩, ⟨.endOfFile, place⟩]
  let tokens : List Token :=
    ⟨.number minusOne, place⟩ :: rest
  let others : List Token :=
    ⟨.symbol .minus, place⟩ :: ⟨.number one, place⟩ :: rest
  have hSigned : minusOne.value = -one.value := by
    decide +kernel
  have hUnglued : Unglued tokens others :=
    .split hSigned place place place (.refl rest)
  have hRead :
      (exec expression { rest := tokens }).1.isSome =
        true := by
    decide +kernel
  have hAfter :
      (exec expression { rest := tokens }).2 =
        { rest := [⟨.endOfFile, place⟩] } := by
    decide +kernel
  have hRoom :
      (exec expression { rest := others }).1.isSome =
        true := by
    decide +kernel
  rcases Option.isSome_iff_exists.mp hRead with
    ⟨expr, hExpr⟩
  have hAccepts : Accepts tokens expr :=
    ⟨_, Prod.ext hExpr hAfter, rfl, rfl⟩
  rcases accepts_unglued hUnglued hAccepts with
    ⟨_, _, hExec, _⟩ | ⟨other, hOther, hSame⟩
  · rw [hExec] at hRoom
    contradiction
  · exact ⟨tokens, others, expr, other, rfl, rfl, hAccepts,
      hOther, hSame⟩

end Parser

end Gantry
