import Gantry.Parser.Statement

/-
  This file runs parsers. What a step yields and where it
  leaves the cursor is written out, and so is one round of
  reading statements.

  Key definitions include:
    * `Gantry.Parser.exec`
    * `Gantry.Cursor.pastNewlines`
    * `Gantry.Parser.goOn`

  Main statements:
    * `Gantry.Parser.exec_bind`
    * `Gantry.Parser.run_statements`
    * `Gantry.Parser.run_topLevel`
    * `Gantry.Parser.parse_eq`
-/

------------------------------------------------------------
-- Steps
------------------------------------------------------------

namespace Gantry

namespace Parser

variable {α β : Type}

/- What a parser yields at a cursor, and where it leaves it. -/
def exec
    (parser : Parser α)
    (cursor : Cursor) : Option α × Cursor :=
  parser.run.run cursor

@[simp] theorem exec_pure
    (value : α)
    (cursor : Cursor) :
    exec (pure value) cursor = (some value, cursor) := rfl

/- A parser goes on where the one before it has stopped. -/
theorem exec_bind
    (parser : Parser α)
    (next : α → Parser β)
    (cursor : Cursor) :
    exec (parser >>= next) cursor =
      match exec parser cursor with
      | (some value, after) => exec (next value) after
      | (none, after) => (none, after) := by
  change
    exec (OptionT.bind parser next) cursor = _
  simp only [exec, OptionT.bind, OptionT.mk, OptionT.run,
    StateT.run, bind, StateT.bind]
  cases hRun : parser cursor with
  | mk value? after =>
      cases value? with
      | none => rfl
      | some value => rfl

@[simp] theorem exec_get_bind
    (next : Cursor → Parser β)
    (cursor : Cursor) :
    exec (get >>= next) cursor =
      exec (next cursor) cursor := rfl

@[simp] theorem exec_peek_bind
    (next : TokenKind → Parser β)
    (cursor : Cursor) :
    exec (peek >>= next) cursor =
      exec (next cursor.kind) cursor := rfl

@[simp] theorem exec_here_bind
    (next : Span → Parser β)
    (cursor : Cursor) :
    exec (here >>= next) cursor =
      exec (next cursor.here) cursor := rfl

@[simp] theorem exec_advance
    (cursor : Cursor) :
    exec advance cursor =
      (some cursor.here, cursor.next) := rfl

@[simp] theorem exec_advance_bind
    (next : Span → Parser β)
    (cursor : Cursor) :
    exec (advance >>= next) cursor =
      exec (next cursor.here) cursor.next := rfl

@[simp] theorem exec_check_bind
    (kind : TokenKind)
    (next : Bool → Parser β)
    (cursor : Cursor) :
    exec (check kind >>= next) cursor =
      exec (next (cursor.kind == kind)) cursor := rfl

/- A branch on the kind of the next token. -/
theorem exec_check_branch
    (kind : TokenKind)
    (yes no : Parser β)
    (cursor : Cursor) :
    exec (do if ← check kind then yes else no) cursor =
      if cursor.kind = kind then
        exec yes cursor
      else
        exec no cursor := by
  rw [exec_check_bind]
  by_cases hKind : cursor.kind = kind
  · rw [beq_iff_eq.mpr hKind, if_pos rfl, if_pos hKind]
  · rw [beq_eq_false_iff_ne.mpr hKind, if_neg hKind,
      if_neg Bool.false_ne_true]

@[simp] theorem exec_report_bind
    (fault : Fault)
    (span : Span)
    (next : Unit → Parser β)
    (cursor : Cursor) :
    exec (report fault span >>= next) cursor =
      exec (next ()) (cursor.report fault span) := rfl

@[simp] theorem exec_rejectHere
    (fault : Fault)
    (cursor : Cursor) :
    exec (rejectHere fault : Parser α) cursor =
      (none, cursor.report fault cursor.here) := rfl

@[simp] theorem exec_tooDeep
    (cursor : Cursor) :
    exec (tooDeep : Parser α) cursor =
      (none, cursor.report .nestingTooDeep
        cursor.here) := rfl

theorem exec_eat_bind
    (kind : TokenKind)
    (next : Bool → Parser β)
    (cursor : Cursor) :
    exec (eat kind >>= next) cursor =
      if cursor.kind = kind then
        exec (next true) cursor.next
      else
        exec (next false) cursor := by
  rw [exec_bind, eat, exec_check_bind]
  by_cases hKind : cursor.kind = kind
  · simp only [hKind, beq_self_eq_true, if_true,
      exec_advance_bind, exec_pure]
  · simp [hKind]

theorem exec_expect
    (kind : TokenKind)
    (cursor : Cursor) :
    exec (expect kind) cursor =
      if cursor.kind = kind then
        (some cursor.here, cursor.next)
      else
        (none,
          cursor.report (.expectedToken kind cursor.kind)
            cursor.here) := by
  rw [expect, exec_peek_bind]
  by_cases hKind : cursor.kind = kind
  · simp [hKind]
  · simp [hKind]

/- A part of a parser that cannot fail. -/
@[simp] theorem exec_lift
    (state : StateM Cursor α)
    (cursor : Cursor) :
    exec (liftM state) cursor =
      (some (state.run cursor).1,
        (state.run cursor).2) := rfl

end Parser

end Gantry

------------------------------------------------------------
-- Rounds Of Statements
------------------------------------------------------------

namespace Gantry

namespace Cursor

@[simp] theorem log_next
    (cursor : Cursor) :
    cursor.next.log = cursor.log := by
  unfold next
  split <;> rfl

/- Where blank lines end. -/
def pastNewlines
    (cursor : Cursor) : Cursor :=
  (Parser.skipNewlines.run cursor).2

/- Where reading goes on after a fault. -/
def synchronized
    (cursor : Cursor) : Cursor :=
  (Parser.synchronize.run cursor).2

@[simp] theorem log_pastNewlines
    (cursor : Cursor) :
    cursor.pastNewlines.log = cursor.log := rfl

theorem pastNewlines_of_kind
    {cursor : Cursor}
    (hKind : cursor.kind ≠ .newline) :
    cursor.pastNewlines = cursor := by
  rcases cursor with ⟨rest, previous, log⟩
  cases rest with
  | nil => rfl
  | cons token rest =>
      have hToken : token.kind ≠ .newline := hKind
      change
        Cursor.mk
          (Parser.dropNewlines previous (token :: rest)).2
          (Parser.dropNewlines previous (token :: rest)).1
          log = _
      rw [Parser.dropNewlines, if_neg hToken]

end Cursor

namespace Parser

variable {α β : Type}

theorem run_pastNewlines
    (next : Cursor → StateM Cursor α)
    (cursor : Cursor) :
    (do skipNewlines
        let start ← get
        next start : StateM Cursor α).run cursor =
      (next cursor.pastNewlines).run
        cursor.pastNewlines := rfl

theorem run_attempt
    (parser : Parser α)
    (next : Option α → StateM Cursor β)
    (cursor : Cursor) :
    (parser.run >>= next).run cursor =
      (next (exec parser cursor).1).run
        (exec parser cursor).2 := rfl

/-
  What follows an attempt to read a statement. One that has
  failed is skipped.
-/
def goOn
    (rest : StateM Cursor (List Stmt)) :
    Option Stmt × Cursor → List Stmt × Cursor
| (some stmt, after) =>
    (stmt :: (rest.run after).1, (rest.run after).2)
| (none, after) => rest.run after.synchronized

/- One round of reading the statements of a block. -/
theorem run_statements
    (bound : Nat)
    (context : Context)
    (cursor : Cursor) :
    (statements (bound + 1) context).run cursor =
      let start := cursor.pastNewlines
      if start.log.isFull || start.atEnd then
        ([], start)
      else
        match start.kind with
        | .dedent => ([], start.next)
        | .indent =>
            let inside :=
              start.next.report .unexpectedIndent start.here
            (statements bound context).run
              ((statements bound context).run inside).2
        | _ =>
            goOn (statements bound context)
              (exec (statement bound context) start) := by
  rw [statements, run_pastNewlines]
  generalize cursor.pastNewlines = start
  dsimp only
  split
  · rfl
  · cases start.kind with
    | dedent => rfl
    | indent => rfl
    | _ =>
        dsimp only
        rw [run_attempt]
        cases exec (statement bound context) start with
        | mk stmt? after =>
            cases stmt? with
            | some stmt => rfl
            | none => rfl

/- One round of reading the statements of a script. -/
theorem run_topLevel
    (bound : Nat)
    (cursor : Cursor) :
    (topLevel (bound + 1)).run cursor =
      let start := cursor.pastNewlines
      if start.log.isFull || start.atEnd then
        ([], start)
      else
        match start.kind with
        | .dedent => (topLevel bound).run start.next
        | .indent =>
            let inside :=
              start.next.report .unexpectedIndent start.here
            (topLevel bound).run
              ((statements bound {}).run inside).2
        | _ =>
            goOn (topLevel bound)
              (exec (statement bound {}) start) := by
  rw [topLevel, run_pastNewlines]
  generalize cursor.pastNewlines = start
  dsimp only
  split
  · rfl
  · cases start.kind with
    | dedent => rfl
    | indent => rfl
    | _ =>
        dsimp only
        rw [run_attempt]
        cases exec (statement bound {}) start with
        | mk stmt? after =>
            cases stmt? with
            | some stmt => rfl
            | none => rfl

/- A script is its statements, if nothing was reported. -/
theorem parse_eq
    (tokens : List Token) :
    parse tokens =
      let start : Cursor := { rest := tokens }
      let result := (topLevel (boundFor tokens)).run start
      { program? :=
          if result.2.log.isEmpty then
            some ⟨result.1,
              start.here.merge result.2.previous⟩
          else
            none
        log := result.2.log } := rfl

end Parser

end Gantry
