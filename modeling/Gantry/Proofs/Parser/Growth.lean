import Gantry.Proofs.Parser.Invariant

/-
  This file shows that no step of reading ever takes back an
  issue that was reported: the log only grows. So whatever
  has gone wrong stays wrong, and a reading can be followed
  step by step up to the first issue.

  Key definitions include:
    * `Gantry.Log.Extends`
    * `Gantry.Parser.Grows`
    * `Gantry.Parser.Lasting`
    * `Gantry.Parser.Gives`

  Main statements:
    * `Gantry.Parser.invariant_extends`
    * `Gantry.Parser.grows_expressionWithin`
    * `Gantry.Parser.grows_bounded`
    * `Gantry.Parser.extends_topLevel`
    * `Gantry.Parser.Gives.bind`
-/

------------------------------------------------------------
-- Logs That Grow
------------------------------------------------------------

namespace Gantry

namespace Log

variable {α : Type}

/- Further entries have been reported. -/
def Extends
    (log later : Log α) : Prop :=
  ∃ entries, later = log.pushAll entries

theorem Extends.refl
    (log : Log α) :
    log.Extends log :=
  ⟨[], rfl⟩

theorem Extends.trans
    {log later last : Log α}
    (hLater : log.Extends later)
    (hLast : later.Extends last) :
    log.Extends last := by
  rcases hLater with ⟨entries, rfl⟩
  rcases hLast with ⟨more, rfl⟩
  refine ⟨entries ++ more, ?_⟩
  unfold pushAll
  rw [List.foldl_append]

theorem extends_push
    (log : Log α)
    (entry : α) :
    log.Extends (log.push entry) :=
  ⟨[entry], rfl⟩

@[simp] theorem isFull_empty :
    (empty : Log α).isFull = false := rfl

theorem first?_push
    {log : Log α}
    {first : α}
    (hFirst : log.first? = some first)
    (entry : α) :
    (log.push entry).first? = some first := by
  unfold first? at *
  unfold push
  dsimp only
  split
  · rw [List.head?_append, hFirst]
    rfl
  · exact hFirst

/- What was reported first stays first. -/
theorem Extends.first?
    {log later : Log α}
    {first : α}
    (hExtends : log.Extends later)
    (hFirst : log.first? = some first) :
    later.first? = some first := by
  rcases hExtends with ⟨entries, rfl⟩
  unfold pushAll
  induction entries generalizing log with
  | nil => exact hFirst
  | cons entry entries ih =>
      exact ih (first?_push hFirst entry)

/- A log that started empty keeps what it has room for. -/
theorem Extends.length_kept
    {log : Log α}
    (hExtends : empty.Extends log) :
    log.kept.length = min log.total capacity := by
  rcases hExtends with ⟨entries, rfl⟩
  have hPush :
      ∀ (log : Log α),
        log.kept.length = min log.total capacity →
          (log.pushAll entries).kept.length =
            min (log.pushAll entries).total capacity := by
    induction entries with
    | nil => exact fun _ hLength => hLength
    | cons entry entries ih =>
        intro log hLength
        apply ih
        unfold push
        dsimp only
        split
        · rw [List.length_append, List.length_singleton]
          omega
        · omega
  exact hPush empty rfl

/- Whatever was reported, something of it was kept. -/
theorem Extends.isEmpty_iff
    {log : Log α}
    (hExtends : empty.Extends log) :
    log.isEmpty = true ↔ log.first? = none := by
  have hLength := hExtends.length_kept
  unfold isEmpty Log.first?
  rw [beq_iff_eq, List.head?_eq_none_iff,
    ← List.length_eq_zero_iff, hLength]
  unfold capacity
  omega

end Log

namespace Cursor

theorem extends_report
    (cursor : Cursor)
    (fault : Fault)
    (span : Span) :
    cursor.log.Extends (cursor.report fault span).log :=
  Log.extends_push _ _

end Cursor

namespace Parser

variable {α β : Type}

/- A parser never takes back what was reported. -/
def Grows
    (parser : Parser α) : Prop :=
  ∀ cursor : Cursor,
    cursor.log.Extends (exec parser cursor).2.log

/- Once a log has entries, it keeps them. -/
theorem invariant_extends
    (log : Log Issue) :
    Invariant (fun cursor => log.Extends cursor.log)
      fun _ => True where
  here _ := trivial
  next hExtends := by rwa [Cursor.log_next]
  report fault hExtends _ :=
    hExtends.trans (Cursor.extends_report _ fault _)
  pastNewlines hExtends := hExtends
  synchronized hExtends := hExtends
  merge _ _ := trivial

theorem Grows.of_keeps
    {parser : Parser α}
    {post : α → Prop}
    (hKeeps :
      ∀ log : Log Issue,
        Keeps (fun cursor => log.Extends cursor.log) parser
          post) :
    Grows parser :=
  fun cursor =>
    (hKeeps cursor.log cursor (.refl cursor.log)).1

theorem Grows.keeps
    {parser : Parser α}
    (hGrows : Grows parser)
    (log : Log Issue)
    {post : α → Prop}
    (hPost : ∀ value, post value) :
    Keeps (fun cursor => log.Extends cursor.log) parser
      post :=
  fun cursor hExtends =>
    ⟨hExtends.trans (hGrows cursor),
      fun value _ => hPost value⟩

theorem grows_pure
    (value : α) :
    Grows (pure value : Parser α) := by
  intro cursor
  exact Log.Extends.refl _

theorem Grows.bind
    {parser : Parser α}
    {next : α → Parser β}
    (hParser : Grows parser)
    (hNext : ∀ value, Grows (next value)) :
    Grows (parser >>= next) :=
  .of_keeps fun log =>
    (hParser.keeps log fun _ => trivial).bind
      fun value (_ : Any value) =>
        (hNext value).keeps log fun _ => trivial

theorem grows_get :
    Grows (get : Parser Cursor) := by
  intro cursor
  exact Log.Extends.refl _

theorem grows_reject
    (fault : Fault)
    (span : Span) :
    Grows (reject fault span : Parser α) := by
  intro cursor
  exact Log.extends_push _ _

theorem grows_expect
    (kind : TokenKind) :
    Grows (expect kind) :=
  .of_keeps fun log =>
    keeps_expect (invariant_extends log) kind

theorem grows_lineEnd :
    Grows lineEnd :=
  .of_keeps fun log => keeps_lineEnd (invariant_extends log)

theorem grows_lift
    {state : StateM Cursor α}
    (hState :
      ∀ cursor : Cursor,
        cursor.log.Extends (state.run cursor).2.log) :
    Grows (liftM state : Parser α) :=
  hState

end Parser

end Gantry

------------------------------------------------------------
-- Expressions Only Add Issues
------------------------------------------------------------

namespace Gantry

namespace Parser

variable {inner operand : Nat → Parser Expr}

theorem grows_chain
    (op? : TokenKind → Option BinaryOp)
    (hOperand : ∀ room, Grows (operand room))
    (room : Nat)
    (left : Expr) :
    Grows (chain op? operand room left) :=
  .of_keeps fun log =>
    keeps_chain (invariant_extends log) op?
      (fun room => (hOperand room).keeps log
        fun _ => trivial)
      room trivial

theorem grows_level
    (op? : TokenKind → Option BinaryOp)
    (hOperand : ∀ room, Grows (operand room))
    (room : Nat) :
    Grows (level op? operand room) :=
  (hOperand room).bind fun _ =>
    grows_chain op? hOperand room _

theorem grows_prefixed
    (op : UnaryOp)
    (mark : TokenKind)
    (hOperand : ∀ room, Grows (operand room))
    (room : Nat) :
    Grows (prefixed op mark operand room) :=
  .of_keeps fun log =>
    keeps_prefixed (invariant_extends log) op mark
      (fun room => (hOperand room).keeps log
        fun _ => trivial)
      room

/- The items behind one, if a comma follows it. -/
theorem grows_furtherItems
    {item : Parser Expr}
    {close : Symbol}
    {rounds : List Token}
    (hRest : Grows (commaList item close rounds))
    (first : Expr) :
    Grows (do
      if ← eat (.symbol .comma) then
        let others ← commaList item close rounds
        return first :: others
      else
        return [first]) :=
  .of_keeps fun log =>
    keeps_furtherItems (invariant_extends log)
      (hRest.keeps log fun _ => trivial) first

theorem grows_commaList
    {item : Parser Expr}
    (hItem : Grows item)
    (close : Symbol)
    (rounds : List Token) :
    Grows (commaList item close rounds) :=
  .of_keeps fun log =>
    keeps_commaList (invariant_extends log)
      (hItem.keeps log fun _ => trivial) close rounds

theorem grows_suffixes
    (hInner : ∀ room, Grows (inner room))
    (room : Nat)
    (object : Expr) :
    Grows (suffixes inner room object) :=
  .of_keeps fun log =>
    keeps_suffixes (invariant_extends log)
      (fun room => (hInner room).keeps log fun _ => trivial)
      room trivial

theorem grows_operand
    (hInner : ∀ room, Grows (inner room))
    (room : Nat) :
    Grows (Parser.operand inner room) :=
  .of_keeps fun log =>
    keeps_operand (invariant_extends log)
      (fun room => (hInner room).keeps log fun _ => trivial)
      room

theorem grows_expressionWithin
    (brackets room : Nat) :
    Grows (expressionWithin brackets room) :=
  .of_keeps fun log =>
    keeps_expressionWithin (invariant_extends log) brackets
      room

end Parser

end Gantry

------------------------------------------------------------
-- Statements Only Add Issues
------------------------------------------------------------

namespace Gantry

namespace Parser

variable {α β : Type}

theorem extends_goOn
    {rest : StateM Cursor (List Stmt)}
    (hRest :
      ∀ cursor : Cursor,
        cursor.log.Extends (rest.run cursor).2.log)
    (result : Option Stmt × Cursor) :
    result.2.log.Extends (goOn rest result).2.log :=
  good_goOn (invariant_extends result.2.log)
    (fun cursor hExtends => hExtends.trans (hRest cursor))
    (.refl result.2.log)

theorem grows_returnedValue :
    Grows returnedValue :=
  .of_keeps fun log =>
    keeps_returnedValue (invariant_extends log)

/- What may stand behind the first expression of a line. -/
theorem grows_afterExpression
    (expr : Expr) :
    Grows (do
      if ← check (.symbol .eq) then
        let mark ← advance
        let value ← expression
        match assignment? expr value with
        | some stmt =>
            lineEnd
            return stmt
        | none =>
            reject .invalidTarget (expr.span.merge mark)
      else
        lineEnd
        return Stmt.expr expr expr.span) :=
  .of_keeps fun log =>
    keeps_afterExpression (invariant_extends log) trivial

/- The parameters behind one, if a comma follows it. -/
theorem grows_furtherParameters
    {rounds : List Token}
    (hRest : ∀ seen, Grows (parameters rounds seen))
    (seen : List Ident)
    (param : Ident) :
    Grows (do
      if ← eat (.symbol .comma) then
        parameters rounds (seen ++ [param])
      else
        return seen ++ [param]) :=
  .of_keeps fun log =>
    keeps_furtherParameters (invariant_extends log)
      (fun seen => (hRest seen).keeps log fun _ => trivial)
      seen param

theorem grows_checkedParameter
    {rounds : List Token}
    (hRest : ∀ seen, Grows (parameters rounds seen))
    (seen : List Ident)
    (param : Ident) :
    Grows (do
      if seen.any (·.name == param.name) then
        report (.duplicateParameter param.name) param.span
      if ← eat (.symbol .comma) then
        parameters rounds (seen ++ [param])
      else
        return seen ++ [param]) :=
  .of_keeps fun log =>
    keeps_checkedParameter (invariant_extends log)
      (fun seen => (hRest seen).keeps log fun _ => trivial)
      seen trivial

theorem grows_parameters
    (rounds : List Token)
    (seen : List Ident) :
    Grows (parameters rounds seen) :=
  .of_keeps fun log =>
    keeps_parameters (invariant_extends log) rounds seen

theorem grows_condition :
    Grows condition :=
  .of_keeps fun log =>
    keeps_condition (invariant_extends log)

/-
  The five parsers of statements and blocks, which call one
  another with a smaller bound.
-/
theorem grows_bounded
    (bound : Nat)
    (context : Context) :
    Grows (statement bound context) ∧
      Grows (block bound context) ∧
      Grows (elifClauses bound context) ∧
      Grows (elseClause bound context) ∧
      ∀ cursor : Cursor,
        cursor.log.Extends
          ((statements bound context).run cursor).2.log := by
  have hKeeps (log : Log Issue) :=
    keeps_bounded (invariant_extends log) bound context
  refine ⟨.of_keeps fun log => (hKeeps log).1,
    .of_keeps fun log => (hKeeps log).2.1,
    .of_keeps fun log => (hKeeps log).2.2.1,
    .of_keeps fun log => (hKeeps log).2.2.2.1, ?_⟩
  intro cursor
  exact (hKeeps cursor.log).2.2.2.2 cursor (.refl _)

theorem extends_topLevel
    (bound : Nat)
    (cursor : Cursor) :
    cursor.log.Extends
      ((topLevel bound).run cursor).2.log :=
  good_topLevel (invariant_extends cursor.log) bound
    (.refl cursor.log)

end Parser

end Gantry

------------------------------------------------------------
-- Values Unless There Is Trouble
------------------------------------------------------------

namespace Gantry

namespace Parser

variable {α β : Type}

/- Trouble that no further issue can undo. -/
def Lasting
    (trouble : Log Issue → Prop) : Prop :=
  ∀ log later : Log Issue,
    log.Extends later → trouble log → trouble later

/-
  A run has reported nothing and given a value as `post`
  describes it, unless there is trouble.
-/
def Gives
    (trouble : Log Issue → Prop)
    (result : Option α × Cursor)
    (post : α → Cursor → Prop) : Prop :=
  trouble result.2.log ∨
    ∃ value, result.1 = some value ∧
      result.2.log = Log.empty ∧ post value result.2

variable
    {trouble : Log Issue → Prop}
    {cursor : Cursor}

theorem gives_some
    {value : α}
    {post : α → Cursor → Prop}
    (hLog : cursor.log = Log.empty)
    (hPost : post value cursor) :
    Gives trouble (some value, cursor) post :=
  Or.inr ⟨value, rfl, hLog, hPost⟩

/- What a value is used for may be said in weaker words. -/
theorem Gives.imp
    {result : Option α × Cursor}
    {post weaker : α → Cursor → Prop}
    (hGives : Gives trouble result post)
    (hWeaker :
      ∀ value after, post value after →
        weaker value after) :
    Gives trouble result weaker := by
  rcases hGives with hTrouble | ⟨value, hValue, hLog, hPost⟩
  · exact Or.inl hTrouble
  · exact Or.inr
      ⟨value, hValue, hLog, hWeaker value _ hPost⟩

/-
  Two parsers, one after the other. The second one starts
  with nothing reported, for otherwise there is trouble that
  it cannot undo.
-/
theorem Gives.bind
    {parser : Parser α}
    {next : α → Parser β}
    {middle : α → Cursor → Prop}
    {post : β → Cursor → Prop}
    (hLasting : Lasting trouble)
    (hGrows : ∀ value, Grows (next value))
    (hParser :
      Gives trouble (exec parser cursor) middle)
    (hNext :
      ∀ value after, after.log = Log.empty →
        middle value after →
          Gives trouble (exec (next value) after) post) :
    Gives trouble (exec (parser >>= next) cursor) post := by
  rw [exec_bind]
  cases hExec : exec parser cursor with
  | mk value? after =>
      rw [hExec] at hParser
      rcases hParser with
        hTrouble | ⟨value, hValue, hLog, hMiddle⟩
      · left
        cases value? with
        | none => exact hTrouble
        | some value =>
            exact hLasting _ _ (hGrows value after) hTrouble
      · cases hValue
        exact hNext value after hLog hMiddle

/- Statements go on behind one that was read. -/
theorem gives_goOn
    {rest : StateM Cursor (List Stmt)}
    {result : Option Stmt × Cursor}
    {middle : Stmt → Cursor → Prop}
    {post : List Stmt → Cursor → Prop}
    (hLasting : Lasting trouble)
    (hRest :
      ∀ cursor : Cursor,
        cursor.log.Extends (rest.run cursor).2.log)
    (hResult : Gives trouble result middle)
    (hNext :
      ∀ stmt after, after.log = Log.empty →
        middle stmt after →
          Gives trouble (exec (liftM rest) after)
            fun others last => post (stmt :: others) last) :
    Gives trouble
      (some (goOn rest result).1, (goOn rest result).2)
      post := by
  rcases hResult with
    hTrouble | ⟨stmt, hStmt, hLog, hMiddle⟩
  · exact Or.inl
      (hLasting _ _ (extends_goOn hRest result) hTrouble)
  · rcases result with ⟨stmt?, after⟩
    cases hStmt
    rcases hNext stmt after hLog hMiddle with
      hTrouble | ⟨others, hOthers, hLast, hPost⟩
    · exact Or.inl hTrouble
    · cases hOthers
      exact gives_some hLast hPost

end Parser

end Gantry
