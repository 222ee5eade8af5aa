import Gantry.Proofs.Parser.Running
import Gantry.Proofs.Script.Moved

/-
  This file gives a calculus for what the steps of reading
  keep true of the cursor.

  An invariant is given by what the smallest steps keep, and
  by what is true of the spans that are reported. That the
  parsers of expressions, statements and scripts keep it as
  well follows once and for all, whatever the invariant
  says.

  Key definitions include:
    * `Gantry.Parser.Invariant`
    * `Gantry.Parser.Keeps`

  Main statements:
    * `Gantry.Parser.Keeps.bind`
    * `Gantry.Parser.keeps_expressionWithin`
    * `Gantry.Parser.keeps_bounded`
    * `Gantry.Parser.good_topLevel`
-/

------------------------------------------------------------
-- Steps
------------------------------------------------------------

namespace Gantry

namespace Parser

variable
    {α β : Type}
    {good : Cursor → Prop}
    {placed : Span → Prop}

/-
  What the smallest steps keep true of cursors, and what is
  true of the spans that are reported: they are taken from
  the next token or merged.
-/
structure Invariant
    (good : Cursor → Prop)
    (placed : Span → Prop) : Prop where
  here :
    ∀ {cursor : Cursor}, good cursor → placed cursor.here
  next :
    ∀ {cursor : Cursor}, good cursor → good cursor.next
  report :
    ∀ {cursor : Cursor} {span : Span} (fault : Fault),
      good cursor → placed span →
        good (cursor.report fault span)
  pastNewlines :
    ∀ {cursor : Cursor},
      good cursor → good cursor.pastNewlines
  synchronized :
    ∀ {cursor : Cursor},
      good cursor → good cursor.synchronized
  merge :
    ∀ {s t : Span},
      placed s → placed t → placed (s.merge t)

/-
  The parser goes from good cursors to good ones, and `post`
  describes what it yields.
-/
def Keeps
    (good : Cursor → Prop)
    (parser : Parser α)
    (post : α → Prop) : Prop :=
  ∀ cursor : Cursor, good cursor →
    good (exec parser cursor).2 ∧
      ∀ value, (exec parser cursor).1 = some value →
        post value

/- What is yielded is not described. -/
def Any
    (_ : α) : Prop := True

theorem keeps_pure
    {value : α}
    {post : α → Prop}
    (hPost : post value) :
    Keeps good (pure value) post := by
  intro cursor hGood
  refine ⟨hGood, ?_⟩
  rintro _ ⟨⟩
  exact hPost

theorem Keeps.any
    {parser : Parser α}
    {post : α → Prop}
    (hParser : Keeps good parser post) :
    Keeps good parser Any :=
  fun cursor hGood =>
    ⟨(hParser cursor hGood).1, fun _ _ => trivial⟩

theorem Keeps.bind
    {parser : Parser α}
    {next : α → Parser β}
    {middle : α → Prop}
    {post : β → Prop}
    (hParser : Keeps good parser middle)
    (hNext :
      ∀ value, middle value →
        Keeps good (next value) post) :
    Keeps good (parser >>= next) post := by
  intro cursor hGood
  have hFirst := hParser cursor hGood
  rw [exec_bind]
  cases hExec : exec parser cursor with
  | mk value? after =>
      rw [hExec] at hFirst
      cases value? with
      | none => exact ⟨hFirst.1, by simp⟩
      | some value =>
          exact hNext value (hFirst.2 value rfl) after
            hFirst.1

theorem keeps_failure
    (post : α → Prop) :
    Keeps good (failure : Parser α) post := by
  intro cursor hGood
  exact ⟨hGood, nofun⟩

theorem keeps_peek :
    Keeps good peek Any := by
  intro cursor hGood
  exact ⟨hGood, fun _ _ => trivial⟩

theorem keeps_get :
    Keeps good (get : Parser Cursor) Any := by
  intro cursor hGood
  exact ⟨hGood, fun _ _ => trivial⟩

theorem keeps_check
    (kind : TokenKind) :
    Keeps good (check kind) Any := by
  intro cursor hGood
  exact ⟨hGood, fun _ _ => trivial⟩

theorem keeps_lift
    {state : StateM Cursor α}
    (hState :
      ∀ cursor : Cursor, good cursor →
        good (state.run cursor).2) :
    Keeps good (liftM state : Parser α) Any := by
  intro cursor hGood
  exact ⟨hState cursor hGood, fun _ _ => trivial⟩

variable (hInvariant : Invariant good placed)

include hInvariant

theorem keeps_report
    (fault : Fault)
    {span : Span}
    (hSpan : placed span) :
    Keeps good (report fault span) Any := by
  intro cursor hGood
  exact ⟨hInvariant.report fault hGood hSpan,
    fun _ _ => trivial⟩

theorem keeps_reject
    (fault : Fault)
    {span : Span}
    (hSpan : placed span)
    (post : α → Prop) :
    Keeps good (reject fault span) post := by
  intro cursor hGood
  exact ⟨hInvariant.report fault hGood hSpan, nofun⟩

theorem keeps_here :
    Keeps good here placed := by
  intro cursor hGood
  refine ⟨hGood, ?_⟩
  rintro _ ⟨⟩
  exact hInvariant.here hGood

theorem keeps_advance :
    Keeps good advance placed := by
  intro cursor hGood
  refine ⟨hInvariant.next hGood, ?_⟩
  rintro _ ⟨⟩
  exact hInvariant.here hGood

theorem keeps_rejectHere
    (fault : Fault)
    (post : α → Prop) :
    Keeps good (rejectHere fault) post :=
  (keeps_here hInvariant).bind fun _ hSpan =>
    keeps_reject hInvariant fault hSpan post

theorem keeps_eat
    (kind : TokenKind) :
    Keeps good (eat kind) Any := by
  refine (keeps_check kind).bind fun _ _ => ?_
  split
  · exact (keeps_advance hInvariant).bind fun _ _ =>
      keeps_pure trivial
  · exact keeps_pure trivial

theorem keeps_expect
    (kind : TokenKind) :
    Keeps good (expect kind) placed := by
  refine keeps_peek.bind fun _ _ => ?_
  split
  · exact keeps_advance hInvariant
  · exact keeps_rejectHere hInvariant _ _

theorem keeps_identifier :
    Keeps good identifier fun ident =>
      placed ident.span := by
  refine keeps_peek.bind fun _ _ => ?_
  split
  · exact (keeps_advance hInvariant).bind fun _ hSpan =>
      keeps_pure hSpan
  · exact keeps_rejectHere hInvariant _ _
  · exact keeps_rejectHere hInvariant _ _

theorem keeps_lineEnd :
    Keeps good lineEnd Any := by
  refine keeps_peek.bind fun _ _ => ?_
  split
  · exact (keeps_advance hInvariant).bind fun _ _ =>
      keeps_pure trivial
  · exact keeps_pure trivial
  · exact keeps_pure trivial
  · exact keeps_rejectHere hInvariant _ _

end Parser

end Gantry

------------------------------------------------------------
-- Expressions
------------------------------------------------------------

namespace Gantry

/- The whole expression is placed. -/
def Expr.Placed
    (placed : Span → Prop)
    (expr : Expr) : Prop :=
  placed expr.span

namespace Parser

variable
    {good : Cursor → Prop}
    {placed : Span → Prop}
    {item : Parser Expr}
    {inner operand : Nat → Parser Expr}
    (hInvariant : Invariant good placed)

include hInvariant

theorem keeps_tooDeep :
    Keeps good tooDeep (Expr.Placed placed) :=
  keeps_rejectHere hInvariant _ _

theorem keeps_chain
    (op? : TokenKind → Option BinaryOp)
    (hOperand :
      ∀ room,
        Keeps good (operand room) (Expr.Placed placed))
    (room : Nat)
    {left : Expr}
    (hLeft : left.Placed placed) :
    Keeps good (chain op? operand room left)
      (Expr.Placed placed) := by
  induction room generalizing left with
  | zero =>
      refine keeps_peek.bind fun _ _ => ?_
      split
      · exact keeps_pure hLeft
      · exact (keeps_advance hInvariant).bind fun _ _ =>
          keeps_tooDeep hInvariant
  | succ room ih =>
      refine keeps_peek.bind fun _ _ => ?_
      split
      · exact keeps_pure hLeft
      · refine (keeps_advance hInvariant).bind fun _ _ => ?_
        refine (hOperand room).bind fun right hRight => ?_
        exact ih (hInvariant.merge hLeft hRight)

theorem keeps_level
    (op? : TokenKind → Option BinaryOp)
    (hOperand :
      ∀ room,
        Keeps good (operand room) (Expr.Placed placed))
    (room : Nat) :
    Keeps good (level op? operand room)
      (Expr.Placed placed) :=
  (hOperand room).bind fun _ hLeft =>
    keeps_chain hInvariant op? hOperand room hLeft

theorem keeps_prefixed
    (op : UnaryOp)
    (mark : TokenKind)
    (hOperand :
      ∀ room,
        Keeps good (operand room) (Expr.Placed placed))
    (room : Nat) :
    Keeps good (prefixed op mark operand room)
      (Expr.Placed placed) := by
  induction room with
  | zero =>
      refine (keeps_check mark).bind fun _ _ => ?_
      split
      · exact (keeps_advance hInvariant).bind fun _ _ =>
          keeps_tooDeep hInvariant
      · exact hOperand 0
  | succ room ih =>
      refine (keeps_check mark).bind fun _ _ => ?_
      split
      · refine (keeps_advance hInvariant).bind
          fun start hStart => ?_
        exact ih.bind fun _ hInner =>
          keeps_pure (hInvariant.merge hStart hInner)
      · exact hOperand (room + 1)

/- The items behind one, if a comma follows it. -/
theorem keeps_furtherItems
    {close : Symbol}
    {rounds : List Token}
    (hRest :
      Keeps good (commaList item close rounds) Any)
    (first : Expr) :
    Keeps good
      (do
        if ← eat (.symbol .comma) then
          let others ← commaList item close rounds
          return first :: others
        else
          return [first])
      Any := by
  refine (keeps_eat hInvariant _).bind fun _ _ => ?_
  split
  · exact hRest.bind fun _ _ => keeps_pure trivial
  · exact keeps_pure trivial

theorem keeps_commaList
    (hItem : Keeps good item (Expr.Placed placed))
    (close : Symbol)
    (rounds : List Token) :
    Keeps good (commaList item close rounds) Any := by
  induction rounds with
  | nil => exact hItem.bind fun _ _ => keeps_pure trivial
  | cons token rounds ih =>
      refine (keeps_check _).bind fun _ _ => ?_
      split
      · exact keeps_pure trivial
      · exact hItem.bind fun first _ =>
          keeps_furtherItems hInvariant ih first

/- The closing mark of a list is placed. -/
theorem keeps_enclosed
    (hItem : Keeps good item (Expr.Placed placed))
    (close : Symbol) :
    Keeps good (enclosed item close) fun found =>
      placed found.2 := by
  refine keeps_get.bind fun _ _ => ?_
  refine (keeps_commaList hInvariant hItem close _).bind
    fun _ _ => ?_
  exact (keeps_expect hInvariant _).bind fun _ hStop =>
    keeps_pure hStop

theorem keeps_primary
    (hItem : Keeps good item (Expr.Placed placed)) :
    Keeps good (primary item) (Expr.Placed placed) := by
  have hAdvance := keeps_advance hInvariant
  refine (keeps_here hInvariant).bind fun start hStart => ?_
  refine keeps_peek.bind fun _ _ => ?_
  split
  · exact hAdvance.bind fun _ _ => keeps_pure hStart
  · refine hAdvance.bind fun _ _ => ?_
    refine (keeps_enclosed hInvariant hItem _).bind
      fun _ hStop => ?_
    exact keeps_pure (hInvariant.merge hStart hStop)
  · refine hAdvance.bind fun _ _ => ?_
    refine hItem.bind fun expr _ => ?_
    refine (keeps_expect hInvariant _).bind
      fun stop hStop => keeps_pure ?_
    rw [Expr.Placed, Expr.span_withSpan]
    exact hInvariant.merge hStart hStop
  · split
    · exact hAdvance.bind fun _ _ => keeps_pure hStart
    · exact keeps_rejectHere hInvariant _ _

theorem keeps_suffix
    (hItem : Keeps good item (Expr.Placed placed))
    {object : Expr}
    (hObject : object.Placed placed) :
    Keeps good (suffix item object)
      (Expr.Placed placed) := by
  have hAdvance := keeps_advance hInvariant
  refine keeps_peek.bind fun _ _ => ?_
  split
  · refine hAdvance.bind fun _ _ => ?_
    refine (keeps_enclosed hInvariant hItem _).bind
      fun _ hStop => ?_
    exact keeps_pure (hInvariant.merge hObject hStop)
  · refine hAdvance.bind fun _ _ => ?_
    refine hItem.bind fun _ _ => ?_
    exact (keeps_expect hInvariant _).bind fun _ hStop =>
      keeps_pure (hInvariant.merge hObject hStop)
  · refine hAdvance.bind fun _ _ => ?_
    exact (keeps_identifier hInvariant).bind fun _ hField =>
      keeps_pure (hInvariant.merge hObject hField)

theorem keeps_suffixes
    (hInner :
      ∀ room, Keeps good (inner room) (Expr.Placed placed))
    (room : Nat)
    {object : Expr}
    (hObject : object.Placed placed) :
    Keeps good (suffixes inner room object)
      (Expr.Placed placed) := by
  induction room generalizing object with
  | zero =>
      refine keeps_peek.bind fun _ _ => ?_
      split
      · exact keeps_tooDeep hInvariant
      · exact keeps_pure hObject
  | succ room ih =>
      refine keeps_peek.bind fun _ _ => ?_
      split
      · exact (keeps_suffix hInvariant (hInner room)
          hObject).bind fun _ hLonger => ih hLonger
      · exact keeps_pure hObject

theorem keeps_operand
    (hInner :
      ∀ room, Keeps good (inner room) (Expr.Placed placed))
    (room : Nat) :
    Keeps good (Parser.operand inner room)
      (Expr.Placed placed) :=
  (keeps_primary hInvariant (hInner room)).bind
    fun _ hObject =>
      keeps_suffixes hInvariant hInner room hObject

theorem keeps_disjunction
    (hInner :
      ∀ room, Keeps good (inner room) (Expr.Placed placed))
    (room : Nat) :
    Keeps good (disjunction inner room)
      (Expr.Placed placed) := by
  apply keeps_level hInvariant orOp?
  apply keeps_level hInvariant andOp?
  apply keeps_prefixed hInvariant .not (.keyword .notWord)
  apply keeps_level hInvariant comparisonOp?
  apply keeps_level hInvariant sumOp?
  apply keeps_level hInvariant productOp?
  apply keeps_prefixed hInvariant .neg (.symbol .minus)
  exact keeps_operand hInvariant hInner

theorem keeps_expressionWithin
    (brackets room : Nat) :
    Keeps good (expressionWithin brackets room)
      (Expr.Placed placed) := by
  induction brackets generalizing room with
  | zero => exact keeps_tooDeep hInvariant
  | succ brackets ih =>
      cases room with
      | zero => exact keeps_tooDeep hInvariant
      | succ room =>
          exact keeps_disjunction hInvariant ih room

theorem keeps_expression :
    Keeps good expression (Expr.Placed placed) :=
  keeps_expressionWithin hInvariant maxNesting maxNesting

end Parser

end Gantry

------------------------------------------------------------
-- Statements
------------------------------------------------------------

namespace Gantry

namespace Parser

variable
    {good : Cursor → Prop}
    {placed : Span → Prop}
    (hInvariant : Invariant good placed)

include hInvariant

theorem keeps_passStatement :
    Keeps good passStatement Any :=
  (keeps_advance hInvariant).bind fun _ _ =>
    (keeps_lineEnd hInvariant).bind fun _ _ =>
      keeps_pure trivial

theorem keeps_loopJump
    (context : Context)
    (word : Keyword)
    (make : Span → Stmt) :
    Keeps good (loopJump context word make) Any := by
  have hEnd (span : Span) :
      Keeps good (do lineEnd; return make span) Any :=
    (keeps_lineEnd hInvariant).bind fun _ _ =>
      keeps_pure trivial
  refine (keeps_advance hInvariant).bind
    fun span hSpan => ?_
  dsimp only
  split
  · exact (keeps_report hInvariant _ hSpan).bind
      fun _ _ => hEnd span
  · exact hEnd span

theorem keeps_returnedValue :
    Keeps good returnedValue Any := by
  refine keeps_peek.bind fun _ _ => ?_
  split
  · exact keeps_pure trivial
  · exact keeps_pure trivial
  · exact keeps_pure trivial
  · exact (keeps_expression hInvariant).bind fun _ _ =>
      keeps_pure trivial

theorem keeps_returnStatement
    (context : Context) :
    Keeps good (returnStatement context) Any := by
  refine (keeps_advance hInvariant).bind
    fun start hStart => ?_
  dsimp only
  split
  · refine (keeps_report hInvariant _ hStart).bind
      fun _ _ => ?_
    refine (keeps_returnedValue hInvariant).bind
      fun _ _ => ?_
    exact (keeps_lineEnd hInvariant).bind fun _ _ =>
      keeps_pure trivial
  · refine (keeps_returnedValue hInvariant).bind
      fun _ _ => ?_
    exact (keeps_lineEnd hInvariant).bind fun _ _ =>
      keeps_pure trivial

/- What may stand behind the first expression of a line. -/
theorem keeps_afterExpression
    {expr : Expr}
    (hExpr : expr.Placed placed) :
    Keeps good
      (do
        if ← check (.symbol .eq) then
          let mark ← advance
          let value ← expression
          match assignment? expr value with
          | some stmt =>
              lineEnd
              return stmt
          | none =>
              reject .invalidTarget (expr.span.merge mark)
        else
          lineEnd
          return Stmt.expr expr expr.span)
      Any := by
  have hEnd (stmt : Stmt) :
      Keeps good (do lineEnd; return stmt) Any :=
    (keeps_lineEnd hInvariant).bind fun _ _ =>
      keeps_pure trivial
  refine (keeps_check _).bind fun _ _ => ?_
  split
  · refine (keeps_advance hInvariant).bind
      fun mark hMark => ?_
    refine (keeps_expression hInvariant).bind
      fun value _ => ?_
    split
    · exact hEnd _
    · exact keeps_reject hInvariant _
        (hInvariant.merge hExpr hMark) _
  · exact hEnd _

theorem keeps_exprStatement :
    Keeps good exprStatement Any :=
  (keeps_expression hInvariant).bind fun _ hExpr =>
    keeps_afterExpression hInvariant hExpr

/- The parameters behind one, if a comma follows it. -/
theorem keeps_furtherParameters
    {rounds : List Token}
    (hRest :
      ∀ seen, Keeps good (parameters rounds seen) Any)
    (seen : List Ident)
    (param : Ident) :
    Keeps good
      (do
        if ← eat (.symbol .comma) then
          parameters rounds (seen ++ [param])
        else
          return seen ++ [param])
      Any := by
  refine (keeps_eat hInvariant _).bind fun _ _ => ?_
  split
  · exact hRest _
  · exact keeps_pure trivial

/- A parameter is reported if its name was there before. -/
theorem keeps_checkedParameter
    {rounds : List Token}
    (hRest :
      ∀ seen, Keeps good (parameters rounds seen) Any)
    (seen : List Ident)
    {param : Ident}
    (hParam : placed param.span) :
    Keeps good
      (do
        if seen.any (·.name == param.name) then
          report (.duplicateParameter param.name) param.span
        if ← eat (.symbol .comma) then
          parameters rounds (seen ++ [param])
        else
          return seen ++ [param])
      Any := by
  have hFurther :=
    keeps_furtherParameters hInvariant hRest seen param
  dsimp only
  split
  · exact (keeps_report hInvariant _ hParam).bind
      fun _ _ => hFurther
  · exact hFurther

theorem keeps_parameters
    (rounds : List Token)
    (seen : List Ident) :
    Keeps good (parameters rounds seen) Any := by
  induction rounds generalizing seen with
  | nil =>
      exact (keeps_identifier hInvariant).bind fun _ _ =>
        keeps_pure trivial
  | cons token rounds ih =>
      refine (keeps_check _).bind fun _ _ => ?_
      split
      · exact keeps_pure trivial
      · exact (keeps_identifier hInvariant).bind
          fun _ hParam =>
            keeps_checkedParameter hInvariant ih seen hParam

theorem keeps_signature :
    Keeps good signature Any := by
  refine (keeps_identifier hInvariant).bind fun _ _ => ?_
  refine (keeps_expect hInvariant _).bind fun _ _ => ?_
  refine keeps_get.bind fun _ _ => ?_
  refine (keeps_parameters hInvariant _ _).bind
    fun _ _ => ?_
  exact (keeps_expect hInvariant _).bind fun _ _ =>
    keeps_pure trivial

theorem keeps_condition :
    Keeps good condition Any :=
  (keeps_expression hInvariant).bind fun _ _ =>
    (keeps_expect hInvariant _).bind fun _ _ =>
      keeps_pure trivial

theorem keeps_blockStart :
    Keeps good blockStart Any := by
  refine keeps_peek.bind fun _ _ => ?_
  split
  · refine (keeps_advance hInvariant).bind fun _ _ => ?_
    refine (keeps_check _).bind fun _ _ => ?_
    split
    · exact (keeps_advance hInvariant).any
    · exact keeps_rejectHere hInvariant _ _
  · exact keeps_rejectHere hInvariant _ _

end Parser

end Gantry

------------------------------------------------------------
-- Blocks And Scripts
------------------------------------------------------------

namespace Gantry

namespace Parser

variable
    {good : Cursor → Prop}
    {placed : Span → Prop}
    {rest : StateM Cursor (List Stmt)}

/- Statements go on behind one that was read or skipped. -/
theorem good_goOn
    (hInvariant : Invariant good placed)
    (hRest :
      ∀ cursor : Cursor, good cursor →
        good (rest.run cursor).2)
    {result : Option Stmt × Cursor}
    (hResult : good result.2) :
    good (goOn rest result).2 := by
  rcases result with ⟨stmt?, after⟩
  cases stmt? with
  | none => exact hRest _ (hInvariant.synchronized hResult)
  | some stmt => exact hRest after hResult

/-
  The five parsers of statements and blocks, which call one
  another with a smaller bound.
-/
theorem keeps_bounded
    (hInvariant : Invariant good placed)
    (bound : Nat)
    (context : Context) :
    Keeps good (statement bound context) Any ∧
      Keeps good (block bound context) Any ∧
        Keeps good (elifClauses bound context) Any ∧
          Keeps good (elseClause bound context) Any ∧
            ∀ cursor : Cursor, good cursor →
              good ((statements bound context).run
                cursor).2 := by
  have hAdvance := keeps_advance hInvariant
  have hExpect := keeps_expect hInvariant
  have hIdentifier := keeps_identifier hInvariant
  have hCondition := keeps_condition hInvariant
  induction bound generalizing context with
  | zero =>
      exact ⟨keeps_failure _, keeps_failure _,
        keeps_pure trivial, keeps_pure trivial,
        fun cursor hGood => hGood⟩
  | succ bound ih =>
      have hStatement := fun context => (ih context).1
      have hBlock := fun context => (ih context).2.1
      have hElifs := fun context => (ih context).2.2.1
      have hElse := fun context => (ih context).2.2.2.1
      have hStatements := fun context => (ih context).2.2.2.2
      refine ⟨?_, ?_, ?_, ?_, ?_⟩
      · unfold statement
        refine keeps_peek.bind fun _ _ => ?_
        split
        · refine hAdvance.bind fun _ _ => ?_
          refine (keeps_signature hInvariant).bind
            fun _ _ => ?_
          refine (hExpect _).bind fun _ _ => ?_
          exact (hBlock _).bind fun _ _ =>
            keeps_pure trivial
        · refine hAdvance.bind fun _ _ => ?_
          refine hCondition.bind fun _ _ => ?_
          refine (hBlock _).bind fun _ _ => ?_
          refine (hElifs _).bind fun _ _ => ?_
          exact (hElse _).bind fun _ _ =>
            keeps_pure trivial
        · refine hAdvance.bind fun _ _ => ?_
          refine hIdentifier.bind fun _ _ => ?_
          refine (hExpect _).bind fun _ _ => ?_
          refine hCondition.bind fun _ _ => ?_
          exact (hBlock _).bind fun _ _ =>
            keeps_pure trivial
        · refine hAdvance.bind fun _ _ => ?_
          refine hCondition.bind fun _ _ => ?_
          exact (hBlock _).bind fun _ _ =>
            keeps_pure trivial
        · exact keeps_returnStatement hInvariant context
        · exact keeps_loopJump hInvariant context _ _
        · exact keeps_loopJump hInvariant context _ _
        · exact keeps_passStatement hInvariant
        · exact keeps_exprStatement hInvariant
      · unfold block
        refine (keeps_blockStart hInvariant).bind
          fun _ _ => ?_
        exact (keeps_lift (hStatements context)).bind
          fun _ _ => keeps_pure trivial
      · unfold elifClauses
        refine (keeps_check _).bind fun _ _ => ?_
        split
        · refine hAdvance.bind fun _ _ => ?_
          refine hCondition.bind fun _ _ => ?_
          refine (hBlock _).bind fun _ _ => ?_
          exact (hElifs _).bind fun _ _ =>
            keeps_pure trivial
        · exact keeps_pure trivial
      · unfold elseClause
        refine (keeps_eat hInvariant _).bind fun _ _ => ?_
        split
        · refine (hExpect _).bind fun _ _ => ?_
          exact (hBlock _).bind fun _ _ =>
            keeps_pure trivial
        · exact keeps_pure trivial
      · intro cursor hGood
        rw [run_statements]
        have hStart := hInvariant.pastNewlines hGood
        dsimp only
        split
        · exact hStart
        · split
          · exact hInvariant.next hStart
          · exact hStatements context _
              (hStatements context _
                (hInvariant.report _
                  (hInvariant.next hStart)
                  (hInvariant.here hStart)))
          · exact good_goOn hInvariant (hStatements context)
              (hStatement context _ hStart).1

theorem good_topLevel
    (hInvariant : Invariant good placed)
    (bound : Nat)
    {cursor : Cursor}
    (hGood : good cursor) :
    good ((topLevel bound).run cursor).2 := by
  induction bound generalizing cursor with
  | zero => exact hGood
  | succ bound ih =>
      rcases keeps_bounded hInvariant bound {} with
        ⟨hStatement, _, _, _, hStatements⟩
      rw [run_topLevel]
      have hStart := hInvariant.pastNewlines hGood
      dsimp only
      split
      · exact hStart
      · split
        · exact ih (hInvariant.next hStart)
        · exact ih
            (hStatements _
              (hInvariant.report _
                (hInvariant.next hStart)
                (hInvariant.here hStart)))
        · exact good_goOn hInvariant (fun _ => ih)
            (hStatement _ hStart).1

end Parser

end Gantry
