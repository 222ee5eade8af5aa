import Gantry.Proofs.Parser.Reading

/-
  This file reads rendered operators. At every level the
  parser stops behind the expression, and a chain of
  operators is grouped to the left as it was rendered. A link
  takes one level of room, and has at least as many tokens.

  Key definitions include:
    * `Gantry.Parser.Stops`
    * `Gantry.Parser.ReadsAt`
    * `Gantry.Parser.Recognizes`

  Main statements:
    * `Gantry.Parser.reads_spine`
    * `Gantry.Parser.readsAt_level`
    * `Gantry.Parser.readsAt_prefixed`
-/

------------------------------------------------------------
-- Chains And Prefixes
------------------------------------------------------------

namespace Gantry

namespace Parser

/-
  An expression of some level ends before the given tokens:
  none of its own or of a higher level goes on with them.
-/
def Stops
    (least : Nat)
    (kinds : List TokenKind) : Prop :=
  (kinds.headD .endOfFile).binds < least

theorem Stops.mono
    {least higher : Nat}
    {kinds : List TokenKind}
    (hStops : Stops least kinds)
    (hLevel : least ≤ higher) :
    Stops higher kinds :=
  Nat.lt_of_lt_of_le hStops hLevel

/- A token that carries on no expression ends each. -/
theorem stops_one
    {kind : TokenKind}
    {kinds : List TokenKind}
    (hKind : kind.binds = 0) :
    Stops 1 (kind :: kinds) := by
  unfold Stops
  rw [List.headD_cons, hKind]
  exact Nat.zero_lt_one

/-
  A parser reads every expression of a level. There is room
  enough if neither bound is less than the number of tokens.
-/
def ReadsAt
    (roomy : Prop)
    (brackets least : Nat)
    (parser : Nat → Parser Expr) : Prop :=
  ∀ (room : Nat) (expr : Expr) (follow : List TokenKind),
    Stops least follow →
      (roomy →
        (expr.renderAt least).length ≤ room ∧
          (expr.renderAt least).length ≤ brackets) →
        Reads roomy (parser room) (expr.renderAt least)
          follow fun found => found.erase = expr.erase

/- The operators of one level, told by their tokens. -/
def Recognizes
    (op? : TokenKind → Option BinaryOp)
    (least : Nat) : Prop :=
  ∀ kind op,
    op? kind = some op ↔ kind = op.kind ∧ op.level = least

variable
    {roomy : Prop}
    {brackets least : Nat}
    {operand : Nat → Parser Expr}
    {op? : TokenKind → Option BinaryOp}

theorem Recognizes.of_kind
    (hOps : Recognizes op? least)
    {op : BinaryOp}
    (hLevel : op.level = least) :
    op? op.kind = some op :=
  (hOps op.kind op).mpr ⟨rfl, hLevel⟩

theorem Recognizes.none_of_stops
    (hOps : Recognizes op? least)
    {kinds : List TokenKind}
    (hStops : Stops least kinds) :
    op? (kinds.headD .endOfFile) = none := by
  cases hFound : op? (kinds.headD .endOfFile) with
  | none => rfl
  | some op =>
      rcases (hOps _ _).mp hFound with ⟨hKind, hLevel⟩
      unfold Stops at hStops
      rw [hKind, BinaryOp.binds_kind] at hStops
      omega

/- A chain ends where no operator of its level follows. -/
theorem reads_chain_end
    (hOps : Recognizes op? least)
    {follow : List TokenKind}
    (hStops : Stops least follow)
    (room : Nat)
    (left : Expr) :
    Reads roomy (chain op? operand room left) [] follow
      fun found => found = left := by
  have hNone := hOps.none_of_stops hStops
  cases room with
  | zero =>
      rw [chain]
      apply Reads.peek_bind rfl
      rw [List.nil_append, hNone]
      exact reads_pure rfl
  | succ room =>
      rw [chain]
      apply Reads.peek_bind rfl
      rw [List.nil_append, hNone]
      exact reads_pure rfl

/- One more link, if there is room for it. -/
theorem reads_chain_link
    (hOps : Recognizes op? least)
    (hGrows : ∀ room, Grows (operand room))
    (hOperand : ReadsAt roomy brackets (least + 1) operand)
    {op : BinaryOp}
    (hLevel : op.level = least)
    {more follow : List TokenKind}
    {post : Expr → Prop}
    (room : Nat)
    (left right : Expr)
    (hStops : Stops (least + 1) (more ++ follow))
    (hRoom :
      roomy →
        (right.renderAt (least + 1)).length < room ∧
          (right.renderAt (least + 1)).length ≤ brackets)
    (hRest :
      ∀ (found : Expr) (rest : Nat), room = rest + 1 →
        found.erase = right.erase →
          Reads roomy
            (chain op? operand rest (join op left found))
            more follow post) :
    Reads roomy (chain op? operand room left)
      (op.kind :: (right.renderAt (least + 1) ++ more))
      follow post := by
  have hFound := hOps.of_kind hLevel
  cases room with
  | zero =>
      rw [chain]
      apply Reads.peek_bind rfl
      rw [List.cons_append, List.headD_cons, hFound]
      apply Reads.advance_bind
      intro _
      apply reads_tooDeep
      intro hRoomy
      have := (hRoom hRoomy).1
      omega
  | succ room =>
      rw [chain]
      apply Reads.peek_bind rfl
      rw [List.cons_append, List.headD_cons, hFound]
      apply Reads.advance_bind
      intro _
      apply Reads.bind (hOperand room right _ hStops ?_)
      · intro found
        exact grows_chain op? hGrows room _
      · intro found hErase
        exact hRest found room rfl hErase
      · intro hRoomy
        have := hRoom hRoomy
        omega

/-
  An expression at some level, with what follows it in the
  same chain. The chain goes on from the whole expression,
  with no more room used than it has tokens.

  The proof goes down the left operands, where the operators
  of the level are nested.
-/
theorem reads_spine
    (sample : BinaryOp)
    (hSample : sample.level = least)
    (hOps : Recognizes op? least)
    (hGrows : ∀ room, Grows (operand room))
    (hOperand : ReadsAt roomy brackets (least + 1) operand)
    {follow : List TokenKind}
    {post : Expr → Prop}
    (room : Nat)
    (expr : Expr)
    (more : List TokenKind)
    (hStops : Stops (least + 1) (more ++ follow))
    (hRoom :
      roomy →
        (expr.renderAt least).length ≤ room ∧
          (expr.renderAt least).length ≤ brackets)
    (hRest :
      ∀ (left : Expr) (rest : Nat),
        left.erase = expr.erase →
          (roomy →
            room ≤ rest + (expr.renderAt least).length) →
            Reads roomy (chain op? operand rest left) more
              follow post) :
    Reads roomy (level op? operand room)
      (expr.renderAt least ++ more) follow post := by
  induction hSize : (expr.renderAt least).length
    using Nat.strongRecOn generalizing expr more with
  | ind size ih =>
      by_cases hLevel : expr.level = least
      · -- The operator at hand is the last link; the chain
        -- before it is the left operand.
        rcases Expr.binary_of_level
            (hLevel.trans hSample.symm) with
          ⟨op, left, right, span, rfl⟩
        have hOp : op.level = least := hLevel
        have hTokens :=
          Expr.renderAt_binary op left right span
        rw [hOp] at hTokens
        have hLength := congrArg List.length hTokens
        rw [List.length_append, List.length_cons] at hLength
        rw [hTokens, List.append_assoc, List.cons_append]
        refine ih _ (by omega) left _ ?_ ?_ ?_ rfl
        · unfold Stops
          rw [List.cons_append, List.headD_cons,
            BinaryOp.binds_kind]
          omega
        · intro hRoomy
          have := hRoom hRoomy
          omega
        · intro found rest hFound hSpent
          apply reads_chain_link hOps hGrows hOperand hOp
            rest found right hStops
          · intro hRoomy
            have := hRoom hRoomy
            have := hSpent hRoomy
            omega
          · intro other less hLess hOther
            apply hRest
            · simp [join, Expr.erase, hFound, hOther]
            · intro hRoomy
              have := hSpent hRoomy
              omega
      · have hSame := Expr.renderAt_succ hLevel
        rw [← hSame] at hRoom ⊢
        apply Reads.bind (hOperand room expr _ hStops hRoom)
        · intro left
          exact grows_chain op? hGrows room left
        · intro left hErase
          exact hRest left room hErase (by omega)

/- A level of operators over the next one. -/
theorem readsAt_level
    (sample : BinaryOp)
    (hSample : sample.level = least)
    (hOps : Recognizes op? least)
    (hGrows : ∀ room, Grows (operand room))
    (hOperand :
      ReadsAt roomy brackets (least + 1) operand) :
    ReadsAt roomy brackets least (level op? operand) := by
  intro room expr follow hStops hRoom
  rw [← List.append_nil (expr.renderAt least)]
  apply reads_spine sample hSample hOps hGrows hOperand
    room expr []
  · exact hStops.mono (Nat.le_succ least)
  · exact hRoom
  · intro left rest hErase _
    apply (reads_chain_end hOps hStops rest left).imp
    rintro found rfl
    exact hErase

/- A prefix over the next level. -/
theorem readsAt_prefixed
    (op : UnaryOp)
    (hOperand :
      ReadsAt roomy brackets (op.level + 1) operand) :
    ReadsAt roomy brackets op.level
      (prefixed op op.kind operand) := by
  intro room expr follow hStops hRoom
  induction hSize : (expr.renderAt op.level).length
    using Nat.strongRecOn generalizing expr room with
  | ind size ih =>
      by_cases hLevel : expr.level = op.level
      · rcases Expr.unary_of_level hLevel with
          ⟨inside, span, rfl⟩
        have hTokens := Expr.renderAt_unary op inside span
        have hLength := congrArg List.length hTokens
        rw [List.length_cons] at hLength
        rw [hTokens]
        cases room with
        | zero =>
            rw [prefixed]
            apply Reads.check_bind op.kind rfl
            rw [List.cons_append, List.headD_cons, beq_self_eq_true,
              if_pos rfl]
            apply Reads.advance_bind
            intro _
            apply reads_tooDeep
            intro hRoomy
            have := hRoom hRoomy
            omega
        | succ room =>
            rw [prefixed]
            apply Reads.check_bind op.kind rfl
            rw [List.cons_append, List.headD_cons, beq_self_eq_true,
              if_pos rfl]
            apply Reads.advance_bind
            intro start
            apply Reads.map
              (ih _ (by omega) room inside ?_ rfl)
            · intro found hFound
              simp [Expr.erase, hFound]
            · intro hRoomy
              have := hRoom hRoomy
              omega
      · have hSame := Expr.renderAt_succ hLevel
        rw [← hSame] at hRoom ⊢
        have hRead :=
          hOperand room expr follow
            (hStops.mono (Nat.le_succ _)) hRoom
        rcases expr.opens_renderAt (op.level + 1) with
          ⟨kind, rest, hTokens, _, hMark⟩
        have hKind : (kind == op.kind) = false := by
          simpa using hMark op (Nat.lt_succ_self _)
        have hHead :
            (expr.renderAt (op.level + 1) ++ follow).headD
                .endOfFile = kind := by
          rw [hTokens]
          rfl
        cases room with
        | zero =>
            rw [prefixed]
            apply Reads.check_bind op.kind hHead
            rw [hKind]
            exact hRead
        | succ room =>
            rw [prefixed]
            apply Reads.check_bind op.kind hHead
            rw [hKind]
            exact hRead

end Parser

end Gantry
