import Gantry.Proofs.Parser.Height
import Gantry.Proofs.Parser.Nesting
import Mathlib.Order.Bounds.Basic

/-
  This file writes an expression as tall as any can be.
  Brackets stand around a tower that is built in the same
  way, and behind these, at every level, a chain that is as
  long as there is room.

  Key definitions include:
    * `Gantry.Parser.links`
    * `Gantry.Parser.Fills`
    * `Gantry.Parser.tower`

  Main statements:
    * `Gantry.Parser.Fills.level`
    * `Gantry.Parser.reads_tower`
    * `Gantry.Parser.isGreatest_height`
-/

------------------------------------------------------------
-- Heights Of Trees That Were Read
------------------------------------------------------------

namespace Gantry

namespace Expr

mutual

@[simp] theorem height_erase :
    (expr : Expr) → expr.erase.height = expr.height
| literal _ _ => rfl
| name _ _ => rfl
| list items _ => by
    rw [erase, height, height, listHeight_listErase items]
| unary _ operand _ => by
    rw [erase, height, height, height_erase operand]
| binary _ left right _ => by
    rw [erase, height, height, height_erase left,
      height_erase right]
| call callee args _ => by
    rw [erase, height, height, height_erase callee,
      listHeight_listErase args]
| index object key _ => by
    rw [erase, height, height, height_erase object,
      height_erase key]
| attr object _ _ => by
    rw [erase, height, height, height_erase object]

theorem listHeight_listErase :
    (items : List Expr) →
      listHeight (listErase items) = listHeight items
| [] => rfl
| item :: items => by
    rw [listErase, listHeight, listHeight,
      height_erase item, listHeight_listErase items]

end

theorem height_join
    (op : BinaryOp)
    (left right : Expr) :
    (Parser.join op left right).height =
      max left.height right.height + 1 := by
  rw [Parser.join, height]

end Expr

end Gantry

------------------------------------------------------------
-- Filling The Room
------------------------------------------------------------

namespace Gantry

namespace Parser

/- A literal to link with. -/
def one : TokenKind :=
  (Literal.bool true).kind

/- Some number of links, each of two tokens. -/
def links
    (mark item : TokenKind) :
    Nat → List TokenKind
| 0 => []
| count + 1 => mark :: item :: links mark item count

variable
    {least room : Nat}
    {op : BinaryOp}
    {operand inner : Nat → Parser Expr}
    {tokens follow : List TokenKind}
    {height : Nat}

/- Behind a link stands another, or what follows them all. -/
theorem stops_links
    (hLevel : op.level = least)
    (hStops : Stops least follow)
    (count : Nat) :
    Stops (least + 1) (links op.kind one count ++ follow) := by
  cases count with
  | zero => exact hStops.mono (Nat.le_succ least)
  | succ count =>
      change op.kind.binds < least + 1
      rw [op.binds_kind, hLevel]
      exact Nat.lt_succ_self least

/-
  The parser of a level reads a literal in any room, and in
  some room it reads tokens that begin with a bracket into a
  tree of a given height.
-/
structure Fills
    (least room : Nat)
    (parser : Nat → Parser Expr)
    (tokens : List TokenKind)
    (height : Nat) : Prop where
  grows : ∀ room, Grows (parser room)
  literal :
    ∀ room follow, Stops least follow →
      Reads True (parser room) [one] follow
        fun found => found.height = 1
  full :
    ∀ follow, Stops least follow →
      Reads True (parser room) tokens follow
        fun found => found.height = height
  bracket : tokens.head? = some (.symbol .leftBracket)

/- A chain of literals for all the room there is. -/
theorem reads_links
    {op? : TokenKind → Option BinaryOp}
    (hOps : Recognizes op? least)
    (hLevel : op.level = least)
    (hGrows : ∀ room, Grows (operand room))
    (hLiteral :
      ∀ room follow, Stops (least + 1) follow →
        Reads True (operand room) [one] follow
          fun found => found.height = 1)
    (hStops : Stops least follow)
    (room : Nat)
    (left : Expr) :
    Reads True (chain op? operand room left)
      (links op.kind one room) follow
      fun found => found.height = left.height + room := by
  induction room generalizing left with
  | zero =>
      apply (reads_chain_end hOps hStops 0 left).imp
      rintro found rfl
      rfl
  | succ room ih =>
      rw [chain, links]
      apply Reads.peek_bind rfl
      rw [List.cons_append, List.headD_cons,
        hOps.of_kind hLevel]
      apply Reads.advance_bind
      intro _
      rw [← List.singleton_append]
      apply Reads.bind
        (hLiteral room _ (stops_links hLevel hStops room))
      · intro right
        exact grows_chain op? hGrows room _
      · intro right hRight
        apply (ih (join op left right)).imp
        intro found hFound
        have hLeft := left.height_pos
        rw [hFound, Expr.height_join, hRight]
        omega

/- A level adds a chain of its own. -/
theorem Fills.level
    {op? : TokenKind → Option BinaryOp}
    (op : BinaryOp)
    (hLevel : op.level = least)
    (hOps : Recognizes op? least)
    (hOperand : Fills (least + 1) room operand tokens height) :
    Fills least room (Parser.level op? operand)
      (tokens ++ links op.kind one room)
      (height + room) where
  grows := grows_level op? hOperand.grows
  literal := by
    intro room follow hStops
    apply reads_level_single hOps hOperand.grows hStops
    exact hOperand.literal room follow
      (hStops.mono (Nat.le_succ least))
  full := by
    intro follow hStops
    apply Reads.bind
      (hOperand.full _ (stops_links hLevel hStops room))
    · intro left
      exact grows_chain op? hOperand.grows room left
    · rintro left rfl
      exact reads_links hOps hLevel hOperand.grows
        hOperand.literal hStops room left
  bracket := by
    rw [List.head?_append, hOperand.bracket]
    rfl

/- A prefix is left out. -/
theorem Fills.prefixed
    (op : UnaryOp)
    (hOperand : Fills (op.level + 1) room operand tokens height) :
    Fills op.level room
      (Parser.prefixed op op.kind operand) tokens
      height where
  grows := grows_prefixed op op.kind hOperand.grows
  literal := by
    intro room follow hStops
    apply reads_prefixed_single op
    · change one ≠ op.kind
      cases op <;> decide
    · exact hOperand.literal room follow
        (hStops.mono (Nat.le_succ _))
  full := by
    intro follow hStops
    apply reads_prefixed_single op
    · rw [List.headD_eq_head?_getD, List.head?_append,
        hOperand.bracket]
      change TokenKind.symbol .leftBracket ≠ op.kind
      cases op <;> decide
    · exact hOperand.full follow
        (hStops.mono (Nat.le_succ _))
  bracket := hOperand.bracket

end Parser

end Gantry

------------------------------------------------------------
-- Towers
------------------------------------------------------------

namespace Gantry

namespace Parser

/-
  The tokens of a tallest tree. Brackets stand around the
  tower that is left inside them, and behind these as many
  links of every level as there is room.
-/
def tower :
    Nat → List TokenKind
| 0 => []
| room + 1 =>
    .symbol .leftBracket ::
      (tower room ++ [.symbol .rightBracket]) ++
      links (.symbol .dot) (.name "x") room ++
      links BinaryOp.mul.kind one room ++
      links BinaryOp.add.kind one room ++
      links BinaryOp.equal.kind one room ++
      links BinaryOp.and.kind one room ++
      links BinaryOp.or.kind one room

variable
    {room : Nat}
    {item : Parser Expr}
    {inner : Nat → Parser Expr}
    {follow : List TokenKind}

/- Attributes for all the room there is. -/
theorem reads_dots
    (hGrows : ∀ room, Grows (inner room))
    (hStops : Stops 8 follow)
    (room : Nat)
    (object : Expr) :
    Reads True (suffixes inner room object)
      (links (.symbol .dot) (.name "x") room) follow
      fun found => found.height = object.height + room := by
  induction room generalizing object with
  | zero =>
      apply (reads_suffixes_end hStops 0 object).imp
      rintro found rfl
      rfl
  | succ room ih =>
      have hLinks :
          links (.symbol .dot) (.name "x") (room + 1) =
            .symbol .dot :: [.name "x"] ++
              links (.symbol .dot) (.name "x") room := rfl
      rw [hLinks]
      apply reads_suffixes_link hGrows rfl (room + 1) object
        (fun _ => Nat.succ_pos room)
      · intro rest hRest
        exact reads_suffix_attr object ⟨"x", Span.unset⟩
      · intro longer rest hRest hLonger
        cases hRest
        apply (ih longer).imp
        intro found hFound
        have hHeight := congrArg Expr.height hLonger
        rw [Expr.height_erase, Expr.height,
          Expr.height_erase] at hHeight
        omega

theorem tower_opens
    (hRoom : 0 < room) :
    ∃ rest, tower room = .symbol .leftBracket :: rest := by
  cases room with
  | zero => contradiction
  | succ room => exact ⟨_, rfl⟩

/- A list of one tower, or of nothing where there is none. -/
theorem reads_commaList_tower
    (hGrows : Grows item)
    (hItem :
      0 < room →
        ∀ follow, Stops 1 follow →
          Reads True item (tower room) follow
            fun found => found.height = tallest 1 room)
    (token : Token)
    (rounds : List Token) :
    Reads True
      (commaList item .rightBracket (token :: rounds))
      (tower room) (.symbol .rightBracket :: follow)
      fun found => Expr.listHeight found = tallest 1 room := by
  rw [commaList]
  cases room with
  | zero =>
      apply Reads.check_bind _ rfl
      exact reads_pure rfl
  | succ room =>
      have hHead :
          (tower (room + 1) ++
            .symbol .rightBracket :: follow).headD
              .endOfFile = .symbol .leftBracket := rfl
      apply Reads.check_bind _ hHead
      rw [if_neg (by decide),
        ← List.append_nil (tower (room + 1))]
      apply Reads.bind
        (hItem (Nat.succ_pos room)
          (.symbol .rightBracket :: follow) (stops_one rfl))
        (grows_furtherItems
          (grows_commaList hGrows .rightBracket rounds))
      intro first hFirst
      apply Reads.eat_bind_other
      · simp
      · apply reads_pure
        simpa [Expr.listHeight] using hFirst

/- Brackets around a tower. -/
theorem reads_brackets
    (hGrows : Grows item)
    (hItem :
      0 < room →
        ∀ follow, Stops 1 follow →
          Reads True item (tower room) follow
            fun found => found.height = tallest 1 room) :
    Reads True (primary item)
      (.symbol .leftBracket ::
        (tower room ++ [.symbol .rightBracket])) follow
      fun found => found.height = tallest 1 room + 1 := by
  have hEnclosed :
      Reads True (enclosed item .rightBracket)
        (tower room ++ [.symbol .rightBracket]) follow
        fun found =>
          Expr.listHeight found.1 = tallest 1 room := by
    unfold enclosed
    apply Reads.get_bind
    intro cursor hKinds
    cases hRest : cursor.rest with
    | nil =>
        rw [Cursor.kinds, hRest] at hKinds
        simp at hKinds
    | cons token rounds =>
        apply Reads.bind
          (reads_commaList_tower hGrows hItem token rounds)
        · intro found
          exact (grows_expect _).bind fun _ => grows_pure _
        · intro found hFound
          apply Reads.expect_bind
          intro stop
          exact reads_pure hFound
  unfold primary
  apply Reads.here_bind
  intro start
  apply Reads.peek_bind rfl
  apply Reads.advance_bind
  intro _
  apply Reads.map hEnclosed
  intro found hFound
  rw [Expr.height, hFound]

theorem fills_operand
    (hGrows : ∀ room, Grows (inner room))
    (hInner :
      0 < room →
        ∀ follow, Stops 1 follow →
          Reads True (inner room) (tower room) follow
            fun found => found.height = tallest 1 room) :
    Fills 8 room (operand inner)
      (.symbol .leftBracket ::
        (tower room ++ [.symbol .rightBracket]) ++
        links (.symbol .dot) (.name "x") room)
      (tallest 1 room + 1 + room) where
  grows := grows_operand hGrows
  literal := by
    intro room follow hStops
    apply reads_operand_single hGrows hStops
    apply (reads_literal (.bool true)).imp
    intro found hFound
    rw [← Expr.height_erase, hFound, Expr.height]
  full := by
    intro follow hStops
    apply Reads.bind (reads_brackets (hGrows room) hInner)
    · intro object
      exact grows_suffixes hGrows room object
    · intro object hObject
      rw [← hObject]
      exact reads_dots hGrows hStops room object
  bracket := rfl

/-
  A tower is read into a tree as tall as its room allows, by
  induction on the brackets.
-/
theorem reads_tower
    (brackets : Nat)
    (hRoom : 0 < room)
    (hBrackets : room ≤ brackets)
    (hStops : Stops 1 follow) :
    Reads True (expressionWithin brackets room) (tower room)
      follow fun found => found.height = tallest 1 room := by
  induction brackets generalizing room follow with
  | zero => omega
  | succ brackets ih =>
      cases room with
      | zero => contradiction
      | succ room =>
          have hGrows := grows_expressionWithin brackets
          have hOperand :=
            fills_operand hGrows
              fun hPos follow hStops =>
                ih hPos (Nat.le_of_succ_le_succ hBrackets)
                  hStops
          have hProduct :=
            (hOperand.prefixed .neg).level .mul rfl
              recognizes_product
          have hSum := hProduct.level .add rfl recognizes_sum
          have hComparison :=
            hSum.level .equal rfl recognizes_comparison
          have hConjunction :=
            (hComparison.prefixed .not).level .and rfl
              recognizes_and
          have hDisjunction :=
            hConjunction.level .or rfl recognizes_or
          apply (hDisjunction.full follow hStops).imp
          intro found hFound
          rw [hFound, tallest]
          omega

end Parser

end Gantry

------------------------------------------------------------
-- The Greatest Height
------------------------------------------------------------

namespace Gantry

namespace Parser

theorem exists_tokens
    (kinds : List TokenKind) :
    ∃ tokens : List Token, tokens.map (·.kind) = kinds := by
  refine ⟨kinds.map fun kind => ⟨kind, Span.unset⟩, ?_⟩
  rw [List.map_map]
  exact List.map_id kinds

theorem parse_tower :
    ∃ tokens program expr,
      (parse tokens).program? = some program ∧
        expr ∈ program.expressions ∧
        expr.height = tallest 1 maxNesting := by
  have hPos : 0 < maxNesting := by decide
  have hReads :
      Reads True expression (tower maxNesting)
        [.newline, .endOfFile]
        fun found => found.height = tallest 1 maxNesting :=
    reads_tower maxNesting hPos (Nat.le_refl maxNesting)
      (stops_one rfl)
  rcases exists_tokens
      (tower maxNesting ++ [.newline, .endOfFile]) with
    ⟨tokens, hTokens⟩
  rcases tower_opens hPos with ⟨rest, hOpens⟩
  rcases parse_line hOpens rfl hTokens hReads with
    ⟨expr, span, whole, hParse, hHeight⟩ | ⟨hCrowded, _⟩
  · exact ⟨tokens, _, expr, hParse,
      List.mem_singleton_self expr, hHeight⟩
  · exact absurd trivial hCrowded

/-
  The tallest expression in any script has a height of 12160,
  although there is room for no more than 64 levels.
-/
theorem isGreatest_height :
    IsGreatest
      { height : Nat |
        ∃ tokens program expr,
          (parse tokens).program? = some program ∧
            expr ∈ program.expressions ∧
            expr.height = height }
      12160 := by
  have hTallest : tallest 1 maxNesting = 12160 := by
    decide +kernel
  rw [← hTallest]
  constructor
  · exact parse_tower
  · rintro height ⟨tokens, program, expr, hParse, hExpr, rfl⟩
    exact height_le_of_parse hParse expr hExpr

end Parser

end Gantry
