import Gantry.Proofs.Parser.ReadingOperators

/-
  This file shows that every rendered expression is read
  back: the same tree apart from its spans, unless it is
  nested too deep. There is room for an expression that has
  fewer tokens than levels may nest.

  Key definitions include:
    * `Gantry.Parser.ReadsInside`
    * `Gantry.Parser.Continues`

  Main statements:
    * `Gantry.Parser.reads_commaList`
    * `Gantry.Parser.continues`
    * `Gantry.Parser.readsAt_disjunction`
    * `Gantry.Parser.reads_expression`
-/

------------------------------------------------------------
-- Lists Between Brackets
------------------------------------------------------------

namespace Gantry

namespace Expr

theorem length_render_pos
    (expr : Expr) :
    0 < expr.render.length := by
  rcases expr.opens_render with ⟨kind, rest, hTokens, _⟩
  rw [hTokens]
  exact Nat.succ_pos _

theorem length_le_listRender
    (items : List Expr) :
    items.length ≤ (listRender items).length := by
  induction items with
  | nil => exact Nat.le_refl 0
  | cons item items ih =>
      have hPos := item.length_render_pos
      cases items with
      | nil =>
          rw [listRender]
          exact hPos
      | cons next items =>
          simp only [listRender, List.length_append,
            List.length_cons] at *
          omega

theorem render_le_listRender
    {items : List Expr}
    {item : Expr}
    (hItem : item ∈ items) :
    item.render.length ≤ (listRender items).length := by
  induction items with
  | nil => contradiction
  | cons first items ih =>
      cases items with
      | nil =>
          have hSame := List.mem_singleton.mp hItem
          subst hSame
          exact Nat.le_refl _
      | cons next items =>
          rw [listRender, List.length_append,
            List.length_cons]
          rcases List.mem_cons.mp hItem with rfl | hLater
          · omega
          · have := ih hLater
            omega

end Expr

namespace Parser

variable
    {roomy : Prop}
    {item : Parser Expr}
    {follow : List TokenKind}

/- A mark that can close a list of expressions. -/
def Closes
    (close : Symbol) : Prop :=
  (TokenKind.symbol close).binds = 0 ∧
    (TokenKind.symbol close).startsExpr = false ∧
    close ≠ .comma

/-
  Items are read one by one while rounds are left. What
  reading an item says of it holds of each of them.
-/
theorem reads_commaList
    {close : Symbol}
    {fits : Expr → Prop}
    (hClose : Closes close)
    (hGrows : Grows item)
    (items : List Expr)
    (rounds : List Token)
    (hRounds : items.length < rounds.length)
    (hItem :
      ∀ expr ∈ items, ∀ behind, Stops 1 behind →
        Reads roomy item expr.render behind
          fun found =>
            found.erase = expr.erase ∧ fits expr) :
    Reads roomy (commaList item close rounds)
      (Expr.listRender items) (.symbol close :: follow)
      fun found =>
        Expr.listErase found = Expr.listErase items ∧
          ∀ expr ∈ items, fits expr := by
  rcases hClose with ⟨hEnd, hFirst, hComma⟩
  have hEnds : Stops 1 (.symbol close :: follow) :=
    stops_one hEnd
  induction items generalizing rounds with
  | nil =>
      cases rounds with
      | nil => contradiction
      | cons token rounds =>
          rw [commaList]
          apply Reads.check_bind _ rfl
          simp only [Expr.listRender, List.nil_append,
            List.headD_cons, beq_self_eq_true, if_true]
          exact reads_pure ⟨rfl, by simp⟩
  | cons expr items ih =>
      cases rounds with
      | nil => contradiction
      | cons token rounds =>
          rcases expr.opens_render with
            ⟨kind, rest, hTokens, hStarts, _⟩
          have hKind : (kind == .symbol close) = false := by
            apply beq_eq_false_iff_ne.mpr
            rintro rfl
            rw [hFirst] at hStarts
            contradiction
          have hHead :
              (Expr.listRender (expr :: items) ++
                .symbol close :: follow).headD .endOfFile =
                kind := by
            cases items <;>
              rw [Expr.listRender, hTokens] <;> rfl
          have gFurther :=
            grows_furtherItems
              (grows_commaList hGrows close rounds)
          rw [commaList]
          apply Reads.check_bind _ hHead
          rw [hKind, if_neg Bool.false_ne_true]
          cases items with
          | nil =>
              rw [Expr.listRender,
                ← List.append_nil expr.render]
              apply Reads.bind
                (hItem expr List.mem_cons_self _ hEnds)
                gFurther
              rintro first ⟨hErase, hFits⟩
              apply Reads.eat_bind_other
              · simpa using hComma
              · apply reads_pure
                simpa [Expr.listErase, hErase] using hFits
          | cons next items =>
              rw [Expr.listRender]
              refine Reads.bind
                (hItem expr List.mem_cons_self _ ?_)
                gFurther ?_
              · exact stops_one rfl
              · rintro first ⟨hErase, hFits⟩
                apply Reads.eat_bind
                apply Reads.map
                  (ih rounds
                    (Nat.lt_of_succ_lt_succ hRounds)
                    fun other hOther =>
                      hItem other
                        (List.mem_cons_of_mem expr hOther))
                rintro others ⟨hOthers, hFit⟩
                constructor
                · rw [Expr.listErase, hErase, hOthers]
                  rfl
                · exact List.forall_mem_cons.mpr
                    ⟨hFits, hFit⟩

theorem reads_enclosed
    {close : Symbol}
    {fits : Expr → Prop}
    (hClose : Closes close)
    (hGrows : Grows item)
    (items : List Expr)
    (hItem :
      ∀ expr ∈ items, ∀ behind, Stops 1 behind →
        Reads roomy item expr.render behind
          fun found =>
            found.erase = expr.erase ∧ fits expr) :
    Reads roomy (enclosed item close)
      (Expr.listRender items ++ [.symbol close]) follow
      fun found =>
        Expr.listErase found.1 = Expr.listErase items ∧
          ∀ expr ∈ items, fits expr := by
  unfold enclosed
  apply Reads.get_bind
  intro cursor hKinds
  have hRounds : items.length < cursor.rest.length := by
    have hLength := congrArg List.length hKinds
    have hItems := Expr.length_le_listRender items
    simp only [Cursor.kinds, List.length_map,
      List.length_append, List.length_cons,
      List.length_nil] at hLength
    omega
  apply Reads.bind
    (reads_commaList hClose hGrows items _ hRounds hItem)
  · intro found
    exact (grows_expect _).bind fun _ => grows_pure _
  · intro found hFound
    apply Reads.expect_bind
    intro stop
    exact reads_pure hFound

end Parser

end Gantry

------------------------------------------------------------
-- Primaries And Suffixes
------------------------------------------------------------

namespace Gantry

namespace Parser

variable
    {roomy : Prop}
    {brackets : Nat}
    {inner : Nat → Parser Expr}
    {more follow : List TokenKind}
    {post : Expr → Prop}

/-
  A parser reads every expression between brackets. These
  take one level of room themselves.
-/
def ReadsInside
    (roomy : Prop)
    (brackets : Nat)
    (inner : Nat → Parser Expr) : Prop :=
  ∀ (room : Nat) (expr : Expr) (follow : List TokenKind),
    Stops 1 follow →
      (roomy →
        expr.render.length < room ∧
          expr.render.length < brackets) →
        Reads roomy (inner room) expr.render follow
          fun found => found.erase = expr.erase

theorem closes_paren :
    Closes .rightParen :=
  ⟨rfl, rfl, by decide⟩

theorem closes_bracket :
    Closes .rightBracket :=
  ⟨rfl, rfl, by decide⟩

/- A list of which every item is read between brackets. -/
theorem ReadsInside.enclosed
    (hInner : ReadsInside roomy brackets inner)
    (hGrows : ∀ room, Grows (inner room))
    {close : Symbol}
    (hClose : Closes close)
    (room : Nat)
    (items : List Expr)
    (hRoom :
      roomy →
        (Expr.listRender items).length < room ∧
          (Expr.listRender items).length < brackets) :
    Reads roomy (enclosed (inner room) close)
      (Expr.listRender items ++ [.symbol close]) follow
      fun found =>
        Expr.listErase found.1 = Expr.listErase items := by
  have hItems :
      ∀ expr ∈ items, ∀ behind, Stops 1 behind →
        Reads roomy (inner room) expr.render behind
          fun found =>
            found.erase = expr.erase ∧ True := by
    intro expr hExpr behind hBehind
    refine (hInner room expr behind hBehind ?_).imp
      fun found hFound => ⟨hFound, trivial⟩
    intro hRoomy
    have := hRoom hRoomy
    have := Expr.render_le_listRender hExpr
    omega
  exact (reads_enclosed hClose (hGrows room) items
    hItems).imp fun found hFound => hFound.1

/- An expression in parentheses, which leave no trace. -/
theorem reads_paren
    (hInner : ReadsInside roomy brackets inner)
    (room : Nat)
    (expr : Expr)
    (hRoom :
      roomy →
        expr.render.length < room ∧
          expr.render.length < brackets) :
    Reads roomy (primary (inner room))
      (.symbol .leftParen ::
        (expr.render ++ [.symbol .rightParen]))
      follow fun found => found.erase = expr.erase := by
  unfold primary
  apply Reads.here_bind
  intro start
  apply Reads.peek_bind rfl
  apply Reads.advance_bind
  intro _
  refine Reads.bind (hInner room expr _ ?_ hRoom) ?_ ?_
  · exact stops_one rfl
  · intro found
    exact (grows_expect _).bind fun _ => grows_pure _
  · intro found hFound
    apply Reads.expect_bind
    intro stop
    apply reads_pure
    rw [Expr.erase_withSpan, hFound]

theorem reads_listing
    (hGrows : ∀ room, Grows (inner room))
    (hInner : ReadsInside roomy brackets inner)
    (room : Nat)
    (items : List Expr)
    (hRoom :
      roomy →
        (Expr.listRender items).length < room ∧
          (Expr.listRender items).length < brackets) :
    Reads roomy (primary (inner room))
      (.symbol .leftBracket ::
        (Expr.listRender items ++ [.symbol .rightBracket]))
      follow fun found =>
        found.erase =
          .list (Expr.listErase items) Span.unset := by
  unfold primary
  apply Reads.here_bind
  intro start
  apply Reads.peek_bind rfl
  apply Reads.advance_bind
  intro _
  apply Reads.map
    (hInner.enclosed hGrows closes_bracket room items hRoom)
  intro found hFound
  rw [Expr.erase, hFound]

theorem reads_word
    {item : Parser Expr}
    (word : String) :
    Reads roomy (primary item) [.name word] follow
      fun found => found.erase = .name word Span.unset := by
  unfold primary
  apply Reads.here_bind
  intro start
  apply Reads.peek_bind rfl
  apply Reads.advance_bind
  intro _
  exact reads_pure rfl

theorem reads_literal
    {item : Parser Expr}
    (value : Literal) :
    Reads roomy (primary item) [value.kind] follow
      fun found =>
        found.erase = .literal value Span.unset := by
  have hLiteral :=
    (literal?_eq_some_iff value.kind value).mpr rfl
  unfold primary
  apply Reads.here_bind
  intro start
  apply Reads.peek_bind rfl
  rw [List.cons_append, List.headD_cons]
  split
  · rename_i hKind
    rw [hKind] at hLiteral
    contradiction
  · rename_i hKind
    rw [hKind] at hLiteral
    contradiction
  · rename_i hKind
    rw [hKind] at hLiteral
    contradiction
  · rw [hLiteral]
    apply Reads.advance_bind
    intro _
    exact reads_pure rfl

/- One more suffix, if there is room for it. -/
theorem reads_suffixes_link
    (hGrows : ∀ room, Grows (inner room))
    {kind : TokenKind}
    {kinds : List TokenKind}
    {middle : Expr → Prop}
    (hStarts : startsSuffix kind = true)
    (room : Nat)
    (object : Expr)
    (hRoom : roomy → 0 < room)
    (hSuffix :
      ∀ rest, room = rest + 1 →
        Reads roomy (suffix (inner rest) object)
          (kind :: kinds) (more ++ follow) middle)
    (hRest :
      ∀ longer rest, room = rest + 1 → middle longer →
        Reads roomy (suffixes inner rest longer) more follow
          post) :
    Reads roomy (suffixes inner room object)
      (kind :: kinds ++ more) follow post := by
  cases room with
  | zero =>
      rw [suffixes]
      apply Reads.peek_bind rfl
      rw [List.cons_append, List.cons_append,
        List.headD_cons, hStarts, if_pos rfl]
      apply reads_tooDeep
      intro hRoomy
      exact Nat.lt_irrefl 0 (hRoom hRoomy)
  | succ room =>
      rw [suffixes]
      apply Reads.peek_bind rfl
      rw [List.cons_append, List.cons_append,
        List.headD_cons, hStarts, if_pos rfl,
        ← List.cons_append]
      apply Reads.bind (hSuffix room rfl)
      · intro longer
        exact grows_suffixes hGrows room longer
      · intro longer hLonger
        exact hRest longer room rfl hLonger

theorem reads_suffix_call
    (hGrows : ∀ room, Grows (inner room))
    (hInner : ReadsInside roomy brackets inner)
    (room : Nat)
    (object : Expr)
    (args : List Expr)
    (hRoom :
      roomy →
        (Expr.listRender args).length < room ∧
          (Expr.listRender args).length < brackets) :
    Reads roomy (suffix (inner room) object)
      (.symbol .leftParen ::
        (Expr.listRender args ++ [.symbol .rightParen]))
      follow fun found =>
        found.erase =
          .call object.erase (Expr.listErase args)
            Span.unset := by
  unfold suffix
  apply Reads.peek_bind rfl
  apply Reads.advance_bind
  intro _
  apply Reads.map
    (hInner.enclosed hGrows closes_paren room args hRoom)
  intro found hFound
  rw [Expr.erase, hFound]

theorem reads_suffix_index
    (hInner : ReadsInside roomy brackets inner)
    (room : Nat)
    (object key : Expr)
    (hRoom :
      roomy →
        key.render.length < room ∧
          key.render.length < brackets) :
    Reads roomy (suffix (inner room) object)
      (.symbol .leftBracket ::
        (key.render ++ [.symbol .rightBracket]))
      follow fun found =>
        found.erase =
          .index object.erase key.erase Span.unset := by
  unfold suffix
  apply Reads.peek_bind rfl
  apply Reads.advance_bind
  intro _
  refine Reads.bind (hInner room key _ ?_ hRoom) ?_ ?_
  · exact stops_one rfl
  · intro found
    exact (grows_expect _).bind fun _ => grows_pure _
  · intro found hFound
    apply Reads.expect_bind
    intro stop
    apply reads_pure
    rw [Expr.erase, hFound]

theorem reads_suffix_attr
    {item : Parser Expr}
    (object : Expr)
    (field : Ident) :
    Reads roomy (suffix item object)
      [.symbol .dot, .name field.name] follow
      fun found =>
        found.erase =
          .attr object.erase field.erase Span.unset := by
  unfold suffix
  apply Reads.peek_bind rfl
  apply Reads.advance_bind
  intro _
  apply Reads.identifier_bind
  intro span
  exact reads_pure rfl

/-
  An expression that can take a suffix is read together with
  what follows it. The suffixes go on from the whole
  expression, with no more room used than it has tokens.
-/
def Continues
    (roomy : Prop)
    (brackets : Nat)
    (inner : Nat → Parser Expr)
    (expr : Expr) : Prop :=
  ∀ (room : Nat) (more follow : List TokenKind)
    (post : Expr → Prop),
    (roomy →
      (expr.renderAt 8).length ≤ room ∧
        (expr.renderAt 8).length ≤ brackets) →
    (∀ (object : Expr) (rest : Nat),
      object.erase = expr.erase →
        (roomy → room ≤ rest + (expr.renderAt 8).length) →
          Reads roomy (suffixes inner rest object) more
            follow post) →
      Reads roomy (operand inner room)
        (expr.renderAt 8 ++ more) follow post

theorem continues_of_primary
    (hGrows : ∀ room, Grows (inner room))
    {expr : Expr}
    (hPrimary :
      ∀ room follow,
        (roomy →
          (expr.renderAt 8).length ≤ room ∧
            (expr.renderAt 8).length ≤ brackets) →
        Reads roomy (primary (inner room)) (expr.renderAt 8)
          follow fun found => found.erase = expr.erase) :
    Continues roomy brackets inner expr := by
  intro room more follow post hRoom hRest
  apply Reads.bind (hPrimary room _ hRoom)
  · intro object
    exact grows_suffixes hGrows room object
  · intro object hObject
    exact hRest object room hObject (by omega)

theorem continues_of_lt
    (hGrows : ∀ room, Grows (inner room))
    (hInner : ReadsInside roomy brackets inner)
    {expr : Expr}
    (hLevel : expr.level < 8) :
    Continues roomy brackets inner expr := by
  apply continues_of_primary hGrows
  intro room follow hRoom
  rw [Expr.renderAt_of_lt hLevel] at hRoom ⊢
  apply reads_paren hInner
  intro hRoomy
  have := hRoom hRoomy
  simp only [List.length_cons, List.length_append] at this
  omega

/- A suffix is one more link behind its object. -/
theorem Continues.link
    (hGrows : ∀ room, Grows (inner room))
    {object expr : Expr}
    {kind : TokenKind}
    {kinds : List TokenKind}
    (hObject : Continues roomy brackets inner object)
    (hTokens :
      expr.renderAt 8 = object.renderAt 8 ++ kind :: kinds)
    (hStarts : startsSuffix kind = true)
    (hSuffix :
      ∀ found rest follow, found.erase = object.erase →
        (roomy →
          kinds.length ≤ rest ∧ kinds.length ≤ brackets) →
        Reads roomy (suffix (inner rest) found)
          (kind :: kinds) follow
          fun longer => longer.erase = expr.erase) :
    Continues roomy brackets inner expr := by
  intro room more follow post hRoom hRest
  have hLength := congrArg List.length hTokens
  rw [List.length_append, List.length_cons] at hLength
  rw [hTokens, List.append_assoc]
  apply hObject
  · intro hRoomy
    have := hRoom hRoomy
    omega
  · intro found room' hFound hSpent
    apply reads_suffixes_link hGrows hStarts
    · intro hRoomy
      have := hRoom hRoomy
      have := hSpent hRoomy
      omega
    · intro rest hLess
      apply hSuffix found rest _ hFound
      intro hRoomy
      have := hRoom hRoomy
      have := hSpent hRoomy
      omega
    · intro longer rest hLess hLonger
      apply hRest longer rest hLonger
      intro hRoomy
      have := hSpent hRoomy
      omega

/- Down to the primary that all suffixes stand behind. -/
theorem continues
    (hGrows : ∀ room, Grows (inner room))
    (hInner : ReadsInside roomy brackets inner)
    (expr : Expr) :
    Continues roomy brackets inner expr := by
  cases expr with
  | literal value _ =>
      exact continues_of_primary hGrows fun _ _ _ =>
        reads_literal value
  | name word _ =>
      exact continues_of_primary hGrows fun _ _ _ =>
        reads_word word
  | list items span =>
      have hTokens :
          (Expr.list items span).renderAt 8 =
            .symbol .leftBracket ::
              (Expr.listRender items ++
                [.symbol .rightBracket]) := rfl
      apply continues_of_primary hGrows
      intro room follow hRoom
      rw [hTokens] at hRoom ⊢
      apply reads_listing hGrows hInner
      intro hRoomy
      have := hRoom hRoomy
      simp only [List.length_cons, List.length_append] at this
      omega
  | unary op _ _ =>
      exact continues_of_lt hGrows hInner op.level_lt
  | binary op _ _ _ =>
      exact continues_of_lt hGrows hInner op.level_lt
  | call callee args span =>
      apply (continues hGrows hInner callee).link hGrows rfl rfl
      intro found rest follow hFound hRoom
      rw [Expr.erase, ← hFound]
      apply reads_suffix_call hGrows hInner
      intro hRoomy
      have := hRoom hRoomy
      rw [List.length_append, List.length_singleton] at this
      omega
  | index object key span =>
      apply (continues hGrows hInner object).link hGrows rfl rfl
      intro found rest follow hFound hRoom
      rw [Expr.erase, ← hFound]
      apply reads_suffix_index hInner
      intro hRoomy
      have := hRoom hRoomy
      rw [List.length_append, List.length_singleton] at this
      omega
  | attr object field span =>
      apply (continues hGrows hInner object).link hGrows rfl rfl
      intro found rest follow hFound _
      rw [Expr.erase, ← hFound]
      exact reads_suffix_attr found field

/- The suffixes end where none of them starts. -/
theorem reads_suffixes_end
    (hStops : Stops 8 follow)
    (room : Nat)
    (object : Expr) :
    Reads roomy (suffixes inner room object) [] follow
      fun found => found = object := by
  have hNone :
      startsSuffix (follow.headD .endOfFile) = false := by
    unfold Stops at hStops
    unfold startsSuffix
    split <;> first | rfl | simp_all [TokenKind.binds]
  cases room with
  | zero =>
      rw [suffixes]
      apply Reads.peek_bind rfl
      rw [List.nil_append, hNone]
      exact reads_pure rfl
  | succ room =>
      rw [suffixes]
      apply Reads.peek_bind rfl
      rw [List.nil_append, hNone]
      exact reads_pure rfl

theorem readsAt_operand
    (hGrows : ∀ room, Grows (inner room))
    (hInner : ReadsInside roomy brackets inner) :
    ReadsAt roomy brackets 8 (operand inner) := by
  intro room expr follow hStops hRoom
  rw [← List.append_nil (expr.renderAt 8)]
  apply continues hGrows hInner expr room [] follow _ hRoom
  intro object rest hErase _
  apply (reads_suffixes_end hStops rest object).imp
  rintro found rfl
  exact hErase

end Parser

end Gantry

------------------------------------------------------------
-- Expressions
------------------------------------------------------------

namespace Gantry

namespace Parser

theorem recognizes_of_table
    {op? : TokenKind → Option BinaryOp}
    {least : Nat}
    (hKind : ∀ kind op, op? kind = some op → kind = op.kind)
    (hTable :
      ∀ op : BinaryOp,
        op? op.kind = some op ↔ op.level = least) :
    Recognizes op? least := by
  intro kind op
  constructor
  · intro hFound
    have hKind := hKind kind op hFound
    subst hKind
    exact ⟨rfl, (hTable op).mp hFound⟩
  · rintro ⟨rfl, hLevel⟩
    exact (hTable op).mpr hLevel

/- The five levels of operators by their tokens. -/
theorem recognizes_or :
    Recognizes orOp? 1 :=
  recognizes_of_table (fun _ _ => kind_of_orOp?)
    (by intro op; cases op <;> decide)

theorem recognizes_and :
    Recognizes andOp? 2 :=
  recognizes_of_table (fun _ _ => kind_of_andOp?)
    (by intro op; cases op <;> decide)

theorem recognizes_comparison :
    Recognizes comparisonOp? 4 :=
  recognizes_of_table (fun _ _ => kind_of_comparisonOp?)
    (by intro op; cases op <;> decide)

theorem recognizes_sum :
    Recognizes sumOp? 5 :=
  recognizes_of_table (fun _ _ => kind_of_sumOp?)
    (by intro op; cases op <;> decide)

theorem recognizes_product :
    Recognizes productOp? 6 :=
  recognizes_of_table (fun _ _ => kind_of_productOp?)
    (by intro op; cases op <;> decide)

variable
    {roomy : Prop}
    {brackets : Nat}
    {inner : Nat → Parser Expr}

theorem readsAt_disjunction
    (hGrows : ∀ room, Grows (inner room))
    (hInner : ReadsInside roomy brackets inner) :
    ReadsAt roomy brackets 1 (disjunction inner) := by
  have hOperand := readsAt_operand hGrows hInner
  have gOperand := grows_operand hGrows
  have hSigned := readsAt_prefixed .neg hOperand
  have gSigned :=
    grows_prefixed .neg (.symbol .minus) gOperand
  have hProduct :
      ReadsAt roomy brackets 6 (product inner) :=
    readsAt_level .mul rfl recognizes_product gSigned
      hSigned
  have gProduct := grows_level productOp? gSigned
  have hSum : ReadsAt roomy brackets 5 (sum inner) :=
    readsAt_level .add rfl recognizes_sum gProduct hProduct
  have gSum := grows_level sumOp? gProduct
  have hComparison :
      ReadsAt roomy brackets 4 (comparison inner) :=
    readsAt_level .equal rfl recognizes_comparison gSum hSum
  have gComparison := grows_level comparisonOp? gSum
  have hNegation := readsAt_prefixed .not hComparison
  have gNegation :=
    grows_prefixed .not (.keyword .notWord) gComparison
  have hConjunction :
      ReadsAt roomy brackets 2 (conjunction inner) :=
    readsAt_level .and rfl recognizes_and gNegation
      hNegation
  have gConjunction := grows_level andOp? gNegation
  exact readsAt_level .or rfl recognizes_or gConjunction
    hConjunction

/-
  Brackets and room run out together, by induction on the
  brackets.
-/
theorem reads_expressionWithin
    (brackets : Nat) :
    ReadsInside roomy brackets
      (expressionWithin brackets) := by
  induction brackets with
  | zero =>
      intro room expr follow hStops hRoom
      apply reads_tooDeep
      intro hRoomy
      have := hRoom hRoomy
      omega
  | succ brackets ih =>
      intro room expr follow hStops hRoom
      cases room with
      | zero =>
          apply reads_tooDeep
          intro hRoomy
          have := hRoom hRoomy
          omega
      | succ room =>
          have hRead :=
            readsAt_disjunction
              (grows_expressionWithin brackets) ih room expr
              follow hStops
          rw [Expr.renderAt_one] at hRead
          apply hRead
          intro hRoomy
          have := hRoom hRoomy
          omega

theorem reads_expression
    (expr : Expr)
    {follow : List TokenKind}
    (hStops : Stops 1 follow)
    (hRoom : roomy → expr.render.length < maxNesting) :
    Reads roomy expression expr.render follow
      fun found => found.erase = expr.erase := by
  apply reads_expressionWithin maxNesting maxNesting expr
    follow hStops
  intro hRoomy
  exact ⟨hRoom hRoomy, hRoom hRoomy⟩

end Parser

end Gantry
