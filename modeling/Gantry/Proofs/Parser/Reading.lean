import Gantry.Proofs.Parser.Growth
import Gantry.Proofs.Script.Rendering

/-
  This file says what it is to read given tokens. A parser
  takes just these and gives a value, unless the nesting of
  an expression is too deep, which is then the first thing
  reported. That cannot happen where there is room enough.

  Key definitions include:
    * `Gantry.Cursor.kinds`
    * `Gantry.Parser.Crowded`
    * `Gantry.Parser.Reads`

  Main statements:
    * `Gantry.Parser.lasting_crowded`
    * `Gantry.Parser.Reads.bind`
-/

------------------------------------------------------------
-- Trouble With Nesting
------------------------------------------------------------

namespace Gantry

namespace Cursor

/- The kinds of the tokens still to be read. -/
def kinds
    (cursor : Cursor) : List TokenKind :=
  cursor.rest.map (·.kind)

theorem kind_eq_headD
    (cursor : Cursor) :
    cursor.kind = cursor.kinds.headD .endOfFile := by
  unfold kind kinds
  split <;> simp [*]

theorem kinds_next
    {cursor : Cursor}
    {kind : TokenKind}
    {rest : List TokenKind}
    (hKinds : cursor.kinds = kind :: rest) :
    cursor.next.kinds = rest := by
  unfold kinds at *
  unfold next
  cases hRest : cursor.rest with
  | nil => simp [hRest] at hKinds
  | cons token tokens =>
      rw [hRest] at hKinds
      simpa using (List.cons.inj hKinds).2

end Cursor

namespace Parser

/-
  The first thing reported is that there was no room, which
  cannot be where there is enough of it.
-/
def Crowded
    (roomy : Prop)
    (log : Log Issue) : Prop :=
  ¬ roomy ∧
    log.first?.map (·.fault) = some .nestingTooDeep

variable {roomy : Prop}

theorem lasting_crowded :
    Lasting (Crowded roomy) := by
  rintro log later hExtends ⟨hRoom, hFault⟩
  rcases Option.map_eq_some_iff.mp hFault with
    ⟨first, hFirst, hDeep⟩
  refine ⟨hRoom, ?_⟩
  rw [hExtends.first? hFirst, Option.map_some, hDeep]

end Parser

end Gantry

------------------------------------------------------------
-- Reading Given Tokens
------------------------------------------------------------

namespace Gantry

namespace Parser

variable
    {α β : Type}
    {roomy : Prop}
    {kinds more follow : List TokenKind}

/-
  A parser takes just the given tokens from in front of the
  ones that follow, unless the nesting is too deep.
-/
def Reads
    (roomy : Prop)
    (parser : Parser α)
    (kinds follow : List TokenKind)
    (post : α → Prop) : Prop :=
  ∀ cursor : Cursor, cursor.log = Log.empty →
    cursor.kinds = kinds ++ follow →
      Gives (Crowded roomy) (exec parser cursor)
        fun value after =>
          post value ∧ after.kinds = follow

theorem reads_pure
    {value : α}
    {post : α → Prop}
    (hPost : post value) :
    Reads roomy (pure value) [] follow post := by
  intro cursor hLog hKinds
  exact gives_some hLog ⟨hPost, hKinds⟩

theorem Reads.imp
    {parser : Parser α}
    {post weaker : α → Prop}
    (hReads : Reads roomy parser kinds follow post)
    (hWeaker : ∀ value, post value → weaker value) :
    Reads roomy parser kinds follow weaker := by
  intro cursor hLog hKinds
  refine (hReads cursor hLog hKinds).imp ?_
  rintro value after ⟨hPost, hAfter⟩
  exact ⟨hWeaker value hPost, hAfter⟩

theorem Reads.bind
    {parser : Parser α}
    {next : α → Parser β}
    {middle : α → Prop}
    {post : β → Prop}
    (hParser :
      Reads roomy parser kinds (more ++ follow) middle)
    (hGrows : ∀ value, Grows (next value))
    (hNext :
      ∀ value, middle value →
        Reads roomy (next value) more follow post) :
    Reads roomy (parser >>= next) (kinds ++ more) follow
      post := by
  intro cursor hLog hKinds
  rw [List.append_assoc] at hKinds
  refine Gives.bind lasting_crowded hGrows
    (hParser cursor hLog hKinds) ?_
  rintro value after hAfter ⟨hValue, hRest⟩
  exact hNext value hValue after hAfter hRest

/- What is made of a value takes no further tokens. -/
theorem Reads.map
    {parser : Parser α}
    {f : α → β}
    {middle : α → Prop}
    {post : β → Prop}
    (hParser : Reads roomy parser kinds follow middle)
    (hPost : ∀ value, middle value → post (f value)) :
    Reads roomy (parser >>= fun value => pure (f value))
      kinds follow post := by
  rw [← List.append_nil kinds]
  apply Reads.bind hParser
  · intro value
    exact grows_pure (f value)
  · intro value hValue
    exact reads_pure (hPost value hValue)

theorem Reads.here_bind
    {next : Span → Parser β}
    {post : β → Prop}
    (hNext :
      ∀ span, Reads roomy (next span) kinds follow post) :
    Reads roomy (here >>= next) kinds follow post := by
  intro cursor hLog hKinds
  rw [exec_here_bind]
  exact hNext _ cursor hLog hKinds

theorem Reads.get_bind
    {next : Cursor → Parser β}
    {post : β → Prop}
    (hNext :
      ∀ cursor : Cursor, cursor.kinds = kinds ++ follow →
        Reads roomy (next cursor) kinds follow post) :
    Reads roomy (get >>= next) kinds follow post := by
  intro cursor hLog hKinds
  rw [exec_get_bind]
  exact hNext cursor hKinds cursor hLog hKinds

/- Looking at the next token takes nothing. -/
theorem Reads.peek_bind
    {next : TokenKind → Parser β}
    {post : β → Prop}
    {kind : TokenKind}
    (hKind : (kinds ++ follow).headD .endOfFile = kind)
    (hNext : Reads roomy (next kind) kinds follow post) :
    Reads roomy (peek >>= next) kinds follow post := by
  intro cursor hLog hKinds
  rw [exec_peek_bind, cursor.kind_eq_headD, hKinds, hKind]
  exact hNext cursor hLog hKinds

theorem Reads.check_bind
    {next : Bool → Parser β}
    {post : β → Prop}
    {kind : TokenKind}
    (expected : TokenKind)
    (hKind : (kinds ++ follow).headD .endOfFile = kind)
    (hNext :
      Reads roomy (next (kind == expected)) kinds follow
        post) :
    Reads roomy (check expected >>= next) kinds follow
      post := by
  intro cursor hLog hKinds
  rw [exec_check_bind, cursor.kind_eq_headD, hKinds, hKind]
  exact hNext cursor hLog hKinds

theorem Reads.advance_bind
    {next : Span → Parser β}
    {post : β → Prop}
    {kind : TokenKind}
    (hNext :
      ∀ span, Reads roomy (next span) kinds follow post) :
    Reads roomy (advance >>= next) (kind :: kinds) follow
      post := by
  intro cursor hLog hKinds
  rw [exec_advance_bind]
  exact hNext _ _ (by simpa using hLog)
    (Cursor.kinds_next hKinds)

theorem Reads.eat_bind
    {next : Bool → Parser β}
    {post : β → Prop}
    (kind : TokenKind)
    (hNext : Reads roomy (next true) kinds follow post) :
    Reads roomy (eat kind >>= next) (kind :: kinds) follow
      post := by
  intro cursor hLog hKinds
  have hKind : cursor.kind = kind := by
    rw [cursor.kind_eq_headD, hKinds]
    rfl
  rw [exec_eat_bind, if_pos hKind]
  exact hNext _ (by simpa using hLog)
    (Cursor.kinds_next hKinds)

theorem Reads.eat_bind_other
    {next : Bool → Parser β}
    {post : β → Prop}
    {kind : TokenKind}
    (hOther : (kinds ++ follow).headD .endOfFile ≠ kind)
    (hNext : Reads roomy (next false) kinds follow post) :
    Reads roomy (eat kind >>= next) kinds follow post := by
  intro cursor hLog hKinds
  have hKind : cursor.kind ≠ kind := by
    rwa [cursor.kind_eq_headD, hKinds]
  rw [exec_eat_bind, if_neg hKind]
  exact hNext cursor hLog hKinds

theorem Reads.expect_bind
    {next : Span → Parser β}
    {post : β → Prop}
    (kind : TokenKind)
    (hNext :
      ∀ span, Reads roomy (next span) kinds follow post) :
    Reads roomy (expect kind >>= next) (kind :: kinds) follow
      post := by
  intro cursor hLog hKinds
  have hKind : cursor.kind = kind := by
    rw [cursor.kind_eq_headD, hKinds]
    rfl
  rw [exec_bind, exec_expect, if_pos hKind]
  exact hNext _ _ (by simpa using hLog)
    (Cursor.kinds_next hKinds)

theorem Reads.identifier_bind
    {next : Ident → Parser β}
    {post : β → Prop}
    (name : String)
    (hNext :
      ∀ span,
        Reads roomy (next ⟨name, span⟩) kinds follow post) :
    Reads roomy (identifier >>= next) (.name name :: kinds)
      follow post := by
  intro cursor hLog hKinds
  have hKind : cursor.kind = .name name := by
    rw [cursor.kind_eq_headD, hKinds]
    rfl
  have hExec :
      exec identifier cursor =
        (some ⟨name, cursor.here⟩, cursor.next) := by
    rw [identifier, exec_peek_bind, hKind]
    rfl
  rw [exec_bind, hExec]
  exact hNext _ _ (by simpa using hLog)
    (Cursor.kinds_next hKinds)

/- Running out of room is trouble with nesting. -/
theorem reads_tooDeep
    {post : α → Prop}
    (hRoom : ¬ roomy) :
    Reads roomy tooDeep kinds follow post := by
  intro cursor hLog hKinds
  left
  refine ⟨hRoom, ?_⟩
  rw [exec_tooDeep]
  unfold Cursor.report
  rw [hLog]
  rfl

end Parser

end Gantry
