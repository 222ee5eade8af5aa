import Gantry.Proofs.Script.Shape
import Gantry.Proofs.Machine.Contents

/-
  This file carries a comparison of two runs through the
  whole evaluation of a script.

  A comparison may be anything that can be said of two runs.
  If it holds for the smallest steps, and for one run behind
  another, it holds for operators, built-in functions,
  expressions and statements, whatever it says. Statements
  may be compared in another way than expressions, which
  cannot give a variable a value. What remains to be shown
  for each comparison is that it holds for the call of a
  script's function when it holds for the function's body.

  Key definitions include:
    * `Gantry.Expr.names`
    * `Gantry.Run.Comparison`
    * `Gantry.Run.Comparison.Sequential`
    * `Gantry.Run.Comparison.Stepwise`
    * `Gantry.Run.Comparison.Evaluating`
    * `Gantry.Run.Comparison.Executing`

  Main statements:
    * `Gantry.Run.Comparison.Stepwise.binary`
    * `Gantry.Run.Comparison.Stepwise.callBuiltin`
    * `Gantry.Run.Comparison.Evaluating.expr`
    * `Gantry.Run.Comparison.Executing.stmt`
    * `Gantry.Run.Comparison.Executing.script`
-/

------------------------------------------------------------
-- Names And Values
------------------------------------------------------------

namespace Gantry

mutual

/- The names whose values an expression asks for. -/
def Expr.names :
    Expr → List String
| .literal _ _ => []
| .name word _ => [word]
| .list items _ => Expr.listNames items
| .unary _ operand _ => operand.names
| .binary _ left right _ => left.names ++ right.names
| .call callee args _ =>
    callee.names ++ Expr.listNames args
| .index object key _ => object.names ++ key.names
| .attr object _ _ => object.names

def Expr.listNames :
    List Expr → List String
| [] => []
| item :: items => item.names ++ Expr.listNames items

end

/- An expression asks only for names of a certain kind. -/
def Expr.Asks
    (names : String → Prop)
    (tree : Expr) : Prop :=
  ∀ word ∈ tree.names, names word

/- So do all of several expressions. -/
def Expr.AllAsk
    (names : String → Prop)
    (trees : List Expr) : Prop :=
  ∀ tree ∈ trees, tree.Asks names

theorem Expr.allAsk_append
    {names : String → Prop}
    {before later : List Expr} :
    Expr.AllAsk names (before ++ later) ↔
      Expr.AllAsk names before ∧ Expr.AllAsk names later :=
  List.forall_mem_append

theorem Expr.allAsk_cons
    {names : String → Prop}
    {tree : Expr}
    {trees : List Expr} :
    Expr.AllAsk names (tree :: trees) ↔
      tree.Asks names ∧ Expr.AllAsk names trees :=
  List.forall_mem_cons

theorem Expr.asks_any
    (tree : Expr) :
    tree.Asks fun _ => True :=
  fun _ _ => trivial

theorem Expr.allAsk_any
    (trees : List Expr) :
    Expr.AllAsk (fun _ => True) trees :=
  fun tree _ => tree.asks_any

/- A value that cannot run anything. -/
def Value.IsPlain :
    Value → Prop
| .function _ => False
| .builtin _ => False
| _ => True

end Gantry

------------------------------------------------------------
-- Comparisons
------------------------------------------------------------

namespace Gantry

namespace Run

/-
  Something that is said of two runs, together with a
  property of what they come to.
-/
abbrev Comparison :=
  (α : Type) → (α → Prop) → Run α → Run α → Prop

namespace Comparison

/- A comparison goes through from step to step. -/
structure Sequential
    (T : Comparison) : Prop where
  pure :
    ∀ {α : Type} {Q : α → Prop} {value : α}, Q value →
      T α Q (Pure.pure value) (Pure.pure value)
  throw :
    ∀ {α : Type} {Q : α → Prop} (fault : RuntimeFault),
      T α Q (MonadExcept.throw fault)
        (MonadExcept.throw fault)
  bind :
    ∀ {α β : Type} {R : α → Prop} {Q : β → Prop}
      {first second : Run α}
      {firstRest secondRest : α → Run β},
      T α R first second →
      (∀ value, R value →
        T β Q (firstRest value) (secondRest value)) →
      T β Q (first >>= firstRest) (second >>= secondRest)

/-
  A comparison holds for the smallest steps, each compared
  with itself. The values at hand have a property, which
  does not say anything about those that cannot run.
-/
structure Stepwise
    (V : Value → Prop)
    (T : Comparison) : Prop extends Sequential T where
  plain : ∀ value : Value, value.IsPlain → V value
  heap : T Heap (Heap.All V) heap heap
  makeList :
    ∀ items : Items, (∀ item ∈ items.toArray, V item) →
      T Value V (makeList items) (makeList items)
  append :
    ∀ (ref : Nat) (item : Value), V item →
      let change := fun machine : Machine =>
        { machine with heap := machine.heap.append ref item }
      T Unit (fun _ => True) (modify change) (modify change)
  setItem :
    ∀ (ref slot : Nat) (item : Value), V item →
      let change := fun machine : Machine =>
        { machine with
          heap := machine.heap.setItem ref slot item }
      T Unit (fun _ => True) (modify change) (modify change)
  nextSerial : T Nat (fun _ => True) nextSerial nextSerial
  printLine :
    ∀ line, T Unit (fun _ => True) (printLine line)
      (printLine line)
  record :
    ∀ command, T Unit (fun _ => True) (record command)
      (record command)

/-
  A comparison that also holds for what the crane sees from
  two stages, for reading the variables of certain names and
  for calling a script's functions.
-/
structure Evaluating
    (first second : Stage)
    (firstEnter secondEnter : Enter)
    (names : String → Prop)
    (V : Value → Prop)
    (T : Comparison) : Prop extends Stepwise V T where
  look :
    V (.builtin .look) →
      T String (fun _ => True)
        (do return (← get).look first)
        (do return (← get).look second)
  lookup :
    ∀ scopes word, names word →
      T Value V (lookup scopes word) (lookup scopes word)
  enter :
    ∀ (closure : Closure) (args : List Value),
      V (.function closure) → (∀ arg ∈ args, V arg) →
        T Value V (firstEnter closure args)
          (secondEnter closure args)

/-
  A comparison of statements in given scopes, on top of one
  of expressions.
-/
structure Executing
    (first second : Stage)
    (firstEnter secondEnter : Enter)
    (names : String → Prop)
    (V : Value → Prop)
    (T : Comparison)
    (scopes : Scopes)
    (U : Comparison) : Prop extends Sequential U where
  expressions :
    Evaluating first second firstEnter secondEnter names V T
  limits : first.limits = second.limits
  lift :
    ∀ {α : Type} {Q : α → Prop} {left right : Run α},
      T α Q left right → U α Q left right
  begin :
    ∀ span, U Unit (fun _ => True) (begin span) (begin span)
  warn :
    ∀ warning,
      U Unit (fun _ => True) (warn warning) (warn warning)
  define :
    ∀ name value, V value →
      U Unit (fun _ => True) (define scopes name value)
        (define scopes name value)
  function :
    ∀ closure : Closure,
      Expr.AllAsk names closure.body.expressions →
        V (.function closure)

namespace Sequential

variable {T : Comparison}

theorem ite
    (_ : Sequential T)
    {α : Type}
    {Q : α → Prop}
    {condition : Prop}
    [Decidable condition]
    {first second firstElse secondElse : Run α}
    (hThen : T α Q first second)
    (hElse : T α Q firstElse secondElse) :
    T α Q (if condition then first else firstElse)
      (if condition then second else secondElse) := by
  split
  · exact hThen
  · exact hElse

theorem mapM
    (hT : Sequential T)
    {α β : Type}
    {Q : β → Prop}
    {action : α → Run β}
    (hAction : ∀ item, T β Q (action item) (action item)) :
    (items : List α) →
    T (List β) (fun _ => True) (items.mapM action)
      (items.mapM action)
| [] => by
    rw [List.mapM_nil]
    exact hT.pure trivial
| item :: items => by
    rw [List.mapM_cons]
    refine hT.bind (hAction item) fun value _ => ?_
    refine hT.bind (hT.mapM hAction items) fun values _ => ?_
    exact hT.pure trivial

theorem checkArity
    (hT : Sequential T)
    (closure : Closure)
    (args : List Value) :
    T Unit (fun _ => True) (Run.checkArity closure args)
      (Run.checkArity closure args) :=
  hT.ite (hT.throw _) (hT.pure trivial)

end Sequential

end Comparison

end Run

end Gantry

------------------------------------------------------------
-- Operators
------------------------------------------------------------

namespace Gantry

namespace Run

namespace Comparison

namespace Sequential

variable {T : Comparison}

theorem compare
    (hT : Sequential T)
    (left right : Value) :
    T Ordering (fun _ => True) (Run.compare left right)
      (Run.compare left right) := by
  unfold Run.compare
  split
  · exact hT.pure trivial
  · exact hT.throw _

theorem numbers
    (hT : Sequential T)
    (op : BinaryOp)
    (left right : Value) :
    T (Float × Float) (fun _ => True)
      (Run.numbers op left right)
      (Run.numbers op left right) := by
  unfold Run.numbers
  split
  · exact hT.pure trivial
  · exact hT.throw _

theorem divisor
    (hT : Sequential T)
    (operation : Division)
    (y : Float) :
    T Float (fun _ => True) (Run.divisor operation y)
      (Run.divisor operation y) :=
  hT.ite (hT.throw _) (hT.pure trivial)

theorem slot
    (hT : Sequential T)
    (key : Value)
    (length : Nat) :
    T Nat (fun _ => True) (Run.slot key length)
      (Run.slot key length) := by
  unfold Run.slot
  split
  · exact hT.throw _
  · exact hT.ite (hT.pure trivial) (hT.throw _)

end Sequential

namespace Stepwise

variable {V : Value → Prop}
variable {T : Comparison}

/- A step that comes to a value which cannot run. -/
theorem give
    (hT : Stepwise V T)
    {value : Value}
    (hValue : value.IsPlain) :
    T Value V (Pure.pure value) (Pure.pure value) :=
  hT.pure (hT.plain value hValue)

theorem repeatText
    (hT : Stepwise V T)
    (text : String)
    (times : Float) :
    T Value V (Run.repeatText text times)
      (Run.repeatText text times) :=
  hT.ite (hT.throw _)
    (hT.ite (hT.give trivial) (hT.give trivial))

theorem mul
    (hT : Stepwise V T)
    (left right : Value) :
    T Value V (Run.mul left right) (Run.mul left right) := by
  fun_cases Run.mul with
  | case1 => exact hT.repeatText _ _
  | case2 => exact hT.throw _
  | case3 => exact hT.repeatText _ _
  | case4 => exact hT.throw _
  | case5 =>
      exact hT.bind (hT.numbers _ _ _) fun _ _ =>
        hT.give trivial

theorem isIn
    (hT : Stepwise V T)
    (needle container : Value) :
    T Value V (Run.isIn needle container)
      (Run.isIn needle container) := by
  refine hT.bind hT.heap fun heap _ => ?_
  split
  · exact hT.give trivial
  · exact hT.give trivial
  · exact hT.throw _
  · exact hT.throw _

theorem add
    (hT : Stepwise V T)
    (left right : Value) :
    T Value V (Run.add left right) (Run.add left right) := by
  refine hT.bind hT.heap fun heap hHeap => ?_
  split
  · exact hT.give trivial
  · exact hT.give trivial
  case h_3 a b =>
    refine hT.makeList _ fun item hItem => ?_
    rcases Items.mem_join.mp hItem with hItem | hItem
    · exact hHeap a item hItem
    · exact hHeap b item hItem
  · exact hT.bind (hT.numbers _ _ _) fun _ _ =>
      hT.give trivial

theorem unary
    (hT : Stepwise V T)
    (op : UnaryOp)
    (value : Value) :
    T Value V (Run.unary op value) (Run.unary op value) := by
  cases op with
  | not => exact hT.bind hT.heap fun _ _ => hT.give trivial
  | neg =>
      unfold Run.unary
      dsimp only
      split
      · exact hT.give trivial
      · exact hT.throw _

theorem binary
    (hT : Stepwise V T)
    (op : BinaryOp)
    {left right : Value}
    (hLeft : V left)
    (hRight : V right) :
    T Value V (Run.binary op left right)
      (Run.binary op left right) := by
  cases op with
  | or =>
      refine hT.bind hT.heap fun heap _ => hT.pure ?_
      split
      · exact hLeft
      · exact hRight
  | and =>
      refine hT.bind hT.heap fun heap _ => hT.pure ?_
      split
      · exact hRight
      · exact hLeft
  | equal | notEqual =>
      exact hT.bind hT.heap fun _ _ => hT.give trivial
  | less | greater | lessEqual | greaterEqual =>
      exact hT.bind (hT.compare _ _) fun _ _ =>
        hT.give trivial
  | isIn => exact hT.isIn left right
  | add => exact hT.add left right
  | mul => exact hT.mul left right
  | sub =>
      exact hT.bind (hT.numbers _ _ _) fun _ _ =>
        hT.give trivial
  | div | floorDiv | mod =>
      exact hT.bind (hT.numbers _ _ _) fun _ _ =>
        hT.bind (hT.divisor _ _) fun _ _ => hT.give trivial

theorem index
    (hT : Stepwise V T)
    (object key : Value) :
    T Value V (Run.index object key)
      (Run.index object key) := by
  unfold Run.index
  split
  case h_1 ref =>
    refine hT.bind hT.heap fun _ _ => ?_
    refine hT.bind (hT.slot _ _) fun place _ => ?_
    refine hT.bind hT.heap fun heap hHeap => hT.pure ?_
    cases hItem : heap.item? ref place with
    | none => exact hT.plain _ trivial
    | some item => exact hHeap.item? hItem
  case h_2 =>
    exact hT.bind (hT.slot _ _) fun _ _ => hT.give trivial
  case h_3 => exact hT.throw _

theorem setIndex
    (hT : Stepwise V T)
    (object key : Value)
    {value : Value}
    (hValue : V value) :
    T Unit (fun _ => True) (Run.setIndex object key value)
      (Run.setIndex object key value) := by
  unfold Run.setIndex
  split
  case h_1 ref =>
    refine hT.bind hT.heap fun _ _ => ?_
    refine hT.bind (hT.slot _ _) fun place _ => ?_
    exact hT.setItem ref place value hValue
  case h_2 => exact hT.throw _

theorem attr
    (hT : Stepwise V T)
    (object : Value)
    (name : String) :
    T Value V (Run.attr object name)
      (Run.attr object name) := by
  refine hT.bind hT.heap fun heap _ => ?_
  split
  · exact hT.give trivial
  · split
    · exact hT.bind hT.nextSerial fun _ _ => hT.give trivial
    · exact hT.throw _

end Stepwise

end Comparison

end Run

end Gantry

------------------------------------------------------------
-- Built-In Functions And Methods
------------------------------------------------------------

namespace Gantry

namespace Run

namespace Comparison

namespace Sequential

variable {T : Comparison}

theorem oneArgument
    (hT : Sequential T)
    {V : Value → Prop}
    (function : String)
    {args : List Value}
    (hArgs : ∀ arg ∈ args, V arg) :
    T Value V (Run.oneArgument function args)
      (Run.oneArgument function args) := by
  unfold Run.oneArgument
  split
  · exact hT.pure (hArgs _ List.mem_cons_self)
  · exact hT.throw _

theorem noArgument
    (hT : Sequential T)
    (function : String)
    (args : List Value) :
    T Unit (fun _ => True) (Run.noArgument function args)
      (Run.noArgument function args) := by
  unfold Run.noArgument
  split
  · exact hT.pure trivial
  · exact hT.throw _

theorem numberArgument
    (hT : Sequential T)
    (function : String)
    (value : Value) :
    T Float (fun _ => True)
      (Run.numberArgument function value)
      (Run.numberArgument function value) := by
  unfold Run.numberArgument
  split
  · exact hT.pure trivial
  · exact hT.throw _

theorem bestOf
    (hT : Sequential T)
    {V : Value → Prop}
    (better : Ordering) :
    {best : Value} →
    V best →
    (candidates : List Value) →
    (∀ candidate ∈ candidates, V candidate) →
    T Value V (Run.bestOf better best candidates)
      (Run.bestOf better best candidates)
| _, hBest, [], _ => hT.pure hBest
| _, hBest, candidate :: rest, hAll => by
    rw [List.forall_mem_cons] at hAll
    refine hT.bind (hT.compare _ _) fun _ _ => ?_
    exact hT.ite (hT.bestOf better hAll.1 rest hAll.2)
      (hT.bestOf better hBest rest hAll.2)

end Sequential

namespace Stepwise

variable {V : Value → Prop}
variable {T : Comparison}

theorem rangeOf
    (hT : Stepwise V T)
    (start stop step : Float) :
    T Value V (Run.rangeOf start stop step)
      (Run.rangeOf start stop step) := by
  refine hT.ite (hT.throw _) ?_
  refine hT.ite (hT.throw _) ?_
  refine hT.ite (hT.throw _) ?_
  refine hT.makeList _ fun item hItem => hT.plain item ?_
  rcases Array.mem_ofFn.mp hItem with ⟨place, rfl⟩
  trivial

theorem range
    (hT : Stepwise V T)
    (args : List Value) :
    T Value V (Run.range args) (Run.range args) := by
  refine hT.bind
    (hT.mapM (hT.numberArgument "range") args)
    fun numbers _ => ?_
  split
  · exact hT.rangeOf _ _ _
  · exact hT.rangeOf _ _ _
  · exact hT.rangeOf _ _ _
  · exact hT.throw _

theorem toInteger
    (hT : Stepwise V T)
    (value : Value) :
    T Value V (Run.toInteger value)
      (Run.toInteger value) := by
  unfold Run.toInteger
  split
  · split
    · exact hT.give trivial
    · exact hT.bind hT.heap fun _ _ => hT.throw _
  · split
    · exact hT.ite (hT.give trivial) (hT.throw _)
    · exact hT.throw _

theorem toFloat
    (hT : Stepwise V T)
    (value : Value) :
    T Value V (Run.toFloat value) (Run.toFloat value) := by
  unfold Run.toFloat
  split
  · split
    · exact hT.give trivial
    · exact hT.bind hT.heap fun _ _ => hT.throw _
  · split
    · exact hT.give trivial
    · exact hT.throw _

theorem extremum
    (hT : Stepwise V T)
    (function : String)
    (better : Ordering)
    {args : List Value}
    (hArgs : ∀ arg ∈ args, V arg) :
    T Value V (Run.extremum function better args)
      (Run.extremum function better args) := by
  refine hT.bind hT.heap fun heap hHeap => ?_
  have hAll :
      ∀ candidate ∈ candidates heap args, V candidate := by
    unfold candidates
    split
    case h_1 ref =>
      exact fun item hItem =>
        hHeap ref item (Array.mem_toList_iff.mp hItem)
    case h_2 => exact hArgs
  split
  · exact hT.throw _
  case h_2 first rest hSome =>
    rw [hSome, List.forall_mem_cons] at hAll
    exact hT.bestOf better hAll.1 rest hAll.2

/- The only built-in function that sees the stage. -/
theorem callLook
    (hT : Stepwise V T)
    {first second : Stage}
    (hLook :
      T String (fun _ => True)
        (do return (← get).look first)
        (do return (← get).look second))
    (args : List Value) :
    T Value V (Run.callBuiltin first .look args)
      (Run.callBuiltin second .look args) := by
  have hSeen (stage : Stage) :
      Run.callBuiltin stage .look args = do
        noArgument "look" args
        let seen ← (do return (← get).look stage)
        return .str seen := rfl
  rw [hSeen, hSeen]
  refine hT.bind (hT.noArgument _ _) fun _ _ => ?_
  exact hT.bind hLook fun _ _ => hT.give trivial

theorem callBuiltin
    (hT : Stepwise V T)
    {first second : Stage}
    {function : Builtin}
    (hLook :
      function = .look →
        T String (fun _ => True)
          (do return (← get).look first)
          (do return (← get).look second))
    {args : List Value}
    (hArgs : ∀ arg ∈ args, V arg) :
    T Value V (Run.callBuiltin first function args)
      (Run.callBuiltin second function args) := by
  cases function with
  | print =>
      exact hT.bind hT.heap fun _ _ =>
        hT.bind (hT.printLine _) fun _ _ => hT.give trivial
  | range => exact hT.range args
  | len =>
      refine hT.bind (hT.oneArgument _ hArgs)
        fun value _ => ?_
      refine hT.bind hT.heap fun heap _ => ?_
      split
      · exact hT.give trivial
      · exact hT.throw _
  | int =>
      exact hT.bind (hT.oneArgument _ hArgs) fun value _ =>
        hT.toInteger value
  | float =>
      exact hT.bind (hT.oneArgument _ hArgs) fun value _ =>
        hT.toFloat value
  | str =>
      exact hT.bind (hT.oneArgument _ hArgs) fun _ _ =>
        hT.bind hT.heap fun _ _ => hT.give trivial
  | abs =>
      exact hT.bind (hT.oneArgument _ hArgs) fun _ _ =>
        hT.bind (hT.numberArgument _ _) fun _ _ =>
          hT.give trivial
  | min => exact hT.extremum _ _ hArgs
  | max => exact hT.extremum _ _ hArgs
  | input => exact hT.give trivial
  | look => exact hT.callLook (hLook rfl) args
  | crane verb =>
      cases verb with
      | placeBlock =>
          exact hT.bind hT.heap fun _ _ =>
            hT.bind (hT.record _) fun _ _ => hT.give trivial
      | _ =>
          exact hT.bind (hT.record _) fun _ _ =>
            hT.give trivial

theorem callMethod
    (hT : Stepwise V T)
    (method : Method)
    (receiver : Value)
    {args : List Value}
    (hArgs : ∀ arg ∈ args, V arg) :
    T Value V (Run.callMethod method receiver args)
      (Run.callMethod method receiver args) := by
  unfold Run.callMethod
  split
  case h_1 ref =>
    refine hT.bind (hT.oneArgument _ hArgs)
      fun item hItem => ?_
    exact hT.bind (hT.append ref item hItem) fun _ _ =>
      hT.give trivial
  case h_5 => exact hT.throw _
  all_goals
    exact hT.bind (hT.noArgument _ _) fun _ _ =>
      hT.give trivial

theorem itemAt?
    (hT : Stepwise V T)
    (ref place : Nat) :
    T (Option Value)
      (fun found =>
        ∀ item : Value, found = some item → V item)
      (Run.itemAt? ref place) (Run.itemAt? ref place) :=
  hT.bind hT.heap fun _ hHeap =>
    hT.pure fun _ hItem => hHeap.item? hItem

end Stepwise

end Comparison

end Run

end Gantry

------------------------------------------------------------
-- Expressions
------------------------------------------------------------

namespace Gantry

namespace Run

namespace Comparison

namespace Evaluating

variable {first second : Stage}
variable {firstEnter secondEnter : Enter}
variable {names : String → Prop}
variable {V : Value → Prop}
variable {T : Comparison}

theorem call
    (hT :
      Evaluating first second firstEnter secondEnter names V
        T)
    {callee : Value}
    {args : List Value}
    (hCallee : V callee)
    (hArgs : ∀ arg ∈ args, V arg) :
    T Value V (Run.call first firstEnter callee args)
      (Run.call second secondEnter callee args) := by
  cases callee with
  | function closure => exact hT.enter closure args hCallee hArgs
  | builtin function =>
      refine hT.callBuiltin (fun hLook => hT.look ?_) hArgs
      rwa [← hLook]
  | method serial receiver method =>
      exact hT.callMethod method receiver hArgs
  | _ => exact hT.throw _

mutual

/- The comparison holds for every expression. -/
theorem expr
    (hT :
      Evaluating first second firstEnter secondEnter names V
        T)
    (scopes : Scopes) :
    (tree : Expr) →
    tree.Asks names →
    T Value V (Run.expr first firstEnter scopes tree)
      (Run.expr second secondEnter scopes tree)
| .literal value _, _ => by
    rw [Run.expr, Run.expr]
    cases value <;> exact hT.give trivial
| .name word _, hAsks => by
    rw [Run.expr, Run.expr]
    exact hT.lookup scopes word
      (hAsks word List.mem_cons_self)
| .list items _, hAsks => by
    rw [Run.expr, Run.expr]
    refine hT.bind (hT.exprs scopes items hAsks)
      fun values hValues => ?_
    exact hT.makeList _ fun item hItem =>
      hValues item (by simpa [Items.toArray] using hItem)
| .unary op operand _, hAsks => by
    rw [Run.expr, Run.expr]
    refine hT.bind (hT.expr scopes operand hAsks)
      fun value _ => ?_
    exact hT.unary op value
| .binary op left right _, hAsks => by
    rw [Expr.Asks, Expr.names, List.forall_mem_append]
      at hAsks
    rw [Run.expr, Run.expr]
    refine hT.bind (hT.expr scopes left hAsks.1)
      fun value hValue => ?_
    refine hT.bind hT.heap fun heap _ => ?_
    refine hT.ite (hT.pure hValue) ?_
    refine hT.bind (hT.expr scopes right hAsks.2)
      fun other hOther => ?_
    exact hT.ite (hT.pure hOther)
      (hT.binary op hValue hOther)
| .call callee args _, hAsks => by
    rw [Expr.Asks, Expr.names, List.forall_mem_append]
      at hAsks
    rw [Run.expr, Run.expr]
    refine hT.bind (hT.expr scopes callee hAsks.1)
      fun function hFunction => ?_
    refine hT.bind (hT.exprs scopes args hAsks.2)
      fun values hValues => ?_
    exact hT.call hFunction hValues
| .index object key _, hAsks => by
    rw [Expr.Asks, Expr.names, List.forall_mem_append]
      at hAsks
    rw [Run.expr, Run.expr]
    refine hT.bind (hT.expr scopes object hAsks.1)
      fun container _ => ?_
    refine hT.bind (hT.expr scopes key hAsks.2)
      fun place _ => ?_
    exact hT.index container place
| .attr object field _, hAsks => by
    rw [Run.expr, Run.expr]
    refine hT.bind (hT.expr scopes object hAsks)
      fun receiver _ => ?_
    exact hT.attr receiver field.name

theorem exprs
    (hT :
      Evaluating first second firstEnter secondEnter names V
        T)
    (scopes : Scopes) :
    (trees : List Expr) →
    (∀ word ∈ Expr.listNames trees, names word) →
    T (List Value) (fun values => ∀ value ∈ values, V value)
      (Run.exprs first firstEnter scopes trees)
      (Run.exprs second secondEnter scopes trees)
| [], _ => by
    rw [Run.exprs, Run.exprs]
    exact hT.pure (by simp)
| tree :: trees, hAsks => by
    rw [Expr.listNames, List.forall_mem_append] at hAsks
    rw [Run.exprs, Run.exprs]
    refine hT.bind (hT.expr scopes tree hAsks.1)
      fun value hValue => ?_
    refine hT.bind (hT.exprs scopes trees hAsks.2)
      fun values hValues => ?_
    exact hT.pure (List.forall_mem_cons.mpr ⟨hValue, hValues⟩)

end

theorem truth
    (hT :
      Evaluating first second firstEnter secondEnter names V
        T)
    (scopes : Scopes)
    {test : Expr}
    (hTest : test.Asks names) :
    T Bool (fun _ => True)
      (Run.truth first firstEnter scopes test)
      (Run.truth second secondEnter scopes test) :=
  hT.bind (hT.expr scopes test hTest) fun _ _ =>
    hT.bind hT.heap fun _ _ => hT.pure trivial

end Evaluating

end Comparison

end Run

end Gantry

------------------------------------------------------------
-- Loops
------------------------------------------------------------

namespace Gantry

namespace Run

/- A value that a statement hands out has a property. -/
def Flow.All
    (V : Value → Prop) :
    Flow → Prop
| .returned value => V value
| _ => True

namespace Comparison

namespace Sequential

variable {V : Value → Prop}
variable {U : Comparison}

theorem afterBody
    (hU : Sequential U)
    {flow : Flow}
    (hFlow : flow.All V)
    {first second : Run Flow}
    (hGoOn : U Flow (Flow.All V) first second) :
    U Flow (Flow.All V) (Run.afterBody flow first)
      (Run.afterBody flow second) := by
  cases flow with
  | normal => exact hGoOn
  | continueLoop => exact hGoOn
  | breakLoop => exact hU.pure trivial
  | returned value => exact hU.pure hFlow

theorem whileLoop
    (hU : Sequential U)
    {firstTest secondTest : Run Bool}
    {firstBody secondBody : Run Flow}
    {firstLimit secondLimit : Run Unit}
    (hTest : U Bool (fun _ => True) firstTest secondTest)
    (hBody : U Flow (Flow.All V) firstBody secondBody)
    (hLimit : U Unit (fun _ => True) firstLimit secondLimit)
    (rounds : Nat) :
    U Flow (Flow.All V)
      (Run.whileLoop firstTest firstBody firstLimit rounds)
      (Run.whileLoop secondTest secondBody secondLimit
        rounds) := by
  induction rounds with
  | zero =>
      refine hU.bind hTest fun isTrue _ => ?_
      exact hU.ite
        (hU.bind hLimit fun _ _ => hU.pure trivial)
        (hU.pure trivial)
  | succ rounds ih =>
      refine hU.bind hTest fun isTrue _ => ?_
      refine hU.ite ?_ (hU.pure trivial)
      exact hU.bind hBody fun flow hFlow =>
        hU.afterBody hFlow ih

theorem forLoop
    (hU : Sequential U)
    {ref : Nat}
    {firstVisit secondVisit : Value → Run Flow}
    {firstLimit secondLimit : Run Unit}
    (hItem :
      ∀ place,
        U (Option Value)
          (fun found =>
            ∀ item : Value, found = some item → V item)
          (Run.itemAt? ref place) (Run.itemAt? ref place))
    (hVisit :
      ∀ item, V item →
        U Flow (Flow.All V) (firstVisit item)
          (secondVisit item))
    (hLimit : U Unit (fun _ => True) firstLimit secondLimit)
    (rounds : Nat) :
    (place : Nat) →
    U Flow (Flow.All V)
      (Run.forLoop ref firstVisit firstLimit rounds place)
      (Run.forLoop ref secondVisit secondLimit rounds
        place) := by
  induction rounds with
  | zero =>
      intro place
      refine hU.bind (hItem place) fun found _ => ?_
      exact hU.ite
        (hU.bind hLimit fun _ _ => hU.pure trivial)
        (hU.pure trivial)
  | succ rounds ih =>
      intro place
      refine hU.bind (hItem place) fun found hFound => ?_
      cases found with
      | none => exact hU.pure trivial
      | some item =>
          refine hU.bind (hVisit item (hFound item rfl))
            fun flow hFlow => ?_
          exact hU.afterBody hFlow (ih (place + 1))

end Sequential

end Comparison

end Run

end Gantry

------------------------------------------------------------
-- Statements
------------------------------------------------------------

namespace Gantry

namespace Run

namespace Comparison

namespace Executing

variable {first second : Stage}
variable {firstEnter secondEnter : Enter}
variable {names : String → Prop}
variable {V : Value → Prop}
variable {T U : Comparison}
variable {scopes : Scopes}

theorem warnLimit
    (hU :
      Executing first second firstEnter secondEnter names V
        T scopes U)
    (span : Span) :
    U Unit (fun _ => True) (Run.warnLimit first span)
      (Run.warnLimit second span) := by
  unfold Run.warnLimit
  rw [hU.limits]
  exact hU.warn _

theorem defineFunction
    (hU :
      Executing first second firstEnter secondEnter names V
        T scopes U)
    (name : Ident)
    (params : List Ident)
    {body : Block}
    (hBody : Expr.AllAsk names body.expressions) :
    U Unit (fun _ => True)
      (Run.defineFunction scopes name params body)
      (Run.defineFunction scopes name params body) :=
  hU.bind (hU.lift hU.expressions.nextSerial) fun _ _ =>
    hU.define _ _ (hU.function _ hBody)

theorem evaluated
    (hU :
      Executing first second firstEnter secondEnter names V
        T scopes U)
    {tree : Expr}
    (hTree : tree.Asks names) :
    U Value V (Run.expr first firstEnter scopes tree)
      (Run.expr second secondEnter scopes tree) :=
  hU.lift (hU.expressions.expr scopes tree hTree)

theorem tested
    (hU :
      Executing first second firstEnter secondEnter names V
        T scopes U)
    {test : Expr}
    (hTest : test.Asks names) :
    U Bool (fun _ => True)
      (Run.truth first firstEnter scopes test)
      (Run.truth second secondEnter scopes test) :=
  hU.lift (hU.expressions.truth scopes hTest)

mutual

/- The comparison holds for every statement. -/
theorem stmt
    (hU :
      Executing first second firstEnter secondEnter names V
        T scopes U) :
    (tree : Stmt) →
    Expr.AllAsk names tree.expressions →
    U Flow (Flow.All V)
      (Run.stmt first firstEnter scopes tree)
      (Run.stmt second secondEnter scopes tree)
| .assign target value span, hAsk => by
    rw [Stmt.expressions, Expr.allAsk_cons] at hAsk
    rw [Run.stmt, Run.stmt]
    refine hU.bind (hU.begin span) fun _ _ => ?_
    refine hU.bind (hU.evaluated hAsk.1)
      fun result hResult => ?_
    exact hU.bind (hU.define _ _ hResult) fun _ _ =>
      hU.pure trivial
| .setIndex object key value span, hAsk => by
    rw [Stmt.expressions, Expr.allAsk_cons, Expr.allAsk_cons,
      Expr.Asks, Expr.names, List.forall_mem_append] at hAsk
    rcases hAsk with ⟨⟨hObject, hKey⟩, hValue, _⟩
    rw [Run.stmt, Run.stmt]
    refine hU.bind (hU.begin span) fun _ _ => ?_
    refine hU.bind (hU.evaluated hObject)
      fun container _ => ?_
    refine hU.bind (hU.evaluated hKey) fun place _ => ?_
    refine hU.bind (hU.evaluated hValue)
      fun item hItem => ?_
    exact hU.bind
      (hU.lift (hU.expressions.setIndex _ _ hItem))
      fun _ _ => hU.pure trivial
| .branch test body elifs orElse span, hAsk => by
    rw [Stmt.expressions, Expr.allAsk_cons,
      Expr.allAsk_append, Expr.allAsk_append] at hAsk
    rcases hAsk with ⟨hTest, hBody, hElifs, hElse⟩
    rw [Run.stmt, Run.stmt]
    refine hU.bind (hU.begin span) fun _ _ => ?_
    refine hU.bind (hU.tested hTest) fun _ _ => ?_
    refine hU.ite (hU.block body hBody) ?_
    refine hU.bind (hU.elifClauses elifs hElifs)
      fun taken hTaken => ?_
    cases taken with
    | some flow => exact hU.pure (hTaken flow rfl)
    | none => exact hU.elseClause orElse hElse
| .forLoop target iterable body span, hAsk => by
    rw [Stmt.expressions, Expr.allAsk_cons] at hAsk
    rw [Run.stmt, Run.stmt]
    refine hU.bind (hU.begin span) fun _ _ => ?_
    refine hU.bind (hU.evaluated hAsk.1) fun value _ => ?_
    cases value with
    | list ref =>
        rw [hU.limits]
        refine hU.forLoop
          (fun place =>
            hU.lift (hU.expressions.itemAt? ref place))
          (fun item hItem => ?_) (hU.warnLimit span) _ 0
        exact hU.bind (hU.define _ _ hItem) fun _ _ =>
          hU.block body hAsk.2
    | _ => exact hU.throw _
| .whileLoop test body span, hAsk => by
    rw [Stmt.expressions, Expr.allAsk_cons] at hAsk
    rw [Run.stmt, Run.stmt, hU.limits]
    refine hU.bind (hU.begin span) fun _ _ => ?_
    exact hU.whileLoop (hU.tested hAsk.1)
      (hU.block body hAsk.2) (hU.warnLimit span) _
| .define name params body span, hAsk => by
    rw [Stmt.expressions] at hAsk
    rw [Run.stmt, Run.stmt]
    refine hU.bind (hU.begin span) fun _ _ => ?_
    exact hU.bind (hU.defineFunction name params hAsk)
      fun _ _ => hU.pure trivial
| .returnValue none span, _ => by
    rw [Run.stmt, Run.stmt]
    exact hU.bind (hU.begin span) fun _ _ =>
      hU.pure (hU.expressions.plain _ trivial)
| .returnValue (some result) span, hAsk => by
    rw [Stmt.expressions, Option.toList_some,
      Expr.allAsk_cons] at hAsk
    rw [Run.stmt, Run.stmt]
    refine hU.bind (hU.begin span) fun _ _ => ?_
    exact hU.bind (hU.evaluated hAsk.1) fun _ hValue =>
      hU.pure hValue
| .breakLoop span, _ => by
    rw [Run.stmt, Run.stmt]
    exact hU.bind (hU.begin span) fun _ _ => hU.pure trivial
| .continueLoop span, _ => by
    rw [Run.stmt, Run.stmt]
    exact hU.bind (hU.begin span) fun _ _ => hU.pure trivial
| .pass span, _ => by
    rw [Run.stmt, Run.stmt]
    exact hU.bind (hU.begin span) fun _ _ => hU.pure trivial
| .expr value span, hAsk => by
    rw [Stmt.expressions, Expr.allAsk_cons] at hAsk
    rw [Run.stmt, Run.stmt]
    refine hU.bind (hU.begin span) fun _ _ => ?_
    exact hU.bind (hU.evaluated hAsk.1) fun _ _ =>
      hU.pure trivial

theorem block
    (hU :
      Executing first second firstEnter secondEnter names V
        T scopes U) :
    (body : Block) →
    Expr.AllAsk names body.expressions →
    U Flow (Flow.All V)
      (Run.block first firstEnter scopes body)
      (Run.block second secondEnter scopes body)
| .mk body _, hAsk => by
    rw [Block.expressions] at hAsk
    rw [Run.block, Run.block]
    exact hU.stmts body hAsk

theorem stmts
    (hU :
      Executing first second firstEnter secondEnter names V
        T scopes U) :
    (trees : List Stmt) →
    Expr.AllAsk names (Stmt.listExpressions trees) →
    U Flow (Flow.All V)
      (Run.stmts first firstEnter scopes trees)
      (Run.stmts second secondEnter scopes trees)
| [], _ => by
    rw [Run.stmts, Run.stmts]
    exact hU.pure trivial
| tree :: trees, hAsk => by
    rw [Stmt.listExpressions, Expr.allAsk_append] at hAsk
    rw [Run.stmts, Run.stmts]
    refine hU.bind (hU.stmt tree hAsk.1) fun flow hFlow => ?_
    cases flow with
    | normal => exact hU.stmts trees hAsk.2
    | _ => exact hU.pure hFlow

theorem elifClauses
    (hU :
      Executing first second firstEnter secondEnter names V
        T scopes U) :
    (clauses : List Elif) →
    Expr.AllAsk names (Elif.listExpressions clauses) →
    U (Option Flow)
      (fun taken =>
        ∀ flow : Flow, taken = some flow → flow.All V)
      (Run.elifClauses first firstEnter scopes clauses)
      (Run.elifClauses second secondEnter scopes clauses)
| [], _ => by
    rw [Run.elifClauses, Run.elifClauses]
    exact hU.pure (by simp)
| .mk test body _ :: clauses, hAsk => by
    rw [Elif.listExpressions, Expr.allAsk_append,
      Elif.expressions, Expr.allAsk_cons] at hAsk
    rcases hAsk with ⟨⟨hTest, hBody⟩, hClauses⟩
    rw [Run.elifClauses, Run.elifClauses]
    refine hU.bind (hU.tested hTest) fun _ _ => ?_
    refine hU.ite ?_ (hU.elifClauses clauses hClauses)
    refine hU.bind (hU.block body hBody)
      fun flow hFlow => hU.pure ?_
    rintro _ ⟨⟩
    exact hFlow

theorem elseClause
    (hU :
      Executing first second firstEnter secondEnter names V
        T scopes U) :
    (orElse : Option Block) →
    Expr.AllAsk names (Block.elseExpressions orElse) →
    U Flow (Flow.All V)
      (Run.elseClause first firstEnter scopes orElse)
      (Run.elseClause second secondEnter scopes orElse)
| none, _ => by
    rw [Run.elseClause, Run.elseClause]
    exact hU.pure trivial
| some body, hAsk => by
    rw [Block.elseExpressions] at hAsk
    rw [Run.elseClause, Run.elseClause]
    exact hU.block body hAsk

end

end Executing

end Comparison

end Run

end Gantry

------------------------------------------------------------
-- Scripts
------------------------------------------------------------

namespace Gantry

namespace Run

/- A script, with a way to call its functions. -/
def script
    (stage : Stage)
    (enter : Enter) :
    List Stmt → Run Unit
| [] => return ()
| first :: rest => do
    let _ ← stmt stage enter Machine.globals first
    script stage enter rest

theorem script_enterFirst
    (stage : Stage)
    (body : List Stmt) :
    script stage (enterFirst stage) body =
      Machine.topLevel stage body := by
  induction body with
  | nil => rfl
  | cons first rest ih =>
      rw [script, Machine.topLevel, ih]

/- The comparison holds for every script. -/
theorem Comparison.Executing.script
    {first second : Stage}
    {firstEnter secondEnter : Enter}
    {names : String → Prop}
    {V : Value → Prop}
    {T U : Comparison}
    (hU :
      Executing first second firstEnter secondEnter names V
        T Machine.globals U) :
    (trees : List Stmt) →
    Expr.AllAsk names (Stmt.listExpressions trees) →
    U Unit (fun _ => True)
      (Run.script first firstEnter trees)
      (Run.script second secondEnter trees)
| [], _ => hU.pure trivial
| tree :: trees, hAsk => by
    rw [Stmt.listExpressions, Expr.allAsk_append] at hAsk
    rw [Run.script, Run.script]
    refine hU.bind (hU.stmt tree hAsk.1) fun _ _ => ?_
    exact hU.script trees hAsk.2

end Run

end Gantry
