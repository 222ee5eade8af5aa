import Gantry.Proofs.Machine.Invariant

/-
  This file evaluates scripts without any bound on the
  recursion. A function's body is run when the function is
  called, a loop goes around for as long as its test holds,
  and lists are written and compared item by item. The only
  checks are those that belong to the language: the number
  of calls in progress is compared with the limit when a
  function is called, and the rounds of a loop are counted
  up to the limit.

  To evaluate something, further evaluations are asked for,
  and nothing says that this comes to an end. When it does,
  the evaluations that were begun are counted.

  Key definitions include:
    * `Gantry.Job`
    * `Gantry.Course`
    * `Gantry.Attempt`
    * `Gantry.Job.course`
    * `Gantry.Course.Ends`
    * `Gantry.Course.evaluate`

  Main statements:
    * `Gantry.Course.Ends.unique`
    * `Gantry.Course.Ends.bind`
-/

------------------------------------------------------------
-- Courses
------------------------------------------------------------

namespace Gantry

/-
  Something to evaluate. Values are written inside of the
  lists around them, and compared inside of pairs of lists;
  a loop has so many rounds behind it.
-/
inductive Job where
  | expr (scopes : Scopes) (tree : Expr)
      (machine : Machine)
  | enter (closure : Closure) (args : List Value)
      (machine : Machine)
  | stmt (scopes : Scopes) (tree : Stmt)
      (machine : Machine)
  | whileFrom (scopes : Scopes) (test : Expr)
      (body : Block) (span : Span) (rounds : Nat)
      (machine : Machine)
  | forFrom (scopes : Scopes) (target : Ident) (ref : Nat)
      (body : Block) (span : Span) (place : Nat)
      (machine : Machine)
  | write (heap : Heap) (around : List Nat) (quoted : Bool)
      (value : Value)
  | equal (heap : Heap) (around : List (Nat × Nat))
      (left right : Value)

/- What comes out of evaluating it. -/
def Job.Answer :
    Job → Type
| .expr _ _ _ => Except RuntimeFault Value × Machine
| .enter _ _ _ => Except RuntimeFault Value × Machine
| .stmt _ _ _ => Except RuntimeFault Run.Flow × Machine
| .whileFrom _ _ _ _ _ _ =>
    Except RuntimeFault Run.Flow × Machine
| .forFrom _ _ _ _ _ _ _ =>
    Except RuntimeFault Run.Flow × Machine
| .write _ _ _ _ => String
| .equal _ _ _ _ => Bool

/-
  A course of evaluation: it is done, or it asks for a job
  and goes on with the answer.
-/
inductive Course (α : Type) where
  | done (value : α)
  | ask (job : Job) (rest : job.Answer → Course α)

namespace Course

variable {α β : Type}

/- Go on with what a course comes to. -/
def andThen :
    Course α → (α → Course β) → Course β
| done value, next => next value
| ask job rest, next =>
    ask job fun answer => (rest answer).andThen next

instance : Monad Course where
  pure := done
  bind := andThen

theorem andThen_done :
    (course : Course α) →
    course.andThen done = course
| done _ => rfl
| ask job rest => by
    rw [andThen]
    congr
    funext answer
    exact andThen_done (rest answer)

theorem andThen_andThen
    {γ : Type}
    (next : α → Course β)
    (last : β → Course γ) :
    (course : Course α) →
    (course.andThen next).andThen last =
      course.andThen fun value => (next value).andThen last
| done _ => rfl
| ask job rest => by
    rw [andThen, andThen, andThen]
    congr
    funext answer
    exact andThen_andThen next last (rest answer)

instance : LawfulMonad Course :=
  LawfulMonad.mk' Course
    andThen_done
    (fun _ _ => rfl)
    (fun course next last =>
      andThen_andThen next last course)

/- Ask for one job. -/
def answer
    (job : Job) : Course job.Answer :=
  ask job done

/- Ask for a value to be written. -/
def write
    (heap : Heap)
    (around : List Nat)
    (quoted : Bool)
    (value : Value) : Course String :=
  answer (.write heap around quoted value)

/- A value as it is printed. -/
def display
    (heap : Heap)
    (value : Value) : Course String :=
  write heap [] false value

/- Ask for two values to be compared. -/
def equal
    (heap : Heap)
    (around : List (Nat × Nat))
    (left right : Value) : Course Bool :=
  answer (.equal heap around left right)

/-
  How a value is written. A list is opened unless it is one
  of those around it.
-/
def writing
    (heap : Heap)
    (around : List Nat)
    (quoted : Bool)
    (value : Value) : Course String := do
  match value with
  | .list ref =>
      if ref ∈ around then
        return Value.leafText quoted value
      else
        let items ←
          (heap.items ref).toList.mapM
            (write heap (ref :: around) true)
        return "[" ++ ", ".intercalate items ++ "]"
  | _ => return Value.leafText quoted value

/-
  How values are compared. A pair of lists is opened unless
  it is one of those around it.
-/
def comparing
    (heap : Heap)
    (around : List (Nat × Nat))
    (left right : Value) : Course Bool := do
  match left, right with
  | .list a, .list b =>
      if a = b ∨ (a, b) ∈ around then
        return true
      else if heap.size a = heap.size b then
        let pairs :=
          (heap.items a).toList.zip (heap.items b).toList
        pairs.allM fun pair =>
          equal heap ((a, b) :: around) pair.1 pair.2
      else
        return false
  | _, _ => return Value.leafEqual left right

/- A value is equal to one of the items of a list. -/
def isItem
    (heap : Heap)
    (needle : Value)
    (ref : Nat) : Course Bool :=
  (heap.items ref).toList.anyM (equal heap [] · needle)

/- What some values are printed as. -/
def displays
    (heap : Heap)
    (args : List Value) : Course (List String) :=
  args.mapM (display heap)

/- The kind of block that an argument asks for. -/
def blockKind
    (heap : Heap)
    (args : List Value) : Course String :=
  match args with
  | [] => return standardSupply
  | .none :: _ => return standardSupply
  | value :: _ => display heap value

end Course

end Gantry

------------------------------------------------------------
-- Attempts
------------------------------------------------------------

namespace Gantry

/- A piece of a script that may go on for ever. -/
abbrev Attempt (α : Type) :=
  ExceptT RuntimeFault (StateT Machine Course) α

namespace Attempt

open Run (Flow)

variable {α : Type}

/- How an attempt goes from a machine on. -/
def on
    (attempt : Attempt α)
    (machine : Machine) :
    Course (Except RuntimeFault α × Machine) :=
  attempt.run.run machine

/- A piece of a script that is known to end. -/
def ofRun
    (run : Run α) : Attempt α :=
  ExceptT.mk fun machine => pure (run.on machine)

instance : MonadLift Run Attempt := ⟨ofRun⟩

/- The lists of the script. -/
def heap : Attempt Heap :=
  ofRun Run.heap

/- The calls in progress. -/
def depth : Attempt Nat :=
  ofRun do return (← get).depth

/- Ask for an expression to be evaluated. -/
def expr
    (scopes : Scopes)
    (tree : Expr) : Attempt Value :=
  ExceptT.mk fun machine =>
    Course.answer (.expr scopes tree machine)

/- Ask for a script's function to be called. -/
def enter
    (closure : Closure)
    (args : List Value) : Attempt Value :=
  ExceptT.mk fun machine =>
    Course.answer (.enter closure args machine)

/- Ask for a statement to be run. -/
def stmt
    (scopes : Scopes)
    (tree : Stmt) : Attempt Flow :=
  ExceptT.mk fun machine =>
    Course.answer (.stmt scopes tree machine)

/- Ask for a loop to go on. -/
def whileFrom
    (scopes : Scopes)
    (test : Expr)
    (body : Block)
    (span : Span)
    (rounds : Nat) : Attempt Flow :=
  ExceptT.mk fun machine =>
    Course.answer
      (.whileFrom scopes test body span rounds machine)

/- Ask for a walk through a list to go on. -/
def forFrom
    (scopes : Scopes)
    (target : Ident)
    (ref : Nat)
    (body : Block)
    (span : Span)
    (place : Nat) : Attempt Flow :=
  ExceptT.mk fun machine =>
    Course.answer
      (.forFrom scopes target ref body span place machine)

end Attempt

end Gantry

------------------------------------------------------------
-- Expressions
------------------------------------------------------------

namespace Gantry

namespace Attempt

/- A value is among the items of a list, or in a text. -/
def isIn
    (needle container : Value) : Attempt Value := do
  match container with
  | .list ref =>
      let heap ← heap
      return .bool (← Course.isItem heap needle ref)
  | _ => Run.isIn needle container

/- A text that holds what two values are printed as. -/
def joinTexts
    (left right : Value) : Attempt Value := do
  let heap ← heap
  let first ← Course.display heap left
  let second ← Course.display heap right
  return .str (first ++ second)

/- A sum. -/
def add
    (left right : Value) : Attempt Value := do
  match left, right with
  | .str _, _ => joinTexts left right
  | _, .str _ => joinTexts left right
  | _, _ => Run.add left right

/- An operator between two values. -/
def binary
    (op : BinaryOp)
    (left right : Value) : Attempt Value := do
  match op with
  | .equal =>
      let heap ← heap
      return .bool (← Course.equal heap [] left right)
  | .notEqual =>
      let heap ← heap
      return .bool !(← Course.equal heap [] left right)
  | .isIn => isIn left right
  | .add => add left right
  | _ => Run.binary op left right

/- Call a built-in function. -/
def callBuiltin
    (stage : Stage)
    (function : Builtin)
    (args : List Value) : Attempt Value := do
  match function with
  | .print =>
      let heap ← heap
      let texts ← Course.displays heap args
      Run.printLine (" ".intercalate texts)
      return .none
  | .str =>
      let value ← Run.oneArgument "str" args
      let heap ← heap
      return .str (← Course.display heap value)
  | .crane .placeBlock =>
      let heap ← heap
      let kind ← Course.blockKind heap args
      Run.record ⟨.placeBlock, some kind⟩
      return .none
  | _ => Run.callBuiltin stage function args

/- Call a value. -/
def call
    (stage : Stage)
    (callee : Value)
    (args : List Value) : Attempt Value := do
  match callee with
  | .function closure => enter closure args
  | .builtin function => callBuiltin stage function args
  | .method _ receiver method =>
      Run.callMethod method receiver args
  | _ => throw (.notCallable callee.typeName)

/- Evaluate expressions from left to right. -/
def exprs
    (scopes : Scopes) :
    List Expr → Attempt (List Value)
| [] => return []
| first :: rest => do
    let value ← expr scopes first
    let values ← exprs scopes rest
    return value :: values

/- How an expression is evaluated. -/
def evaluating
    (stage : Stage)
    (scopes : Scopes) :
    Expr → Attempt Value
| .literal value _ => return Run.literal value
| .name word _ => Run.lookup scopes word
| .list items _ => do
    let values ← exprs scopes items
    Run.makeList (.listed values.toArray)
| .unary op operand _ => do
    let value ← expr scopes operand
    Run.unary op value
| .binary op left right _ => do
    let first ← expr scopes left
    if Run.decidesAlone op (first.isTruthy (← heap)) then
      return first
    else
      let second ← expr scopes right
      if Run.isChoice op then
        return second
      else
        binary op first second
| .call callee args _ => do
    let function ← expr scopes callee
    let values ← exprs scopes args
    call stage function values
| .index object key _ => do
    let container ← expr scopes object
    let place ← expr scopes key
    Run.index container place
| .attr object field _ => do
    let receiver ← expr scopes object
    Run.attr receiver field.name

/- A condition. -/
def truth
    (scopes : Scopes)
    (test : Expr) : Attempt Bool := do
  let value ← expr scopes test
  return value.isTruthy (← heap)

end Attempt

end Gantry

------------------------------------------------------------
-- Statements And Calls
------------------------------------------------------------

namespace Gantry

namespace Attempt

open Run (Flow)

/- Run statements until one of them leaves. -/
def stmts
    (scopes : Scopes) :
    List Stmt → Attempt Flow
| [] => return .normal
| first :: rest => do
    match ← stmt scopes first with
    | .normal => stmts scopes rest
    | flow => return flow

/- Run a block. -/
def block
    (scopes : Scopes)
    (body : Block) : Attempt Flow :=
  stmts scopes body.stmts

/- Run the first clause whose condition holds. -/
def elifClauses
    (scopes : Scopes) :
    List Elif → Attempt (Option Flow)
| [] => return none
| .mk test body _ :: rest => do
    if ← truth scopes test then
      return some (← block scopes body)
    else
      elifClauses scopes rest

/- Run what is left when no condition holds. -/
def elseClause
    (scopes : Scopes) :
    Option Block → Attempt Flow
| none => return .normal
| some body => block scopes body

/- How a statement is run. -/
def running
    (scopes : Scopes) :
    Stmt → Attempt Flow
| .assign target value span => do
    Run.begin span
    let result ← expr scopes value
    Run.define scopes target.name result
    return .normal
| .setIndex object key value span => do
    Run.begin span
    let container ← expr scopes object
    let place ← expr scopes key
    let item ← expr scopes value
    Run.setIndex container place item
    return .normal
| .branch test body elifs orElse span => do
    Run.begin span
    if ← truth scopes test then
      block scopes body
    else
      match ← elifClauses scopes elifs with
      | some flow => return flow
      | none => elseClause scopes orElse
| .forLoop target iterable body span => do
    Run.begin span
    match ← expr scopes iterable with
    | .list ref => forFrom scopes target ref body span 0
    | other => Run.mismatch (.notIterable other.typeName)
| .whileLoop test body span => do
    Run.begin span
    whileFrom scopes test body span 0
| .define name params body span => do
    Run.begin span
    Run.defineFunction scopes name params body
    return .normal
| .returnValue value span => do
    Run.begin span
    match value with
    | some result => return .returned (← expr scopes result)
    | none => return .returned .none
| .breakLoop span => do
    Run.begin span
    return .breakLoop
| .continueLoop span => do
    Run.begin span
    return .continueLoop
| .pass span => do
    Run.begin span
    return .normal
| .expr value span => do
    Run.begin span
    let _ ← expr scopes value
    return .normal

/- How a loop goes on. -/
def looping
    (stage : Stage)
    (scopes : Scopes)
    (test : Expr)
    (body : Block)
    (span : Span)
    (rounds : Nat) : Attempt Flow := do
  if ← truth scopes test then
    if rounds = stage.limits.maxIterations then
      Run.warnLimit stage span
      return .normal
    else
      match ← block scopes body with
      | .breakLoop => return .normal
      | .returned value => return .returned value
      | _ => whileFrom scopes test body span (rounds + 1)
  else
    return .normal

/- How a walk through a list goes on. -/
def visiting
    (stage : Stage)
    (scopes : Scopes)
    (target : Ident)
    (ref : Nat)
    (body : Block)
    (span : Span)
    (place : Nat) : Attempt Flow := do
  match ← Run.itemAt? ref place with
  | none => return .normal
  | some item =>
      if place = stage.limits.maxIterations then
        Run.warnLimit stage span
        return .normal
      else
        Run.define scopes target.name item
        match ← block scopes body with
        | .breakLoop => return .normal
        | .returned value => return .returned value
        | _ =>
            forFrom scopes target ref body span (place + 1)

/-
  Run a function's body as a call, which is over whether or
  not the body succeeds.
-/
def callBody
    (body : Attempt Flow) : Attempt Value := do
  let caller := (← (get : Run Machine)).current
  Run.deepen
  let flow ←
    tryCatch body fun fault => do
      Run.rise
      throw fault
  Run.rise
  Run.begin caller
  return Run.givenBack flow

/- How a script's function is called. -/
def entering
    (stage : Stage)
    (closure : Closure)
    (args : List Value) : Attempt Value := do
  Run.checkArity closure args
  if stage.limits.maxCallDepth ≤ (← depth) then
    throw (.recursionLimit stage.limits.maxCallDepth)
  else
    let scopes ←
      Run.openScope closure.scopes
        (Run.arguments closure.params args [])
    callBody (block scopes closure.body)

/- Run the statements of a script one after another. -/
def topLevel :
    List Stmt → Attempt Unit
| [] => return ()
| first :: rest => do
    let _ ← stmt Machine.globals first
    topLevel rest

end Attempt

/- The course that a job takes. -/
def Job.course
    (stage : Stage) :
    (job : Job) → Course job.Answer
| .expr scopes tree machine =>
    (Attempt.evaluating stage scopes tree).on machine
| .enter closure args machine =>
    (Attempt.entering stage closure args).on machine
| .stmt scopes tree machine =>
    (Attempt.running scopes tree).on machine
| .whileFrom scopes test body span rounds machine =>
    (Attempt.looping stage scopes test body span rounds).on
      machine
| .forFrom scopes target ref body span place machine =>
    (Attempt.visiting stage scopes target ref body span
      place).on machine
| .write heap around quoted value =>
    Course.writing heap around quoted value
| .equal heap around left right =>
    Course.comparing heap around left right

/- The course of a script on a fresh machine. -/
def Course.evaluate
    (program : Program) : Course Evaluation := do
  match ← (Attempt.topLevel program.body).on {} with
  | (.ok _, after) => return ⟨after.transcript, none⟩
  | (.error fault, after) =>
      return ⟨after.transcript, some ⟨fault, after.current⟩⟩

end Gantry

------------------------------------------------------------
-- Courses That End
------------------------------------------------------------

namespace Gantry

namespace Course

variable {α β : Type}
variable {stage : Stage}

/-
  A course ends with a value after so many jobs: those that
  it asks for, and those that these ask for in turn.
-/
inductive Ends
    (stage : Stage) :
    {α : Type} → Course α → Nat → α → Prop where
  | done {α : Type} (value : α) :
      Ends stage (.done value) 0 value
  | ask {α : Type} {job : Job}
      {rest : job.Answer → Course α} {answer : job.Answer}
      {value : α} {inside behind : Nat}
      (hJob : Ends stage (job.course stage) inside answer)
      (hRest : Ends stage (rest answer) behind value) :
      Ends stage (.ask job rest) (inside + behind + 1) value

/- A course has one end at most. -/
theorem Ends.unique
    {course : Course α}
    {steps others : Nat}
    {value other : α}
    (hEnds : course.Ends stage steps value)
    (hOther : course.Ends stage others other) :
    others = steps ∧ other = value := by
  induction hEnds generalizing others with
  | done value =>
      cases hOther
      exact ⟨rfl, rfl⟩
  | ask _ _ ihJob ihRest =>
      cases hOther with
      | ask hJob hRest =>
          rcases ihJob hJob with ⟨rfl, rfl⟩
          rcases ihRest hRest with ⟨rfl, rfl⟩
          exact ⟨rfl, rfl⟩

/- One course behind another. -/
theorem Ends.bind
    {first : Course α}
    {rest : α → Course β}
    {steps more : Nat}
    {value : α}
    {result : β}
    (hFirst : first.Ends stage steps value)
    (hRest : (rest value).Ends stage more result) :
    (first >>= rest).Ends stage (steps + more) result := by
  induction hFirst with
  | done value =>
      rw [Nat.zero_add]
      exact hRest
  | @ask α job next answer value inside behind hJob _ _ ih =>
      have hBehind := ih hRest
      have hSteps :
          inside + behind + 1 + more =
            inside + (behind + more) + 1 := by omega
      rw [hSteps]
      exact .ask hJob hBehind

/- A course ends with the given value. -/
def Returns
    (stage : Stage)
    (course : Course α)
    (value : α) : Prop :=
  ∃ steps, course.Ends stage steps value

namespace Returns

theorem pure
    (value : α) :
    Returns stage (Pure.pure value) value :=
  ⟨0, .done value⟩

theorem bind
    {first : Course α}
    {rest : α → Course β}
    {value : α}
    {result : β}
    (hFirst : Returns stage first value)
    (hRest : Returns stage (rest value) result) :
    Returns stage (first >>= rest) result := by
  rcases hFirst with ⟨steps, hFirst⟩
  rcases hRest with ⟨more, hRest⟩
  exact ⟨steps + more, hFirst.bind hRest⟩

/- A job is answered when its course ends. -/
theorem answer
    {job : Job}
    {value : job.Answer}
    (hJob : Returns stage (job.course stage) value) :
    Returns stage (Course.answer job) value := by
  rcases hJob with ⟨steps, hJob⟩
  exact ⟨steps + 0 + 1, .ask hJob (.done value)⟩

theorem mapM
    {walk : α → Course β}
    {result : α → β} :
    (items : List α) →
    (∀ item ∈ items,
      Returns stage (walk item) (result item)) →
    Returns stage (items.mapM walk) (items.map result)
| [], _ => by
    rw [List.mapM_nil]
    exact pure []
| item :: items, hItems => by
    rw [List.forall_mem_cons] at hItems
    rw [List.mapM_cons]
    refine bind hItems.1 ?_
    refine bind (mapM items hItems.2) ?_
    exact pure (result item :: items.map result)

theorem allM
    {test : α → Course Bool}
    {result : α → Bool} :
    (items : List α) →
    (∀ item ∈ items,
      Returns stage (test item) (result item)) →
    Returns stage (items.allM test) (items.all result)
| [], _ => pure true
| item :: items, hItems => by
    rw [List.forall_mem_cons] at hItems
    refine bind hItems.1 ?_
    cases hResult : result item with
    | false =>
        simp only [List.all_cons, hResult, Bool.false_and]
        exact pure false
    | true =>
        simp only [List.all_cons, hResult, Bool.true_and]
        exact allM items hItems.2

theorem anyM
    {test : α → Course Bool}
    {result : α → Bool} :
    (items : List α) →
    (∀ item ∈ items,
      Returns stage (test item) (result item)) →
    Returns stage (items.anyM test) (items.any result)
| [], _ => pure false
| item :: items, hItems => by
    rw [List.forall_mem_cons] at hItems
    refine bind hItems.1 ?_
    cases hResult : result item with
    | true =>
        simp only [List.any_cons, hResult, Bool.true_or]
        exact pure true
    | false =>
        simp only [List.any_cons, hResult, Bool.false_or]
        exact anyM items hItems.2

end Returns

end Course

end Gantry
