import Gantry.Proofs.Replay.Record

/-
  This file shows that the blocks of a cell behave as a
  stack, whatever gaps there are between them and however far
  down they reach. A command that succeeds puts a block on
  top of the pile ahead, takes the one on top away, or leaves
  the piles alone; a command that fails changes nothing.

  Key definitions include:
    * `Gantry.Pile`
    * `Gantry.Pile.push`
    * `Gantry.World.pile`
    * `Gantry.World.Lists`
    * `Gantry.Command.Applies`
    * `Gantry.Command.Changes`

  Main statements:
    * `Gantry.World.lists_pile`
    * `Gantry.World.pile_put_next`
    * `Gantry.World.pile_clear_top`
    * `Gantry.Yard.exists_perform_iff`
    * `Gantry.Yard.changes_perform`
    * `Gantry.Replay.piles_are_stacks`
-/

------------------------------------------------------------
-- Shelves
------------------------------------------------------------

namespace Gantry

namespace Shelf

variable {α : Type}
variable {way : Way}
variable {shelf : Shelf α}
variable {key other : Int}

theorem mem_of_get?
    {value : α}
    (hValue : get? key shelf = some value) :
    (key, value) ∈ shelf := by
  induction shelf with
  | nil => cases hValue
  | cons first rest ih =>
      unfold get? at hValue
      split at hValue
      case isTrue hSame =>
        cases hValue
        rw [← hSame]
        exact List.mem_cons_self
      case isFalse =>
        exact List.mem_cons_of_mem first (ih hValue)

/- Nothing is under a number before all others. -/
theorem get?_of_before
    (hBefore : ∀ entry ∈ shelf, way.Before key entry.1) :
    get? key shelf = none := by
  cases hValue : get? key shelf with
  | none => rfl
  | some value =>
      have hSelf := hBefore _ (mem_of_get? hValue)
      cases way with
      | up => exact absurd hSelf (Int.lt_irrefl key)
      | down => exact absurd hSelf (Int.lt_irrefl key)

/- In an ordered shelf everything is found. -/
theorem get?_eq_some_iff
    (hShelf : Ordered way shelf)
    {value : α} :
    get? key shelf = some value ↔ (key, value) ∈ shelf := by
  refine ⟨mem_of_get?, fun hMem => ?_⟩
  induction shelf with
  | nil => cases hMem
  | cons first rest ih =>
      rcases List.pairwise_cons.mp hShelf with
        ⟨hFirst, hRest⟩
      unfold get?
      rcases List.mem_cons.mp hMem with rfl | hMem
      · exact if_pos rfl
      · have hFound := ih hRest hMem
        split
        case isTrue hSame =>
          rw [hSame] at hFirst
          rw [get?_of_before hFirst] at hFound
          cases hFound
        case isFalse => exact hFound

theorem get?_front_of_ne
    (hOther : other ≠ key)
    (value? : Option α) :
    get? other (front key value? shelf) =
      get? other shelf := by
  cases value? with
  | none => rfl
  | some value => exact if_neg (Ne.symm hOther)

/- A change leaves everything else where it is. -/
theorem get?_alter_of_ne
    (hOther : other ≠ key)
    (change : Option α → Option α) :
    get? other (alter way key change shelf) =
      get? other shelf := by
  induction shelf with
  | nil => exact get?_front_of_ne hOther _
  | cons first rest ih =>
      unfold alter
      split
      case isTrue hSame =>
        rw [get?_front_of_ne hOther, get?, hSame,
          if_neg (Ne.symm hOther)]
      case isFalse =>
        split
        · exact get?_front_of_ne hOther _
        · rw [get?, get?, ih]

theorem get?_front_self
    (hBefore : ∀ entry ∈ shelf, way.Before key entry.1)
    (value? : Option α) :
    get? key (front key value? shelf) = value? := by
  cases value? with
  | none => exact get?_of_before hBefore
  | some value => exact if_pos rfl

/- A change is found in its place. -/
theorem get?_alter_self
    (hShelf : Ordered way shelf)
    (change : Option α → Option α) :
    get? key (alter way key change shelf) =
      change (get? key shelf) := by
  induction shelf with
  | nil =>
      have hNone :
          ∀ entry ∈ ([] : Shelf α), way.Before key entry.1 :=
        fun _ hMem => absurd hMem List.not_mem_nil
      exact get?_front_self hNone _
  | cons first rest ih =>
      rcases List.pairwise_cons.mp hShelf with
        ⟨hFirst, hRest⟩
      unfold alter
      split
      case isTrue hSame =>
        rw [hSame] at hFirst
        rw [get?_front_self hFirst, get?, if_pos hSame]
      case isFalse hOther =>
        split
        case isTrue hBefore =>
          -- the number comes first, so nothing was under it
          have hAll :
              ∀ entry ∈ first :: rest,
                way.Before key entry.1 :=
            List.forall_mem_cons.mpr
              ⟨hBefore, fun entry hMem =>
                hBefore.trans (hFirst entry hMem)⟩
          rw [get?_front_self hAll, get?_of_before hAll]
        case isFalse =>
          rw [get?, if_neg hOther, ih hRest, get?,
            if_neg hOther]

/- A shelf that is not there is an empty one. -/
theorem get?_getD
    (shelf? : Option (Shelf α)) :
    get? key (shelf?.getD []) = shelf?.bind (get? key) := by
  cases shelf? with
  | none => rfl
  | some shelf => rfl

theorem bind_filled? :
    (filled? shelf).bind (get? key) = get? key shelf := by
  cases shelf with
  | nil => rfl
  | cons first rest => rfl

theorem getD_filled? :
    (filled? shelf).getD [] = shelf := by
  cases shelf with
  | nil => rfl
  | cons first rest => rfl

end Shelf

end Gantry

------------------------------------------------------------
-- Columns
------------------------------------------------------------

namespace Gantry

namespace Column

variable {column : Column}

/- A block above all others goes in front of them. -/
theorem set_above
    {z : Int}
    (hAbove : ∀ block ∈ column, block.1 < z)
    (kind? : Option String) :
    Column.set z kind? column =
      Shelf.front z kind? column := by
  cases column with
  | nil => rfl
  | cons first rest =>
      have hFirst := hAbove first List.mem_cons_self
      unfold Column.set Shelf.alter
      rw [if_neg (Int.ne_of_lt hFirst)]
      exact if_pos hFirst

/- The highest block is taken off those below it. -/
theorem set_highest
    (z : Int)
    (kind : String)
    (rest : Column) :
    Column.set z none ((z, kind) :: rest) = rest :=
  if_pos rfl

end Column

namespace Rows

variable {rows : Rows}

/- The blocks of a cell. -/
def column
    (rows : Rows)
    (x y : Int) : Column :=
  ((Shelf.get? x rows).bind (Shelf.get? y)).getD []

theorem Tidy.row
    (hRows : Rows.Tidy rows)
    (x : Int) :
    Shelf.Ordered .up ((Shelf.get? x rows).getD []) := by
  cases hRow : Shelf.get? x rows with
  | none => exact List.Pairwise.nil
  | some row =>
      exact (hRows.2 _ (Shelf.mem_of_get? hRow)).2.1

/- Every column that is not empty is tidy. -/
theorem Tidy.column
    (hRows : Rows.Tidy rows)
    (x y : Int) :
    rows.column x y = [] ∨ Column.Tidy (rows.column x y) := by
  unfold Rows.column
  cases hRow : Shelf.get? x rows with
  | none => exact Or.inl rfl
  | some row =>
      rw [Option.bind_some]
      cases hColumn : Shelf.get? y row with
      | none => exact Or.inl rfl
      | some column =>
          have hTidy := hRows.2 _ (Shelf.mem_of_get? hRow)
          exact Or.inr
            (hTidy.2.2 _ (Shelf.mem_of_get? hColumn))

/- A block is put into the column of its cell. -/
theorem column_set_self
    (hRows : Rows.Tidy rows)
    (x y z : Int)
    (kind? : Option String) :
    (rows.set ⟨x, y, z⟩ kind?).column x y =
      Column.set z kind? (rows.column x y) := by
  unfold Rows.column Rows.set
  rw [Shelf.get?_alter_self hRows.1, Shelf.bind_filled?,
    Row.set, Shelf.get?_alter_self (hRows.row x),
    Shelf.getD_filled?, Shelf.get?_getD]

/- No other column is touched. -/
theorem column_set_of_ne
    (hRows : Rows.Tidy rows)
    (site : Site)
    (kind? : Option String)
    {x y : Int}
    (hOther : (x, y) ≠ (site.x, site.y)) :
    (rows.set site kind?).column x y = rows.column x y := by
  unfold Rows.column Rows.set
  -- a cell of the same row, or of another
  by_cases hRow : x = site.x
  · have hColumn : y ≠ site.y := fun hSame =>
      hOther (Prod.ext hRow hSame)
    rw [hRow, Shelf.get?_alter_self hRows.1,
      Shelf.bind_filled?, Row.set,
      Shelf.get?_alter_of_ne hColumn, Shelf.get?_getD]
  · rw [Shelf.get?_alter_of_ne hRow]

end Rows

end Gantry

------------------------------------------------------------
-- Piles
------------------------------------------------------------

namespace Gantry

/- Blocks from below, each with its height and kind. -/
abbrev Pile := List (Int × String)

namespace Pile

/- The height above the last block, or of the first one. -/
def next
    (pile : Pile) : Int :=
  match pile.getLast? with
  | some (z, _) => z + 1
  | none => 0

/- Put a block on top, unless its kind is empty. -/
def push
    (kind : String)
    (pile : Pile) : Pile :=
  if kind = "" then
    pile
  else
    pile ++ [(pile.next, kind)]

end Pile

namespace World

/- The blocks of a cell from below. -/
def pile
    (world : World)
    (x y : Int) : Pile :=
  (world.column x y).reverse

/- A pile lists what is found at a cell, from below. -/
structure Lists
    (world : World)
    (x y : Int)
    (pile : Pile) : Prop where
  ascending : pile.Pairwise fun a b => a.1 < b.1
  mem_iff :
    ∀ z kind,
      (z, kind) ∈ pile ↔
        world.kindAt? ⟨x, y, z⟩ = some kind

theorem ordered_column
    (world : World)
    (x y : Int) :
    Shelf.Ordered .down (world.column x y) := by
  rcases world.tidy.column x y with hNone | hTidy
  · have hColumn : world.column x y = [] := hNone
    rw [hColumn]
    exact List.Pairwise.nil
  · exact hTidy.2.1

theorem lists_pile
    (world : World)
    (x y : Int) :
    world.Lists x y (world.pile x y) where
  ascending :=
    List.pairwise_reverse.mpr (world.ordered_column x y)
  mem_iff := by
    intro z kind
    rw [pile, List.mem_reverse, kindAt?,
      Shelf.get?_eq_some_iff (world.ordered_column x y)]

/- Every block that is stored has a kind. -/
theorem kind_ne_empty
    (world : World) :
    ∀ block ∈ world.blocks, block.kind ≠ "" := by
  intro block hBlock
  simp only [blocks, List.mem_flatMap, List.mem_map,
    List.mem_reverse] at hBlock
  rcases hBlock with
    ⟨row, hRow, column, hColumn, entry, hEntry, rfl⟩
  have hTidy := (world.tidy.2 row hRow).2.2 column hColumn
  exact hTidy.2.2 entry hEntry

theorem rows_put
    (world : World)
    (site : Site)
    (kind : String) :
    (world.put site kind).rows =
      world.rows.set site
        (if kind = "" then none else some kind) := by
  unfold put
  split
  · rfl
  · rfl

theorem pile_put_of_ne
    (world : World)
    (site : Site)
    (kind : String)
    {x y : Int}
    (hOther : (x, y) ≠ (site.x, site.y)) :
    (world.put site kind).pile x y = world.pile x y := by
  have hColumn :
      (world.put site kind).column x y =
        world.column x y := by
    change (world.put site kind).rows.column x y = _
    rw [rows_put,
      Rows.column_set_of_ne world.tidy _ _ hOther]
    rfl
  rw [pile, pile, hColumn]

theorem pile_clear_of_ne
    (world : World)
    (site : Site)
    {x y : Int}
    (hOther : (x, y) ≠ (site.x, site.y)) :
    (world.clear site).pile x y = world.pile x y :=
  congrArg List.reverse
    (Rows.column_set_of_ne world.tidy site none hOther)

/- All blocks of a pile are below the next one. -/
theorem lt_next_pile
    (world : World)
    (x y : Int) :
    ∀ block ∈ world.column x y,
      block.1 < (world.pile x y).next := by
  have hOrdered := world.ordered_column x y
  unfold pile Pile.next
  rw [List.getLast?_reverse]
  cases hColumn : world.column x y with
  | nil => exact fun _ hMem => absurd hMem List.not_mem_nil
  | cons first rest =>
      rw [hColumn] at hOrdered
      have hFirst := (List.pairwise_cons.mp hOrdered).1
      intro block hBlock
      rw [List.head?_cons]
      rcases List.mem_cons.mp hBlock with rfl | hRest
      · exact Int.lt_succ _
      · exact Int.lt_trans (hFirst block hRest)
          (Int.lt_succ _)

theorem next_pile
    (world : World)
    (x y : Int) :
    (world.pile x y).next =
      match world.top? x y with
      | some block => block.site.z + 1
      | none => 0 := by
  unfold pile Pile.next top?
  rw [List.getLast?_reverse]
  cases (world.column x y).head? with
  | none => rfl
  | some block => rfl

/- A block at the next height is pushed. -/
theorem pile_put_next
    (world : World)
    (x y : Int)
    (kind : String) :
    (world.put ⟨x, y, (world.pile x y).next⟩ kind).pile x y =
      (world.pile x y).push kind := by
  have hColumn :
      (world.put ⟨x, y, (world.pile x y).next⟩ kind).column
          x y =
        Shelf.front (world.pile x y).next
          (if kind = "" then none else some kind)
          (world.column x y) := by
    change Rows.column (World.rows _) x y = _
    rw [rows_put, Rows.column_set_self world.tidy]
    exact Column.set_above (world.lt_next_pile x y) _
  unfold Pile.push
  rw [pile, hColumn]
  split
  · rfl
  · exact List.reverse_cons

/- The highest block is the last of its pile. -/
theorem pile_clear_top
    {world : World}
    {x y : Int}
    {block : Placement}
    (hTop : world.top? x y = some block) :
    (block.site.x, block.site.y) = (x, y) ∧
      world.pile x y =
        (world.clear block.site).pile x y ++
          [(block.site.z, block.kind)] := by
  unfold top? at hTop
  rcases Option.map_eq_some_iff.mp hTop with
    ⟨⟨z, kind⟩, hHead, rfl⟩
  rcases List.head?_eq_some_iff.mp hHead with
    ⟨rest, hColumn⟩
  have hRest :
      (world.clear ⟨x, y, z⟩).column x y = rest := by
    change Rows.column (World.rows _) x y = _
    rw [clear, Rows.column_set_self world.tidy]
    change Column.set z none (world.column x y) = rest
    rw [hColumn, Column.set_highest]
  refine ⟨rfl, ?_⟩
  rw [pile, pile, hRest, hColumn, List.reverse_cons]

end World

end Gantry

------------------------------------------------------------
-- Commands
------------------------------------------------------------

namespace Gantry

/- The pile in front of the crane, in some world. -/
def Yard.pileAhead
    (yard : Yard)
    (world : World) : Pile :=
  world.pile yard.crane.pose.ahead.1 yard.crane.pose.ahead.2

/- A command can be carried out. -/
def Command.Applies
    (command : Command)
    (yard : Yard) : Prop :=
  let (x, y) := yard.crane.pose.ahead
  match command.verb with
  | .turnLeft => True
  | .turnRight => True
  | .lift =>
      yard.crane.carried? = none ∧
        yard.pileAhead yard.world ≠ []
  | .dig => yard.pileAhead yard.world ≠ []
  | _ => yard.world.inBounds x y = true

/-
  What a command that succeeds does to the pile ahead, and
  where the block that it lifts goes.
-/
def Command.Changes
    (command : Command)
    (yard after : Yard)
    (before now : Pile) : Prop :=
  match command.verb with
  | .place =>
      now =
        before.push (yard.crane.carried?.getD yard.supply)
  | .placeBlock =>
      now =
        before.push (command.kind?.getD standardSupply)
  | .lift =>
      ∃ z kind,
        before = now ++ [(z, kind)] ∧
          after.crane.carried? = some kind
  | .dig => ∃ z kind, before = now ++ [(z, kind)]
  | _ => now = before

namespace Yard

variable {yard after : Yard}

/- No pile is touched but the one in front of the crane. -/
def OnlyAhead
    (yard : Yard)
    (world : World) : Prop :=
  ∀ x y, (x, y) ≠ yard.crane.pose.ahead →
    world.pile x y = yard.world.pile x y

/- A block can be put down within the field. -/
theorem exists_stack_iff
    (yard : Yard)
    (verb : Verb)
    (kind : String) :
    (∃ after, yard.stack verb kind = .ok after) ↔
      yard.world.inBounds yard.crane.pose.ahead.1
        yard.crane.pose.ahead.2 = true := by
  unfold stack
  dsimp only
  split
  case isTrue hField => simp [hField]
  case isFalse hWall => simp [hWall]

/- A block can be taken where there is one. -/
theorem exists_takeTop_iff
    (yard : Yard)
    (verb : Verb) :
    (∃ taken, yard.takeTop verb = .ok taken) ↔
      yard.pileAhead yard.world ≠ [] := by
  unfold takeTop pileAhead World.pile World.top?
  dsimp only
  cases yard.world.column yard.crane.pose.ahead.1
      yard.crane.pose.ahead.2 with
  | nil => simp
  | cons block rest => simp

theorem exists_map_iff
    {α β : Type}
    (change : α → β)
    (result : Except CraneFailure α) :
    (∃ after, result.map change = .ok after) ↔
      ∃ middle, result = .ok middle := by
  cases result with
  | error failure => simp [Except.map]
  | ok middle => simp [Except.map]

theorem exists_lift_iff
    (yard : Yard) :
    (∃ after, yard.lift = .ok after) ↔
      yard.crane.carried? = none ∧
        yard.pileAhead yard.world ≠ [] := by
  rw [← exists_takeTop_iff yard .lift]
  unfold lift
  cases yard.crane.carried? with
  | some kind => simp
  | none =>
      cases yard.takeTop .lift with
      | error failure => simp
      | ok taken => simp

/- Which commands can be carried out. -/
theorem exists_perform_iff
    (yard : Yard)
    (command : Command) :
    (∃ after, yard.perform command = .ok after) ↔
      command.Applies yard := by
  unfold perform Command.Applies
  cases command.verb with
  | move =>
      unfold move
      dsimp only
      split
      case isTrue hField => simp [hField]
      case isFalse hWall => simp [hWall]
  | turnLeft => simp
  | turnRight => simp
  | lift => exact yard.exists_lift_iff
  | place =>
      exact (exists_map_iff _ _).trans
        (yard.exists_stack_iff .place _)
  | placeBlock => exact yard.exists_stack_iff .placeBlock _
  | dig =>
      exact (exists_map_iff _ _).trans
        (yard.exists_takeTop_iff .dig)

/- Putting a block down pushes it on the pile ahead. -/
theorem pile_stack
    {verb : Verb}
    {kind : String}
    (hStack : yard.stack verb kind = .ok after) :
    yard.pileAhead after.world =
        (yard.pileAhead yard.world).push kind ∧
      yard.OnlyAhead after.world := by
  unfold stack at hStack
  dsimp only at hStack
  split at hStack
  · cases hStack
    have hPushed :=
      yard.world.pile_put_next yard.crane.pose.ahead.1
        yard.crane.pose.ahead.2 kind
    rw [World.next_pile] at hPushed
    exact ⟨hPushed, fun x y hOther =>
      yard.world.pile_put_of_ne _ kind hOther⟩
  · cases hStack

/- Taking a block away takes the last of the pile ahead. -/
theorem pile_takeTop
    {verb : Verb}
    {block : Placement}
    (hTake : yard.takeTop verb = .ok (block, after)) :
    yard.pileAhead yard.world =
        yard.pileAhead after.world ++
          [(block.site.z, block.kind)] ∧
      yard.OnlyAhead after.world := by
  unfold takeTop at hTake
  dsimp only at hTake
  split at hTake
  case h_1 found hTop =>
    cases hTake
    rcases World.pile_clear_top hTop with ⟨hCell, hPile⟩
    refine ⟨hPile, fun x y hOther => ?_⟩
    apply World.pile_clear_of_ne
    rw [hCell]
    exact hOther
  case h_2 => cases hTake

theorem pile_place
    (hPlace : yard.place = .ok after) :
    yard.pileAhead after.world =
        (yard.pileAhead yard.world).push
          (yard.crane.carried?.getD yard.supply) ∧
      yard.OnlyAhead after.world := by
  unfold place at hPlace
  cases hStack :
      yard.stack .place
        (yard.crane.carried?.getD yard.supply) with
  | error failure =>
      rw [hStack] at hPlace
      cases hPlace
  | ok middle =>
      rw [hStack] at hPlace
      have hPiles := pile_stack hStack
      cases hPlace
      exact hPiles

theorem pile_lift
    (hLift : yard.lift = .ok after) :
    (∃ z kind,
      yard.pileAhead yard.world =
          yard.pileAhead after.world ++ [(z, kind)] ∧
        after.crane.carried? = some kind) ∧
      yard.OnlyAhead after.world := by
  unfold lift at hLift
  split at hLift
  · cases hLift
  · split at hLift
    · cases hLift
    · rename_i block middle hTake
      cases hLift
      rcases pile_takeTop hTake with ⟨hPile, hOthers⟩
      exact ⟨⟨block.site.z, block.kind, hPile, rfl⟩, hOthers⟩

theorem pile_dig
    (hDig : yard.dig = .ok after) :
    (∃ z kind,
      yard.pileAhead yard.world =
        yard.pileAhead after.world ++ [(z, kind)]) ∧
      yard.OnlyAhead after.world := by
  unfold dig at hDig
  cases hTake : yard.takeTop .dig with
  | error failure =>
      rw [hTake] at hDig
      cases hDig
  | ok found =>
      rw [hTake] at hDig
      cases hDig
      rcases pile_takeTop hTake with ⟨hPile, hOthers⟩
      exact ⟨⟨_, _, hPile⟩, hOthers⟩

/- A move does not touch the world. -/
theorem world_move
    (hMove : yard.move = .ok after) :
    after.world = yard.world := by
  unfold move at hMove
  dsimp only at hMove
  split at hMove
  · cases hMove
    rfl
  · cases hMove

/- What a command does to the piles when it succeeds. -/
theorem changes_perform
    {command : Command}
    (hPerform : yard.perform command = .ok after) :
    command.Changes yard after (yard.pileAhead yard.world)
        (yard.pileAhead after.world) ∧
      yard.OnlyAhead after.world := by
  unfold perform at hPerform
  unfold Command.Changes
  cases hVerb : command.verb with
  | move =>
      rw [hVerb] at hPerform
      rw [world_move hPerform]
      exact ⟨rfl, fun _ _ _ => rfl⟩
  | turnLeft =>
      rw [hVerb] at hPerform
      cases hPerform
      exact ⟨rfl, fun _ _ _ => rfl⟩
  | turnRight =>
      rw [hVerb] at hPerform
      cases hPerform
      exact ⟨rfl, fun _ _ _ => rfl⟩
  | lift =>
      rw [hVerb] at hPerform
      exact pile_lift hPerform
  | place =>
      rw [hVerb] at hPerform
      exact pile_place hPerform
  | placeBlock =>
      rw [hVerb] at hPerform
      exact pile_stack hPerform
  | dig =>
      rw [hVerb] at hPerform
      exact pile_dig hPerform

end Yard

end Gantry

------------------------------------------------------------
-- Replays
------------------------------------------------------------

namespace Gantry

namespace Replay

theorem yard_startNext_of_ok
    {replay : Replay}
    {id : Nat}
    {command : Command}
    {waiting : List (Nat × Command)}
    {yard : Yard}
    (hQueue : replay.queue = (id, command) :: waiting)
    (hPerform : replay.yard.perform command = .ok yard) :
    replay.startNext.yard = yard := by
  unfold startNext
  simp only [hQueue, hPerform]

theorem yard_startNext_of_error
    {replay : Replay}
    {id : Nat}
    {command : Command}
    {waiting : List (Nat × Command)}
    {failure : CraneFailure}
    (hQueue : replay.queue = (id, command) :: waiting)
    (hPerform :
      replay.yard.perform command = .error failure) :
    replay.startNext.yard = replay.yard := by
  unfold startNext
  simp only [hQueue, hPerform, yard_settleAll]

/-
  The blocks of a cell, listed from below, make a stack. When
  it is the turn of a command that cannot be carried out, the
  yard stays as it was; otherwise the block that is put down
  is the new last one of the pile ahead, or the last one is
  taken away, as the verb says. No other pile is touched, and
  all blocks have kinds.
-/
theorem piles_are_stacks
    (replay : Replay)
    (id : Nat)
    (command : Command)
    (waiting : List (Nat × Command))
    (hQueue : replay.queue = (id, command) :: waiting) :
    let yard := replay.yard
    let after := replay.startNext.yard
    ((∃ done, yard.perform command = .ok done) ↔
      command.Applies yard) ∧
    (∀ failure, yard.perform command = .error failure →
      after = yard) ∧
    (∀ done, yard.perform command = .ok done →
      after = done ∧
        command.Changes yard after
          (yard.pileAhead yard.world)
          (yard.pileAhead after.world)) ∧
    (∀ x y, (x, y) ≠ yard.crane.pose.ahead →
      after.world.pile x y = yard.world.pile x y) ∧
    ∀ world : World,
      (∀ x y, world.Lists x y (world.pile x y)) ∧
        ∀ block ∈ world.blocks, block.kind ≠ "" := by
  intro yard after
  refine ⟨yard.exists_perform_iff command,
    fun failure hPerform => ?_, fun done hPerform => ?_, ?_,
    fun world => ?_⟩
  · exact yard_startNext_of_error hQueue hPerform
  · have hAfter : after = done :=
      yard_startNext_of_ok hQueue hPerform
    rw [hAfter]
    exact ⟨rfl, (Yard.changes_perform hPerform).1⟩
  · cases hPerform : yard.perform command with
    | error failure =>
        have hAfter : after = yard :=
          yard_startNext_of_error hQueue hPerform
        rw [hAfter]
        exact fun _ _ _ => rfl
    | ok done =>
        have hAfter : after = done :=
          yard_startNext_of_ok hQueue hPerform
        rw [hAfter]
        exact (Yard.changes_perform hPerform).2
  · exact ⟨world.lists_pile, world.kind_ne_empty⟩

/-
  A block of the supply goes on top of a pile with a gap that
  begins below the ground.
-/
theorem piles_are_stacks_gap :
    let world :=
      ((World.empty 2 2).put ⟨0, 1, -3⟩ "mud").put ⟨0, 1, 5⟩
        "moss"
    let command : Command := { verb := .place }
    let replay : Replay :=
      { yard := { world := world }
        queue := [(0, command)]
        outcomes := #[.pending] }
    let after := replay.startNext.yard
    replay.queue = [(0, command)] ∧
      world.pile 0 1 = [(-3, "mud"), (5, "moss")] ∧
      command.Changes replay.yard after (world.pile 0 1)
        [(-3, "mud"), (5, "moss"), (6, "brick")] := by
  intro world command replay after
  have hStacks :=
    piles_are_stacks replay 0 command [] rfl
  have hDone :
      replay.yard.perform command =
        .ok { replay.yard with
          world := world.put ⟨0, 1, 6⟩ "brick" } := rfl
  exact ⟨rfl, by decide +kernel, (hStacks.2.2.1 _ hDone).2⟩

end Replay

end Gantry
