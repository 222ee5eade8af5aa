import Gantry.Shelf

/-
  This file defines the field on which blocks stand.

  A world has a width, a height, goals and blocks. The blocks
  of one cell make a column, from the highest down; the
  columns of one `x` make a row. A site outside the field may
  hold a block, and columns may have gaps.

  Key definitions include:
    * `Gantry.Site`
    * `Gantry.Placement`
    * `Gantry.World`
    * `Gantry.World.kindAt?`
    * `Gantry.World.put`
    * `Gantry.World.clear`
    * `Gantry.World.top?`
    * `Gantry.World.blocks`
    * `Gantry.World.unmetGoals`
-/

------------------------------------------------------------
-- Sites
------------------------------------------------------------

namespace Gantry

/- A place in the grid: a cell and a height. -/
structure Site where
  x : Int
  y : Int
  z : Int
deriving DecidableEq, Repr

/- A kind of block at a site. -/
structure Placement where
  site : Site
  kind : String
deriving DecidableEq, Repr

end Gantry

------------------------------------------------------------
-- Rows And Columns
------------------------------------------------------------

namespace Gantry

/- The kinds of the blocks of a cell, by their heights. -/
abbrev Column := Shelf String

/- The columns of a row, by their `y`. -/
abbrev Row := Shelf Column

/- The rows of a field, by their `x`. -/
abbrev Rows := Shelf Row

namespace Column

/- There are blocks, the highest first, and all have kinds. -/
def Tidy
    (column : Column) : Prop :=
  column ≠ [] ∧
    Shelf.Ordered .down column ∧
      ∀ block ∈ column, block.2 ≠ ""

/- Put a block at a height, or leave none there. -/
def set
    (z : Int)
    (kind? : Option String)
    (column : Column) : Column :=
  column.alter .down z fun _ => kind?

end Column

namespace Row

/- There are columns, in order, and all are tidy. -/
def Tidy
    (row : Row) : Prop :=
  row ≠ [] ∧
    Shelf.Ordered .up row ∧
      ∀ column ∈ row, Column.Tidy column.2

/- Put a block at a height of a column, or leave none. -/
def set
    (y z : Int)
    (kind? : Option String)
    (row : Row) : Row :=
  row.alter .up y fun column? =>
    Shelf.filled? (Column.set z kind? (column?.getD []))

end Row

namespace Rows

/- The rows are in order, and all are tidy. -/
def Tidy
    (rows : Rows) : Prop :=
  Shelf.Ordered .up rows ∧ ∀ row ∈ rows, Row.Tidy row.2

/- Put a block at a site, or leave none there. -/
def set
    (site : Site)
    (kind? : Option String)
    (rows : Rows) : Rows :=
  rows.alter .up site.x fun row? =>
    Shelf.filled? (Row.set site.y site.z kind? (row?.getD []))

end Rows

end Gantry

------------------------------------------------------------
-- Tidiness
------------------------------------------------------------

namespace Gantry

/- A changed column is tidy unless it is empty. -/
theorem Column.tidy_set
    {z : Int}
    {kind? : Option String}
    {old? : Option Column}
    {new : Column}
    (hKind : kind? ≠ some "")
    (hOld : ∀ old, old? = some old → Column.Tidy old)
    (hNew :
      Shelf.filled?
        (Column.set z kind? (old?.getD [])) = some new) :
    Column.Tidy new := by
  rcases Shelf.ne_nil_of_filled? hNew with ⟨hEq, hFilled⟩
  have hOrdered : Shelf.Ordered .down (old?.getD []) := by
    cases old? with
    | none => exact List.Pairwise.nil
    | some old => exact (hOld old rfl).2.1
  have hNamed : ∀ block ∈ old?.getD [], block.2 ≠ "" := by
    cases old? with
    | none => simp
    | some old => exact (hOld old rfl).2.2
  refine ⟨hFilled, ?_, ?_⟩
  · rw [hEq]
    exact Shelf.Ordered.alter hOrdered _ _
  · intro block hMem
    rw [hEq] at hMem
    rcases Shelf.mem_alter hMem with hHere | hThere
    · rcases hHere with ⟨_, _, _, hSome⟩
      intro hEmpty
      exact hKind (by rw [hSome, hEmpty])
    · exact hNamed block hThere

/- A changed row is tidy unless it is empty. -/
theorem Row.tidy_set
    {y z : Int}
    {kind? : Option String}
    {old? : Option Row}
    {new : Row}
    (hKind : kind? ≠ some "")
    (hOld : ∀ old, old? = some old → Row.Tidy old)
    (hNew :
      Shelf.filled?
        (Row.set y z kind? (old?.getD [])) = some new) :
    Row.Tidy new := by
  rcases Shelf.ne_nil_of_filled? hNew with ⟨hEq, hFilled⟩
  have hOrdered : Shelf.Ordered .up (old?.getD []) := by
    cases old? with
    | none => exact List.Pairwise.nil
    | some old => exact (hOld old rfl).2.1
  have hTidy :
      ∀ column ∈ old?.getD [], Column.Tidy column.2 := by
    cases old? with
    | none => simp
    | some old => exact (hOld old rfl).2.2
  refine ⟨hFilled, ?_, ?_⟩
  · rw [hEq]
    exact Shelf.Ordered.alter hOrdered _ _
  · intro column hMem
    rw [hEq] at hMem
    rcases Shelf.mem_alter hMem with hHere | hThere
    · rcases hHere with ⟨column?, hColumn, _, hSome⟩
      refine Column.tidy_set hKind ?_ hSome
      intro old hOld
      exact hTidy _ (hColumn old hOld)
    · exact hTidy column hThere

/- Changed rows are tidy. -/
theorem Rows.Tidy.set
    {rows : Rows}
    (hRows : Rows.Tidy rows)
    (site : Site)
    {kind? : Option String}
    (hKind : kind? ≠ some "") :
    Rows.Tidy (rows.set site kind?) := by
  refine ⟨Shelf.Ordered.alter hRows.1 _ _, ?_⟩
  intro row hMem
  rcases Shelf.mem_alter hMem with hHere | hThere
  · rcases hHere with ⟨row?, hRow, _, hSome⟩
    refine Row.tidy_set hKind ?_ hSome
    intro old hOld
    exact hRows.2 _ (hRow old hOld)
  · exact hRows.2 row hThere

end Gantry

------------------------------------------------------------
-- Worlds
------------------------------------------------------------

namespace Gantry

/- A field with its goals and blocks. -/
structure World where
  width : Int
  height : Int
  goals : List Placement := []
  rows : Rows := []
  tidy : Rows.Tidy rows := by
    exact ⟨List.Pairwise.nil, by intro _ hMem; cases hMem⟩
deriving DecidableEq

namespace World

/- A field without blocks and goals. -/
def empty
    (width height : Int) : World :=
  { width := width, height := height }

/- A cell of the field. -/
def inBounds
    (world : World)
    (x y : Int) : Bool :=
  0 ≤ x && x < world.width && 0 ≤ y && y < world.height

/- The blocks of a cell, highest first. -/
def column
    (world : World)
    (x y : Int) : Column :=
  ((Shelf.get? x world.rows).bind (Shelf.get? y)).getD []

/- The kind of the block at a site. -/
def kindAt?
    (world : World)
    (site : Site) : Option String :=
  Shelf.get? site.z (world.column site.x site.y)

/- The highest block of a cell. -/
def top?
    (world : World)
    (x y : Int) : Option Placement :=
  (world.column x y).head?.map fun (z, kind) =>
    ⟨⟨x, y, z⟩, kind⟩

/- Leave a site without a block. -/
def clear
    (world : World)
    (site : Site) : World :=
  { world with
    rows := world.rows.set site none
    tidy := world.tidy.set site (by simp) }

/-
  Put a block of the given kind at a site. An empty kind
  clears the site.
-/
def put
    (world : World)
    (site : Site)
    (kind : String) : World :=
  if hKind : kind = "" then
    world.clear site
  else
    { world with
      rows := world.rows.set site (some kind)
      tidy := world.tidy.set site (by simpa using hKind) }

/- Put several blocks in order. -/
def putAll
    (world : World)
    (blocks : List Placement) : World :=
  blocks.foldl
    (fun world block => world.put block.site block.kind)
    world

/- All blocks, by `x`, then by `y`, then from below. -/
def blocks
    (world : World) : List Placement :=
  world.rows.flatMap fun (x, row) =>
    row.flatMap fun (y, column) =>
      column.reverse.map fun (z, kind) =>
        ⟨⟨x, y, z⟩, kind⟩

/- Add a goal behind the others. -/
def addGoal
    (world : World)
    (goal : Placement) : World :=
  { world with goals := world.goals ++ [goal] }

/- The goal's block is in its place. -/
def meets
    (world : World)
    (goal : Placement) : Bool :=
  world.kindAt? goal.site == some goal.kind

/- The goals whose block is not in its place. -/
def unmetGoals
    (world : World) : List Placement :=
  world.goals.filter (!world.meets ·)

/- There are goals, and all of them are met. -/
def goalsMet
    (world : World) : Bool :=
  !world.goals.isEmpty && world.unmetGoals.isEmpty

end World

end Gantry
