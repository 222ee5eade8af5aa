import Gantry.Json.Yard

/-
  This file defines levels, which say how a yard is set up,
  and writes and reads their documents. Every field of a
  level may be left out.

  Key definitions include:
    * `Gantry.CraneSetup`
    * `Gantry.Level`
    * `Gantry.Level.world`
    * `Gantry.Level.yard`
    * `Gantry.Level.toJson`
    * `Gantry.Level.read?`
-/

------------------------------------------------------------
-- Levels
------------------------------------------------------------

namespace Gantry

/- Where a crane starts, and what it places. -/
structure CraneSetup where
  x : Int := 0
  y : Int := 0
  direction : Direction := Direction.initial
  supply : String := standardSupply
deriving DecidableEq, Repr

namespace CraneSetup

/- Where a crane starts. -/
def pose
    (setup : CraneSetup) : Pose :=
  ⟨setup.x, setup.y, setup.direction⟩

end CraneSetup

/-
  The size of a field, the blocks that stand on it, the
  blocks that should stand on it, and its crane.
-/
structure Level where
  width : Int := 8
  height : Int := 8
  blocks : List Placement := []
  goals : List Placement := []
  crane : CraneSetup := {}
  carried? : Option String := none
deriving DecidableEq, Repr

end Gantry

------------------------------------------------------------
-- Setting Up
------------------------------------------------------------

namespace Gantry

namespace Level

/- The kind of block that covers a field. -/
def groundKind : String := "ground"

/- The numbers from zero up to a size. -/
def range
    (size : Int) : List Int :=
  (List.range size.toNat).map Int.ofNat

/-
  The sites on the ground of a field, in order. A field
  without any height has none, however wide it is.
-/
def groundSites
    (width height : Int) : List Site :=
  if height ≤ 0 then
    []
  else
    (range width).flatMap fun x =>
      (range height).map fun y => ⟨x, y, 0⟩

/- A field that is covered with ground. -/
def groundWorld
    (width height : Int) : World :=
  (groundSites width height).foldr
    (fun site world => world.put site groundKind)
    (World.empty width height)

/-
  The field of a level. Its blocks are put on the ground one
  after another, so that later ones replace earlier ones.
-/
def world
    (level : Level) : World :=
  { (groundWorld level.width level.height).putAll
      level.blocks with goals := level.goals }

/- The yard of a level. -/
def yard
    (level : Level) : Yard :=
  { world := level.world
    crane := ⟨level.crane.pose, level.carried?⟩
    supply := level.crane.supply }

end Level

end Gantry

------------------------------------------------------------
-- Documents
------------------------------------------------------------

namespace Gantry

namespace CraneSetup

/- A crane's setup is an object. -/
def toJson
    (setup : CraneSetup) : Json :=
  .obj [
    ("x", .int setup.x),
    ("y", .int setup.y),
    ("dir", setup.direction.toJson),
    ("defaultBlock", .str setup.supply)]

/- Read a crane's setup. -/
def ofJson?
    (json : Json) : Option CraneSetup := do
  match ← json.record? ["x", "y", "dir", "defaultBlock"] with
  | [x, y, direction, supply] =>
      let x ← Json.orDefault x 0 Json.coordinate?
      let y ← Json.orDefault y 0 Json.coordinate?
      let direction ←
        Json.orDefault direction Direction.initial
          Direction.ofJson?
      let supply ←
        Json.orDefault supply standardSupply Json.text?
      return ⟨x, y, direction, supply⟩
  | _ => none

end CraneSetup

namespace Level

/- The field for a carried block, where there is one. -/
def carriedFields :
    Option String → List (String × Json)
| some kind => [("carried", .str kind)]
| none => []

/- A level is an object. -/
def toJson
    (level : Level) : Json :=
  .obj ([
    ("size", .arr [.int level.width, .int level.height]),
    ("blocks", Placement.listJson level.blocks),
    ("goal", Placement.listJson level.goals),
    ("crane", level.crane.toJson)] ++
    carriedFields level.carried?)

/- Read the size of a field. -/
def size? :
    Json → Option (Int × Int)
| .arr [width, height] => do
    return (← width.coordinate?, ← height.coordinate?)
| _ => none

/- Read a level. -/
def ofJson?
    (json : Json) : Option Level := do
  match ← json.record?
      ["size", "blocks", "goal", "crane", "carried"] with
  | [size, blocks, goals, crane, carried] =>
      let (width, height) ← Json.orDefault size (8, 8) size?
      let blocks ←
        Json.orDefault blocks []
          (Json.arrayOf? Placement.ofJson?)
      let goals ←
        Json.orDefault goals []
          (Json.arrayOf? Placement.ofJson?)
      let crane ←
        Json.orDefault crane {} CraneSetup.ofJson?
      let carried? ←
        Json.orDefault carried none Json.optionalText?
      return ⟨width, height, blocks, goals, crane, carried?⟩
  | _ => none

/- Read the text of a level. -/
def read?
    (text : String) : Option Level :=
  (Json.read? text).bind ofJson?

end Level

end Gantry
