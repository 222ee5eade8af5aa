import Gantry.World

/-
  This file defines the crane, the commands it obeys, and
  what each command does to the yard.

  Key definitions include:
    * `Gantry.Direction`
    * `Gantry.Pose`
    * `Gantry.Pose.ahead`
    * `Gantry.Crane`
    * `Gantry.Verb`
    * `Gantry.Command`
    * `Gantry.Pose.follow`
    * `Gantry.World.lookFrom`
    * `Gantry.CraneFailure`
    * `Gantry.Yard`
    * `Gantry.Yard.perform`
-/

------------------------------------------------------------
-- Directions And Poses
------------------------------------------------------------

namespace Gantry

/- Where the crane faces. North lies toward smaller `y`. -/
inductive Direction where
  | north
  | east
  | south
  | west
deriving DecidableEq, Repr

namespace Direction

/- All directions, clockwise. -/
def all : List Direction :=
  [north, east, south, west]

/- The direction that a crane has at first. -/
def initial : Direction := south

/- The step to the next cell. -/
def delta :
    Direction → Int × Int
| north => (0, -1)
| east => (1, 0)
| south => (0, 1)
| west => (-1, 0)

/- A quarter turn to the left. -/
def turnLeft :
    Direction → Direction
| north => west
| east => north
| south => east
| west => south

/- A quarter turn to the right. -/
def turnRight :
    Direction → Direction
| north => east
| east => south
| south => west
| west => north

/- The letter of a direction. -/
def letter :
    Direction → String
| north => "N"
| east => "E"
| south => "S"
| west => "W"

/- The direction with the given letter. -/
def ofLetter?
    (letter : String) : Option Direction :=
  all.find? fun direction => direction.letter == letter

end Direction

/- A cell and a direction. -/
structure Pose where
  x : Int
  y : Int
  direction : Direction
deriving DecidableEq, Repr

namespace Pose

/- The corner of the field, facing south. -/
def initial : Pose :=
  ⟨0, 0, Direction.initial⟩

/-
  The cell in front. Coordinates have no bounds here. Where
  they are kept in 32 bits, this sum leaves them at the ends
  of their range only: it wraps around, or it is refused if
  sums are checked.
-/
def ahead
    (pose : Pose) : Int × Int :=
  (pose.x + pose.direction.delta.1,
    pose.y + pose.direction.delta.2)

/- One cell forward. -/
def forward
    (pose : Pose) : Pose :=
  { pose with x := pose.ahead.1, y := pose.ahead.2 }

/- A quarter turn to the left on the spot. -/
def turnLeft
    (pose : Pose) : Pose :=
  { pose with direction := pose.direction.turnLeft }

/- A quarter turn to the right on the spot. -/
def turnRight
    (pose : Pose) : Pose :=
  { pose with direction := pose.direction.turnRight }

end Pose

/- A crane and the kind of block it carries. -/
structure Crane where
  pose : Pose := Pose.initial
  carried? : Option String := none
deriving DecidableEq, Repr

end Gantry

------------------------------------------------------------
-- Commands
------------------------------------------------------------

namespace Gantry

/- What a crane can be told to do. -/
inductive Verb where
  | move
  | turnLeft
  | turnRight
  | lift
  | place
  | placeBlock
  | dig
deriving DecidableEq, Repr

namespace Verb

/- All verbs. -/
def all : List Verb :=
  [move, turnLeft, turnRight, lift, place, placeBlock, dig]

/- The name of a verb in scripts. -/
def name :
    Verb → String
| move => "move"
| turnLeft => "turn_left"
| turnRight => "turn_right"
| lift => "lift"
| place => "place"
| placeBlock => "place_block"
| dig => "dig"

/- The verb with the given name. -/
def ofName?
    (name : String) : Option Verb :=
  all.find? fun verb => verb.name == name

end Verb

/- A verb, with a kind of block where one is given. -/
structure Command where
  verb : Verb
  kind? : Option String := none
deriving DecidableEq, Repr

namespace Command

/- A command as scripts would call it. -/
def text
    (command : Command) : String :=
  match command.kind? with
  | some kind => command.verb.name ++ "('" ++ kind ++ "')"
  | none => command.verb.name ++ "()"

end Command

end Gantry

------------------------------------------------------------
-- Looking Ahead
------------------------------------------------------------

namespace Gantry

namespace Pose

/-
  The pose after one command, as far as moves and turns
  decide it. Walls are not looked at.
-/
def step
    (pose : Pose)
    (command : Command) : Pose :=
  match command.verb with
  | .move => pose.forward
  | .turnLeft => pose.turnLeft
  | .turnRight => pose.turnRight
  | _ => pose

/- The pose after several commands. -/
def follow
    (pose : Pose)
    (commands : List Command) : Pose :=
  commands.foldl step pose

end Pose

namespace World

/-
  What a crane sees in front of it: a wall outside the
  field, the highest block of the cell, or nothing.
-/
def lookFrom
    (world : World)
    (pose : Pose) : String :=
  let (x, y) := pose.ahead
  if world.inBounds x y then
    match world.top? x y with
    | some block => block.kind
    | none => "empty"
  else
    "wall"

end World

end Gantry

------------------------------------------------------------
-- The Yard
------------------------------------------------------------

namespace Gantry

/- The kind of block that is there for the asking. -/
def standardSupply : String := "brick"

/- Why a command cannot be carried out. -/
inductive CraneFailure where
  | outOfBounds (verb : Verb) (x y : Int)
  | alreadyCarrying (kind : String)
  | noBlock (verb : Verb) (x y : Int)
deriving DecidableEq, Repr

/- A failure in words. -/
def CraneFailure.message :
    CraneFailure → String
| .outOfBounds verb x y =>
    s!"cannot {verb.name} at ({x}, {y}): outside the field"
| .alreadyCarrying kind =>
    s!"cannot lift: the crane is already carrying {kind}"
| .noBlock verb x y =>
    s!"cannot {verb.name}: no block at ({x}, {y})"

/-
  What commands act on: a world, its crane, and the kind of
  block that an empty crane places.
-/
structure Yard where
  world : World
  crane : Crane := {}
  supply : String := standardSupply
deriving DecidableEq

namespace Yard

/- One cell forward, within the field. -/
def move
    (yard : Yard) : Except CraneFailure Yard :=
  let (x, y) := yard.crane.pose.ahead
  if yard.world.inBounds x y then
    .ok { yard with
      crane := { yard.crane with
        pose := yard.crane.pose.forward } }
  else
    .error (.outOfBounds .move x y)

/- A turn. -/
def turn
    (yard : Yard)
    (turned : Pose → Pose) : Yard :=
  { yard with
    crane := { yard.crane with
      pose := turned yard.crane.pose } }

/- Take the highest block ahead off its column. -/
def takeTop
    (yard : Yard)
    (verb : Verb) : Except CraneFailure (Placement × Yard) :=
  let (x, y) := yard.crane.pose.ahead
  match yard.world.top? x y with
  | some block =>
      .ok (block,
        { yard with world := yard.world.clear block.site })
  | none => .error (.noBlock verb x y)

/- Pick up the highest block ahead. -/
def lift
    (yard : Yard) : Except CraneFailure Yard :=
  match yard.crane.carried? with
  | some kind => .error (.alreadyCarrying kind)
  | none =>
      match yard.takeTop .lift with
      | .error failure => .error failure
      | .ok (block, after) =>
          .ok { after with
            crane := { after.crane with
              carried? := some block.kind } }

/- Do away with the highest block ahead. -/
def dig
    (yard : Yard) : Except CraneFailure Yard :=
  (yard.takeTop .dig).map (·.2)

/-
  Put a block on top of the column ahead. Heights have no
  bounds here either: this sum leaves 32 bits only on top of
  the last height that they hold.
-/
def stack
    (yard : Yard)
    (verb : Verb)
    (kind : String) : Except CraneFailure Yard :=
  let (x, y) := yard.crane.pose.ahead
  if yard.world.inBounds x y then
    let z :=
      match yard.world.top? x y with
      | some block => block.site.z + 1
      | none => 0
    .ok { yard with
      world := yard.world.put ⟨x, y, z⟩ kind }
  else
    .error (.outOfBounds verb x y)

/- Put down the carried block, or one of the supply. -/
def place
    (yard : Yard) : Except CraneFailure Yard :=
  (yard.stack .place
    (yard.crane.carried?.getD yard.supply)).map fun after =>
      { after with
        crane := { after.crane with carried? := none } }

/-
  Carry out one command. A command that fails leaves the
  yard as it was.
-/
def perform
    (yard : Yard)
    (command : Command) : Except CraneFailure Yard :=
  match command.verb with
  | .move => yard.move
  | .turnLeft => .ok (yard.turn Pose.turnLeft)
  | .turnRight => .ok (yard.turn Pose.turnRight)
  | .lift => yard.lift
  | .place => yard.place
  | .placeBlock =>
      yard.stack .placeBlock
        (command.kind?.getD standardSupply)
  | .dig => yard.dig

/- What the crane sees ahead. -/
def look
    (yard : Yard) : String :=
  yard.world.lookFrom yard.crane.pose

end Yard

end Gantry
