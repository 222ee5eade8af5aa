import Gantry.Crane
import Gantry.Json.Reader

/-
  This file writes and reads the documents for what is in a
  yard: blocks, directions, cranes and commands.

  Key definitions include:
    * `Gantry.Placement.toJson`
    * `Gantry.Placement.ofJson?`
    * `Gantry.Crane.toJson`
    * `Gantry.Command.toJson`
    * `Gantry.Command.ofJson?`
    * `Gantry.Command.read?`
-/

------------------------------------------------------------
-- Blocks
------------------------------------------------------------

namespace Gantry

namespace Placement

/- A block is an array of its coordinates and its kind. -/
def toJson
    (block : Placement) : Json :=
  .arr [.int block.site.x, .int block.site.y,
    .int block.site.z, .str block.kind]

/- Read a block. -/
def ofJson? :
    Json → Option Placement
| .arr [x, y, z, kind] => do
    let x ← x.coordinate?
    let y ← y.coordinate?
    let z ← z.coordinate?
    let kind ← kind.text?
    return ⟨⟨x, y, z⟩, kind⟩
| _ => none

/- Blocks in their order. -/
def listJson
    (blocks : List Placement) : Json :=
  .arr (blocks.map toJson)

end Placement

end Gantry

------------------------------------------------------------
-- Cranes
------------------------------------------------------------

namespace Gantry

namespace Direction

/- A direction is its letter. -/
def toJson
    (direction : Direction) : Json :=
  .str direction.letter

/- Read a direction. -/
def ofJson?
    (json : Json) : Option Direction :=
  json.choice?.bind ofLetter?

end Direction

namespace Crane

/- A crane is an object. -/
def toJson
    (crane : Crane) : Json :=
  .obj [
    ("x", .int crane.pose.x),
    ("y", .int crane.pose.y),
    ("dir", crane.pose.direction.toJson),
    ("carried", Json.ofText? crane.carried?)]

end Crane

end Gantry

------------------------------------------------------------
-- Commands
------------------------------------------------------------

namespace Gantry

namespace Verb

/- A verb is its name. -/
def toJson
    (verb : Verb) : Json :=
  .str verb.name

/- Read a verb. -/
def ofJson?
    (json : Json) : Option Verb :=
  json.choice?.bind ofName?

end Verb

namespace Command

/- The field for the kind of block, where one is given. -/
def kindFields :
    Option String → List (String × Json)
| some kind => [("arg", .str kind)]
| none => []

/- A command is an object. -/
def toJson
    (command : Command) : Json :=
  .obj (("verb", command.verb.toJson) ::
    kindFields command.kind?)

/- Read a command. Its verb has to be there. -/
def ofJson?
    (json : Json) : Option Command := do
  match ← json.record? ["verb", "arg"] with
  | [some verb, kind] =>
      let verb ← Verb.ofJson? verb
      let kind? ← Json.orDefault kind none Json.optionalText?
      return ⟨verb, kind?⟩
  | _ => none

/- Read the text of a command. -/
def read?
    (text : String) : Option Command :=
  (Json.read? text).bind ofJson?

end Command

end Gantry
