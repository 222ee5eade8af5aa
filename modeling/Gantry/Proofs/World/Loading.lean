import Gantry.Level
import Gantry.Proofs.World.Columns

/-
  This file tells what stands on a field once its level has
  been loaded. Of the blocks that a level puts at one site
  the last one counts, and it clears the site if its kind is
  empty. A site at which the level puts nothing holds ground
  if it is on the ground of the field.

  A world that is put together block by block answers for
  each site with the latest block put there, and lists its
  blocks in the order of their sites; what a level leaves
  follows from that.

  Key definitions include:
    * `Gantry.Site.Before`
    * `Gantry.Placement.stays?`
    * `Gantry.Level.OnGround`
    * `Gantry.Level.standing?`

  Main statements:
    * `Gantry.World.kindAt?_putAll`
    * `Gantry.World.mem_blocks_iff`
    * `Gantry.World.ascending_blocks`
    * `Gantry.Level.last_block_counts`
-/

------------------------------------------------------------
-- The Latest Block
------------------------------------------------------------

namespace Gantry

/- What is left where a block is put: its kind, if any. -/
def Placement.stays?
    (block : Placement) : Option String :=
  if block.kind = "" then none else some block.kind

namespace World

/- Putting a block changes what its own site holds. -/
theorem kindAt?_put
    (world : World)
    (block : Placement)
    (site : Site) :
    (world.put block.site block.kind).kindAt? site =
      if block.site = site then
        block.stays?
      else
        world.kindAt? site := by
  rcases site with ⟨x, y, z⟩
  rcases block with ⟨⟨a, b, c⟩, kind⟩
  by_cases hCell : (x, y) = (a, b)
  · rcases Prod.mk.inj hCell with ⟨rfl, rfl⟩
    have hColumn :
        (world.put ⟨x, y, c⟩ kind).column x y =
          Column.set c (Placement.stays? ⟨⟨x, y, c⟩, kind⟩)
            (world.column x y) := by
      change Rows.column (World.rows _) _ _ = _
      rw [rows_put]
      exact Rows.column_set_self world.tidy x y c _
    dsimp only [kindAt?]
    rw [hColumn, Column.set]
    by_cases hHeight : z = c
    · rw [hHeight, if_pos rfl,
        Shelf.get?_alter_self (world.ordered_column x y)]
    · have hOther : (⟨x, y, c⟩ : Site) ≠ ⟨x, y, z⟩ :=
        fun hSame => hHeight (congrArg Site.z hSame).symm
      rw [if_neg hOther, Shelf.get?_alter_of_ne hHeight]
  · have hOther : (⟨a, b, c⟩ : Site) ≠ ⟨x, y, z⟩ := by
      rintro ⟨⟩
      exact hCell rfl
    have hColumn :
        (world.put ⟨a, b, c⟩ kind).column x y =
          world.column x y := by
      change Rows.column (World.rows _) _ _ = _
      rw [rows_put]
      exact Rows.column_set_of_ne world.tidy _ _ hCell
    dsimp only [kindAt?]
    rw [hColumn, if_neg hOther]

/- The last of several blocks at a site is what it holds. -/
theorem kindAt?_putAll
    (world : World)
    (blocks : List Placement)
    (site : Site) :
    (world.putAll blocks).kindAt? site =
      match blocks.findRev? (·.site == site) with
      | some block => block.stays?
      | none => world.kindAt? site := by
  induction blocks generalizing world with
  | nil => rfl
  | cons first rest ih =>
      have hRest :
          (world.putAll (first :: rest)).kindAt? site =
            ((world.put first.site first.kind).putAll
              rest).kindAt? site := rfl
      rw [hRest, ih, List.findRev?]
      cases rest.findRev? (·.site == site) with
      | some block => rfl
      | none =>
          dsimp only
          rw [kindAt?_put]
          by_cases hSite : first.site = site
          · rw [if_pos hSite]
            simp [hSite]
          · rw [if_neg hSite]
            simp [hSite]

end World

end Gantry

------------------------------------------------------------
-- Blocks In Order
------------------------------------------------------------

namespace Gantry

/- Sites are in order of `x`, then of `y`, then of `z`. -/
def Site.Before
    (first second : Site) : Prop :=
  first.x < second.x ∨
    first.x = second.x ∧
      (first.y < second.y ∨
        first.y = second.y ∧ first.z < second.z)

instance
    (first second : Site) :
    Decidable (first.Before second) := by
  unfold Site.Before
  infer_instance

namespace World

/- The blocks that are listed are those that are found. -/
theorem mem_blocks_iff
    (world : World)
    (block : Placement) :
    block ∈ world.blocks ↔
      world.kindAt? block.site = some block.kind := by
  have hTidy := world.tidy
  simp only [blocks, List.mem_flatMap, List.mem_map,
    List.mem_reverse]
  unfold kindAt? column
  constructor
  · rintro ⟨⟨x, row⟩, hRow, ⟨y, column⟩, hColumn,
      ⟨z, kind⟩, hBlock, rfl⟩
    have hRowTidy := hTidy.2 _ hRow
    have hColumnTidy := hRowTidy.2.2 _ hColumn
    rw [(Shelf.get?_eq_some_iff hTidy.1).mpr hRow,
      Option.bind_some,
      (Shelf.get?_eq_some_iff hRowTidy.2.1).mpr hColumn]
    exact
      (Shelf.get?_eq_some_iff hColumnTidy.2.1).mpr hBlock
  · intro hKind
    cases hRow : Shelf.get? block.site.x world.rows with
    | none =>
        rw [hRow] at hKind
        cases hKind
    | some row =>
        rw [hRow, Option.bind_some] at hKind
        cases hColumn : Shelf.get? block.site.y row with
        | none =>
            rw [hColumn] at hKind
            cases hKind
        | some column =>
            rw [hColumn, Option.getD_some] at hKind
            exact ⟨(block.site.x, row),
              Shelf.mem_of_get? hRow,
              (block.site.y, column),
              Shelf.mem_of_get? hColumn,
              (block.site.z, block.kind),
              Shelf.mem_of_get? hKind, rfl⟩

/- They are listed in the order of their sites. -/
theorem ascending_blocks
    (world : World) :
    world.blocks.Pairwise fun first second =>
      first.site.Before second.site := by
  have hTidy := world.tidy
  unfold blocks
  rw [List.pairwise_flatMap]
  constructor
  · rintro ⟨x, row⟩ hRow
    have hRowTidy := hTidy.2 _ hRow
    rw [List.pairwise_flatMap]
    constructor
    · rintro ⟨y, column⟩ hColumn
      have hColumnTidy := hRowTidy.2.2 _ hColumn
      rw [List.pairwise_map, List.pairwise_reverse]
      exact hColumnTidy.2.1.imp fun hBelow =>
        Or.inr ⟨rfl, Or.inr ⟨rfl, hBelow⟩⟩
    · refine hRowTidy.2.1.imp fun hColumns => ?_
      simp only [List.mem_map]
      rintro _ ⟨low, _, rfl⟩ _ ⟨high, _, rfl⟩
      exact Or.inr ⟨rfl, Or.inl hColumns⟩
  · refine hTidy.1.imp fun hRows => ?_
    simp only [List.mem_flatMap, List.mem_map]
    rintro _ ⟨_, _, low, _, rfl⟩ _ ⟨_, _, high, _, rfl⟩
    exact Or.inl hRows

end World

end Gantry

------------------------------------------------------------
-- Ground
------------------------------------------------------------

namespace Gantry

namespace Level

/- A site lies on the ground of the field. -/
def OnGround
    (level : Level)
    (site : Site) : Prop :=
  site.z = 0 ∧
    (0 ≤ site.x ∧ site.x < level.width) ∧
      (0 ≤ site.y ∧ site.y < level.height)

instance
    (level : Level)
    (site : Site) :
    Decidable (level.OnGround site) := by
  unfold OnGround
  infer_instance

theorem mem_range_iff
    (size n : Int) :
    n ∈ range size ↔ 0 ≤ n ∧ n < size := by
  unfold range
  rw [List.mem_map]
  constructor
  · rintro ⟨i, hI, rfl⟩
    rw [List.mem_range] at hI
    change 0 ≤ (i : Int) ∧ (i : Int) < size
    omega
  · rintro ⟨hLeast, hSize⟩
    refine ⟨n.toNat, ?_, Int.toNat_of_nonneg hLeast⟩
    rw [List.mem_range]
    omega

theorem mem_groundSites_iff
    (level : Level)
    (site : Site) :
    site ∈ groundSites level.width level.height ↔
      level.OnGround site := by
  unfold groundSites OnGround
  split
  · rename_i hFlat
    simp only [List.not_mem_nil, false_iff]
    omega
  · simp only [List.mem_flatMap, List.mem_map,
      mem_range_iff]
    constructor
    · rintro ⟨x, hX, y, hY, rfl⟩
      exact ⟨rfl, hX, hY⟩
    · rintro ⟨hZ, hX, hY⟩
      exact ⟨site.x, hX, site.y, hY, by rw [← hZ]⟩

/- Ground covers the cells of the field, and nothing else. -/
theorem kindAt?_groundWorld
    (level : Level)
    (site : Site) :
    (groundWorld level.width level.height).kindAt? site =
      if level.OnGround site then
        some groundKind
      else
        none := by
  simp only [← mem_groundSites_iff]
  unfold groundWorld
  induction groundSites level.width level.height with
  | nil => rfl
  | cons first rest ih =>
      rw [List.foldr_cons,
        World.kindAt?_put _ ⟨first, groundKind⟩ site, ih]
      by_cases hFirst : first = site
      · rw [if_pos hFirst, if_pos (by simp [hFirst])]
        rfl
      · rw [if_neg hFirst]
        simp [Ne.symm hFirst]

end Level

end Gantry

------------------------------------------------------------
-- Loaded Levels
------------------------------------------------------------

namespace Gantry

namespace Level

/-
  What a level says should stand at a site: its last block
  there, which may be none at all, or else the ground.
-/
def standing?
    (level : Level)
    (site : Site) : Option String :=
  match level.blocks.findRev? (·.site == site) with
  | some block => block.stays?
  | none =>
      if level.OnGround site then
        some groundKind
      else
        none

theorem kindAt?_world
    (level : Level)
    (site : Site) :
    level.world.kindAt? site = level.standing? site := by
  have hGoals :
      level.world.kindAt? site =
        ((groundWorld level.width level.height).putAll
          level.blocks).kindAt? site := rfl
  rw [hGoals, World.kindAt?_putAll, standing?,
    kindAt?_groundWorld]

/-
  A level that has been loaded, whatever its size and
  whatever blocks it puts where. Each site holds what the
  last block says that the level puts there, which clears
  the site if its kind is empty; a site without one holds
  ground on the ground of the field, and nothing elsewhere.
  The blocks of the world are just these, in the strict
  order of their sites, and the goals that are not met are
  those goals, in their order, whose site holds anything
  else than their kind.
-/
theorem last_block_counts
    (level : Level) :
    let world := level.world
    (∀ site, world.kindAt? site = level.standing? site) ∧
    (∀ block,
      block ∈ world.blocks ↔
        level.standing? block.site = some block.kind) ∧
    (world.blocks.Pairwise fun first second =>
      first.site.Before second.site) ∧
    world.unmetGoals =
      level.goals.filter fun goal =>
        level.standing? goal.site ≠ some goal.kind := by
  intro world
  refine ⟨level.kindAt?_world, fun block => ?_,
    world.ascending_blocks, ?_⟩
  · rw [world.mem_blocks_iff, level.kindAt?_world]
  · change level.goals.filter (!world.meets ·) = _
    apply List.filter_congr
    intro goal _
    rw [World.meets, level.kindAt?_world,
      Bool.eq_iff_iff]
    simp

/-
  The second block clears the ground that the first one has
  replaced, and the third stands outside the field.
-/
example :
    let level : Level :=
      { width := 1
        height := 2
        blocks :=
          [⟨⟨0, 0, 0⟩, "sand"⟩, ⟨⟨0, 0, 0⟩, ""⟩,
            ⟨⟨5, -1, 3⟩, "moss"⟩] }
    level.world.blocks =
      [⟨⟨0, 1, 0⟩, "ground"⟩, ⟨⟨5, -1, 3⟩, "moss"⟩] := by
  decide +kernel

end Level

end Gantry
