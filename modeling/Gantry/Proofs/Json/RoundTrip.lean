import Mathlib.Algebra.Group.Int.Defs
import Gantry.Config
import Gantry.Level
import Gantry.Proofs.Json.Writing

/-
  This file shows that levels, configurations and commands
  come through their texts unharmed. Whatever is written is
  read back as it was, provided that its numbers have the
  width that the reader allows; and whatever is read has.

  Key definitions include:
    * `Gantry.IsCoordinate`
    * `Gantry.Level.Fits`
    * `Gantry.Config.Fits`
    * `Gantry.Json.Lawful`
    * `Gantry.Json.RoundTrips`

  Main statements:
    * `Gantry.Json.Lawful.roundTrips`
    * `Gantry.Level.lawful`
    * `Gantry.Config.lawful`
    * `Gantry.Command.lawful`
    * `Gantry.Json.texts_round_trip`
-/

------------------------------------------------------------
-- Widths
------------------------------------------------------------

namespace Gantry

/- A whole number of 32 bits. -/
def IsCoordinate
    (n : Int) : Prop :=
  -2 ^ 31 ≤ n ∧ n < 2 ^ 31

instance
    (n : Int) :
    Decidable (IsCoordinate n) :=
  inferInstanceAs (Decidable (_ ∧ _))

/- A whole number of 64 bits without a sign. -/
def IsCount
    (n : Nat) : Prop :=
  n < 2 ^ 64

instance
    (n : Nat) :
    Decidable (IsCount n) :=
  inferInstanceAs (Decidable (n < _))

/- The coordinates of a block have the right width. -/
structure Placement.Fits
    (block : Placement) : Prop where
  x : IsCoordinate block.site.x
  y : IsCoordinate block.site.y
  z : IsCoordinate block.site.z

/- The coordinates of a crane have the right width. -/
structure CraneSetup.Fits
    (setup : CraneSetup) : Prop where
  x : IsCoordinate setup.x
  y : IsCoordinate setup.y

/- All numbers of a level have the right width. -/
structure Level.Fits
    (level : Level) : Prop where
  width : IsCoordinate level.width
  height : IsCoordinate level.height
  blocks : ∀ block ∈ level.blocks, block.Fits
  goals : ∀ goal ∈ level.goals, goal.Fits
  crane : level.crane.Fits

/- All numbers of a configuration have the right width. -/
structure Config.Fits
    (config : Config) : Prop where
  iterations : IsCount config.limits.maxIterations
  depth : IsCount config.limits.maxCallDepth
  step : IsCount config.stepMillis

end Gantry

------------------------------------------------------------
-- Documents And Things
------------------------------------------------------------

namespace Gantry

namespace Json

variable {α : Type}

/-
  What fits is written as a document that can be read back,
  it is what the document says, and nothing else is read
  from any document.
-/
structure Lawful
    (encode : α → Json)
    (decode : Json → Option α)
    (Fits : α → Prop) : Prop where
  exact {thing : α} :
    Fits thing → (encode thing).Exact
  decoded {thing : α} :
    Fits thing → decode (encode thing) = some thing
  fits {json : Json} {thing : α} :
    decode json = some thing → Fits thing

theorem lawful_coordinate :
    Lawful int coordinate? IsCoordinate where
  exact := by
    intro n hFits
    rw [IsCoordinate] at hFits
    rw [Exact, wholeDigits]
    omega
  decoded := by
    intro n hFits
    rw [IsCoordinate] at hFits
    rw [coordinate?, intWithin?, if_pos (by omega)]
  fits := by
    intro json n hDecoded
    rw [IsCoordinate]
    unfold coordinate? intWithin? at hDecoded
    split at hDecoded
    · simp only [Option.ite_none_right_eq_some,
        Option.some.injEq] at hDecoded
      omega
    · contradiction

theorem lawful_count :
    Lawful ofNat count? IsCount where
  exact := by
    intro n hFits
    rw [IsCount] at hFits
    rw [ofNat, Exact, wholeDigits]
    omega
  decoded := by
    intro n hFits
    rw [IsCount] at hFits
    rw [ofNat, count?, intWithin?, if_pos (by omega)]
    rfl
  fits := by
    intro json n hDecoded
    rw [IsCount]
    unfold count? intWithin? at hDecoded
    split at hDecoded
    · simp only [Option.map_eq_some_iff,
        Option.ite_none_right_eq_some,
        Option.some.injEq] at hDecoded
      omega
    · contradiction

theorem listExact_iff :
    (items : List Json) →
    (ListExact items ↔ ∀ item ∈ items, item.Exact)
| [] => by simp [ListExact]
| item :: items => by
    rw [ListExact, List.forall_mem_cons, listExact_iff items]

/- Like things are written as an array. -/
theorem Lawful.array
    {encode : α → Json}
    {decode : Json → Option α}
    {Fits : α → Prop}
    (hLawful : Lawful encode decode Fits) :
    Lawful (fun things => arr (things.map encode))
      (arrayOf? decode)
      (fun things => ∀ thing ∈ things, Fits thing) where
  exact := by
    intro things hFits
    rw [Exact, listExact_iff, List.forall_mem_map]
    exact fun thing hThing =>
      hLawful.exact (hFits thing hThing)
  decoded := by
    intro things hFits
    rw [arrayOf?]
    induction things with
    | nil => rfl
    | cons thing things ih =>
        rw [List.forall_mem_cons] at hFits
        rw [List.map_cons, List.mapM_cons,
          hLawful.decoded hFits.1, ih hFits.2]
        rfl
  fits := by
    intro json things hDecoded
    unfold arrayOf? at hDecoded
    split at hDecoded
    · rename_i items
      induction items generalizing things with
      | nil =>
          cases hDecoded
          simp
      | cons item items ih =>
          simp only [List.mapM_cons, Option.bind_eq_bind,
            Option.bind_eq_some_iff, Option.pure_def,
            Option.some.injEq] at hDecoded
          rcases hDecoded with
            ⟨thing, hThing, others, hOthers, rfl⟩
          rw [List.forall_mem_cons]
          exact ⟨hLawful.fits hThing, ih hOthers⟩
    · contradiction

/- A field that was left out fits if its default does. -/
theorem Lawful.fits_orDefault
    {encode : α → Json}
    {decode : Json → Option α}
    {Fits : α → Prop}
    (hLawful : Lawful encode decode Fits)
    {field : Option Json}
    {fallback thing : α}
    (hFallback : Fits fallback)
    (hDecoded :
      orDefault field fallback decode = some thing) :
    Fits thing := by
  cases field with
  | none =>
      cases hDecoded
      exact hFallback
  | some value => exact hLawful.fits hDecoded

end Json

end Gantry

------------------------------------------------------------
-- Blocks, Cranes And Commands
------------------------------------------------------------

namespace Gantry

open Json

theorem Placement.lawful :
    Lawful Placement.toJson Placement.ofJson?
      Placement.Fits where
  exact := by
    intro block hFits
    exact ⟨lawful_coordinate.exact hFits.x,
      lawful_coordinate.exact hFits.y,
      lawful_coordinate.exact hFits.z, trivial, trivial⟩
  decoded := by
    intro block hFits
    simp only [toJson, ofJson?,
      lawful_coordinate.decoded hFits.x,
      lawful_coordinate.decoded hFits.y,
      lawful_coordinate.decoded hFits.z, text?]
    rfl
  fits := by
    intro json block hDecoded
    unfold ofJson? at hDecoded
    split at hDecoded
    · simp only [Option.bind_eq_bind,
        Option.bind_eq_some_iff, Option.pure_def,
        Option.some.injEq] at hDecoded
      rcases hDecoded with
        ⟨x, hX, y, hY, z, hZ, kind, _, rfl⟩
      exact ⟨lawful_coordinate.fits hX,
        lawful_coordinate.fits hY,
        lawful_coordinate.fits hZ⟩
    · contradiction

theorem Direction.ofJson?_toJson
    (direction : Direction) :
    Direction.ofJson? direction.toJson = some direction := by
  cases direction <;> decide

theorem Verb.ofJson?_toJson
    (verb : Verb) :
    Verb.ofJson? verb.toJson = some verb := by
  cases verb <;> decide

theorem CraneSetup.lawful :
    Lawful CraneSetup.toJson CraneSetup.ofJson?
      CraneSetup.Fits where
  exact := by
    intro setup hFits
    exact ⟨lawful_coordinate.exact hFits.x,
      lawful_coordinate.exact hFits.y, trivial, trivial,
      trivial⟩
  decoded := by
    intro setup hFits
    simp [toJson, ofJson?, record?, field?, valuesOf,
      orDefault, text?, Direction.ofJson?_toJson,
      lawful_coordinate.decoded hFits.x,
      lawful_coordinate.decoded hFits.y]
  fits := by
    intro json setup hDecoded
    rcases Option.bind_eq_some_iff.mp hDecoded with
      ⟨fields, _, hDecoded⟩
    split at hDecoded
    · simp only [Option.bind_eq_bind,
        Option.bind_eq_some_iff, Option.pure_def,
        Option.some.injEq] at hDecoded
      rcases hDecoded with
        ⟨x, hX, y, hY, direction, _, supply, _, rfl⟩
      exact ⟨lawful_coordinate.fits_orDefault (by decide) hX,
        lawful_coordinate.fits_orDefault (by decide) hY⟩
    · contradiction

theorem Command.lawful :
    Lawful Command.toJson Command.ofJson?
      (fun _ => True) where
  exact := by
    rintro ⟨verb, kind?⟩ _
    cases kind? with
    | none => exact ⟨trivial, trivial⟩
    | some kind => exact ⟨trivial, trivial, trivial⟩
  decoded := by
    rintro ⟨verb, kind?⟩ _
    cases kind? <;>
      simp [toJson, kindFields, ofJson?, record?, field?,
        valuesOf, orDefault, optionalText?,
        Verb.ofJson?_toJson]
  fits _ := trivial

end Gantry

------------------------------------------------------------
-- Levels And Configurations
------------------------------------------------------------

namespace Gantry

open Json

/- The size of a field is a pair of coordinates. -/
theorem Level.lawful_size :
    Lawful (fun size : Int × Int =>
        .arr [.int size.1, .int size.2])
      Level.size?
      (fun size =>
        IsCoordinate size.1 ∧ IsCoordinate size.2) where
  exact hFits :=
    ⟨lawful_coordinate.exact hFits.1,
      lawful_coordinate.exact hFits.2, trivial⟩
  decoded := by
    intro size hFits
    simp only [size?, lawful_coordinate.decoded hFits.1,
      lawful_coordinate.decoded hFits.2]
    rfl
  fits := by
    intro json size hDecoded
    unfold size? at hDecoded
    split at hDecoded
    · simp only [Option.bind_eq_bind,
        Option.bind_eq_some_iff, Option.pure_def,
        Option.some.injEq] at hDecoded
      rcases hDecoded with ⟨_, hWidth, _, hHeight, rfl⟩
      exact ⟨lawful_coordinate.fits hWidth,
        lawful_coordinate.fits hHeight⟩
    · contradiction

theorem Level.lawful :
    Lawful Level.toJson Level.ofJson? Level.Fits where
  exact := by
    intro level hFits
    have hSize :=
      @lawful_size.exact (level.width, level.height)
        ⟨hFits.width, hFits.height⟩
    have hBlocks := Placement.lawful.array.exact hFits.blocks
    have hGoals := Placement.lawful.array.exact hFits.goals
    have hCrane := CraneSetup.lawful.exact hFits.crane
    rw [toJson]
    cases level.carried? with
    | none => exact ⟨hSize, hBlocks, hGoals, hCrane, trivial⟩
    | some kind =>
        exact ⟨hSize, hBlocks, hGoals, hCrane, trivial,
          trivial⟩
  decoded := by
    rintro ⟨width, height, blocks, goals, crane, carried?⟩
      hFits
    have hSize :
        size? (.arr [.int width, .int height]) =
          some (width, height) :=
      @lawful_size.decoded (width, height)
        ⟨hFits.width, hFits.height⟩
    have hBlocks :
        arrayOf? Placement.ofJson?
          (Placement.listJson blocks) = some blocks :=
      Placement.lawful.array.decoded hFits.blocks
    have hGoals :
        arrayOf? Placement.ofJson?
          (Placement.listJson goals) = some goals :=
      Placement.lawful.array.decoded hFits.goals
    have hCrane :
        CraneSetup.ofJson? crane.toJson = some crane :=
      CraneSetup.lawful.decoded hFits.crane
    cases carried? <;>
      simp [toJson, carriedFields, ofJson?, record?, field?,
        valuesOf, orDefault, optionalText?, hSize, hBlocks,
        hGoals, hCrane]
  fits := by
    intro json level hDecoded
    rcases Option.bind_eq_some_iff.mp hDecoded with
      ⟨fields, _, hDecoded⟩
    split at hDecoded
    · simp only [Option.bind_eq_bind,
        Option.bind_eq_some_iff, Option.pure_def,
        Option.some.injEq] at hDecoded
      rcases hDecoded with
        ⟨size, hSize, blocks, hBlocks, goals, hGoals, crane,
          hCrane, carried?, _, rfl⟩
      have hSize :=
        lawful_size.fits_orDefault (by decide) hSize
      exact {
        width := hSize.1
        height := hSize.2
        blocks :=
          Placement.lawful.array.fits_orDefault (by simp)
            hBlocks
        goals :=
          Placement.lawful.array.fits_orDefault (by simp)
            hGoals
        crane :=
          CraneSetup.lawful.fits_orDefault
            ⟨by decide, by decide⟩ hCrane }
    · contradiction

theorem Config.lawful :
    Lawful Config.toJson Config.ofJson? Config.Fits where
  exact := by
    intro config hFits
    exact ⟨lawful_count.exact hFits.iterations,
      lawful_count.exact hFits.depth,
      lawful_count.exact hFits.step, trivial⟩
  decoded := by
    intro config hFits
    simp [toJson, ofJson?, record?, field?, valuesOf,
      orDefault, lawful_count.decoded hFits.iterations,
      lawful_count.decoded hFits.depth,
      lawful_count.decoded hFits.step]
  fits := by
    intro json config hDecoded
    rcases Option.bind_eq_some_iff.mp hDecoded with
      ⟨fields, _, hDecoded⟩
    split at hDecoded
    · simp only [Option.bind_eq_bind,
        Option.bind_eq_some_iff, Option.pure_def,
        Option.some.injEq] at hDecoded
      rcases hDecoded with
        ⟨iterations, hIterations, depth, hDepth, step, hStep,
          rfl⟩
      exact ⟨
        lawful_count.fits_orDefault (by decide) hIterations,
        lawful_count.fits_orDefault (by decide) hDepth,
        lawful_count.fits_orDefault (by decide) hStep⟩
    · contradiction

end Gantry

------------------------------------------------------------
-- Texts
------------------------------------------------------------

namespace Gantry

namespace Json

variable {α : Type}
variable {encode : α → Json}
variable {read? : String → Option α}

/- Write a text anew after reading it. -/
def rewrite?
    (encode : α → Json)
    (read? : String → Option α)
    (text : String) : Option String :=
  (read? text).map fun thing => (encode thing).compact

/-
  Things and their texts. Just what fits is read back from
  its text, and so is all that was read from any text; to
  write a text anew changes it once at most.
-/
structure RoundTrips
    (encode : α → Json)
    (read? : String → Option α)
    (Fits : α → Prop) : Prop where
  read_back (thing : α) :
    read? (encode thing).compact = some thing ↔ Fits thing
  read_again (text : String) (thing : α) :
    read? text = some thing →
      read? (encode thing).compact = some thing
  rewrite_once (text : String) :
    (rewrite? encode read? text).bind
        (rewrite? encode read?) =
      rewrite? encode read? text

/- What comes through documents comes through texts. -/
theorem Lawful.roundTrips
    {decode : Json → Option α}
    {Fits : α → Prop}
    (hLawful : Lawful encode decode Fits)
    (hRead :
      ∀ text, read? text = (Json.read? text).bind decode) :
    RoundTrips encode read? Fits := by
  have hBack :
      ∀ thing, Fits thing →
        read? (encode thing).compact = some thing := by
    intro thing hFits
    rw [hRead, read?_compact (hLawful.exact hFits),
      Option.bind_some, hLawful.decoded hFits]
  have hFits :
      ∀ text thing, read? text = some thing → Fits thing := by
    intro text thing hText
    rw [hRead, Option.bind_eq_some_iff] at hText
    rcases hText with ⟨json, _, hDecoded⟩
    exact hLawful.fits hDecoded
  refine ⟨fun thing => ⟨hFits _ thing, hBack thing⟩, ?_, ?_⟩
  · intro text thing hText
    exact hBack thing (hFits text thing hText)
  · intro text
    unfold rewrite?
    cases hText : read? text with
    | none => rfl
    | some thing =>
        simp [hBack thing (hFits text thing hText)]

/-
  Levels, configurations and commands come through their
  texts. Levels have coordinates of 32 bits, configurations
  have counts of 64 bits, and commands have no numbers.
-/
theorem texts_round_trip :
    RoundTrips Level.toJson Level.read? Level.Fits ∧
      RoundTrips Config.toJson Config.read? Config.Fits ∧
      RoundTrips Command.toJson Command.read?
        (fun _ => True) :=
  ⟨Level.lawful.roundTrips fun _ => rfl,
    Config.lawful.roundTrips fun _ => rfl,
    Command.lawful.roundTrips fun _ => rfl⟩

end Json

end Gantry
