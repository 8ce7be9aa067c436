import TabletopDice.Chance.Basic
import TabletopDice.Log

/-!
# Pools

Rolling a formula fills a pool of faces, die by die. Each die shows a face; if the formula rerolls
that face and rerolls are left, a second face takes its place for good. Then the die goes on as long
as it explodes and has explosions left, each time adding one more face. Rerolls are counted over all
the dice, explosions for each die on its own. Each reroll and each explosion is entered in the log.
-/

namespace TabletopDice

namespace Formula

/-- Whether a die that shows the face first is to be rerolled. -/
def rerolls (formula : Formula) (face : UInt32) : Bool :=
  formula.reroll.any (·.on.takes face)

/-- How many rerolls the formula allows all its dice together. -/
def rerollLimit (formula : Formula) : Nat :=
  formula.reroll.elim 0 (·.limit.toNat)

/-- Whether a die that shows the face goes on to another one. -/
def explodes (formula : Formula) (face : UInt32) : Bool :=
  formula.explosion.any (·.on.takes face)

/-- How many explosions the formula allows each die. -/
def explosionLimit (formula : Formula) : Nat :=
  formula.explosion.elim 0 (·.limit.toNat)

section Trigger

variable {formula : Formula} {trigger : Trigger}

/-- With a reroll, its comparison tells which faces are rerolled. -/
theorem rerolls_of_some (there : formula.reroll = some trigger) :
    formula.rerolls = trigger.on.takes := by
  funext face
  rw [rerolls, there, Option.any_some]

theorem rerollLimit_of_some (there : formula.reroll = some trigger) :
    formula.rerollLimit = trigger.limit.toNat := by
  rw [rerollLimit, there, Option.elim_some]

theorem rerollLimit_of_none (absent : formula.reroll = none) : formula.rerollLimit = 0 := by
  rw [rerollLimit, absent, Option.elim_none]

/-- With an explosion, its comparison tells which faces explode. -/
theorem explodes_of_some (there : formula.explosion = some trigger) :
    formula.explodes = trigger.on.takes := by
  funext face
  rw [explodes, there, Option.any_some]

theorem explosionLimit_of_some (there : formula.explosion = some trigger) :
    formula.explosionLimit = trigger.limit.toNat := by
  rw [explosionLimit, there, Option.elim_some]

theorem explosionLimit_of_none (absent : formula.explosion = none) :
    formula.explosionLimit = 0 := by
  rw [explosionLimit, absent, Option.elim_none]

end Trigger

end Formula

/-- A roll under way: the faces of the pool so far, in order, the rerolls left, the source, and what
has been told of the roll. -/
structure Tray (σ : Type) where
  faces : Array UInt32
  rerolls : Nat
  source : σ
  log : Array Record

namespace Tray

variable {σ : Type} [FaceSource σ]

/-- Has the source show a face, which is not in the pool yet. -/
def reveal (tray : Tray σ) (sides : UInt32) : UInt32 × Tray σ :=
  let (face, source) := FaceSource.face sides tray.source
  (face, { tray with source })

/-- Puts a face into the pool. -/
def add (tray : Tray σ) (face : UInt32) : Tray σ :=
  { tray with faces := tray.faces.push face }

/-- Enters a record in the log. -/
def tell (tray : Tray σ) (record : Record) : Tray σ :=
  { tray with log := tray.log.push record }

/-- The face that a die starts with: the first one shown, or the second if the first is rerolled. -/
def start (tray : Tray σ) (formula : Formula) : UInt32 × Tray σ :=
  let (face, tray) := tray.reveal formula.sides
  if 0 < tray.rerolls && formula.rerolls face then
    let (next, tray) := { tray with rerolls := tray.rerolls - 1 }.reveal formula.sides
    (next, tray.tell (.rerolled face next tray.rerolls))
  else (face, tray)

/-- Lets the die that shows the face explode, so many times at most. -/
def explode (formula : Formula) : (limit : Nat) → (face : UInt32) → Tray σ → Tray σ
  | 0, _, tray => tray
  | limit + 1, face, tray =>
    if formula.explodes face then
      let (next, tray) := tray.reveal formula.sides
      explode formula limit next ((tray.tell (.exploded next)).add next)
    else tray

/-- Rolls one die: the face that it starts with gets into the pool, and those it explodes into. -/
def rollDie (tray : Tray σ) (formula : Formula) : Tray σ :=
  let (face, tray) := tray.start formula
  explode formula formula.explosionLimit face (tray.add face)

/-- Rolls so many dice, one after another. -/
def rollDice (formula : Formula) : (quantity : Nat) → Tray σ → Tray σ
  | 0, tray => tray
  | quantity + 1, tray => rollDice formula quantity (tray.rollDie formula)

end Tray

namespace Formula

variable {σ : Type} [FaceSource σ]

/-- Rolls the dice of the formula on a tray of its own. -/
def rollOut (formula : Formula) (source : σ) : Tray σ :=
  Tray.rollDice formula formula.quantity.toNat
    { faces := #[], rerolls := formula.rerollLimit, source, log := #[] }

/-- Rolls the dice of the formula: all faces of the pool, in order, and the source as it is left. -/
def pool (formula : Formula) (source : σ) : List UInt32 × σ :=
  let tray := formula.rollOut source
  (tray.faces.toList, tray.source)

/-- The faces of a pool that count: what the selection leaves, or all of them. -/
def select (formula : Formula) (pool : List UInt32) : List UInt32 :=
  formula.selection.elim pool (·.pick pool)

/-- Rolls the dice of the formula: the faces that count, and the source as it is left. -/
def faces (formula : Formula) (source : σ) : List UInt32 × σ :=
  let (pool, source) := formula.pool source
  (formula.select pool, source)

end Formula
end TabletopDice
