import TabletopDice.Trigger.Basic
import TabletopDice.Selection
import TabletopDice.Modifier
import TabletopDice.Fault

/-!
# Formulas

A formula such as `4d6r<2!>5kh3+5` says how many dice of how many sides to roll, which faces to
reroll and which to explode on, which dice to keep and what to add. It has a canonical text, and
within limits on the number of dice it can be rolled unless there is an objection.
-/

namespace TabletopDice

/-- What may be rolled at once, and how often a die explodes where the formula does not say. -/
structure Limits where
  maxDice : UInt32 := 1000
  explosions : UInt32 := 100
deriving DecidableEq

/-- Dice to roll, and what is done with their faces. -/
structure Formula where
  quantity : UInt32
  sides : UInt32
  reroll : Option Trigger
  explosion : Option Trigger
  selection : Option Selection
  modifier : Int64
deriving DecidableEq

namespace Formula

/-- The canonical text of the formula, in which comparators and limits are never left out. -/
def text (formula : Formula) : String :=
  s!"{formula.quantity}d{formula.sides}" ++
    formula.reroll.elim "" (fun reroll => s!"r{reroll}") ++
    formula.explosion.elim "" (fun explosion => s!"!{explosion}") ++
    formula.selection.elim "" toString ++
    modifierText formula.modifier

instance : ToString Formula := ⟨text⟩

/-- What stands against the selection among so many dice. -/
def selectionObjection? (quantity : UInt32) (selection : Selection) : Option Objection :=
  match selection.choice with
  | .drop => if quantity ≤ selection.amount then some .dropAll else none
  | .keep =>
    if quantity < selection.amount then some .keepTooMany
    else if selection.amount = 0 then some .keepZero
    else none

/-- What stands against rolling the formula within the limits; the first objection counts. -/
def objection? (formula : Formula) (limits : Limits) : Option Objection :=
  if formula.quantity = 0 ∨ formula.sides = 0 then some .nonPositive
  else if limits.maxDice < formula.quantity then some (.tooManyDice limits.maxDice)
  else formula.selection.bind (selectionObjection? formula.quantity)

end Formula
end TabletopDice
