import TabletopDice.Trigger.Parse
import TabletopDice.Formula.Basic
import TabletopDice.Formula.Outline

/-!
# From texts to formulas

A formula is read in three steps, and the first one that fails decides the fault: the text is cut
into its outline, the triggers in the outline are decoded, the reroll's before the explosion's, and
the formula they make is checked against the limits. A compound text holds several formulas,
separated by commas.
-/

namespace TabletopDice

/-- The formula that an outline states, with so many explosions where no limit is written. -/
def Outline.formula (outline : Outline) (explosions : UInt32) : Except Fault Formula := do
  let quantity := outline.quantity.amount
  let sides := outline.sides.amount
  let reroll ← outline.reroll.mapM fun span =>
    Trigger.parseReroll quantity (String.ofList span.chars)
  let explosion ← outline.explosion.mapM fun span =>
    Trigger.parseExplosion sides explosions (String.ofList span.chars)
  return {
    quantity, sides, reroll, explosion
    selection := outline.selection.map (·.selection)
    modifier := outline.modifier.elim 0 (·.value) }

namespace Formula

/-- The formula that a text states, if it can be rolled within the limits. -/
def parse (limits : Limits) (text : String) : Except Fault Formula :=
  match Outline.read? text.toList with
  | none => .error (.malformed .formula text)
  | some outline => do
    let formula ← outline.formula limits.explosions
    match formula.objection? limits with
    | some objection => .error (.unrollable objection)
    | none => .ok formula

/-- The parts of a compound text, without the white space around them. There is always at least
one. -/
def parts (text : String) : List String :=
  (text.toList.splitOn ',').map fun part => Text.trim (String.ofList part)

end Formula
end TabletopDice
