import TabletopDice.Formula.Parse
import TabletopDice.Pool
import TabletopDice.Roll

/-!
# The dice cup

A cup holds a source of chance and the limits in force. A play with a cup can fail, and the first
fault ends it; but what a play has taken from the source before its fault stays taken.
-/

namespace TabletopDice

/-- A source of chance, and the limits on what is rolled with it. -/
structure Cup (σ : Type) where
  source : σ
  limits : Limits := {}

/-- A play with a cup, which comes to a value or to a fault, and leaves the cup changed. -/
abbrev Play (σ : Type) : Type → Type :=
  ExceptT Fault (StateM (Cup σ))

namespace Cup

variable {σ : Type} [FaceSource σ]

/-- Rolls the formula that the whole text states. -/
def rollFormula (text : String) : Play σ Roll := fun cup =>
  match Formula.parse cup.limits text with
  | .error fault => (.error fault, cup)
  | .ok formula =>
    let (faces, source) := formula.faces cup.source
    (.ok (Roll.ofFaces text faces formula.modifier), { cup with source })

/-- Rolls each part of a compound text, from left to right. -/
def roll (text : String) : Play σ (List Roll) :=
  (Formula.parts text).mapM rollFormula

/-- Rolls each part of a compound text and tallies its faces by a condition, which is read before
anything is rolled. -/
def tally (text condition : String) : Play σ (List Tally) :=
  match Comparison.parse condition with
  | .error fault => throw fault
  | .ok condition => do
    let rolls ← roll text
    return rolls.map (·.tally condition)

/-- Throws a single die, which cannot fail. -/
def die (sides : UInt32) (cup : Cup σ) : UInt32 × Cup σ :=
  let (face, source) := FaceSource.face sides cup.source
  (face, { cup with source })

end Cup

/-- Rolls a compound text with a generator, under the standard limits, and hands the generator back
as it is left. -/
def rollWith {γ : Type} [WordSource γ] (text : String) (generator : γ) :
    Except Fault (List Roll) × γ :=
  (Cup.roll text { source := generator }).map id (·.source)

/-- Tallies a compound text with a generator, under the standard limits, and hands the generator
back as it is left. -/
def tallyWith {γ : Type} [WordSource γ] (text condition : String) (generator : γ) :
    Except Fault (List Tally) × γ :=
  (Cup.tally text condition { source := generator }).map id (·.source)

end TabletopDice
