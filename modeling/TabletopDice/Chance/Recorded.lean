import TabletopDice.Chance.Basic

/-!
# Recorded sources

Any source of faces can be made to keep a record of the dice that are thrown with it. The record
changes nothing about the faces, so it tells what a call has asked of its source.
-/

namespace TabletopDice

/-- A die that was thrown: how many sides it has, and the face that it showed. -/
structure Throw where
  sides : UInt32
  face : UInt32
deriving DecidableEq

/-- A source together with the dice that were thrown with it, in order. -/
structure Recorded (σ : Type) where
  source : σ
  throws : List Throw := []

namespace Recorded

variable {σ : Type}

/-- The faces that the source has shown, in order. -/
def shown (recorded : Recorded σ) : List UInt32 :=
  recorded.throws.map (·.face)

/-- The sides of the dice that were thrown, in order. -/
def thrown (recorded : Recorded σ) : List UInt32 :=
  recorded.throws.map (·.sides)

instance [FaceSource σ] : FaceSource (Recorded σ) where
  face sides recorded :=
    let (face, source) := FaceSource.face sides recorded.source
    (face, { source, throws := recorded.throws ++ [{ sides, face }] })

end Recorded
end TabletopDice
