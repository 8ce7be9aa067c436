import TabletopDice.Comparison

/-!
# Rolls and tallies

A roll is what one formula came to: its faces and their total. A tally counts the faces that met a
condition instead. Both keep the formula as it was written and have a text of one line.
-/

namespace TabletopDice

/-- The text of some faces: in brackets, with a comma and a blank between any two. -/
def facesText (faces : List UInt32) : String :=
  "[" ++ ", ".intercalate (faces.map toString) ++ "]"

/-- What a formula came to: its text as it was rolled, the faces that count, and their total. -/
structure Roll where
  written : String
  faces : List UInt32
  total : Int64
deriving DecidableEq

/-- How many faces of a formula met a condition. -/
structure Tally where
  written : String
  faces : List UInt32
  condition : Comparison
  successes : Nat
deriving DecidableEq

namespace Roll

/-- Adds a face to a total that stays at its ends instead of leaving them. -/
def addFace (total : Int64) (face : UInt32) : Int64 :=
  Int64.ofIntClamp (total.toInt + face.toNat)

/-- The roll of these faces, which are added to the modifier one after another. -/
def ofFaces (written : String) (faces : List UInt32) (modifier : Int64) : Roll :=
  { written, faces, total := faces.foldl addFace modifier }

/-- The faces of the roll, tallied by a condition. -/
def tally (roll : Roll) (condition : Comparison) : Tally :=
  { written := roll.written
    faces := roll.faces
    condition
    successes := roll.faces.countP condition.takes }

/-- The line that tells of the roll. -/
def text (roll : Roll) : String :=
  s!"{roll.written}: {facesText roll.faces} = {roll.total}"

instance : ToString Roll := ⟨text⟩

end Roll

namespace Tally

/-- The line that tells of the tally; a single success is not told of in the plural. -/
def text (tally : Tally) : String :=
  let noun := if tally.successes = 1 then "success" else "successes"
  s!"{tally.written} ({tally.condition}): {facesText tally.faces} = {tally.successes} {noun}"

instance : ToString Tally := ⟨text⟩

end Tally
end TabletopDice
