/-!
# Sources of chance

Dice are rolled against a source, a state that shows one face after another. Most sources do not
know of dice: they yield numbers of the unit interval, or 64-bit words that are made into such
numbers, and a number shows the face whose part of the interval it falls into. So every source of
words is a source of draws, and every source of draws is a source of faces.
-/

namespace TabletopDice

/-- A source of faces: asked for a die with so many sides, it shows a face and moves on. -/
class FaceSource (σ : Type) where
  face : (sides : UInt32) → σ → UInt32 × σ

/-- A source of draws, numbers that are meant to lie in the unit interval. -/
class DrawSource (σ : Type) where
  draw : σ → Float × σ

/-- A source of 64-bit words, such as a generator of random numbers yields. -/
class WordSource (σ : Type) where
  word : σ → UInt64 × σ

/-- The face that a draw shows: the unit interval is cut into as many equal parts as the die has
sides, and a draw outside of it falls into the part nearest to it. What is not a number falls into
the first part, and so does every draw for a die without sides. -/
def faceOfDraw (draw : Float) (sides : UInt32) : UInt32 :=
  let part := (draw * sides.toFloat).toUInt32
  if part < sides then part + 1 else max sides 1

/-- The draw that a word makes: its 53 highest bits, read as a fraction. -/
def drawOfWord (word : UInt64) : Float :=
  (word >>> 11).toFloat / 9007199254740992

instance {σ : Type} [WordSource σ] : DrawSource σ where
  draw source :=
    let (word, source) := WordSource.word source
    (drawOfWord word, source)

instance {σ : Type} [DrawSource σ] : FaceSource σ where
  face sides source :=
    let (draw, source) := DrawSource.draw source
    (faceOfDraw draw sides, source)

/-- Whatever is drawn, even if it is no number, the face is one of the die. -/
theorem faceOfDraw_mem {draw : Float} {sides : UInt32} (positive : 0 < sides) :
    1 ≤ faceOfDraw draw sides ∧ faceOfDraw draw sides ≤ sides := by
  unfold faceOfDraw
  simp only [max, UInt32.lt_iff_toNat_lt, UInt32.le_iff_toNat_le] at *
  have bound := sides.toNat_lt
  simp only [UInt32.reduceToNat] at positive
  split
  · rw [UInt32.toNat_add]
    simp only [UInt32.reduceToNat]
    omega
  · split
    · simp only [UInt32.reduceToNat] at *
      omega
    · simp only [UInt32.reduceToNat]
      omega

end TabletopDice
