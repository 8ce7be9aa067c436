import TabletopDice.Chance.Basic

/-!
# Replayed sources

A source that repeats what it is given, from the start again when it runs out, makes a roll
reproducible. There is one for draws and one for words; both count what has been taken.
-/

namespace TabletopDice

/-- Draws that are repeated over and over. -/
structure Replay where
  draws : Array Float
  taken : Nat := 0

namespace Replay

/-- The draws that show the given faces of a die. -/
def ofFaces (sides : UInt32) (faces : List UInt32) : Replay :=
  { draws := (faces.map fun face => (face.toFloat - 0.5) / (max sides 1).toFloat).toArray }

/-- The next draw; without any draws it is always zero. -/
def next (replay : Replay) : Float :=
  replay.draws[replay.taken % replay.draws.size]?.getD 0

instance : DrawSource Replay where
  draw replay := (replay.next, { replay with taken := replay.taken + 1 })

end Replay

/-- Words that are repeated over and over. -/
structure WordCycle where
  words : Array UInt64
  taken : Nat := 0

namespace WordCycle

/-- The next word; without any words it is always zero. -/
def next (cycle : WordCycle) : UInt64 :=
  cycle.words[cycle.taken % cycle.words.size]?.getD 0

instance : WordSource WordCycle where
  word cycle := (cycle.next, { cycle with taken := cycle.taken + 1 })

end WordCycle
end TabletopDice
