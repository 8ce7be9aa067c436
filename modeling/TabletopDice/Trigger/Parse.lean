import TabletopDice.Trigger.Written
import TabletopDice.Fault
import TabletopDice.Text.Space

/-!
# Conditions, rerolls and explosions

The three uses of a written trigger: a success condition such as `>=5`, which may have white space
around it, a reroll such as `r<=2L3` and an explosion such as `!>5`. Each is read as a whole, and
the fault of one that is not well written shows it as it stands.
-/

namespace TabletopDice

/-- The condition that a text states, white space around it apart. -/
def Comparison.parse (condition : String) : Except Fault Comparison :=
  match (WrittenTrigger.reader.whole? (Text.trim condition).toList).bind (·.condition?) with
  | some comparison => .ok comparison
  | none => .error (.malformed .condition condition)

namespace Trigger

/-- Reads a reroll: its letter and a trigger. -/
def rerollReader : Reader WrittenTrigger := do
  let _ ← LetterCase.reader 'r'
  WrittenTrigger.reader

/-- Reads an explosion: its sign, and then the trigger. -/
def explosionReader : Reader WrittenTrigger := do
  Reader.character '!'
  WrittenTrigger.reader

/-- The trigger that a reroll of so many dice states. -/
def parseReroll (quantity : UInt32) (reroll : String) : Except Fault Trigger :=
  match (rerollReader.whole? reroll.toList).bind (·.reroll? quantity) with
  | some trigger => .ok trigger
  | none => .error (.malformed .reroll reroll)

/-- The trigger that an explosion states, for dice with so many sides and with so many explosions
where no limit is written. -/
def parseExplosion (sides explosions : UInt32) (explosion : String) : Except Fault Trigger :=
  match explosionReader.whole? explosion.toList with
  | some written => .ok (written.explosion sides explosions)
  | none => .error (.malformed .explosion explosion)

/-- A text reads as a reroll exactly if it is the letter, in either case, with a trigger's text. -/
theorem whole?_rerollReader_eq_some_iff {text : List Char} {written : WrittenTrigger} :
    rerollReader.whole? text = some written ↔
      ∃ letter : LetterCase, text = letter.write 'r' :: written.chars := by
  simp only [rerollReader, Reader.whole?_bind_eq_some_iff,
    LetterCase.reader_eq_some_iff 'r' (by decide),
    WrittenTrigger.whole?_reader_eq_some_iff]
  exact ⟨fun ⟨letter, _, split, same⟩ => ⟨letter, same ▸ split⟩,
    fun ⟨letter, split⟩ => ⟨letter, _, split, rfl⟩⟩

/-- A text reads as an explosion exactly if it is the mark with a trigger's text. -/
theorem whole?_explosionReader_eq_some_iff {text : List Char} {written : WrittenTrigger} :
    explosionReader.whole? text = some written ↔ text = '!' :: written.chars := by
  simp only [explosionReader, Reader.whole?_bind_eq_some_iff, Reader.character_eq_some_iff,
    WrittenTrigger.whole?_reader_eq_some_iff]
  exact ⟨fun ⟨_, _, split, same⟩ => same ▸ split, fun split => ⟨(), _, split, rfl⟩⟩

end Trigger
end TabletopDice
