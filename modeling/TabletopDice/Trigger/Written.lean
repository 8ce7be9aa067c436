import TabletopDice.Trigger.Basic
import TabletopDice.Text.Numeral
import TabletopDice.Text.LetterCase

/-!
# Written triggers

A trigger is written as a comparison and a limit, as in `<=2L3`. The comparator, the target and the
limit may each be left out, and what that means depends on what the trigger is for: a reroll needs a
target and an explosion does not, and a condition has no limit at all. The pieces of a written
trigger are its text and no more (`whole?_reader_eq_some_iff`).
-/

namespace TabletopDice

/-- A limit as it is written: the letter `l` in either case and a numeral. -/
structure WrittenLimit where
  letter : LetterCase
  numeral : Numeral
deriving DecidableEq

namespace WrittenLimit

/-- The limit as it stands in the text: its letter in some case, and then the number. -/
def chars (limit : WrittenLimit) : List Char :=
  limit.letter.write 'l' :: limit.numeral.chars

/-- Reads the letter of a limit and then its number. -/
def reader : Reader WrittenLimit := do
  let letter ← LetterCase.reader 'l'
  let numeral ← Numeral.reader
  return { letter, numeral }

/-- A limit is read exactly if it stands at the front of the text with all of its digits. -/
theorem reader_eq_some_iff {text rest : List Char} {limit : WrittenLimit} :
    reader text = some (limit, rest) ↔
      text = limit.chars ++ rest ∧ Stops Char.isDigit rest := by
  simp only [reader, Reader.bind_eq_some_iff, Reader.pure_eq_some_iff,
    LetterCase.reader_eq_some_iff 'l' (by decide), Numeral.reader_eq_some_iff]
  constructor
  · rintro ⟨letter, _, rfl, numeral, _, ⟨rfl, stops⟩, rfl, rfl⟩
    exact ⟨rfl, stops⟩
  · rintro ⟨rfl, stops⟩
    exact ⟨limit.letter, _, rfl, limit.numeral, _, ⟨rfl, stops⟩, rfl, rfl⟩

end WrittenLimit

/-- A trigger as it is written, with what is left out. -/
structure WrittenTrigger where
  comparator : Option Comparator
  target : Option Numeral
  limit : Option WrittenLimit
deriving DecidableEq

namespace WrittenTrigger

/-- The trigger as it stands in the text: signs, target and limit, of which each may be absent. -/
def chars (written : WrittenTrigger) : List Char :=
  written.comparator.elim [] (·.signs) ++ written.target.elim [] (·.chars) ++
    written.limit.elim [] (·.chars)

/-- Reads as much of a trigger as is there. -/
def reader : Reader WrittenTrigger := do
  let comparator ← optional Comparator.reader
  let target ← optional Numeral.reader
  let limit ← optional WrittenLimit.reader
  return { comparator, target, limit }

/-- A limit, or none, stops every test that its letter fails in either case. -/
theorem stops_limit (limit : Option WrittenLimit) {test : Char → Bool} (lower : test 'l' = false)
    (upper : test 'L' = false) : Stops test (limit.elim [] (·.chars)) := by
  intro c first
  obtain _ | ⟨⟨⟩, numeral⟩ := limit <;> cases first <;> assumption

/-- A target with a limit behind it starts with a digit or with the letter of the limit. -/
theorem stops_target (target : Option Numeral) (limit : Option WrittenLimit) {test : Char → Bool}
    (noDigit : ∀ c, test c → c.isDigit = false) (lower : test 'l' = false)
    (upper : test 'L' = false) :
    Stops test (target.elim [] (·.chars) ++ limit.elim [] (·.chars)) := by
  cases target with
  | none => exact stops_limit limit lower upper
  | some numeral => exact numeral.stops_append noDigit

/-- A text reads as a trigger exactly if it is that trigger's text. -/
theorem whole?_reader_eq_some_iff {text : List Char} {written : WrittenTrigger} :
    reader.whole? text = some written ↔ text = written.chars := by
  simp only [reader, Reader.whole?_eq_some_iff, Reader.bind_eq_some_iff, Reader.pure_eq_some_iff]
  constructor
  · rintro ⟨comparator, _, readComparator, target, _, readTarget, limit, _, readLimit, rfl, rfl⟩
    rw [Reader.append_of_optional (fun _ read => (Comparator.reader_eq_some_iff.mp read).1)
        readComparator,
      Reader.append_of_optional (fun _ read => (Numeral.reader_eq_some_iff.mp read).1) readTarget,
      Reader.append_of_optional (fun _ read => (WrittenLimit.reader_eq_some_iff.mp read).1)
        readLimit]
    simp only [chars, List.append_nil, List.append_assoc]
  · rintro rfl
    refine ⟨written.comparator, written.target.elim [] (·.chars) ++ written.limit.elim [] (·.chars),
      ?_, written.target, written.limit.elim [] (·.chars), ?_, written.limit, [], ?_, rfl, rfl⟩
    · rw [chars, List.append_assoc]
      apply Reader.optional_append
      · intro comparator _
        rw [Comparator.reader_eq_some_iff]
        exact ⟨rfl, fun _ => stops_target _ _ (by simp) (by decide) (by decide)⟩
      · rw [Comparator.reader_eq_none_iff]
        refine stops_target _ _ (fun c sign => ?_) (by decide) (by decide)
        simp only [Bool.or_eq_true, decide_eq_true_eq] at sign
        obtain (rfl | rfl) | rfl := sign <;> rfl
    · have stops : Stops Char.isDigit (written.limit.elim [] (·.chars)) :=
        stops_limit _ (by decide) (by decide)
      apply Reader.optional_append
      · intro numeral _
        exact Numeral.reader_eq_some_iff.mpr ⟨rfl, stops⟩
      · exact Numeral.reader_eq_none_iff.mpr stops
    · rw [← List.append_nil (written.limit.elim [] _)]
      apply Reader.optional_append
      · intro limit _
        rw [WrittenLimit.reader_eq_some_iff]
        exact ⟨rfl, fun c first => nomatch first⟩
      · rfl

/-- The comparison with the given target; a comparator left out stands for equality. -/
def comparison (written : WrittenTrigger) (target : UInt32) : Comparison :=
  { comparator := written.comparator.getD .equal, target }

/-- The limit, or the given one where it is left out. -/
def limitD (written : WrittenTrigger) (limit : UInt32) : UInt32 :=
  written.limit.elim limit (·.numeral.amount)

/-- The trigger as a condition, which has a target and has no limit. -/
def condition? (written : WrittenTrigger) : Option Comparison :=
  match written.target, written.limit with
  | some target, none => some (written.comparison target.amount)
  | _, _ => none

/-- The trigger of a reroll: it has to have a target, and may strike each of the dice once where the
limit is left out. -/
def reroll? (written : WrittenTrigger) (quantity : UInt32) : Option Trigger :=
  written.target.map fun target =>
    { on := written.comparison target.amount, limit := written.limitD quantity }

/-- The trigger of an explosion: where the target is left out it is the highest face. -/
def explosion (written : WrittenTrigger) (sides explosions : UInt32) : Trigger :=
  { on := written.comparison (written.target.elim sides (·.amount))
    limit := written.limitD explosions }

end WrittenTrigger
end TabletopDice
