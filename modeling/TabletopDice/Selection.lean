import TabletopDice.Text.Numeral
import TabletopDice.Text.LetterCase

/-!
# Selections

A selection keeps or drops a number of dice at one end of the sorted pool: `kh3` keeps the three
highest, `dl1` drops the lowest. Amounts beyond the size of the pool keep or drop all of it.
-/

namespace TabletopDice

/-- What a selection does with the dice it names. -/
inductive Choice where
  | keep
  | drop
deriving DecidableEq

/-- The end of the sorted pool that a selection names. -/
inductive Extreme where
  | highest
  | lowest
deriving DecidableEq

/-- The letter that stands for the choice. -/
def Choice.letter : Choice → Char
  | keep => 'k'
  | drop => 'd'

/-- The letter that stands for the extreme. -/
def Extreme.letter : Extreme → Char
  | highest => 'h'
  | lowest => 'l'

/-- Which of the dice in a pool count. -/
structure Selection where
  choice : Choice
  extreme : Extreme
  amount : UInt32
deriving DecidableEq

namespace Selection

/-- The faces that count, in ascending order. -/
def pick (selection : Selection) (pool : List UInt32) : List UInt32 :=
  let sorted := pool.mergeSort
  let amount := selection.amount.toNat
  match selection.choice, selection.extreme with
  | .keep, .lowest => sorted.take amount
  | .drop, .lowest => sorted.drop amount
  | .keep, .highest => sorted.drop (sorted.length - amount)
  | .drop, .highest => sorted.take (sorted.length - amount)

/-- The canonical text of the selection, in small letters. -/
def text (selection : Selection) : String :=
  String.ofList [selection.choice.letter, selection.extreme.letter] ++ toString selection.amount

instance : ToString Selection := ⟨text⟩

end Selection

/-- A selection as it is written: two letters, each in either case, and a numeral. -/
structure WrittenSelection where
  choice : Choice
  choiceCase : LetterCase
  extreme : Extreme
  extremeCase : LetterCase
  numeral : Numeral
deriving DecidableEq

namespace WrittenSelection

/-- The selection as it stands in the text: two letters, each in its case, and the amount. -/
def chars (written : WrittenSelection) : List Char :=
  written.choiceCase.write written.choice.letter ::
    written.extremeCase.write written.extreme.letter :: written.numeral.chars

/-- Reads a selection; letters without a numeral behind them are none. -/
def reader : Reader WrittenSelection := do
  let (choice, choiceCase) ← LetterCase.either Choice.letter .keep .drop
  let (extreme, extremeCase) ← LetterCase.either Extreme.letter .highest .lowest
  let numeral ← Numeral.reader
  return { choice, choiceCase, extreme, extremeCase, numeral }

/-- A choice is read exactly if its letter stands at the front of the text, in either case. -/
theorem choice_eq_some_iff {text rest : List Char} {choice : Choice} {letterCase : LetterCase} :
    LetterCase.either Choice.letter .keep .drop text = some ((choice, letterCase), rest) ↔
      text = letterCase.write choice.letter :: rest := by
  refine LetterCase.either_eq_some_iff ?_ ?_ ?_
  · rintro ⟨⟩ <;> decide
  · rintro ⟨⟩ <;> decide
  · cases choice <;> simp only [true_or, or_true]

/-- An extreme is read exactly if its letter stands at the front of the text, in either case. -/
theorem extreme_eq_some_iff {text rest : List Char} {extreme : Extreme} {letterCase : LetterCase} :
    LetterCase.either Extreme.letter .highest .lowest text = some ((extreme, letterCase), rest) ↔
      text = letterCase.write extreme.letter :: rest := by
  refine LetterCase.either_eq_some_iff ?_ ?_ ?_
  · rintro ⟨⟩ <;> decide
  · rintro ⟨⟩ <;> decide
  · cases extreme <;> simp only [true_or, or_true]

/-- A selection is read off the front of a text exactly if no digit follows it. -/
theorem reader_eq_some_iff {text rest : List Char} {written : WrittenSelection} :
    reader text = some (written, rest) ↔
      text = written.chars ++ rest ∧ Stops Char.isDigit rest := by
  simp only [reader, Reader.bind_eq_some_iff, Reader.pure_eq_some_iff, Prod.exists,
    choice_eq_some_iff, extreme_eq_some_iff, Numeral.reader_eq_some_iff]
  constructor
  · rintro ⟨_, _, _, rfl, _, _, _, rfl, _, _, ⟨rfl, stops⟩, rfl, rfl⟩
    exact ⟨rfl, stops⟩
  · rintro ⟨rfl, stops⟩
    exact ⟨_, _, _, rfl, _, _, _, rfl, _, _, ⟨rfl, stops⟩, rfl, rfl⟩

/-- There is no selection where the front of the text has no letter for a choice. -/
theorem reader_eq_none {front text : List Char} (starts : Starts front text)
    (foreign : ['k', 'K', 'd', 'D'].any front.contains = false) : reader text = none := by
  rw [List.any_eq_false] at foreign
  simp only [List.contains_iff_mem] at foreign
  refine Reader.eq_none_of_starts (fun _ _ read => (reader_eq_some_iff.mp read).1) starts ?_
  rintro ⟨choice, choiceCase, _, _, _⟩
  refine ⟨choiceCase.write choice.letter, foreign _ ?_, _, rfl⟩
  cases choice <;> cases choiceCase <;> decide

/-- The selection that is meant; its amount is capped like every number. -/
def selection (written : WrittenSelection) : Selection :=
  { choice := written.choice, extreme := written.extreme, amount := written.numeral.amount }

end WrittenSelection
end TabletopDice
