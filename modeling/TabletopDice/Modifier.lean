import TabletopDice.Text.Numeral

/-!
# Modifiers

A modifier is a number to add to the faces of a roll. It is written with its sign, and with blanks
before the sign and before the number if one likes; no more than 31 bits can be written.
-/

namespace TabletopDice

/-- The text of a modifier: nothing for zero, else a sign and digits. -/
def modifierText (modifier : Int64) : String :=
  if modifier = 0 then "" else if 0 < modifier then s!"+{modifier}" else toString modifier

/-- Whether a modifier is added or taken away. -/
inductive Sign where
  | plus
  | minus
deriving DecidableEq

namespace Sign

/-- The character that stands for the sign. -/
def char : Sign → Char
  | plus => '+'
  | minus => '-'

/-- Reads one of the two signs. -/
def reader : Reader Sign := fun text =>
  match text with
  | '+' :: rest => some (plus, rest)
  | '-' :: rest => some (minus, rest)
  | _ => none

/-- A sign is read off the front of a text exactly if it stands there. -/
theorem reader_eq_some_iff {text rest : List Char} {sign : Sign} :
    reader text = some (sign, rest) ↔ text = sign.char :: rest := by
  unfold reader
  cases sign <;> split <;> simp_all [char]

end Sign

/-- The greatest number that a modifier may add or take away. -/
def greatestModifier : Nat := 2147483647

/-- A modifier as it is written: a sign and a numeral that is not too great, with blanks before each
of them. -/
structure WrittenModifier where
  before : Run Char.isWhitespace
  sign : Sign
  between : Run Char.isWhitespace
  numeral : Numeral
  value_le : numeral.value ≤ greatestModifier
deriving DecidableEq

namespace WrittenModifier

/-- The modifier as it stands in the text, with the blanks around its sign. -/
def chars (written : WrittenModifier) : List Char :=
  written.before.chars ++ written.sign.char :: (written.between.chars ++ written.numeral.chars)

/-- Reads a modifier; a number that is too great makes it none. -/
def reader : Reader WrittenModifier := do
  let before ← Run.reader Char.isWhitespace
  let sign ← Sign.reader
  let between ← Run.reader Char.isWhitespace
  let numeral ← Numeral.reader
  if small : numeral.capped ≤ greatestModifier then
    return {
      before, sign, between, numeral
      value_le := (numeral.capped_le_iff (by decide)).mp small }
  else failure

/-- A modifier is read off the front of a text exactly if no digit follows it. -/
theorem reader_eq_some_iff {text rest : List Char} {written : WrittenModifier} :
    reader text = some (written, rest) ↔
      text = written.chars ++ rest ∧ Stops Char.isDigit rest := by
  simp only [reader, Reader.bind_eq_some_iff, Run.reader_eq_some_iff, Sign.reader_eq_some_iff,
    Numeral.reader_eq_some_iff]
  constructor
  · rintro ⟨_, _, ⟨rfl, -⟩, _, _, rfl, _, _, ⟨rfl, -⟩, _, _, ⟨rfl, stops⟩, read⟩
    split at read
    · obtain ⟨rfl, rfl⟩ := Reader.pure_eq_some_iff.mp read
      exact ⟨by simp only [chars, List.append_assoc, List.cons_append], stops⟩
    · cases read
  · rintro ⟨rfl, stops⟩
    refine ⟨written.before, _, ⟨by rw [chars, List.append_assoc, List.cons_append], ?_⟩,
      written.sign, _, rfl,
      written.between, _, ⟨List.append_assoc .., written.numeral.stops_append ?_⟩,
      written.numeral, rest, ⟨rfl, stops⟩, ?_⟩
    · rintro _ ⟨⟩
      cases written.sign <;> decide
    · intro c blank
      simp only [Char.isWhitespace, Bool.or_eq_true, decide_eq_true_eq] at blank
      obtain ((rfl | rfl) | rfl) | rfl := blank <;> decide
    · rw [dif_pos ((written.numeral.capped_le_iff (by decide)).mpr written.value_le)]
      rfl

/-- Blanks alone are no modifier, since there is no sign. -/
theorem reader_blank (blank : Run Char.isWhitespace) : reader blank.chars = none := by
  rw [Option.eq_none_iff_forall_ne_some]
  rintro ⟨written, rest⟩ read
  have whole := (reader_eq_some_iff.mp read).1
  have member : written.sign.char ∈ blank.chars := by
    rw [whole, chars]
    simp
  have := blank.all _ member
  cases sign : written.sign <;> simp [sign, Sign.char] at this

/-- The number that the modifier adds to the faces, below zero if its sign is a minus. -/
def value (written : WrittenModifier) : Int64 :=
  match written.sign with
  | .plus => Int64.ofNat written.numeral.capped
  | .minus => -Int64.ofNat written.numeral.capped

end WrittenModifier
end TabletopDice
