import TabletopDice.Text.Run

/-!
# Numerals

A numeral is a non-empty run of the digits `0` to `9`, leading zeros allowed. Amounts are 32-bit
words, and a numeral beyond them counts as the greatest of them (`capped_eq`).
-/

namespace TabletopDice

/-- A non-empty run of decimal digits. -/
structure Numeral extends Run Char.isDigit where
  ne_nil : chars ≠ []
deriving DecidableEq

namespace Numeral

/-- The number that the digits stand for, however great. -/
def value (numeral : Numeral) : Nat :=
  Nat.ofDigitChars 10 numeral.chars 0

/-- The greatest number of 32 bits, which stands for all that are greater. -/
def cap : Nat := 4294967295

/-- The number that the digits stand for, or the cap if it lies beyond the cap. No number on the way
is longer than the cap, however many digits there are. -/
def capped (numeral : Numeral) : Nat :=
  numeral.chars.foldl (fun number digit => min (10 * number + (digit.toNat - '0'.toNat)) cap) 0

/-- The number that the digits stand for, or the cap if it is greater. -/
def amount (numeral : Numeral) : UInt32 :=
  UInt32.ofNat numeral.capped

/-- Reads as many digits as there are, and at least one. -/
def reader : Reader Numeral := fun text =>
  let run := Run.ofFront Char.isDigit text
  if some_digit : run.chars ≠ [] then
    some ({ run with ne_nil := some_digit }, text.dropWhile Char.isDigit)
  else none

/-- A numeral is read off the front of a text exactly if no digit follows it. -/
theorem reader_eq_some_iff {text rest : List Char} {numeral : Numeral} :
    reader text = some (numeral, rest) ↔
      text = numeral.chars ++ rest ∧ Stops Char.isDigit rest := by
  have run := @Run.reader_eq_some_iff Char.isDigit text rest numeral.toRun
  rw [← run]
  simp only [reader, Run.reader, Option.some.injEq, Prod.mk.injEq]
  constructor
  · intro read
    split at read
    · cases read
      exact ⟨rfl, rfl⟩
    · cases read
  · rintro ⟨same, rfl⟩
    simp only [same, ne_eq, numeral.ne_nil, not_false_eq_true, ↓reduceDIte]

/-- No numeral is read exactly if the text does not start with a digit. -/
theorem reader_eq_none_iff {text : List Char} :
    reader text = none ↔ Stops Char.isDigit text := by
  cases text with
  | nil => simp [reader, Run.ofFront, Stops]
  | cons c text => by_cases digit : c.isDigit <;> simp [reader, Run.ofFront, Stops, digit]

/-- A numeral stops every test that no digit passes. -/
theorem stops_append (numeral : Numeral) {rest : List Char} {test : Char → Bool}
    (noDigit : ∀ c, test c → c.isDigit = false) : Stops test (numeral.chars ++ rest) := by
  intro c first
  obtain ⟨d, digits, split⟩ := List.exists_cons_of_ne_nil numeral.ne_nil
  rw [split, List.cons_append, List.head?_cons, Option.mem_some_iff] at first
  subst first
  have digit := numeral.all d (split ▸ List.mem_cons_self)
  exact Bool.eq_false_iff.mpr fun passes => Bool.false_ne_true ((noDigit d passes).symm.trans digit)

/-- Capping after every digit is capping once. -/
theorem capped_eq (numeral : Numeral) : numeral.capped = min numeral.value cap := by
  have step : ∀ (digits : List Char) (number : Nat),
      digits.foldl (fun number digit => min (10 * number + (digit.toNat - '0'.toNat)) cap)
        (min number cap) = min (Nat.ofDigitChars 10 digits number) cap := by
    intro digits
    induction digits with
    | nil => intro number; simp
    | cons digit digits ih =>
      intro number
      rw [Nat.ofDigitChars_cons, ← ih, List.foldl_cons]
      congr 1
      simp only [cap]
      omega
  exact step numeral.chars 0

/-- Below the cap, capping makes no difference to a bound. -/
theorem capped_le_iff (numeral : Numeral) {bound : Nat} (below : bound < cap) :
    numeral.capped ≤ bound ↔ numeral.value ≤ bound := by
  rw [capped_eq]
  omega

/-- An amount is its numeral's number, capped. -/
theorem toNat_amount (numeral : Numeral) : numeral.amount.toNat = min numeral.value cap := by
  have small : numeral.capped < 2 ^ 32 := by
    rw [capped_eq]
    simp only [cap]
    omega
  rw [amount, UInt32.toNat_ofNat_of_lt' small, capped_eq]

end Numeral
end TabletopDice
