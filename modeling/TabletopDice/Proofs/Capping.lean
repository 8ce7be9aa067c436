import TabletopDice.Proofs.Limits

/-!
# Numbers beyond the cap

A numeral beyond the greatest word is read as that word, so the check of a formula may compare two
numbers neither of which is written in the text. While the limit on the dice lies below the cap this
is never noticed: the check comes to what it would come to on the numbers as they are written, and
what it lets through has its quantity and its amount as they are written (`parse_as_written`).
-/

namespace TabletopDice

namespace Numeral

variable {numeral : Numeral} {bound : UInt32}

/-- A numeral means its number, or the cap if that is greater. -/
theorem toNat_word (numeral : Numeral) : numeral.word.toNat = min numeral.value cap := by
  rw [← amount_eq_word, toNat_amount]

theorem word_eq_zero_iff : numeral.word = 0 ↔ numeral.value = 0 := by
  rw [← UInt32.toNat_inj, toNat_word, UInt32.toNat_zero, cap]
  omega

/-- No word lies beyond the cap, so a word is reached exactly if it is reached without the cap. -/
theorem le_word_iff : bound ≤ numeral.word ↔ bound.toNat ≤ numeral.value := by
  have word := bound.toNat_lt
  rw [UInt32.le_iff_toNat_le, toNat_word, cap]
  omega

/-- Below the cap, capping makes no difference to what is greater than a bound. -/
theorem lt_word_iff (below : bound.toNat < cap) :
    bound < numeral.word ↔ bound.toNat < numeral.value := by
  rw [UInt32.lt_iff_toNat_lt, toNat_word]
  omega

/-- What is read as a word below the cap has not been capped. -/
theorem toNat_word_of_le (below : bound.toNat < cap) (within : numeral.word ≤ bound) :
    numeral.word.toNat = numeral.value := by
  rw [UInt32.le_iff_toNat_le] at within
  rw [toNat_word] at *
  omega

end Numeral

/-- What stands against the selection among so many dice, with its amount as it is written. -/
def WrittenSelection.exactObjection? (written : WrittenSelection) (quantity : Nat) :
    Option Objection :=
  match written.choice with
  | .drop => if quantity ≤ written.numeral.value then some .dropAll else none
  | .keep =>
    if quantity < written.numeral.value then some .keepTooMany
    else if written.numeral.value = 0 then some .keepZero
    else none

/-- What stands against rolling the formula within the limits, with all numbers as they are
written, however great they are. -/
def WrittenFormula.exactObjection? (written : WrittenFormula) (limits : Limits) :
    Option Objection :=
  if written.quantity.value = 0 ∨ written.sides.value = 0 then some .nonPositive
  else if limits.maxDice.toNat < written.quantity.value then some (.tooManyDice limits.maxDice)
  else written.selection.bind (·.exactObjection? written.quantity.value)

/-- The choice that a selection makes, from which end, and of how many dice. -/
def Selection.terms (selection : Selection) : Choice × Extreme × Nat :=
  (selection.choice, selection.extreme, selection.amount.toNat)

/-- The terms of a selection with the amount as it is written. -/
def WrittenSelection.exactTerms (written : WrittenSelection) : Choice × Extreme × Nat :=
  (written.choice, written.extreme, written.numeral.value)

namespace Formula

variable {limits : Limits} {text : String} {written : WrittenFormula} {explosions : UInt32}

/-- If the quantity has not been capped, capping the amount makes no difference to the check. -/
theorem selectionObjection?_meaning {quantity : UInt32} (below : quantity.toNat < Numeral.cap)
    (written : WrittenSelection) :
    selectionObjection? quantity written.meaning = written.exactObjection? quantity.toNat := by
  unfold selectionObjection? WrittenSelection.exactObjection?
  cases choice : written.choice with
  | drop => simp only [WrittenSelection.meaning, choice, Numeral.le_word_iff]
  | keep =>
    simp only [WrittenSelection.meaning, choice, Numeral.lt_word_iff below,
      Numeral.word_eq_zero_iff]

/-- Below the cap the check comes to the same with the numbers as they are written. -/
theorem objection?_meaning_eq_exact (below : limits.maxDice.toNat < Numeral.cap) :
    (written.meaning explosions).objection? limits = written.exactObjection? limits := by
  unfold objection? WrittenFormula.exactObjection?
  simp only [WrittenFormula.meaning, Numeral.word_eq_zero_iff, Numeral.lt_word_iff below]
  -- The amounts are compared only if the dice are few enough, and then their number is exact.
  by_cases many : limits.maxDice.toNat < written.quantity.value
  · simp only [many, ↓reduceIte]
  have few : written.quantity.word ≤ limits.maxDice :=
    UInt32.not_lt.mp (mt (Numeral.lt_word_iff below).mp many)
  have exact := Numeral.toNat_word_of_le below few
  have belowCap : written.quantity.word.toNat < Numeral.cap :=
    Nat.lt_of_le_of_lt (UInt32.le_iff_toNat_le.mp few) below
  have selection : selectionObjection? written.quantity.word ∘ WrittenSelection.meaning =
      (·.exactObjection? written.quantity.value) := by
    funext selection
    rw [Function.comp_apply, selectionObjection?_meaning belowCap, exact]
  simp only [many, ↓reduceIte, Option.bind_map, selection]

/-- A selection that can be rolled has the amount that is written, if there is a limit below the
cap. -/
theorem Rollable.terms_meaning (below : limits.maxDice.toNat < Numeral.cap)
    (rollable : (written.meaning explosions).Rollable limits) {selection : WrittenSelection}
    (there : written.selection = some selection) :
    selection.meaning.terms = selection.exactTerms := by
  have member : selection.meaning ∈ (written.meaning explosions).selection :=
    congrArg (Option.map WrittenSelection.meaning) there
  have within : selection.numeral.word ≤ written.quantity.word := by
    cases choice : selection.choice with
    | keep => exact rollable.keep_le _ member choice
    | drop => exact UInt32.le_of_lt (rollable.drop_lt _ member choice)
  have exact : selection.numeral.word.toNat = selection.numeral.value :=
    Numeral.toNat_word_of_le below (UInt32.le_trans within rollable.quantity_le)
  rw [Selection.terms, WrittenSelection.exactTerms, WrittenSelection.meaning, exact]

/-- **Capping never misleads.** If the limit on the dice lies below the cap, a text that is written
in the grammar is rejected just for what stands against its numbers as they are written; and if it
is accepted, the quantity and the selection of the formula are the written ones. -/
theorem parse_as_written (limits : Limits) (below : limits.maxDice.toNat < Numeral.cap)
    (text : String) (written : WrittenFormula) (split : text.toList = written.chars) :
    parse limits text =
        (written.exactObjection? limits).elim (.ok (written.meaning limits.explosions))
          (fun objection => .error (.unrollable objection)) ∧
      ∀ formula, parse limits text = .ok formula →
        formula.quantity.toNat = written.quantity.value ∧
          formula.selection.map (·.terms) = written.selection.map (·.exactTerms) := by
  have read : parse limits text = (written.meaning limits.explosions).checked limits :=
    parse_of_written split
  refine ⟨?_, fun formula accepted => ?_⟩
  · rw [read, checked, objection?_meaning_eq_exact below]
  · obtain ⟨clear, rfl⟩ := checked_eq_ok_iff.mp (read.symm.trans accepted)
    have rollable := objection?_eq_none_iff.mp clear
    refine ⟨Numeral.toNat_word_of_le below rollable.quantity_le, ?_⟩
    simp only [WrittenFormula.meaning, Option.map_map]
    exact Option.map_congr fun selection there => rollable.terms_meaning below there

/-- Two texts with numbers above the cap: what is capped does not change the verdict, and the
quantity that is accepted is the one written. -/
theorem parse_as_written_above_cap :
    let few : Numeral := { chars := ['3'], all := List.all_eq_true.mp rfl, ne_nil := by decide }
    let many : Numeral :=
      { chars := "5000000000".toList, all := List.all_eq_true.mp rfl, ne_nil := by decide }
    let written (amount : Numeral) : WrittenFormula :=
      { quantity := { chars := ['4'], all := List.all_eq_true.mp rfl, ne_nil := by decide }
        letter := .lower
        sides :=
          { chars := "99999999999".toList, all := List.all_eq_true.mp rfl, ne_nil := by decide }
        reroll := none
        explosion := none
        selection := some { choice := .keep, choiceCase := .lower, extreme := .highest
                            extremeCase := .lower, numeral := amount }
        modifier := none
        trailing := { chars := [], all := List.forall_mem_nil _ } }
    ({} : Limits).maxDice.toNat < Numeral.cap ∧
      "4d99999999999kh5000000000".toList = (written many).chars ∧
      parse {} "4d99999999999kh5000000000" = .error (.unrollable .keepTooMany) ∧
      "4d99999999999kh3".toList = (written few).chars ∧
      ∃ formula, parse {} "4d99999999999kh3" = .ok formula ∧
        formula.quantity.toNat = 4 ∧
          formula.selection.map (·.terms) = some (.keep, .highest, 3) := by
  intro few many written
  have below : ({} : Limits).maxDice.toNat < Numeral.cap := by decide
  have manySplit : "4d99999999999kh5000000000".toList = (written many).chars := rfl
  have fewSplit : "4d99999999999kh3".toList = (written few).chars := rfl
  have accepted := (parse_as_written {} below _ _ fewSplit).1
  exact ⟨below, manySplit, (parse_as_written {} below _ _ manySplit).1, fewSplit, _, accepted,
    (parse_as_written {} below _ _ fewSplit).2 _ accepted⟩

-- With a limit at the cap itself, a quantity beyond it is let through as another one.
example : parse { maxDice := 4294967295 } "4294967296d6" =
    .ok { quantity := 4294967295, sides := 6, reroll := none, explosion := none, selection := none
          modifier := 0 } := rfl

end Formula
end TabletopDice
