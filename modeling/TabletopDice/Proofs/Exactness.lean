import Mathlib.Algebra.Group.Action.Defs
import TabletopDice.Proofs.Accepted
import TabletopDice.Proofs.Capping
import TabletopDice.Proofs.CanonicalText
import TabletopDice.Proofs.Totals

/-!
# Exact totals

A total stops at the greatest 64-bit number, but what can really be rolled seldom comes near it. How
far a formula can go is bounded by its dice, their sides and their explosions (`Formula.Fits`), and
under the standard limits only an explosion with a very high limit of its own can pass that bound
(`totals_exact`).
-/

namespace TabletopDice

section Pips

variable {faces : List UInt32} {sides : UInt32}

theorem length_le_pips (positive : ∀ face ∈ faces, 1 ≤ face) : faces.length ≤ pips faces := by
  rw [pips, ← List.length_map UInt32.toNat]
  apply List.length_le_sum_of_one_le
  exact List.forall_mem_map.mpr fun face member => UInt32.le_iff_toNat_le.mp (positive face member)

/-- Faces of a die show together no more pips than so many dice can. -/
theorem pips_le_length_mul (on_die : ∀ face ∈ faces, face ≤ sides) :
    pips faces ≤ faces.length * sides.toNat := by
  have each : ∀ number ∈ faces.map UInt32.toNat, number ≤ sides.toNat :=
    List.forall_mem_map.mpr fun face member => UInt32.le_iff_toNat_le.mp (on_die face member)
  have sum := List.sum_le_card_nsmul _ _ each
  rwa [List.length_map, smul_eq_mul] at sum

end Pips

/-- The total of a roll is the modifier of its formula with all pips of its faces, and so it was
after each face. It lies as far from the modifier as faces can lie that are on the die. -/
structure Roll.Exact (roll : Roll) (formula : Formula) : Prop where
  total_eq : roll.total.toInt = formula.modifier.toInt + pips roll.faces
  unclamped : ∀ before after, roll.faces = before ++ after →
    (Roll.ofFaces roll.written before formula.modifier).total.toInt =
      formula.modifier.toInt + pips before
  length_le : formula.modifier.toInt + roll.faces.length ≤ roll.total.toInt
  le_length_mul : roll.total.toInt ≤
    formula.modifier.toInt + (roll.faces.length * formula.sides.toNat : Nat)

/-- Where there is room for all pips, nothing is cut off on the way either. -/
theorem Roll.exact_of_room {formula : Formula} {faces : List UInt32}
    (on_die : ∀ face ∈ faces, 1 ≤ face ∧ face ≤ formula.sides)
    (room : formula.modifier.toInt + pips faces ≤ 2 ^ 63 - 1) (written : String) :
    (ofFaces written faces formula.modifier).Exact formula := by
  have total_eq := toInt_total_of_le room written
  have faces_eq : (ofFaces written faces formula.modifier).faces = faces := rfl
  have lower := length_le_pips fun face member => (on_die face member).1
  have upper := pips_le_length_mul fun face member => (on_die face member).2
  refine { total_eq, unclamped := ?_, length_le := ?_, le_length_mul := ?_ }
  · intro before after split
    have fewer : pips faces = pips before + pips after := by
      rw [← pips_append, ← split, faces_eq]
    exact toInt_total_of_le (by omega) written
  · rw [total_eq, faces_eq]
    omega
  · rw [total_eq, faces_eq]
    omega

namespace Formula

variable {formula : Formula} {limits : Limits} {text : String}

/-- If every die explodes as often as it may and always shows the most, there is still room in a
total for the greatest modifier. -/
def Fits (formula : Formula) : Prop :=
  formula.quantity.toNat * (1 + formula.explosionLimit) * formula.sides.toNat + greatestModifier ≤
    2 ^ 63 - 1

instance : Decidable formula.Fits :=
  inferInstanceAs (Decidable (_ ≤ _))

/-- No more faces count than there are. -/
theorem length_select_le (formula : Formula) (pool : List UInt32) :
    (formula.select pool).length ≤ pool.length := by
  cases found : formula.selection with
  | none => rw [select_of_none found]
  | some selection =>
    rw [select_of_some found, selection.length_pick]
    exact selection.left_le _

/-- What counts of a pool shows no more pips than all dice of the formula can show together. -/
theorem Promised.pips_le {pool : List UInt32}
    (promised : formula.Promised pool (formula.select pool)) :
    pips (formula.select pool) ≤
      formula.quantity.toNat * (1 + formula.explosionLimit) * formula.sides.toNat := by
  have count : (formula.select pool).length ≤
      formula.quantity.toNat * (1 + formula.explosionLimit) :=
    (formula.length_select_le pool).trans promised.length_le
  calc pips (formula.select pool)
      ≤ (formula.select pool).length * formula.sides.toNat :=
        pips_le_length_mul fun face member => (promised.faces_on_die face member).2
    _ ≤ _ := Nat.mul_le_mul_right _ count

/-- The total of a formula that fits is exact, whatever is drawn. -/
theorem Fits.exact {σ : Type} [DrawSource σ] (fits : formula.Fits)
    (accepted : parse limits text = .ok formula) (source : σ) :
    (Roll.ofFaces text (formula.faces source).1 formula.modifier).Exact formula := by
  have promised := (rollable_of_parse accepted).promised source
  have pips_le : pips (formula.faces source).1 ≤ _ := promised.pips_le
  have small := natAbs_modifier_le_of_parse accepted
  apply Roll.exact_of_room promised.faces_on_die
  rw [Fits] at fits
  omega

/-- A thousand dice with any number of sides fit if they explode two million times at most. -/
theorem fits_of_le (few : formula.quantity ≤ 1000) (rare : formula.explosionLimit ≤ 2000000) :
    formula.Fits := by
  have sides : formula.sides.toNat ≤ 4294967295 := Nat.le_of_lt_succ formula.sides.toNat_lt
  have chains : formula.quantity.toNat * (1 + formula.explosionLimit) ≤ 1000 * 2000001 :=
    Nat.mul_le_mul (UInt32.le_iff_toNat_le.mp few) (by omega)
  have pips := Nat.mul_le_mul chains sides
  rw [Fits, greatestModifier]
  omega

/-- Each die explodes as often as the text says, and else as often as the limits say. -/
theorem explosionLimit_meaning_le {written : WrittenFormula} {explosions : UInt32} {bound : Nat}
    (moderate : ∀ explosion ∈ written.explosion, ∀ limit ∈ explosion.limit,
      limit.numeral.value ≤ bound) (within : explosions.toNat ≤ bound) :
    (written.meaning explosions).explosionLimit ≤ bound := by
  rw [explosionLimit, WrittenFormula.meaning]
  cases found : written.explosion with
  | none => exact Nat.zero_le bound
  | some explosion =>
    rw [Option.map_some, Option.elim_some, WrittenExplosion.meaning]
    cases limited : explosion.limit with
    | none => exact within
    | some limit =>
      rw [Option.elim_some, Numeral.toNat_word]
      exact (Nat.min_le_left ..).trans (moderate explosion found limit limited)

/-- Under the standard limits a formula fits unless its text writes a very high limit. -/
theorem fits_of_parse (accepted : parse {} text = .ok formula) :
    ∃ written : WrittenFormula, text.toList = written.chars ∧
      ((∀ explosion ∈ written.explosion, ∀ limit ∈ explosion.limit,
        limit.numeral.value ≤ 2000000) → formula.Fits) := by
  have rollable := rollable_of_parse accepted
  cases parse_eq_iff_reading.mp accepted with
  | @rollable written split clear =>
    refine ⟨written, split, fun moderate => ?_⟩
    apply fits_of_le rollable.quantity_le
    exact explosionLimit_meaning_le moderate (by decide)

end Formula

namespace Cup

/-- **Totals are exact.** Whatever is drawn, a formula comes to an exact total if it fits. Under the
standard limits every formula fits, however many sides its dice have, if it does not explode or
explodes without a limit of its own, or with one of two million at most. -/
theorem totals_exact {σ : Type} [DrawSource σ] :
    (∀ (text : String) (cup left : Cup σ) (roll : Roll),
      rollFormula text cup = (.ok roll, left) →
        ∃ formula, Formula.parse cup.limits text = .ok formula ∧
          (formula.Fits → roll.Exact formula)) ∧
    ∀ (text : String) (formula : Formula), Formula.parse {} text = .ok formula →
      ∃ written : WrittenFormula, text.toList = written.chars ∧
        ((∀ explosion ∈ written.explosion, ∀ limit ∈ explosion.limit,
          limit.numeral.value ≤ 2000000) → formula.Fits) := by
  refine ⟨fun text cup left roll rolled => ?_, fun text formula => Formula.fits_of_parse⟩
  obtain ⟨source, limits⟩ := cup
  cases read : Formula.parse limits text with
  | error fault =>
    rw [rollFormula_of_error read] at rolled
    cases rolled
  | ok formula =>
    rw [rollFormula_of_ok read] at rolled
    cases rolled
    exact ⟨formula, rfl, fun fits => fits.exact read source⟩

/-- The greatest dice, the highest limit and the least modifier that are let through still have an
exact total. -/
theorem totals_exact_greatest_dice :
    let cup : Cup Replay := { source := { draws := #[0.3, 0.99] } }
    ∃ formula, Formula.parse {} "1000d9999999999!<9999999999L2000000-2147483647" = .ok formula ∧
      formula.sides = 4294967295 ∧ formula.Fits ∧
      ∃ roll left, rollFormula "1000d9999999999!<9999999999L2000000-2147483647" cup =
          (.ok roll, left) ∧
        roll.Exact formula := by
  intro cup
  let ninefold : Numeral :=
    { chars := List.replicate 10 '9', all := List.all_eq_true.mp rfl, ne_nil := by decide }
  let explosion : WrittenExplosion :=
    { comparator := some .less, target := some ninefold
      limit := some { letter := .upper, numeral := .ofNat 2000000 } }
  let nothing : Run Char.isWhitespace := { chars := [], all := List.forall_mem_nil _ }
  let modifier : WrittenModifier :=
    { before := nothing, sign := .minus, between := nothing, numeral := .ofNat 2147483647
      value_le := by decide }
  let written : WrittenFormula :=
    { quantity := .ofNat 1000, letter := .lower, sides := ninefold, reroll := none
      explosion := some explosion, selection := none, modifier := some modifier
      trailing := nothing }
  have split : "1000d9999999999!<9999999999L2000000-2147483647".toList = written.chars := rfl
  have accepted : Formula.parse {} _ = .ok (written.meaning 100) :=
    Formula.parse_of_written split
  have fits : (written.meaning 100).Fits := by
    obtain ⟨written', split', fits⟩ := (@totals_exact Replay _).2 _ _ accepted
    obtain rfl := WrittenFormula.chars_injective (split'.symm.trans split)
    apply fits
    rintro _ ⟨⟩ _ ⟨⟩
    decide
  have rolled := rollFormula_of_ok accepted cup.source
  obtain ⟨formula, read, exact⟩ := totals_exact.1 _ cup _ _ rolled
  obtain rfl := Except.ok.inj (accepted.symm.trans read)
  exact ⟨_, accepted, rfl, fits, _, _, rolled, exact fits⟩

end Cup
end TabletopDice
