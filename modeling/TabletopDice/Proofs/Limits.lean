import TabletopDice.Proofs.Reading

/-!
# What the limits decide

The limits are no part of a text. However they are set, a text is cut and read in the same way: they
bound the dice of the formula that is meant, and say how often a die explodes where the text does
not, and that is all (`parse_under_limits`).
-/

namespace TabletopDice

namespace WrittenExplosion

variable (written : WrittenExplosion) {sides explosions explosions' : UInt32}

theorem limit_meaning_of_isSome (writes : written.limit.isSome) :
    (written.meaning sides explosions).limit = (written.meaning sides explosions').limit := by
  obtain ⟨limit, there⟩ := Option.isSome_iff_exists.mp writes
  simp only [meaning, there, Option.elim_some]

theorem limit_meaning_of_not_isSome (left_out : ¬ written.limit.isSome) :
    (written.meaning sides explosions).limit = explosions := by
  rw [Option.not_isSome_iff_eq_none] at left_out
  simp only [meaning, left_out, Option.elim_none]

end WrittenExplosion

namespace Formula

section Check

variable {formula other : Formula} {first second limits : Limits} {fault : Fault}

/-- A formula passes its check unchanged, and only if there is no objection. -/
theorem checked_eq_ok_iff :
    formula.checked limits = .ok other ↔ formula.objection? limits = none ∧ formula = other := by
  rw [checked]
  cases formula.objection? limits with
  | none => simp only [Option.elim_none, Except.ok.injEq, true_and]
  | some objection => simp only [Option.elim_some, reduceCtorEq, false_and]

/-- A formula fails its check only for an objection. -/
theorem checked_eq_error_iff :
    formula.checked limits = .error fault ↔
      ∃ objection, formula.objection? limits = some objection ∧ fault = .unrollable objection := by
  rw [checked]
  cases formula.objection? limits with
  | none => simp only [Option.elim_none, reduceCtorEq, false_and, exists_false]
  | some objection =>
    simp only [Option.elim_some, Except.error.injEq, Option.some.injEq, exists_eq_left', eq_comm]

/-- A formula fails its check for the objection that is found. -/
theorem checked_eq_unrollable_iff {objection : Objection} :
    formula.checked limits = .error (.unrollable objection) ↔
      formula.objection? limits = some objection := by
  simp only [checked_eq_error_iff, Fault.unrollable.injEq, exists_eq_right']

/-- That there are no dice or no sides is found before everything else. -/
theorem objection?_eq_some_nonPositive_iff :
    formula.objection? limits = some .nonPositive ↔ formula.quantity = 0 ∨ formula.sides = 0 := by
  constructor
  · intro found
    cases (opposed_of_objection? found).1 with
    | nonPositive zero => exact zero
  · intro zero
    rw [objection?, if_pos zero]

/-- Too many dice are found before the selection is looked at. -/
theorem objection?_of_lt (positive : ¬ (formula.quantity = 0 ∨ formula.sides = 0))
    (many : limits.maxDice < formula.quantity) :
    formula.objection? limits = some (.tooManyDice limits.maxDice) := by
  rw [objection?, if_neg positive, if_pos many]

/-- If the dice are not too many under the first limits, then under the second what stands against
them is the same, or they are too many. -/
theorem objection?_under (few : formula.objection? first ≠ some (.tooManyDice first.maxDice)) :
    formula.objection? second = formula.objection? first ∨
      formula.objection? second = some (.tooManyDice second.maxDice) := by
  by_cases zero : formula.quantity = 0 ∨ formula.sides = 0
  · left
    rw [objection?_eq_some_nonPositive_iff.mpr zero, objection?_eq_some_nonPositive_iff.mpr zero]
  by_cases many : second.maxDice < formula.quantity
  · exact .inr (objection?_of_lt zero many)
  · have allowed : ¬ first.maxDice < formula.quantity :=
      fun many => few (objection?_of_lt zero many)
    left
    rw [objection?, objection?, if_neg zero, if_neg zero, if_neg many, if_neg allowed]

/-- What is rollable under some limits is so under all others that allow as many dice. -/
theorem Rollable.objection? (rollable : formula.Rollable first) :
    (formula.objection? second = some (.tooManyDice second.maxDice) ↔
      second.maxDice < formula.quantity) ∧
    (formula.quantity ≤ second.maxDice → formula.objection? second = none) := by
  refine ⟨⟨fun found => ?_, fun many => ?_⟩, fun enough => ?_⟩
  · cases (opposed_of_objection? found).1 with
    | tooManyDice many => exact many
  · have positive : ¬ (formula.quantity = 0 ∨ formula.sides = 0) :=
      not_or.mpr ⟨UInt32.pos_iff_ne_zero.mp rollable.quantity_pos,
        UInt32.pos_iff_ne_zero.mp rollable.sides_pos⟩
    exact objection?_of_lt positive many
  · exact objection?_eq_none_iff.mpr { rollable with quantity_le := enough }

/-- The check does not look at how often a die may explode. -/
theorem objection?_meaning (written : WrittenFormula) (explosions explosions' : UInt32) :
    (written.meaning explosions).objection? limits =
      (written.meaning explosions').objection? limits := rfl

end Check

/-- No limits help a text that is malformed, and of what is written in the grammar only the meaning
is checked against the limits. -/
theorem malformed_or_written (text : String) :
    (∃ phrase clause, ∀ limits, parse limits text = .error (.malformed phrase clause)) ∨
      ∃ written : WrittenFormula, text.toList = written.chars ∧
        ∀ limits, parse limits text = (written.meaning limits.explosions).checked limits := by
  obtain ⟨verdict, reading⟩ := exists_reading {} text
  cases reading with
  | undelimited strange => exact .inl ⟨_, _, fun _ => (Reading.undelimited strange).parse_eq⟩
  | badReroll delimited there unwritten =>
    exact .inl ⟨_, _, fun _ => (Reading.badReroll delimited there unwritten).parse_eq⟩
  | badExplosion delimited rerollWritten there unwritten =>
    exact .inl ⟨_, _, fun _ =>
      (Reading.badExplosion delimited rerollWritten there unwritten).parse_eq⟩
  | unrollable split | rollable split => exact .inr ⟨_, split, fun _ => parse_of_written split⟩

/-- The text says how often a die may explode. -/
def WritesExplosionLimit (text : String) : Prop :=
  ∃ written : WrittenFormula, text.toList = written.chars ∧
    ∃ explosion ∈ written.explosion, explosion.limit.isSome

/-- Two formulas agree in all but the limit of their explosion, and in that as well if the text
writes one; if not, each has that of the limits under which it is read. -/
structure Counterparts (text : String) (first second : Limits) (formula other : Formula) :
    Prop where
  quantity_eq : other.quantity = formula.quantity
  sides_eq : other.sides = formula.sides
  reroll_eq : other.reroll = formula.reroll
  selection_eq : other.selection = formula.selection
  modifier_eq : other.modifier = formula.modifier
  explosion : Option.Rel
    (fun explosion explosion' => explosion'.on = explosion.on ∧
      (WritesExplosionLimit text → explosion'.limit = explosion.limit) ∧
      (¬ WritesExplosionLimit text →
        explosion.limit = first.explosions ∧ explosion'.limit = second.explosions))
    formula.explosion other.explosion

/-- A limit of the explosions is written in the text exactly if the formula has one written. -/
theorem writesExplosionLimit_iff {text : String} {written : WrittenFormula}
    (split : text.toList = written.chars) :
    WritesExplosionLimit text ↔ ∃ explosion ∈ written.explosion, explosion.limit.isSome := by
  constructor
  · rintro ⟨written', split', writes⟩
    obtain rfl := WrittenFormula.chars_injective (split.symm.trans split')
    exact writes
  · intro writes
    exact ⟨written, split, writes⟩

/-- What one formula of the grammar means under two limits are counterparts. -/
theorem counterparts_of_written {text : String} {written : WrittenFormula}
    (split : text.toList = written.chars) (first second : Limits) :
    Counterparts text first second (written.meaning first.explosions)
      (written.meaning second.explosions) where
  quantity_eq := rfl
  sides_eq := rfl
  reroll_eq := rfl
  selection_eq := rfl
  modifier_eq := rfl
  explosion := by
    rw [writesExplosionLimit_iff split]
    simp only [WrittenFormula.meaning]
    cases found : written.explosion with
    | none => exact .none
    | some explosion =>
      simp only [Option.mem_some_iff, exists_eq_left']
      exact .some ⟨rfl, fun writes => explosion.limit_meaning_of_isSome writes,
        fun left_out => ⟨explosion.limit_meaning_of_not_isSome left_out,
          explosion.limit_meaning_of_not_isSome left_out⟩⟩

section Parse

variable {text : String} {first second : Limits}

/-- A text that is malformed under some limits is so under all. -/
theorem parse_malformed {phrase : Phrase} {clause : String}
    (rejected : parse first text = .error (.malformed phrase clause)) :
    parse second text = .error (.malformed phrase clause) := by
  rcases malformed_or_written text with ⟨_, _, malformed⟩ | ⟨written, -, read⟩
  · rw [malformed second, ← rejected, malformed first]
  · obtain ⟨_, -, mismatch⟩ := checked_eq_error_iff.mp ((read first).symm.trans rejected)
    cases mismatch

/-- Under no limits can a formula without dice or without sides be rolled. -/
theorem parse_nonPositive (rejected : parse first text = .error (.unrollable .nonPositive)) :
    parse second text = .error (.unrollable .nonPositive) := by
  rcases malformed_or_written text with ⟨_, _, malformed⟩ | ⟨written, -, read⟩
  · cases (malformed first).symm.trans rejected
  · have found := checked_eq_unrollable_iff.mp ((read first).symm.trans rejected)
    rw [read second, checked_eq_unrollable_iff]
    exact objection?_eq_some_nonPositive_iff.mpr (objection?_eq_some_nonPositive_iff.mp found)

/-- An objection other than that the dice are too many is raised again, or now they are. -/
theorem parse_unrollable {objection : Objection}
    (other : objection ≠ .tooManyDice first.maxDice)
    (rejected : parse first text = .error (.unrollable objection)) :
    parse second text = .error (.unrollable objection) ∨
      parse second text = .error (.unrollable (.tooManyDice second.maxDice)) := by
  rcases malformed_or_written text with ⟨_, _, malformed⟩ | ⟨written, -, read⟩
  · cases (malformed first).symm.trans rejected
  · have found := checked_eq_unrollable_iff.mp ((read first).symm.trans rejected)
    have few : (written.meaning first.explosions).objection? first ≠
        some (.tooManyDice first.maxDice) := by
      rw [found]
      exact fun same => other (Option.some.inj same)
    rw [read second, checked_eq_unrollable_iff, checked_eq_unrollable_iff, ← found,
      objection?_meaning written second.explosions first.explosions]
    exact objection?_under few

/-- A text that is accepted under some limits has a counterpart under others, unless it has too many
dice for them. -/
theorem parse_accepted {formula : Formula} (accepted : parse first text = .ok formula) :
    (parse second text = .error (.unrollable (.tooManyDice second.maxDice)) ↔
      second.maxDice < formula.quantity) ∧
    (formula.quantity ≤ second.maxDice →
      ∃ other, parse second text = .ok other ∧ Counterparts text first second formula other) := by
  rcases malformed_or_written text with ⟨_, _, malformed⟩ | ⟨written, split, read⟩
  · cases (malformed first).symm.trans accepted
  · obtain ⟨clear, rfl⟩ := checked_eq_ok_iff.mp ((read first).symm.trans accepted)
    obtain ⟨many_iff, allowed⟩ := (objection?_eq_none_iff.mp clear).objection?
    rw [objection?_meaning written _ second.explosions] at many_iff allowed
    constructor
    · rw [read second, checked_eq_unrollable_iff]
      exact many_iff
    · intro enough
      refine ⟨written.meaning second.explosions, ?_, counterparts_of_written split first second⟩
      rw [read second, checked_eq_ok_iff]
      exact ⟨allowed enough, rfl⟩

/-- The reroll does not depend on the limits in force. -/
theorem parse_reroll_eq {formula other : Formula} (accepted : parse first text = .ok formula)
    (accepted' : parse second text = .ok other) : other.reroll = formula.reroll := by
  rcases malformed_or_written text with ⟨_, _, malformed⟩ | ⟨written, -, read⟩
  · cases (malformed first).symm.trans accepted
  · obtain ⟨-, rfl⟩ := checked_eq_ok_iff.mp ((read first).symm.trans accepted)
    obtain ⟨-, rfl⟩ := checked_eq_ok_iff.mp ((read second).symm.trans accepted')
    rfl

end Parse

/-- **What the limits decide.** Under any two limits a text has the same malformed phrase, or lacks
dice or sides. A formula that is read under the first is rejected under the second exactly if it has
too many dice; else it is read again, but for the limit of its explosion, which is that of the
limits where the text writes none. What stands against the selection stands again unless the dice
are too many, and a reroll never depends on the limits. -/
theorem parse_under_limits (first second : Limits) (text : String) :
    (∀ phrase clause, parse first text = .error (.malformed phrase clause) ↔
      parse second text = .error (.malformed phrase clause)) ∧
    (parse first text = .error (.unrollable .nonPositive) ↔
      parse second text = .error (.unrollable .nonPositive)) ∧
    (∀ formula, parse first text = .ok formula →
      (parse second text = .error (.unrollable (.tooManyDice second.maxDice)) ↔
        second.maxDice < formula.quantity) ∧
      (formula.quantity ≤ second.maxDice →
        ∃ other, parse second text = .ok other ∧ Counterparts text first second formula other)) ∧
    (∀ objection ∈ ([.dropAll, .keepTooMany, .keepZero] : List Objection),
      parse first text = .error (.unrollable objection) →
        parse second text = .error (.unrollable objection) ∨
          parse second text = .error (.unrollable (.tooManyDice second.maxDice))) ∧
    (∀ formula other, parse first text = .ok formula → parse second text = .ok other →
      other.reroll = formula.reroll) := by
  refine ⟨fun phrase clause => ⟨parse_malformed, parse_malformed⟩,
    ⟨parse_nonPositive, parse_nonPositive⟩, fun formula => parse_accepted, ?_,
    fun formula other => parse_reroll_eq⟩
  intro objection selects
  apply parse_unrollable
  rintro rfl
  simp only [List.mem_cons, reduceCtorEq, List.not_mem_nil, or_self] at selects

/-- Three dice are too many under a limit of two. Under a limit of three the formula has a
counterpart, in which only the explosions differ: the reroll may strike each of the dice once, as
ever. -/
theorem parse_under_limits_two_and_three :
    let loose : Limits := { maxDice := 5, explosions := 7 }
    let formula : Formula :=
      { quantity := 3, sides := 6
        reroll := some { on := { comparator := .less, target := 2 }, limit := 3 }
        explosion := some { on := { comparator := .equal, target := 6 }, limit := 7 }
        selection := some { choice := .keep, extreme := .highest, amount := 1 }
        modifier := 0 }
    parse loose "3d6r<2!kh1" = .ok formula ∧
      parse { maxDice := 2 } "3d6r<2!kh1" = .error (.unrollable (.tooManyDice 2)) ∧
      ∃ other, parse { maxDice := 3, explosions := 1 } "3d6r<2!kh1" = .ok other ∧
        Counterparts "3d6r<2!kh1" loose { maxDice := 3, explosions := 1 } formula other := by
  intro loose formula
  have accepted : parse loose "3d6r<2!kh1" = .ok formula := rfl
  have among (second : Limits) := (parse_under_limits loose second _).2.2.1 formula accepted
  exact ⟨accepted, (among { maxDice := 2 }).1.mpr (by decide), (among _).2 (by decide)⟩

end Formula
end TabletopDice
