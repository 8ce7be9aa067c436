import TabletopDice.Proofs.Reading

/-!
# The canonical text

The text of a formula leaves nothing out, so reading it gives the formula back. Two things stand in
the way: a modifier of more than 31 bits cannot be written, and a formula against which there is an
objection is refused, though it has a text.
-/

namespace TabletopDice

namespace Numeral

/-- The decimal digits of a number. -/
def ofNat (number : Nat) : Numeral where
  chars := Nat.toDigits 10 number
  all _ := Nat.isDigit_of_mem_toDigits (by decide) (by decide)
  ne_nil := Nat.toDigits_ne_nil

theorem value_ofNat (number : Nat) : (ofNat number).value = number :=
  Nat.ofDigitChars_ten_toDigits

theorem word_ofNat (amount : UInt32) : (ofNat amount.toNat).word = amount := by
  have small := amount.toNat_lt
  rw [word, value_ofNat, Nat.min_eq_left (by omega), UInt32.ofNat_toNat]

/-- A word is shown by its canonical numeral. -/
theorem toList_toString (amount : UInt32) :
    (toString amount).toList = (ofNat amount.toNat).chars :=
  Nat.toList_repr

end Numeral

/-- The trigger with nothing left out. -/
def Trigger.written (trigger : Trigger) : WrittenTrigger where
  comparator := some trigger.on.comparator
  target := some (.ofNat trigger.on.target.toNat)
  limit := some { letter := .upper, numeral := .ofNat trigger.limit.toNat }

/-- The canonical text of a trigger is one that a trigger is written as. -/
theorem Trigger.toList_text (trigger : Trigger) :
    (toString trigger).toList = trigger.written.chars := by
  have limit : "L".toList = ['L'] := rfl
  change trigger.text.toList = _
  simp only [text, toString, Comparison.text, String.toList_append, String.toList_ofList,
    Nat.toList_repr, limit]
  simp only [written, WrittenTrigger.chars, WrittenLimit.chars, LetterCase.write, Numeral.ofNat,
    Option.elim_some, List.append_assoc]
  rfl

/-- The reroll that is written with the canonical text of its trigger. -/
def Trigger.writtenReroll (trigger : Trigger) : WrittenReroll :=
  ⟨trigger.written, .lower, rfl⟩

/-- Nothing is left out of it, so its meaning is the same for any number of dice. -/
theorem Trigger.meaning_writtenReroll (trigger : Trigger) (quantity : UInt32) :
    trigger.writtenReroll.meaning quantity = trigger := by
  simp only [WrittenReroll.meaning, writtenReroll, written, Option.getD_some, Option.get_some,
    Option.elim_some, Numeral.word_ofNat]

/-- The explosion that is written with the canonical text of its trigger. -/
def Trigger.writtenExplosion (trigger : Trigger) : WrittenExplosion :=
  ⟨trigger.written⟩

/-- Nothing is left out of it, so its meaning is the same for all dice and all limits. -/
theorem Trigger.meaning_writtenExplosion (trigger : Trigger) (sides explosions : UInt32) :
    trigger.writtenExplosion.meaning sides explosions = trigger := by
  simp only [WrittenExplosion.meaning, writtenExplosion, written, Option.getD_some,
    Option.elim_some, Numeral.word_ofNat]

/-- The selection, written canonically. -/
def Selection.written (selection : Selection) : WrittenSelection where
  choice := selection.choice
  choiceCase := .lower
  extreme := selection.extreme
  extremeCase := .lower
  numeral := .ofNat selection.amount.toNat

/-- The canonical text of a selection is one that a selection is written as. -/
theorem Selection.toList_text (selection : Selection) :
    (toString selection).toList = selection.written.chars := by
  change selection.text.toList = _
  simp only [text, toString, String.toList_append, String.toList_ofList, Nat.toList_repr]
  rfl

theorem Selection.meaning_written (selection : Selection) :
    selection.written.meaning = selection := by
  simp only [WrittenSelection.meaning, written, Numeral.word_ofNat]

/-- A number is written with its digits, and with a minus sign before them if it lies below zero. -/
theorem toList_toString_int64 (number : Int64) : (toString number).toList =
    (if number.toInt < 0 then ['-'] else []) ++ (Numeral.ofNat number.toInt.natAbs).chars := by
  have minus : "-".toList = ['-'] := rfl
  change number.toInt.repr.toList = _
  cases number.toInt with
  | ofNat magnitude =>
    have above : ¬ Int.ofNat magnitude < 0 := Int.not_lt.mpr (Int.natCast_nonneg magnitude)
    rw [if_neg above, Int.repr, Nat.toList_repr]
    rfl
  | negSucc magnitude =>
    rw [if_pos (Int.negSucc_lt_zero magnitude), Int.repr, String.toList_append, Nat.toList_repr,
      minus]
    rfl

/-- The sign that a modifier other than zero is written with. -/
def signOf (modifier : Int64) : Sign :=
  if 0 < modifier then .plus else .minus

/-- The text of a modifier other than zero is its sign and the numeral of its magnitude. -/
theorem toList_modifierText {modifier : Int64} (other : modifier ≠ 0) :
    (modifierText modifier).toList =
      (signOf modifier).char :: (Numeral.ofNat modifier.toInt.natAbs).chars := by
  have nonzero : modifier.toInt ≠ 0 := fun zero => other (Int64.toInt_inj.mp zero)
  have positive : 0 < modifier ↔ 0 < modifier.toInt := Int64.lt_iff_toInt_lt
  simp only [modifierText, signOf, other, positive, ↓reduceIte]
  by_cases above : 0 < modifier.toInt
  · have notBelow : ¬ modifier.toInt < 0 := Int.not_lt.mpr (Int.le_of_lt above)
    rw [if_pos above, if_pos above, String.toList_append, toList_toString_int64, if_neg notBelow]
    rfl
  · have below : modifier.toInt < 0 := by omega
    rw [if_neg above, if_neg above, toList_toString_int64, if_pos below]
    rfl

namespace WrittenModifier

/-- A modifier that is not too great, written without blanks. -/
def ofInt64 (modifier : Int64) (small : modifier.toInt.natAbs ≤ greatestModifier) :
    WrittenModifier where
  before := ⟨[], nofun⟩
  sign := signOf modifier
  between := ⟨[], nofun⟩
  numeral := .ofNat modifier.toInt.natAbs
  value_le := (Numeral.value_ofNat _).symm ▸ small

/-- A modifier means the number of its numeral, which is so small that it has either sign. -/
theorem toInt_meaning (written : WrittenModifier) : written.meaning.toInt =
    match written.sign with
    | .plus => (written.numeral.value : Int)
    | .minus => -(written.numeral.value : Int) := by
  have small : written.numeral.value < 2 ^ 63 := Nat.lt_of_le_of_lt written.value_le (by decide)
  unfold meaning
  cases written.sign with
  | plus => exact Int64.toInt_ofNat_of_lt small
  | minus => exact Int64.toInt_neg_ofNat_of_le (Nat.le_of_lt small)

/-- No modifier that can be written is too great. -/
theorem natAbs_meaning_le (written : WrittenModifier) :
    written.meaning.toInt.natAbs ≤ greatestModifier := by
  have small := written.value_le
  rw [toInt_meaning]
  cases written.sign with
  | plus => simpa only [Int.natAbs_natCast] using small
  | minus => simpa only [Int.natAbs_neg, Int.natAbs_natCast] using small

/-- A modifier that is written canonically means itself. -/
theorem meaning_ofInt64 {modifier : Int64}
    (small : modifier.toInt.natAbs ≤ greatestModifier) :
    (ofInt64 modifier small).meaning = modifier := by
  have positive : 0 < modifier ↔ 0 < modifier.toInt := Int64.lt_iff_toInt_lt
  apply Int64.toInt_inj.mp
  rw [toInt_meaning]
  simp only [ofInt64, signOf, positive, Numeral.value_ofNat]
  by_cases above : 0 < modifier.toInt
  · simp only [above, ↓reduceIte]
    omega
  · simp only [above, ↓reduceIte]
    omega

end WrittenModifier

/-- No formula that can be written has a modifier that is too great. -/
theorem WrittenFormula.natAbs_modifier_le (written : WrittenFormula) {explosions : UInt32} :
    (written.meaning explosions).modifier.toInt.natAbs ≤ greatestModifier := by
  cases found : written.modifier with
  | none =>
    simp only [meaning, found, Option.elim_none]
    decide
  | some modifier =>
    simp only [meaning, found, Option.elim_some]
    exact modifier.natAbs_meaning_le

namespace Formula

/-- The formula with nothing left out, up to its modifier. -/
def written (formula : Formula) (modifier : Option WrittenModifier) : WrittenFormula where
  quantity := .ofNat formula.quantity.toNat
  letter := .lower
  sides := .ofNat formula.sides.toNat
  reroll := formula.reroll.map (·.writtenReroll)
  explosion := formula.explosion.map (·.writtenExplosion)
  selection := formula.selection.map (·.written)
  modifier
  trailing := ⟨[], nofun⟩

/-- A formula that is written canonically means itself, with the modifier that is written with
it. -/
theorem meaning_written (formula : Formula) (modifier : Option WrittenModifier)
    (explosions : UInt32) : (formula.written modifier).meaning explosions =
      { formula with modifier := modifier.elim 0 (·.meaning) } := by
  simp only [written, WrittenFormula.meaning, Numeral.word_ofNat, Option.map_map,
    Function.comp_def, Trigger.meaning_writtenReroll, Trigger.meaning_writtenExplosion,
    Selection.meaning_written, Option.map_id']

/-- The modifier is all that stands behind the canonical text without one. -/
theorem chars_written (formula : Formula) (modifier : Option WrittenModifier) :
    (formula.written modifier).chars =
      (formula.written none).chars ++ modifier.elim [] (·.chars) := by
  simp only [written, WrittenFormula.chars, Option.elim_none, List.append_nil]

/-- The text is that of the formula without its modifier, and then the modifier's. -/
theorem toList_text (formula : Formula) : (toString formula).toList =
    (formula.written none).chars ++ (modifierText formula.modifier).toList := by
  have reroll : (formula.reroll.elim "" fun reroll => s!"r{reroll}").toList =
      (formula.written none).reroll.elim [] (·.chars) := by
    cases found : formula.reroll with
    | none => simp only [written, found, Option.elim_none, Option.map_none, String.toList_empty]
    | some reroll =>
      simp only [written, found, Option.elim_some, Option.map_some, String.toList_append,
        reroll.toList_text]
      rfl
  have explosion : (formula.explosion.elim "" fun explosion => s!"!{explosion}").toList =
      (formula.written none).explosion.elim [] (·.chars) := by
    cases found : formula.explosion with
    | none => simp only [written, found, Option.elim_none, Option.map_none, String.toList_empty]
    | some explosion =>
      simp only [written, found, Option.elim_some, Option.map_some, String.toList_append,
        explosion.toList_text]
      rfl
  have selection : (formula.selection.elim "" toString).toList =
      (formula.written none).selection.elim [] (·.chars) := by
    cases found : formula.selection with
    | none => simp only [written, found, Option.elim_none, Option.map_none, String.toList_empty]
    | some selection =>
      simp only [written, found, Option.elim_some, Option.map_some, selection.toList_text]
  change formula.text.toList = _
  simp only [text, String.toList_append, Numeral.toList_toString, reroll, explosion, selection]
  simp only [WrittenFormula.chars, written, Option.elim_none, List.append_nil, List.append_assoc]
  rfl

/-- A formula whose modifier is not too great can be written. -/
theorem exists_written {formula : Formula}
    (small : formula.modifier.toInt.natAbs ≤ greatestModifier) :
    ∃ written : WrittenFormula, (toString formula).toList = written.chars ∧
      ∀ explosions, written.meaning explosions = formula := by
  by_cases zero : formula.modifier = 0
  · refine ⟨formula.written none, ?_, fun explosions => ?_⟩
    · have nothing : (modifierText 0).toList = [] := rfl
      rw [toList_text, zero, nothing, List.append_nil]
    · rw [meaning_written, Option.elim_none, ← zero]
  · have modifier := WrittenModifier.meaning_ofInt64 small
    refine ⟨formula.written (some (.ofInt64 formula.modifier small)), ?_, fun explosions => ?_⟩
    · rw [toList_text, toList_modifierText zero, chars_written formula (some _)]
      rfl
    · rw [meaning_written, Option.elim_some, modifier]

end Formula

theorem Numeral.filter_isDigit (numeral : Numeral) :
    numeral.chars.filter Char.isDigit = numeral.chars :=
  List.filter_eq_self.mpr numeral.all

/-- None of the blanks is a digit. -/
theorem Run.filter_isDigit_blank (blank : Run Char.isWhitespace) :
    blank.chars.filter Char.isDigit = [] := by
  rw [List.filter_eq_nil_iff]
  intro c member digit
  have white := blank.all c member
  simp only [Char.isWhitespace, Bool.or_eq_true, decide_eq_true_eq] at white
  rcases white with ((rfl | rfl) | rfl) | rfl <;> exact absurd digit (by decide)

/-- What stands behind the first sign of a text depends on the text only. -/
theorem eq_of_append_sign {front front' rest rest' : List Char} {sign sign' : Sign}
    (noSign : ∀ sign : Sign, sign.char ∉ front) (noSign' : ∀ sign : Sign, sign.char ∉ front')
    (same : front ++ sign.char :: rest = front' ++ sign'.char :: rest') : rest = rest' := by
  let plain (c : Char) : Bool := c ≠ '+' && c ≠ '-'
  have skip {front rest : List Char} {sign : Sign} (noSign : ∀ sign : Sign, sign.char ∉ front) :
      (front ++ sign.char :: rest).dropWhile plain = sign.char :: rest := by
    have allPlain : ∀ c ∈ front, plain c := by
      intro c member
      have notPlus : c ≠ '+' := by
        rintro rfl
        exact noSign .plus member
      have notMinus : c ≠ '-' := by
        rintro rfl
        exact noSign .minus member
      simp only [plain, notPlus, notMinus, ne_eq, not_false_eq_true, decide_true, Bool.and_true]
    have stop : plain sign.char = false := by
      cases sign <;> decide
    rw [List.dropWhile_append_of_pos allPlain, List.dropWhile_cons_of_neg (by simp [stop])]
  have behind := congrArg (List.dropWhile plain) same
  rw [skip noSign, skip noSign'] at behind
  exact (List.cons.inj behind).2

/-- Whether a character may stand in a formula before its modifier. -/
def isFrontChar (c : Char) : Bool :=
  isTriggerChar c || ['!', 'd', 'D', 'r', 'R', 'k', 'K', 'h', 'H'].contains c

namespace Outline

/-- The text up to the modifier. -/
def front (outline : Outline) : List Char :=
  outline.quantity.chars ++ outline.letter.write 'd' :: outline.sides.chars ++
    outline.reroll.elim [] (·.chars) ++ outline.explosion.elim [] (·.chars) ++
    outline.selection.elim [] (·.chars)

/-- What stands before the modifier is made of the letters, signs and digits of the clauses. -/
theorem isFrontChar_of_mem (outline : Outline) : ∀ c ∈ outline.front, isFrontChar c := by
  have digits (numeral : Numeral) : ∀ c ∈ numeral.chars, isFrontChar c := by
    intro c member
    simp only [isFrontChar, isTriggerChar, numeral.all c member, Bool.true_or]
  have trigger (body : Run isTriggerChar) : ∀ c ∈ body.chars, isFrontChar c := by
    intro c member
    simp only [isFrontChar, body.all c member, Bool.true_or]
  have letters (letterCase : LetterCase) :
      ∀ letter ∈ ['d', 'r', 'k', 'h', 'l'], isFrontChar (letterCase.write letter) := by
    rw [← List.all_eq_true]
    cases letterCase <;> rfl
  have reroll : ∀ c ∈ outline.reroll.elim [] (·.chars), isFrontChar c := by
    cases outline.reroll with
    | none => exact List.forall_mem_nil _
    | some span => exact List.forall_mem_cons.mpr ⟨letters _ 'r' (by decide), trigger span.body⟩
  have explosion : ∀ c ∈ outline.explosion.elim [] (·.chars), isFrontChar c := by
    cases outline.explosion with
    | none => exact List.forall_mem_nil _
    | some span => exact List.forall_mem_cons.mpr ⟨by decide, trigger span.body⟩
  have selection : ∀ c ∈ outline.selection.elim [] (·.chars), isFrontChar c := by
    cases outline.selection with
    | none => exact List.forall_mem_nil _
    | some written =>
      have choice : written.choice.letter ∈ ['d', 'r', 'k', 'h', 'l'] := by
        cases written.choice <;> decide
      have extreme : written.extreme.letter ∈ ['d', 'r', 'k', 'h', 'l'] := by
        cases written.extreme <;> decide
      exact List.forall_mem_cons.mpr ⟨letters _ _ choice,
        List.forall_mem_cons.mpr ⟨letters _ _ extreme, digits written.numeral⟩⟩
  simp only [front, List.forall_mem_append, List.forall_mem_cons]
  exact ⟨⟨⟨⟨digits _, letters _ 'd' (by decide), digits _⟩, reroll⟩, explosion⟩, selection⟩

theorem sign_notMem_front (outline : Outline) (sign : Sign) : sign.char ∉ outline.front := by
  intro member
  have front := outline.isFrontChar_of_mem _ member
  cases sign <;> exact absurd front (by decide)

/-- Nothing that has an outline ends in a sign and a number too great. -/
theorem chars_ne_of_great (outline : Outline) {front : List Char} {sign : Sign}
    {numeral : Numeral} (noSign : ∀ sign : Sign, sign.char ∉ front)
    (great : greatestModifier < numeral.value) :
    front ++ sign.char :: numeral.chars ≠ outline.chars := by
  intro same
  have split : outline.chars =
      outline.front ++ (outline.modifier.elim [] (·.chars) ++ outline.trailing.chars) := by
    simp only [chars, Outline.front, List.append_assoc]
  have noBlank (blank : Run Char.isWhitespace) (sign : Sign) : sign.char ∉ blank.chars := by
    cases sign <;> exact blank.notMem_chars rfl
  cases found : outline.modifier with
  | none =>
    have member : sign.char ∈ outline.chars :=
      same ▸ List.mem_append_right _ List.mem_cons_self
    rw [split, found] at member
    rcases List.mem_append.mp member with before | after
    · exact outline.sign_notMem_front sign before
    · exact noBlank outline.trailing sign after
  | some written =>
    -- Both texts have one sign, so the numerals behind it are compared, and blanks are no digits.
    have noSign' (sign : Sign) : sign.char ∉ outline.front ++ written.before.chars :=
      List.not_mem_append (outline.sign_notMem_front sign) (noBlank written.before sign)
    have whole : front ++ sign.char :: numeral.chars =
        (outline.front ++ written.before.chars) ++ written.sign.char ::
          (written.between.chars ++ (written.numeral.chars ++ outline.trailing.chars)) := by
      rw [same, split, found]
      simp only [Option.elim_some, WrittenModifier.chars, List.append_assoc, List.cons_append]
    have after := eq_of_append_sign noSign noSign' whole
    have digits : numeral.chars = written.numeral.chars := by
      have filtered := congrArg (List.filter Char.isDigit) after
      simpa only [List.filter_append, numeral.filter_isDigit, written.numeral.filter_isDigit,
        Run.filter_isDigit_blank, List.nil_append, List.append_nil] using filtered
    have tooGreat : greatestModifier < written.numeral.value := by
      rwa [Numeral.value, ← digits]
    exact Nat.not_le_of_lt tooGreat written.value_le

end Outline

namespace Formula

/-- Without its modifier and written canonically, a formula is all front. -/
theorem front_outline_written (formula : Formula) :
    (formula.written none).outline.front = (formula.written none).chars := by
  rw [← WrittenFormula.outline_chars]
  simp only [Outline.front, Outline.chars, WrittenFormula.outline, written, Option.elim_none,
    List.append_nil]

/-- A formula whose modifier is too great has a text that nothing is written as. -/
theorem undelimited_of_great {formula : Formula}
    (great : greatestModifier < formula.modifier.toInt.natAbs) (outline : Outline) :
    (toString formula).toList ≠ outline.chars := by
  have other : formula.modifier ≠ 0 := by
    intro zero
    rw [zero] at great
    exact absurd great (by decide)
  have noSign (sign : Sign) : sign.char ∉ (formula.written none).chars := by
    rw [← front_outline_written]
    exact Outline.sign_notMem_front _ sign
  rw [toList_text, toList_modifierText other]
  exact outline.chars_ne_of_great noSign ((Numeral.value_ofNat _).symm ▸ great)

/-- A canonical text is read as its formula, if there is no objection, unless it cannot be written
because of the modifier. -/
theorem parse_text {formula : Formula}
    (small : formula.modifier.toInt.natAbs ≤ greatestModifier) (limits : Limits) :
    parse limits (toString formula) = formula.checked limits := by
  obtain ⟨written, split, meaning⟩ := exists_written small
  rw [parse_of_written split, meaning]

/-- No formula that is read has a modifier that is too great. -/
theorem natAbs_modifier_le_of_parse {limits : Limits} {text : String} {formula : Formula}
    (accepted : parse limits text = .ok formula) :
    formula.modifier.toInt.natAbs ≤ greatestModifier := by
  cases parse_eq_iff_reading.mp accepted with
  | @rollable written split clear => exact written.natAbs_modifier_le

/-- A formula that has been read is read again from its canonical text, under any limits that allow
as many dice. -/
theorem parse_text_of_parse {earlier limits : Limits} {text : String} {formula : Formula}
    (accepted : parse earlier text = .ok formula) (enough : formula.quantity ≤ limits.maxDice) :
    parse limits (toString formula) = .ok formula := by
  have rollable : formula.Rollable limits :=
    { rollable_of_parse accepted with quantity_le := enough }
  rw [parse_text (natAbs_modifier_le_of_parse accepted), checked,
    objection?_eq_none_iff.mpr rollable, Option.elim_none]

/-- **Reading undoes writing.** The canonical text of a formula reads as that formula if it can be
rolled. If its modifier is too great to be written the text is no formula, and if there is an
objection the text is refused for it. So what a text once came to is read again from the canonical
text, under any limits that allow as many dice. -/
theorem parse_toString (formula : Formula) (limits : Limits) :
    parse limits (toString formula) =
      (if 2147483647 < formula.modifier.toInt.natAbs then
        .error (.malformed .formula (toString formula))
      else (formula.objection? limits).elim (.ok formula) fun objection =>
        .error (.unrollable objection)) ∧
    ∀ (earlier : Limits) (text : String), parse earlier text = .ok formula →
      formula.quantity ≤ limits.maxDice → parse limits (toString formula) = .ok formula := by
  refine ⟨?_, fun earlier text accepted enough => parse_text_of_parse accepted enough⟩
  by_cases great : 2147483647 < formula.modifier.toInt.natAbs
  · rw [if_pos great]
    exact (Reading.undelimited (undelimited_of_great great)).parse_eq
  · rw [if_neg great]
    exact parse_text (Nat.not_lt.mp great) limits

example : parse {} "4d6r<2L4!=6L100kh3-5" = .ok
    { quantity := 4
      sides := 6
      reroll := some { on := { comparator := .less, target := 2 }, limit := 4 }
      explosion := some { on := { comparator := .equal, target := 6 }, limit := 100 }
      selection := some { choice := .keep, extreme := .highest, amount := 3 }
      modifier := -5 } := rfl

end Formula
end TabletopDice
