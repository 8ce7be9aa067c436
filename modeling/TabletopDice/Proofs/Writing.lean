import TabletopDice.Formula.Parse

/-!
# Formulas as they are written

A formula is read in two steps: its text is cut into an outline, and the reroll and the explosion of
the outline are decoded afterwards. Seen from outside there is only one grammar, in which every
piece is spelled out at once. A `WrittenFormula` is a derivation in that grammar, `chars` is the
text derived and `meaning` the formula meant. The two steps accept exactly the texts of that
grammar, and every text of it has one derivation only.
-/

namespace TabletopDice

namespace Numeral

/-- The word that a numeral means; a number beyond the greatest word counts as that word. -/
def word (numeral : Numeral) : UInt32 :=
  UInt32.ofNat (min numeral.value 4294967295)

theorem amount_eq_word (numeral : Numeral) : numeral.amount = numeral.word := by
  rw [amount, capped_eq]
  rfl

/-- Zeros in front of a numeral do not change what it means. -/
theorem word_of_zeros {numeral padded : Numeral} {zeros : Nat}
    (split : padded.chars = List.replicate zeros '0' ++ numeral.chars) :
    padded.word = numeral.word := by
  have same : padded.value = numeral.value := by
    unfold value
    rw [split, Nat.ofDigitChars_append, Nat.ofDigitChars_replicate_zero, Nat.mul_zero]
  rw [word, same, word]

end Numeral

/-- A reroll as it is written: its letter and a trigger, which has to have a target. -/
structure WrittenReroll extends WrittenTrigger where
  letter : LetterCase
  has_target : target.isSome
deriving DecidableEq

/-- An explosion as it is written: its mark and a trigger. -/
structure WrittenExplosion extends WrittenTrigger
deriving DecidableEq

/-- A formula as it is written. -/
structure WrittenFormula where
  quantity : Numeral
  letter : LetterCase
  sides : Numeral
  reroll : Option WrittenReroll
  explosion : Option WrittenExplosion
  selection : Option WrittenSelection
  modifier : Option WrittenModifier
  trailing : Run Char.isWhitespace
deriving DecidableEq

namespace WrittenTrigger

/-- A trigger is written with characters of triggers only, so a clause that holds one goes on to its
end. -/
theorem isTriggerChar_of_mem {written : WrittenTrigger} {c : Char} (member : c ∈ written.chars) :
    isTriggerChar c := by
  have ofSign (comparator : Comparator) : ∀ c ∈ comparator.signs, isTriggerChar c := by
    cases comparator <;> simp [Comparator.signs, isTriggerChar]
  have ofDigit (numeral : Numeral) : ∀ c ∈ numeral.chars, isTriggerChar c := by
    intro c digit
    simp only [isTriggerChar, numeral.all c digit, Bool.true_or]
  simp only [chars, List.mem_append] at member
  rcases member with (sign | digit) | limit
  · cases found : written.comparator with
    | none => simp only [found, Option.elim_none, List.not_mem_nil] at sign
    | some comparator =>
      rw [found] at sign
      exact ofSign comparator c sign
  · cases found : written.target with
    | none => simp only [found, Option.elim_none, List.not_mem_nil] at digit
    | some numeral =>
      rw [found] at digit
      exact ofDigit numeral c digit
  · cases found : written.limit with
    | none => simp only [found, Option.elim_none, List.not_mem_nil] at limit
    | some written =>
      rw [found] at limit
      rcases List.mem_cons.mp limit with rfl | digit
      · cases written.letter <;> decide
      · exact ofDigit written.numeral c digit

/-- No two triggers are written alike. -/
theorem chars_injective : Function.Injective chars := by
  intro first second same
  have readFirst := whole?_reader_eq_some_iff.mpr (rfl : first.chars = first.chars)
  have readSecond := whole?_reader_eq_some_iff.mpr same
  exact Option.some.inj (readFirst.symm.trans readSecond)

end WrittenTrigger

/-- No two rerolls of an outline are written alike. -/
theorem RerollSpan.chars_injective : Function.Injective chars := by
  intro first second same
  have atEnd : Stops isTriggerChar [] := fun _ there => nomatch there
  have readFirst := reader_eq_some_iff.mpr ⟨(List.append_nil first.chars).symm, atEnd⟩
  have readSecond := reader_eq_some_iff.mpr
    ⟨same.trans (List.append_nil second.chars).symm, atEnd⟩
  exact congrArg Prod.fst (Option.some.inj (readFirst.symm.trans readSecond))

/-- No two explosions of an outline are written alike. -/
theorem ExplosionSpan.chars_injective : Function.Injective chars := by
  rintro ⟨first⟩ ⟨second⟩ same
  obtain rfl := Run.ext (List.cons.inj same).2
  rfl

namespace WrittenReroll

/-- The reroll as it stands in the text: its letter, the condition, and the limit if there is
one. -/
def chars (written : WrittenReroll) : List Char :=
  written.letter.write 'r' :: written.toWrittenTrigger.chars

/-- The trigger that is meant, for a roll of so many dice. -/
def meaning (written : WrittenReroll) (quantity : UInt32) : Trigger where
  on.comparator := written.comparator.getD .equal
  on.target := (written.target.get written.has_target).word
  limit := written.limit.elim quantity (·.numeral.word)

/-- The reroll as an outline has it, where its trigger is not looked into. -/
def span (written : WrittenReroll) : RerollSpan where
  letter := written.letter
  body := ⟨written.toWrittenTrigger.chars, fun _ => WrittenTrigger.isTriggerChar_of_mem⟩

theorem span_chars (written : WrittenReroll) : written.span.chars = written.chars := rfl

theorem span_injective : Function.Injective span := by
  rintro ⟨first, letter, has_target⟩ ⟨second, _, _⟩ same
  obtain ⟨rfl, bodies⟩ := RerollSpan.mk.inj same
  obtain rfl := WrittenTrigger.chars_injective (congrArg Run.chars bodies)
  rfl

/-- No two rerolls are written alike. -/
theorem chars_injective : Function.Injective chars := fun first second same =>
  span_injective (RerollSpan.chars_injective
    (first.span_chars.trans (same.trans second.span_chars.symm)))

end WrittenReroll

namespace WrittenExplosion

/-- The explosion as it stands in the text: its sign, and what it has of a condition and a limit. -/
def chars (written : WrittenExplosion) : List Char :=
  '!' :: written.toWrittenTrigger.chars

/-- The trigger that is meant, for dice with so many sides and with so many explosions where no
limit is written. -/
def meaning (written : WrittenExplosion) (sides explosions : UInt32) : Trigger where
  on.comparator := written.comparator.getD .equal
  on.target := written.target.elim sides (·.word)
  limit := written.limit.elim explosions (·.numeral.word)

/-- The explosion as an outline has it, where its trigger is not looked into. -/
def span (written : WrittenExplosion) : ExplosionSpan where
  body := ⟨written.toWrittenTrigger.chars, fun _ => WrittenTrigger.isTriggerChar_of_mem⟩

theorem span_chars (written : WrittenExplosion) : written.span.chars = written.chars := rfl

theorem span_injective : Function.Injective span := by
  rintro ⟨first⟩ ⟨second⟩ same
  obtain rfl := WrittenTrigger.chars_injective
    (congrArg (fun span : ExplosionSpan => span.body.chars) same)
  rfl

/-- No two explosions are written alike. -/
theorem chars_injective : Function.Injective chars := fun first second same =>
  span_injective (ExplosionSpan.chars_injective
    (first.span_chars.trans (same.trans second.span_chars.symm)))

end WrittenExplosion

namespace Trigger

/-- A reroll that is written in the grammar reads as what it means. -/
theorem parseReroll_of_written (quantity : UInt32) (written : WrittenReroll) :
    parseReroll quantity (String.ofList written.chars) = .ok (written.meaning quantity) := by
  have read : rerollReader.whole? written.chars = some written.toWrittenTrigger :=
    whole?_rerollReader_eq_some_iff.mpr ⟨written.letter, rfl⟩
  have decoded : written.toWrittenTrigger.reroll? quantity = some (written.meaning quantity) := by
    obtain ⟨target, found⟩ := Option.isSome_iff_exists.mp written.has_target
    simp only [WrittenTrigger.reroll?, WrittenReroll.meaning, WrittenTrigger.comparison,
      WrittenTrigger.limitD, found, Option.map_some, Option.get_some, Numeral.amount_eq_word]
  rw [parseReroll, String.toList_ofList, read, Option.bind_some, decoded]

/-- What is written as no reroll is malformed, and shown as it stands. -/
theorem parseReroll_of_unwritten (quantity : UInt32) {chars : List Char}
    (unwritten : ∀ written : WrittenReroll, chars ≠ written.chars) :
    parseReroll quantity (String.ofList chars) =
      .error (.malformed .reroll (String.ofList chars)) := by
  have decoded : (rerollReader.whole? chars).bind (·.reroll? quantity) = none := by
    cases read : rerollReader.whole? chars with
    | none => rfl
    | some written =>
      obtain ⟨letter, split⟩ := whole?_rerollReader_eq_some_iff.mp read
      cases target : written.target with
      | none => simp only [Option.bind_some, WrittenTrigger.reroll?, target, Option.map_none]
      | some numeral =>
        exact absurd split (unwritten ⟨written, letter, by rw [target, Option.isSome_some]⟩)
  rw [parseReroll, String.toList_ofList, decoded]

/-- A text states a reroll exactly if it is written as one that means it. -/
theorem parseReroll_eq_ok_iff {quantity : UInt32} {text : String} {trigger : Trigger} :
    parseReroll quantity text = .ok trigger ↔
      ∃ written : WrittenReroll, text.toList = written.chars ∧
        written.meaning quantity = trigger := by
  rw [← String.ofList_toList (s := text), String.toList_ofList]
  by_cases known : ∃ written : WrittenReroll, text.toList = written.chars
  · obtain ⟨written, split⟩ := known
    rw [split, parseReroll_of_written, Except.ok.injEq]
    constructor
    · intro same
      exact ⟨written, rfl, same⟩
    · rintro ⟨other, split, same⟩
      obtain rfl := WrittenReroll.chars_injective split
      exact same
  · rw [not_exists] at known
    rw [parseReroll_of_unwritten quantity known]
    simp only [reduceCtorEq, known, false_and, exists_false]

/-- An explosion that is written in the grammar reads as what it means. -/
theorem parseExplosion_of_written (sides explosions : UInt32) (written : WrittenExplosion) :
    parseExplosion sides explosions (String.ofList written.chars) =
      .ok (written.meaning sides explosions) := by
  have read : explosionReader.whole? written.chars = some written.toWrittenTrigger :=
    whole?_explosionReader_eq_some_iff.mpr rfl
  have decoded : written.toWrittenTrigger.explosion sides explosions =
      written.meaning sides explosions := by
    simp only [WrittenTrigger.explosion, WrittenExplosion.meaning, WrittenTrigger.comparison,
      WrittenTrigger.limitD, Numeral.amount_eq_word]
  rw [parseExplosion, String.toList_ofList, read, ← decoded]

/-- What is written as no explosion is malformed, and shown as it stands. -/
theorem parseExplosion_of_unwritten (sides explosions : UInt32) {chars : List Char}
    (unwritten : ∀ written : WrittenExplosion, chars ≠ written.chars) :
    parseExplosion sides explosions (String.ofList chars) =
      .error (.malformed .explosion (String.ofList chars)) := by
  have unread : explosionReader.whole? chars = none := by
    rw [Option.eq_none_iff_forall_ne_some]
    intro written read
    exact unwritten ⟨written⟩ (whole?_explosionReader_eq_some_iff.mp read)
  rw [parseExplosion, String.toList_ofList, unread]

/-- A text states an explosion exactly if it is written as one that means it. -/
theorem parseExplosion_eq_ok_iff {sides explosions : UInt32} {text : String} {trigger : Trigger} :
    parseExplosion sides explosions text = .ok trigger ↔
      ∃ written : WrittenExplosion, text.toList = written.chars ∧
        written.meaning sides explosions = trigger := by
  rw [← String.ofList_toList (s := text), String.toList_ofList]
  by_cases known : ∃ written : WrittenExplosion, text.toList = written.chars
  · obtain ⟨written, split⟩ := known
    rw [split, parseExplosion_of_written, Except.ok.injEq]
    constructor
    · intro same
      exact ⟨written, rfl, same⟩
    · rintro ⟨other, split, same⟩
      obtain rfl := WrittenExplosion.chars_injective split
      exact same
  · rw [not_exists] at known
    rw [parseExplosion_of_unwritten sides explosions known]
    simp only [reduceCtorEq, known, false_and, exists_false]

end Trigger

/-- The selection that is meant, with the word that its numeral means. -/
def WrittenSelection.meaning (written : WrittenSelection) : Selection where
  choice := written.choice
  extreme := written.extreme
  amount := written.numeral.word

/-- What a selection is read as is what it means. -/
theorem WrittenSelection.selection_eq (written : WrittenSelection) :
    written.selection = written.meaning := by
  rw [selection, meaning, Numeral.amount_eq_word]

/-- The number that is meant, with the sign that it is written with. -/
def WrittenModifier.meaning (written : WrittenModifier) : Int64 :=
  match written.sign with
  | .plus => Int64.ofNat written.numeral.value
  | .minus => -Int64.ofNat written.numeral.value

/-- What a modifier is read as is what it means. -/
theorem WrittenModifier.value_eq (written : WrittenModifier) :
    written.value = written.meaning := by
  have exact : written.numeral.capped = written.numeral.value := by
    have small := written.value_le
    rw [Numeral.capped_eq]
    simp only [greatestModifier, Numeral.cap] at *
    omega
  rw [value, exact]
  rfl

namespace Outline

/-- No two outlines are written alike: each piece goes on as far as it may, so the text tells where
it ends. -/
theorem chars_injective : Function.Injective chars := by
  intro first second same
  have readFirst := read?_eq_some_iff.mpr (rfl : first.chars = first.chars)
  have readSecond := read?_eq_some_iff.mpr same
  exact Option.some.inj (readFirst.symm.trans readSecond)

/-- A reroll that is written as none is at fault, whatever stands behind it. -/
theorem formula_of_badReroll {outline : Outline} {span : RerollSpan} (explosions : UInt32)
    (there : outline.reroll = some span)
    (unwritten : ∀ written : WrittenReroll, span.chars ≠ written.chars) :
    outline.formula explosions = .error (.malformed .reroll (String.ofList span.chars)) := by
  have decoded := Trigger.parseReroll_of_unwritten outline.quantity.amount unwritten
  simp only [formula, there, Option.mapM_some, decoded]
  rfl

/-- An explosion that is written as none is at fault, if there is no fault before it. -/
theorem formula_of_badExplosion {outline : Outline} {span : ExplosionSpan} (explosions : UInt32)
    (rerollWritten : ∀ span ∈ outline.reroll, ∃ written : WrittenReroll,
      span.chars = written.chars)
    (there : outline.explosion = some span)
    (unwritten : ∀ written : WrittenExplosion, span.chars ≠ written.chars) :
    outline.formula explosions = .error (.malformed .explosion (String.ofList span.chars)) := by
  have decoded := Trigger.parseExplosion_of_unwritten outline.sides.amount explosions unwritten
  cases found : outline.reroll with
  | none =>
    simp only [formula, found, there, Option.mapM_none, Option.mapM_some, decoded]
    rfl
  | some reroll =>
    obtain ⟨written, split⟩ := rerollWritten reroll found
    have rerollDecoded := Trigger.parseReroll_of_written outline.quantity.amount written
    simp only [formula, found, there, Option.mapM_some, split, rerollDecoded, decoded]
    rfl

end Outline

namespace WrittenFormula

/-- The formula as it stands in the text, piece by piece. -/
def chars (written : WrittenFormula) : List Char :=
  written.quantity.chars ++ written.letter.write 'd' :: written.sides.chars ++
    written.reroll.elim [] (·.chars) ++ written.explosion.elim [] (·.chars) ++
    written.selection.elim [] (·.chars) ++ written.modifier.elim [] (·.chars) ++
    written.trailing.chars

/-- The formula that is meant, with so many explosions where no limit is written. -/
def meaning (written : WrittenFormula) (explosions : UInt32) : Formula where
  quantity := written.quantity.word
  sides := written.sides.word
  reroll := written.reroll.map (·.meaning written.quantity.word)
  explosion := written.explosion.map (·.meaning written.sides.word explosions)
  selection := written.selection.map (·.meaning)
  modifier := written.modifier.elim 0 (·.meaning)

/-- The outline of the formula, in which the reroll and the explosion are delimited only. -/
def outline (written : WrittenFormula) : Outline where
  quantity := written.quantity
  letter := written.letter
  sides := written.sides
  reroll := written.reroll.map (·.span)
  explosion := written.explosion.map (·.span)
  selection := written.selection
  modifier := written.modifier
  trailing := written.trailing

theorem outline_chars (written : WrittenFormula) : written.outline.chars = written.chars := by
  unfold Outline.chars chars outline
  cases written.reroll <;> cases written.explosion <;> rfl

/-- No two formulas of the grammar are written alike. -/
theorem chars_injective : Function.Injective chars := by
  intro first second same
  -- The outlines agree because they are read back; the spans then give their clauses away.
  rw [← outline_chars, ← outline_chars] at same
  have outlines := Outline.chars_injective same
  obtain ⟨_, _, _, _, _, _, _, _⟩ := first
  obtain ⟨_, _, _, _, _, _, _, _⟩ := second
  obtain ⟨rfl, rfl, rfl, rerolls, explosions, rfl, rfl, rfl⟩ := Outline.mk.inj outlines
  obtain rfl := Option.map_injective WrittenReroll.span_injective rerolls
  obtain rfl := Option.map_injective WrittenExplosion.span_injective explosions
  rfl

/-- Decoding the outline of a written formula comes to what the formula means. -/
theorem outline_formula (written : WrittenFormula) (explosions : UInt32) :
    written.outline.formula explosions = .ok (written.meaning explosions) := by
  have reroll : (written.outline.reroll.mapM fun span => Trigger.parseReroll
      written.outline.quantity.word (String.ofList span.chars)) =
        .ok (written.meaning explosions).reroll := by
    cases found : written.reroll with
    | none =>
      simp only [outline, meaning, found]
      rfl
    | some reroll =>
      have decoded := Trigger.parseReroll_of_written written.quantity.word reroll
      simp only [outline, meaning, found, Option.map_some, Option.mapM_some,
        WrittenReroll.span_chars, decoded]
      rfl
  have explosion : (written.outline.explosion.mapM fun span => Trigger.parseExplosion
      written.outline.sides.word explosions (String.ofList span.chars)) =
        .ok (written.meaning explosions).explosion := by
    cases found : written.explosion with
    | none =>
      simp only [outline, meaning, found]
      rfl
    | some explosion =>
      have decoded := Trigger.parseExplosion_of_written written.sides.word explosions explosion
      simp only [outline, meaning, found, Option.map_some, Option.mapM_some,
        WrittenExplosion.span_chars, decoded]
      rfl
  have selection : written.selection.map WrittenSelection.selection =
      (written.meaning explosions).selection :=
    congrArg (Option.map · written.selection) (funext WrittenSelection.selection_eq)
  have modifier : written.modifier.elim 0 (·.value) = (written.meaning explosions).modifier := by
    simp only [meaning, WrittenModifier.value_eq]
  simp only [Outline.formula, Numeral.amount_eq_word, reroll, explosion]
  -- Nothing fails any more, so what is left is the formula with two fields to be compared.
  change Except.ok { (written.meaning explosions) with
    selection := written.selection.map WrittenSelection.selection
    modifier := written.modifier.elim 0 (·.value) } = _
  rw [selection, modifier]

/-- An outline whose reroll and explosion are both well written is that of a written formula. -/
theorem exists_outline_eq {outline : Outline}
    (rerollWritten : ∀ span ∈ outline.reroll, ∃ written : WrittenReroll,
      span.chars = written.chars)
    (explosionWritten : ∀ span ∈ outline.explosion, ∃ written : WrittenExplosion,
      span.chars = written.chars) :
    ∃ written : WrittenFormula, written.outline = outline := by
  have reroll : ∃ written : Option WrittenReroll, written.map (·.span) = outline.reroll := by
    cases found : outline.reroll with
    | none => exact ⟨none, rfl⟩
    | some span =>
      obtain ⟨written, split⟩ := rerollWritten span found
      exact ⟨some written, congrArg some (RerollSpan.chars_injective split.symm)⟩
  have explosion : ∃ written : Option WrittenExplosion,
      written.map (·.span) = outline.explosion := by
    cases found : outline.explosion with
    | none => exact ⟨none, rfl⟩
    | some span =>
      obtain ⟨written, split⟩ := explosionWritten span found
      exact ⟨some written, congrArg some (ExplosionSpan.chars_injective split.symm)⟩
  obtain ⟨reroll, rerollSpan⟩ := reroll
  obtain ⟨explosion, explosionSpan⟩ := explosion
  exact ⟨{ outline with reroll, explosion }, by
    simp only [WrittenFormula.outline, rerollSpan, explosionSpan]⟩

end WrittenFormula

end TabletopDice
