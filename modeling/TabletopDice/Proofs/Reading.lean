import TabletopDice.Proofs.Writing

/-!
# What a text comes to

Every text comes to exactly one thing when it is read as a formula: to a fault of one of its pieces,
to an objection against rolling it, or to the formula that it means. The grounds for a fault are
stated one by one, without regard to each other; where several of them apply, the one of the lowest
rank is reported.
-/

namespace TabletopDice

namespace Formula

/-- What a text comes to when it is read: the fault of its first bad piece, or what stands against
rolling the formula that it means, or that formula. -/
inductive Reading (limits : Limits) (text : String) : Except Fault Formula → Prop where
  | undelimited (strange : ∀ outline : Outline, text.toList ≠ outline.chars) :
      Reading limits text (.error (.malformed .formula text))
  | badReroll {outline : Outline} {span : RerollSpan} (delimited : text.toList = outline.chars)
      (there : outline.reroll = some span)
      (unwritten : ∀ written : WrittenReroll, span.chars ≠ written.chars) :
      Reading limits text (.error (.malformed .reroll (String.ofList span.chars)))
  | badExplosion {outline : Outline} {span : ExplosionSpan}
      (delimited : text.toList = outline.chars)
      (rerollWritten : ∀ span ∈ outline.reroll, ∃ written : WrittenReroll,
        span.chars = written.chars)
      (there : outline.explosion = some span)
      (unwritten : ∀ written : WrittenExplosion, span.chars ≠ written.chars) :
      Reading limits text (.error (.malformed .explosion (String.ofList span.chars)))
  | unrollable {written : WrittenFormula} {objection : Objection}
      (split : text.toList = written.chars)
      (stands : (written.meaning limits.explosions).objection? limits = some objection) :
      Reading limits text (.error (.unrollable objection))
  | rollable {written : WrittenFormula} (split : text.toList = written.chars)
      (clear : (written.meaning limits.explosions).objection? limits = none) :
      Reading limits text (.ok (written.meaning limits.explosions))

/-- The formula, unless there is an objection against rolling it. -/
def checked (formula : Formula) (limits : Limits) : Except Fault Formula :=
  (formula.objection? limits).elim (.ok formula) fun objection => .error (.unrollable objection)

variable {limits : Limits} {text : String} {verdict : Except Fault Formula}

/-- A text with an outline is read in two steps: its clauses are looked into, and then the formula
is checked. -/
theorem parse_of_outline {outline : Outline} (delimited : text.toList = outline.chars) :
    parse limits text = (outline.formula limits.explosions).bind (·.checked limits) := by
  have read := Outline.read?_eq_some_iff.mpr delimited
  simp only [parse, read]
  cases outline.formula limits.explosions with
  | error fault => rfl
  | ok formula =>
    simp only [bind, Except.bind, checked]
    cases formula.objection? limits <;> rfl

/-- A written formula is rejected only for what stands against rolling what it means. -/
theorem parse_of_written {written : WrittenFormula} (split : text.toList = written.chars) :
    parse limits text = (written.meaning limits.explosions).checked limits := by
  rw [parse_of_outline (split.trans written.outline_chars.symm), written.outline_formula]
  rfl

/-- The reader comes to what the grammar says. -/
theorem Reading.parse_eq (reading : Reading limits text verdict) :
    parse limits text = verdict := by
  cases reading with
  | undelimited strange =>
    have unread : Outline.read? text.toList = none := by
      rw [Option.eq_none_iff_forall_ne_some]
      exact fun outline read => strange outline (Outline.read?_eq_some_iff.mp read)
    rw [parse, unread]
  | badReroll delimited there unwritten =>
    rw [parse_of_outline delimited, Outline.formula_of_badReroll _ there unwritten]
    rfl
  | badExplosion delimited rerollWritten there unwritten =>
    rw [parse_of_outline delimited,
      Outline.formula_of_badExplosion _ rerollWritten there unwritten]
    rfl
  | unrollable split stands => rw [parse_of_written split, checked, stands, Option.elim_some]
  | rollable split clear => rw [parse_of_written split, checked, clear, Option.elim_none]

/-- The grammar says something of every text, so the four ways to read a text are all there are. -/
theorem exists_reading (limits : Limits) (text : String) :
    ∃ verdict, Reading limits text verdict := by
  by_cases strange : ∀ outline : Outline, text.toList ≠ outline.chars
  · exact ⟨_, .undelimited strange⟩
  simp only [Classical.not_forall, Classical.not_not] at strange
  obtain ⟨outline, delimited⟩ := strange
  by_cases badReroll : ∃ span ∈ outline.reroll, ∀ written : WrittenReroll,
      span.chars ≠ written.chars
  · obtain ⟨span, there, unwritten⟩ := badReroll
    exact ⟨_, .badReroll delimited there unwritten⟩
  simp only [not_exists, not_and, Classical.not_forall, Classical.not_not] at badReroll
  by_cases badExplosion : ∃ span ∈ outline.explosion, ∀ written : WrittenExplosion,
      span.chars ≠ written.chars
  · obtain ⟨span, there, unwritten⟩ := badExplosion
    exact ⟨_, .badExplosion delimited badReroll there unwritten⟩
  simp only [not_exists, not_and, Classical.not_forall, Classical.not_not] at badExplosion
  obtain ⟨written, rfl⟩ := WrittenFormula.exists_outline_eq badReroll badExplosion
  have split : text.toList = written.chars := delimited.trans written.outline_chars
  cases objection : (written.meaning limits.explosions).objection? limits with
  | none => exact ⟨_, .rollable split objection⟩
  | some objection => exact ⟨_, .unrollable split objection⟩

/-- Reading a text finds just what it comes to. -/
theorem parse_eq_iff_reading : parse limits text = verdict ↔ Reading limits text verdict := by
  constructor
  · rintro rfl
    obtain ⟨verdict, reading⟩ := exists_reading limits text
    rwa [reading.parse_eq]
  · exact Reading.parse_eq

end Formula

namespace Objection

/-- What may stand against rolling so many dice of so many sides with the selection, each objection
on its own. -/
inductive Stands (limits : Limits) (quantity sides : UInt32) (selection : Option Selection) :
    Objection → Prop where
  | nonPositive (zero : quantity = 0 ∨ sides = 0) :
      Stands limits quantity sides selection .nonPositive
  | tooManyDice (many : limits.maxDice < quantity) :
      Stands limits quantity sides selection (.tooManyDice limits.maxDice)
  | dropAll {extreme : Extreme} {amount : UInt32}
      (drops : selection = some { choice := .drop, extreme, amount }) (all : quantity ≤ amount) :
      Stands limits quantity sides selection .dropAll
  | keepTooMany {extreme : Extreme} {amount : UInt32}
      (keeps : selection = some { choice := .keep, extreme, amount }) (many : quantity < amount) :
      Stands limits quantity sides selection .keepTooMany
  | keepZero (extreme : Extreme)
      (keeps : selection = some { choice := .keep, extreme, amount := 0 }) :
      Stands limits quantity sides selection .keepZero

/-- The place of an objection in the order in which they are considered. -/
def rank : Objection → Nat
  | nonPositive => 0
  | tooManyDice _ => 1
  | dropAll => 2
  | keepTooMany => 3
  | keepZero => 4

/-- Of the objections that stand against the same dice no two have the same rank. -/
theorem Stands.eq_of_rank_eq {limits : Limits} {quantity sides : UInt32}
    {selection : Option Selection} {first second : Objection}
    (stands : first.Stands limits quantity sides selection)
    (stands' : second.Stands limits quantity sides selection)
    (same : first.rank = second.rank) : first = second := by
  cases stands <;> cases stands' <;> first | rfl | cases same

end Objection

namespace Formula

/-- Whether the formula asks for dice that can be rolled within the limits, and keeps some. -/
structure Rollable (formula : Formula) (limits : Limits) : Prop where
  quantity_pos : 0 < formula.quantity
  sides_pos : 0 < formula.sides
  quantity_le : formula.quantity ≤ limits.maxDice
  drop_lt : ∀ selection ∈ formula.selection, selection.choice = .drop →
    selection.amount < formula.quantity
  keep_pos : ∀ selection ∈ formula.selection, selection.choice = .keep → 0 < selection.amount
  keep_le : ∀ selection ∈ formula.selection, selection.choice = .keep →
    selection.amount ≤ formula.quantity

/-- The objections that stand against a formula within the limits. -/
abbrev Opposed (formula : Formula) (limits : Limits) : Objection → Prop :=
  Objection.Stands limits formula.quantity formula.sides formula.selection

variable {formula : Formula} {limits : Limits}

/-- Nothing stands against rolling a formula exactly if it is rollable. -/
theorem rollable_iff_unopposed :
    formula.Rollable limits ↔ ∀ objection, ¬ formula.Opposed limits objection := by
  constructor
  · intro rollable objection stands
    cases stands with
    | nonPositive zero =>
      rcases zero with zero | zero
      · exact UInt32.pos_iff_ne_zero.mp rollable.quantity_pos zero
      · exact UInt32.pos_iff_ne_zero.mp rollable.sides_pos zero
    | tooManyDice many => exact UInt32.not_le.mpr many rollable.quantity_le
    | dropAll drops all => exact UInt32.not_le.mpr (rollable.drop_lt _ drops rfl) all
    | keepTooMany keeps many => exact UInt32.not_le.mpr many (rollable.keep_le _ keeps rfl)
    | keepZero extreme keeps =>
      exact UInt32.pos_iff_ne_zero.mp (rollable.keep_pos _ keeps rfl) rfl
  · intro unopposed
    refine ⟨?_, ?_, ?_, ?_, ?_, ?_⟩
    · exact UInt32.pos_iff_ne_zero.mpr fun zero => unopposed _ (.nonPositive (.inl zero))
    · exact UInt32.pos_iff_ne_zero.mpr fun zero => unopposed _ (.nonPositive (.inr zero))
    · exact UInt32.not_lt.mp fun many => unopposed _ (.tooManyDice many)
    · rintro ⟨_, extreme, amount⟩ there rfl
      exact UInt32.not_le.mp fun all => unopposed _ (.dropAll there all)
    · rintro ⟨_, extreme, amount⟩ there rfl
      apply UInt32.pos_iff_ne_zero.mpr
      rintro rfl
      exact unopposed _ (.keepZero extreme there)
    · rintro ⟨_, extreme, amount⟩ there rfl
      exact UInt32.not_lt.mp fun many => unopposed _ (.keepTooMany there many)

/-- The objection that is found stands, and none of a lower rank does. -/
theorem opposed_of_objection? {objection : Objection}
    (found : formula.objection? limits = some objection) :
    formula.Opposed limits objection ∧
      ∀ other, formula.Opposed limits other → objection.rank ≤ other.rank := by
  by_cases zero : formula.quantity = 0 ∨ formula.sides = 0
  · rw [objection?, if_pos zero] at found
    cases found
    exact ⟨.nonPositive zero, fun other _ => Nat.zero_le _⟩
  by_cases many : limits.maxDice < formula.quantity
  · rw [objection?, if_neg zero, if_pos many] at found
    cases found
    refine ⟨.tooManyDice many, fun other stands => ?_⟩
    cases stands with
    | nonPositive nonPositive => exact absurd nonPositive zero
    | tooManyDice | dropAll | keepTooMany | keepZero => simp [Objection.rank]
  rw [objection?, if_neg zero, if_neg many] at found
  obtain ⟨⟨choice, extreme, amount⟩, there, found⟩ := Option.bind_eq_some_iff.mp found
  cases choice with
  | drop =>
    simp only [selectionObjection?, Option.ite_none_right_eq_some] at found
    obtain ⟨all, same⟩ := found
    cases same
    refine ⟨.dropAll there all, fun other stands => ?_⟩
    cases stands with
    | nonPositive nonPositive => exact absurd nonPositive zero
    | tooManyDice tooMany => exact absurd tooMany many
    | dropAll | keepTooMany | keepZero => simp [Objection.rank]
  | keep =>
    -- A formula that keeps none may not keep too many as well: zero is below every quantity.
    by_cases above : formula.quantity < amount
    · simp only [selectionObjection?, above, ↓reduceIte, Option.some.injEq] at found
      cases found
      refine ⟨.keepTooMany there above, fun other stands => ?_⟩
      cases stands with
      | nonPositive nonPositive => exact absurd nonPositive zero
      | tooManyDice tooMany => exact absurd tooMany many
      | dropAll drops => cases there.symm.trans drops
      | keepTooMany | keepZero => simp [Objection.rank]
    · simp only [selectionObjection?, above, ↓reduceIte, Option.ite_none_right_eq_some] at found
      obtain ⟨rfl, same⟩ := found
      cases same
      refine ⟨.keepZero extreme there, fun other stands => ?_⟩
      cases stands with
      | nonPositive nonPositive => exact absurd nonPositive zero
      | tooManyDice tooMany => exact absurd tooMany many
      | dropAll drops => cases there.symm.trans drops
      | keepTooMany keeps above' =>
        cases there.symm.trans keeps
        exact absurd above' above
      | keepZero => exact Nat.le_refl _

/-- Where some objection stands, one is found. -/
theorem objection?_ne_none_of_opposed {objection : Objection}
    (stands : formula.Opposed limits objection) : formula.objection? limits ≠ none := by
  by_cases zero : formula.quantity = 0 ∨ formula.sides = 0
  · simp only [objection?, zero, ↓reduceIte, ne_eq, reduceCtorEq, not_false_eq_true]
  by_cases many : limits.maxDice < formula.quantity
  · simp only [objection?, zero, many, ↓reduceIte, ne_eq, reduceCtorEq, not_false_eq_true]
  rw [objection?, if_neg zero, if_neg many]
  cases stands with
  | nonPositive nonPositive => exact absurd nonPositive zero
  | tooManyDice tooMany => exact absurd tooMany many
  | dropAll drops all => simp [drops, selectionObjection?, all]
  | keepTooMany keeps above => simp [keeps, selectionObjection?, above]
  | keepZero extreme keeps => simp [keeps, selectionObjection?]

/-- No objection is found exactly if the formula can be rolled within the limits. -/
theorem objection?_eq_none_iff :
    formula.objection? limits = none ↔ formula.Rollable limits := by
  rw [rollable_iff_unopposed]
  constructor
  · intro clear objection stands
    exact objection?_ne_none_of_opposed stands clear
  · intro unopposed
    rw [Option.eq_none_iff_forall_ne_some]
    intro objection found
    exact unopposed objection (opposed_of_objection? found).1

/-- What is read as a formula can be rolled within the limits. -/
theorem rollable_of_parse {text : String} (accepted : parse limits text = .ok formula) :
    formula.Rollable limits := by
  cases parse_eq_iff_reading.mp accepted with
  | rollable split clear => exact objection?_eq_none_iff.mp clear

/-- **The accepted texts.** A text is read as a formula exactly if it can be written in the grammar
and the formula that is meant is rollable. Nothing is written in two ways, and zeros in front of a
numeral do not change what it means. -/
theorem parse_eq_ok_iff_written (limits : Limits) (text : String) :
    (∀ formula, parse limits text = .ok formula ↔
      ∃ written : WrittenFormula, text.toList = written.chars ∧
        (written.meaning limits.explosions).Rollable limits ∧
        written.meaning limits.explosions = formula) ∧
    Function.Injective WrittenFormula.chars ∧
    ∀ (zeros : Nat) (numeral padded : Numeral),
      padded.chars = List.replicate zeros '0' ++ numeral.chars → padded.word = numeral.word := by
  refine ⟨fun formula => ⟨fun accepted => ?_, ?_⟩, WrittenFormula.chars_injective,
    fun zeros numeral padded split => Numeral.word_of_zeros split⟩
  · cases parse_eq_iff_reading.mp accepted with
    | rollable split clear => exact ⟨_, split, objection?_eq_none_iff.mp clear, rfl⟩
  · rintro ⟨written, split, rollable, rfl⟩
    exact (Reading.rollable split (objection?_eq_none_iff.mpr rollable)).parse_eq

end Formula

/-- A clause of a text stands in it, and no character of a trigger follows it there. -/
def Delimits (text clause : List Char) : Prop :=
  ∃ before after, text = before ++ clause ++ after ∧ Stops isTriggerChar after

/-- The reroll of an outline stands in its text and cannot go on. -/
theorem Outline.delimits_reroll {outline : Outline} {span : RerollSpan}
    (there : outline.reroll = some span) : Delimits outline.chars span.chars := by
  refine ⟨outline.quantity.chars ++ outline.letter.write 'd' :: outline.sides.chars, _, ?_,
    outline.starts_explosion.stops (by decide)⟩
  simp only [chars, there, Option.elim_some, List.append_assoc, List.cons_append]

/-- The explosion of an outline stands in its text and cannot go on. -/
theorem Outline.delimits_explosion {outline : Outline} {span : ExplosionSpan}
    (there : outline.explosion = some span) : Delimits outline.chars span.chars := by
  refine ⟨outline.quantity.chars ++ outline.letter.write 'd' :: outline.sides.chars ++
    outline.reroll.elim [] (·.chars), _, ?_, outline.starts_selection.stops (by decide)⟩
  simp only [chars, there, Option.elim_some, List.append_assoc, List.cons_append]

namespace Fault

/-- The place of a fault in the order in which they are reported. -/
def rank : Fault → Nat
  | malformed .formula _ => 0
  | malformed .reroll _ => 1
  | malformed .explosion _ => 2
  | malformed .condition _ => 3
  | unrollable objection => 4 + objection.rank

/-- What may be said against a text as a formula within the limits, each fault on its own. -/
inductive Applies (limits : Limits) (text : String) : Fault → Prop where
  | undelimited (strange : ∀ outline : Outline, text.toList ≠ outline.chars) :
      Applies limits text (.malformed .formula text)
  | badReroll {outline : Outline} {span : RerollSpan} (delimited : text.toList = outline.chars)
      (there : outline.reroll = some span) (longest : Delimits text.toList span.chars)
      (unwritten : ∀ written : WrittenReroll, span.chars ≠ written.chars) :
      Applies limits text (.malformed .reroll (String.ofList span.chars))
  | badExplosion {outline : Outline} {span : ExplosionSpan}
      (delimited : text.toList = outline.chars) (there : outline.explosion = some span)
      (longest : Delimits text.toList span.chars)
      (unwritten : ∀ written : WrittenExplosion, span.chars ≠ written.chars) :
      Applies limits text (.malformed .explosion (String.ofList span.chars))
  | unrollable {outline : Outline} {objection : Objection}
      (delimited : text.toList = outline.chars)
      (stands : objection.Stands limits outline.quantity.word outline.sides.word
        (outline.selection.map (·.meaning))) :
      Applies limits text (.unrollable objection)

variable {limits : Limits} {text : String}

/-- The fault that is found is one that applies. -/
theorem applies_of_parse {fault : Fault} (rejected : Formula.parse limits text = .error fault) :
    fault.Applies limits text := by
  cases Formula.parse_eq_iff_reading.mp rejected with
  | undelimited strange => exact .undelimited strange
  | badReroll delimited there unwritten =>
    have longest := Outline.delimits_reroll there
    exact .badReroll delimited there (delimited ▸ longest) unwritten
  | badExplosion delimited rerollWritten there unwritten =>
    have longest := Outline.delimits_explosion there
    exact .badExplosion delimited there (delimited ▸ longest) unwritten
  | unrollable split stands =>
    exact .unrollable (split.trans (WrittenFormula.outline_chars _).symm)
      (Formula.opposed_of_objection? stands).1

/-- Nothing can be said against the pieces of a written formula, and against rolling it just what
stands against what it means. -/
theorem opposed_of_written {fault : Fault} {written : WrittenFormula}
    (split : text.toList = written.chars) (applies : fault.Applies limits text) :
    ∃ objection, fault = .unrollable objection ∧
      (written.meaning limits.explosions).Opposed limits objection := by
  have known {outline : Outline} (delimited : text.toList = outline.chars) :
      outline = written.outline :=
    Outline.chars_injective (delimited.symm.trans (split.trans written.outline_chars.symm))
  cases applies with
  | undelimited strange => exact absurd (split.trans written.outline_chars.symm) (strange _)
  | badReroll delimited there _ unwritten =>
    obtain rfl := known delimited
    obtain ⟨reroll, -, rfl⟩ := Option.map_eq_some_iff.mp there
    exact absurd reroll.span_chars (unwritten reroll)
  | badExplosion delimited there _ unwritten =>
    obtain rfl := known delimited
    obtain ⟨explosion, -, rfl⟩ := Option.map_eq_some_iff.mp there
    exact absurd explosion.span_chars (unwritten explosion)
  | @unrollable outline objection delimited stands =>
    obtain rfl := known delimited
    exact ⟨objection, rfl, stands⟩

/-- No fault that applies has a lower rank than the one that is found. -/
theorem rank_le_of_parse {fault other : Fault}
    (rejected : Formula.parse limits text = .error fault) (applies : other.Applies limits text) :
    fault.rank ≤ other.rank := by
  cases Formula.parse_eq_iff_reading.mp rejected with
  | undelimited strange => exact Nat.zero_le _
  | badReroll delimited there unwritten =>
    cases applies with
    | undelimited strange => exact absurd delimited (strange _)
    | badReroll | badExplosion | unrollable =>
      simp only [rank]
      omega
  | @badExplosion outline span delimited rerollWritten there unwritten =>
    cases applies with
    | undelimited strange => exact absurd delimited (strange _)
    | badReroll delimited' there' _ unwritten' =>
      -- A text has one outline, and its reroll was found to be well written.
      obtain rfl := Outline.chars_injective (delimited.symm.trans delimited')
      obtain ⟨written, same⟩ := rerollWritten _ there'
      exact absurd same (unwritten' written)
    | badExplosion | unrollable =>
      simp only [rank]
      omega
  | unrollable split stands =>
    obtain ⟨objection, rfl, opposed⟩ := opposed_of_written split applies
    have lowest := (Formula.opposed_of_objection? stands).2 objection opposed
    simp only [rank]
    omega

/-- Of the faults that apply to a text no two have the same rank. -/
theorem eq_of_rank_eq {first second : Fault} (applies : first.Applies limits text)
    (applies' : second.Applies limits text) (same : first.rank = second.rank) :
    first = second := by
  cases applies with
  | undelimited strange =>
    cases applies' with
    | undelimited => rfl
    | badReroll | badExplosion | unrollable =>
      simp only [rank] at same
      omega
  | badReroll delimited there =>
    cases applies' with
    | badReroll delimited' there' =>
      obtain rfl := Outline.chars_injective (delimited.symm.trans delimited')
      obtain rfl := Option.some.inj (there.symm.trans there')
      rfl
    | undelimited | badExplosion | unrollable =>
      simp only [rank] at same
      omega
  | badExplosion delimited there =>
    cases applies' with
    | badExplosion delimited' there' =>
      obtain rfl := Outline.chars_injective (delimited.symm.trans delimited')
      obtain rfl := Option.some.inj (there.symm.trans there')
      rfl
    | undelimited | badReroll | unrollable =>
      simp only [rank] at same
      omega
  | unrollable delimited stands =>
    cases applies' with
    | unrollable delimited' stands' =>
      obtain rfl := Outline.chars_injective (delimited.symm.trans delimited')
      have ranks := Nat.add_left_cancel same
      rw [stands.eq_of_rank_eq stands' ranks]
    | undelimited | badReroll | badExplosion =>
      simp only [rank] at same
      omega

/-- **The reported fault.** Of all that may be said against a text as a formula, the fault of the
lowest rank is reported, and a text against which nothing may be said is accepted. -/
theorem parse_eq_error_iff_lowest (limits : Limits) (text : String) :
    (∀ fault, Formula.parse limits text = .error fault ↔
      Applies limits text fault ∧
        ∀ other, Applies limits text other → fault.rank ≤ other.rank) ∧
    ((∃ formula, Formula.parse limits text = .ok formula) ↔
      ∀ fault, ¬ Applies limits text fault) := by
  have accepted {formula : Formula} {fault : Fault}
      (read : Formula.parse limits text = .ok formula) : ¬ Applies limits text fault := by
    intro applies
    cases Formula.parse_eq_iff_reading.mp read with
    | rollable split clear =>
      obtain ⟨objection, -, opposed⟩ := opposed_of_written split applies
      exact Formula.objection?_ne_none_of_opposed opposed clear
  constructor
  · intro fault
    constructor
    · intro rejected
      exact ⟨applies_of_parse rejected, fun other => rank_le_of_parse rejected⟩
    · rintro ⟨applies, lowest⟩
      cases read : Formula.parse limits text with
      | ok formula => exact absurd applies (accepted read)
      | error reported =>
        have above := rank_le_of_parse read applies
        have below := lowest reported (applies_of_parse read)
        rw [eq_of_rank_eq applies (applies_of_parse read) (Nat.le_antisymm below above)]
  · constructor
    · rintro ⟨formula, read⟩ fault
      exact accepted read
    · intro clear
      cases read : Formula.parse limits text with
      | ok formula => exact ⟨formula, rfl⟩
      | error fault => exact absurd (applies_of_parse read) (clear fault)

-- Both clauses are bad and there are no dice, but the reroll has the lowest rank.
example : Formula.parse {} "0d6R<2l!l" = .error (.malformed .reroll "R<2l") := rfl

end Fault
end TabletopDice
