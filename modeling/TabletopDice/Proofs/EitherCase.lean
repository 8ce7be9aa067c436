import TabletopDice.Proofs.CaseBlind
import TabletopDice.Proofs.Reading

/-!
# Formulas in either case

The letters of a formula may each be written small or capital. Two texts that are the same but for
the case of their letters have outlines of the same pieces, so they come to the same formula, or to
the same objection, or to faults that show the same piece of each text.
-/

namespace TabletopDice

open Reader (Alike)

/-- What is made alike of related values is the same. -/
theorem map_eq_of_rel {α β : Type} {f : α → β} {found found' : Option α}
    (same : Option.Rel (fun value value' => f value = f value') found found') :
    found.map f = found'.map f := by
  cases same with
  | none => rfl
  | some same => exact congrArg some same

/-- The limits that are read in two texts have the same numeral. -/
theorem WrittenLimit.reader_alike :
    Alike (fun limit limit' => limit.numeral = limit'.numeral) reader reader := by
  refine (LetterCase.reader_alike (by decide)).bind fun letter letter' _ => ?_
  exact Numeral.reader_alike.bind fun numeral numeral' same => .pure same

/-- Two written triggers that differ in the case of the limit's letter only. -/
structure WrittenTrigger.Alike (written written' : WrittenTrigger) : Prop where
  comparator_eq : written.comparator = written'.comparator
  target_eq : written.target = written'.target
  limit_eq : written.limit.map (·.numeral) = written'.limit.map (·.numeral)

/-- The triggers that are read in two texts differ in the case of the limit at most. -/
theorem WrittenTrigger.reader_alike : Reader.Alike WrittenTrigger.Alike reader reader := by
  refine Comparator.reader_alike.optional_eq.bind fun comparator comparator' comparators => ?_
  refine Numeral.reader_alike.optional_eq.bind fun target target' targets => ?_
  refine WrittenLimit.reader_alike.optional_rel.bind fun limit limit' limits => ?_
  exact .pure ⟨comparators, targets, map_eq_of_rel limits⟩

namespace WrittenTrigger.Alike

variable {written written' : WrittenTrigger}

theorem comparison_eq (alike : written.Alike written') (target : UInt32) :
    written.comparison target = written'.comparison target := by
  rw [comparison, alike.comparator_eq, comparison]

theorem limitD_eq (alike : written.Alike written') (limit : UInt32) :
    written.limitD limit = written'.limitD limit := by
  have through (written : WrittenTrigger) :
      written.limitD limit = (written.limit.map (·.numeral)).elim limit (·.amount) := by
    rw [Option.elim_map]
    rfl
  rw [through, alike.limit_eq, through]

theorem reroll?_eq (alike : written.Alike written') (quantity : UInt32) :
    written.reroll? quantity = written'.reroll? quantity := by
  simp only [reroll?, alike.target_eq, alike.comparison_eq, alike.limitD_eq]

theorem explosion_eq (alike : written.Alike written') (sides explosions : UInt32) :
    written.explosion sides explosions = written'.explosion sides explosions := by
  simp only [explosion, alike.target_eq, alike.comparison_eq, alike.limitD_eq]

end WrittenTrigger.Alike

/-- Two faults of the same kind; the texts that they show are the same but for case. -/
inductive Fault.Alike : Fault → Fault → Prop
  | malformed (phrase : Phrase) {text text' : String}
      (same : SameButCase text.toList text'.toList) :
      Alike (.malformed phrase text) (.malformed phrase text')
  | unrollable (objection : Objection) : Alike (.unrollable objection) (.unrollable objection)

/-- The same value, or faults that are alike. -/
inductive SameVerdict {α : Type} : Except Fault α → Except Fault α → Prop
  | ok (value : α) : SameVerdict (.ok value) (.ok value)
  | error {fault fault' : Fault} (alike : fault.Alike fault') :
      SameVerdict (.error fault) (.error fault')

namespace SameVerdict

variable {α β : Type}

/-- Two verdicts go on to the same verdict if their values do. -/
theorem bind {verdict verdict' : Except Fault α} {next next' : α → Except Fault β}
    (same : SameVerdict verdict verdict')
    (onward : ∀ value, SameVerdict (next value) (next' value)) :
    SameVerdict (verdict >>= next) (verdict' >>= next') := by
  cases same with
  | ok value => exact onward value
  | error alike => exact .error alike

/-- Related clauses that come to the same verdict do so where they may be left out. -/
theorem mapM {σ : Type} {related : σ → σ → Prop} {found found' : Option σ} {f : σ → Except Fault α}
    (same : Option.Rel related found found')
    (onward : ∀ value value', related value value' → SameVerdict (f value) (f value')) :
    SameVerdict (found.mapM f) (found'.mapM f) := by
  cases same with
  | none => exact .ok none
  | some same =>
    rw [Option.mapM_some, Option.mapM_some]
    exact (onward _ _ same).bind fun value => .ok (some value)

variable {verdict verdict' : Except Fault α}

theorem eq_ok_iff (same : SameVerdict verdict verdict') (value : α) :
    verdict = .ok value ↔ verdict' = .ok value := by
  cases same with
  | ok => exact Iff.rfl
  | error => simp only [reduceCtorEq]

/-- One verdict is an objection exactly if the other is that objection. -/
theorem eq_unrollable_iff (same : SameVerdict verdict verdict') (objection : Objection) :
    verdict = .error (.unrollable objection) ↔ verdict' = .error (.unrollable objection) := by
  cases same with
  | ok => simp only [reduceCtorEq]
  | error alike =>
    cases alike with
    | malformed => simp only [Except.error.injEq, reduceCtorEq]
    | unrollable => exact Iff.rfl

theorem symm (same : SameVerdict verdict verdict') : SameVerdict verdict' verdict := by
  cases same with
  | ok value => exact .ok value
  | error alike =>
    cases alike with
    | malformed phrase texts => exact .error (.malformed phrase texts.symm)
    | unrollable objection => exact .error (.unrollable objection)

/-- If one text is malformed so is the other, in the same phrase, and it is shown in its own
case. -/
theorem eq_malformed {phrase : Phrase} {text : String} (same : SameVerdict verdict verdict')
    (malformed : verdict = .error (.malformed phrase text)) :
    ∃ text' : String, verdict' = .error (.malformed phrase text') ∧
      SameButCase text.toList text'.toList := by
  subst malformed
  cases same with
  | error alike =>
    cases alike with
    | malformed _ texts => exact ⟨_, rfl, texts⟩

end SameVerdict

namespace Trigger

variable {text text' : String}

/-- A reroll comes to the same verdict in either case. -/
theorem parseReroll_alike (quantity : UInt32) (same : SameButCase text.toList text'.toList) :
    SameVerdict (parseReroll quantity text) (parseReroll quantity text') := by
  have alike : Reader.Alike WrittenTrigger.Alike rerollReader rerollReader :=
    (LetterCase.reader_alike rfl).bind fun _ _ _ => WrittenTrigger.reader_alike
  unfold parseReroll
  match rerollReader.whole? text.toList, rerollReader.whole? text'.toList, alike.whole? same with
  | _, _, .none => exact .error (.malformed .reroll same)
  | some written, some written', .some alike =>
    rw [Option.bind_some, Option.bind_some, alike.reroll?_eq]
    cases written'.reroll? quantity with
    | none => exact .error (.malformed .reroll same)
    | some trigger => exact .ok trigger

/-- An explosion comes to the same verdict in either case. -/
theorem parseExplosion_alike (sides explosions : UInt32)
    (same : SameButCase text.toList text'.toList) :
    SameVerdict (parseExplosion sides explosions text) (parseExplosion sides explosions text') := by
  have alike : Reader.Alike WrittenTrigger.Alike explosionReader explosionReader :=
    (Reader.character_alike rfl).bind fun _ _ _ => WrittenTrigger.reader_alike
  unfold parseExplosion
  match explosionReader.whole? text.toList, explosionReader.whole? text'.toList,
    alike.whole? same with
  | _, _, .none => exact .error (.malformed .explosion same)
  | _, _, .some alike =>
    simp only [alike.explosion_eq]
    exact .ok _

end Trigger

/-- The selections that are read in two texts mean the same. -/
theorem WrittenSelection.reader_alike :
    Alike (fun written written' => written.selection = written'.selection) reader reader := by
  refine (LetterCase.either_alike ?_).bind ?_
  · rintro ⟨⟩ <;> rfl
  rintro ⟨choice, choiceCase⟩ ⟨_, choiceCase'⟩ rfl
  refine (LetterCase.either_alike ?_).bind ?_
  · rintro ⟨⟩ <;> rfl
  rintro ⟨extreme, extremeCase⟩ ⟨_, extremeCase'⟩ rfl
  refine Numeral.reader_alike.bind ?_
  rintro numeral _ rfl
  exact .pure rfl

/-- The rerolls that are read in two texts are the same but for case. -/
theorem RerollSpan.reader_alike :
    Alike (fun span span' => SameButCase span.chars span'.chars) reader reader := by
  refine (LetterCase.reader_alike rfl).bind fun letter letter' _ => ?_
  refine (Run.reader_alike isTriggerChar_toLower).bind fun body body' bodies => ?_
  refine .pure (.cons ?_ bodies)
  rw [LetterCase.toLower_write, LetterCase.toLower_write]

/-- The explosions that are read in two texts are the same but for case. -/
theorem ExplosionSpan.reader_alike :
    Alike (fun span span' => SameButCase span.chars span'.chars) reader reader := by
  refine (Reader.character_alike rfl).bind fun _ _ _ => ?_
  exact (Run.reader_alike isTriggerChar_toLower).bind fun body body' bodies =>
    .pure (.cons rfl bodies)

/-- Two outlines of the same pieces, the triggers of which differ in case at most. -/
structure Outline.Alike (outline outline' : Outline) : Prop where
  quantity_eq : outline.quantity = outline'.quantity
  sides_eq : outline.sides = outline'.sides
  reroll : Option.Rel (fun span span' => SameButCase span.chars span'.chars) outline.reroll
    outline'.reroll
  explosion : Option.Rel (fun span span' => SameButCase span.chars span'.chars) outline.explosion
    outline'.explosion
  selection_eq : outline.selection.map (·.selection) = outline'.selection.map (·.selection)
  modifier_eq : outline.modifier = outline'.modifier

/-- The outlines that are read in two texts have the same pieces but for case. -/
theorem Outline.reader_alike : Reader.Alike Outline.Alike reader reader := by
  refine Numeral.reader_alike.bind fun quantity quantity' quantities => ?_
  refine (LetterCase.reader_alike rfl).bind fun letter letter' _ => ?_
  refine Numeral.reader_alike.bind fun sides sides' sides_eq => ?_
  refine RerollSpan.reader_alike.optional_rel.bind fun reroll reroll' rerolls => ?_
  refine ExplosionSpan.reader_alike.optional_rel.bind fun explosion explosion' explosions => ?_
  refine WrittenSelection.reader_alike.optional_rel.bind fun selection selection' selections => ?_
  refine WrittenModifier.reader_alike.optional_eq.bind fun modifier modifier' modifiers => ?_
  have blank : ∀ c : Char, c.toLower.isWhitespace = c.isWhitespace :=
    test_toLower_of_plain fun _ => isAlpha_eq_false_of_isWhitespace
  exact (Run.reader_alike blank).bind fun trailing trailing' _ =>
    .pure ⟨quantities, sides_eq, rerolls, explosions, map_eq_of_rel selections, modifiers⟩

/-- Outlines of the same pieces come to the same verdict. -/
theorem Outline.Alike.formula {outline outline' : Outline} (alike : outline.Alike outline')
    (explosions : UInt32) :
    SameVerdict (outline.formula explosions) (outline'.formula explosions) := by
  unfold Outline.formula
  rw [alike.quantity_eq, alike.sides_eq, alike.selection_eq, alike.modifier_eq]
  refine (SameVerdict.mapM alike.reroll fun span span' same => ?_).bind fun reroll => ?_
  · exact Trigger.parseReroll_alike _ (by simpa only [String.toList_ofList] using same)
  refine (SameVerdict.mapM alike.explosion fun span span' same => ?_).bind fun explosion => ?_
  · exact Trigger.parseExplosion_alike _ _ (by simpa only [String.toList_ofList] using same)
  exact .ok _

namespace Formula

variable {limits : Limits}

/-- Texts that are the same but for case are read in lockstep. -/
theorem parse_alike {text text' : String} (same : SameButCase text.toList text'.toList) :
    SameVerdict (parse limits text) (parse limits text') := by
  unfold parse Outline.read?
  match Outline.reader.whole? text.toList, Outline.reader.whole? text'.toList,
    Outline.reader_alike.whole? same with
  | _, _, .none => exact .error (.malformed .formula same)
  | _, _, .some alike =>
    refine (alike.formula limits.explosions).bind fun formula => ?_
    cases formula.objection? limits with
    | none => exact .ok formula
    | some objection => exact .error (.unrollable objection)

/-- No formula is malformed as a condition. -/
theorem ne_condition_of_parse {text clause : String} {phrase : Phrase}
    (malformed : parse limits text = .error (.malformed phrase clause)) : phrase ≠ .condition := by
  cases parse_eq_iff_reading.mp malformed <;> exact nofun

/-- **Either case.** Texts that are the same but for the case of their letters state the same
formula, or the same objection stands against both, or the same phrase is malformed in both, and the
pieces that are shown of it are the same but for case. -/
theorem parse_in_either_case (limits : Limits) (text text' : String)
    (same : SameButCase text.toList text'.toList) :
    (∀ formula, parse limits text = .ok formula ↔ parse limits text' = .ok formula) ∧
    (∀ objection, parse limits text = .error (.unrollable objection) ↔
      parse limits text' = .error (.unrollable objection)) ∧
    (∀ phrase clause, parse limits text = .error (.malformed phrase clause) →
      phrase ≠ .condition ∧ ∃ clause', parse limits text' = .error (.malformed phrase clause') ∧
        SameButCase clause.toList clause'.toList) ∧
    ∀ phrase clause', parse limits text' = .error (.malformed phrase clause') →
      phrase ≠ .condition ∧ ∃ clause, parse limits text = .error (.malformed phrase clause) ∧
        SameButCase clause'.toList clause.toList := by
  have verdicts : SameVerdict (parse limits text) (parse limits text') := parse_alike same
  refine ⟨verdicts.eq_ok_iff, verdicts.eq_unrollable_iff, fun phrase clause malformed => ?_,
    fun phrase clause' malformed => ?_⟩
  · exact ⟨ne_condition_of_parse malformed, verdicts.eq_malformed malformed⟩
  · exact ⟨ne_condition_of_parse malformed, verdicts.symm.eq_malformed malformed⟩

/-- A reroll without the number of its limit is malformed in either case, and it is shown in the
case in which it is written. -/
theorem parse_in_either_case_bare_limit :
    SameButCase "4d6R<2l!5".toList "4D6r<2L!5".toList ∧
      parse {} "4d6R<2l!5" = .error (.malformed .reroll "R<2l") ∧
      ∃ clause', parse {} "4D6r<2L!5" = .error (.malformed .reroll clause') ∧
        SameButCase "R<2l".toList clause'.toList := by
  have same : SameButCase "4d6R<2l!5".toList "4D6r<2L!5".toList := by
    unfold SameButCase
    decide
  have read : parse {} "4d6R<2l!5" = .error (.malformed .reroll "R<2l") := rfl
  have either := parse_in_either_case {} "4d6R<2l!5" "4D6r<2L!5" same
  exact ⟨same, read, (either.2.2.1 .reroll "R<2l" read).2⟩

end Formula
end TabletopDice
