import TabletopDice.Proofs.Conditions

/-!
# Triggers in short

Conditions, rerolls and explosions are written in one language. Behind the letter of a reroll or the
mark of an explosion a condition is a trigger of that kind, and a limit may stand behind it; a
reroll is never anything else. What an explosion may leave out besides is short for a target or a
limit that can be written out, and written out it means the same whatever it was short for
(`triggers_from_conditions`).
-/

namespace TabletopDice

/-- Neither a small nor a capital `l` stands in the text, so no limit is written in it. -/
def Unlimited (text : List Char) : Prop :=
  ∀ letter : LetterCase, letter.write 'l' ∉ text

/-- A text without a limit has none behind its first character. -/
theorem Unlimited.of_cons {c : Char} {text : List Char} (unlimited : Unlimited (c :: text)) :
    Unlimited text :=
  fun letter member => unlimited letter (List.mem_cons_of_mem c member)

/-- The limit as a text of its own. -/
def WrittenLimit.text (limit : WrittenLimit) : String :=
  String.ofList limit.chars

theorem WrittenLimit.toList_text (limit : WrittenLimit) : limit.text.toList = limit.chars :=
  String.toList_ofList

namespace WrittenTrigger

/-- There is a letter of a limit in the text of a trigger exactly if the trigger has a limit. -/
theorem unlimited_iff (written : WrittenTrigger) :
    Unlimited written.chars ↔ written.limit = none := by
  constructor
  · intro unlimited
    cases found : written.limit with
    | none => rfl
    | some limit =>
      refine absurd ?_ (unlimited limit.letter)
      rw [chars, found]
      exact List.mem_append_right _ List.mem_cons_self
  · intro absent letter member
    rw [chars, absent, Option.elim_none, List.append_nil] at member
    rcases List.mem_append.mp member with sign | digit
    · cases found : written.comparator with
      | none => simp only [found, Option.elim_none, List.not_mem_nil] at sign
      | some comparator =>
        rw [found] at sign
        cases comparator <;> cases letter <;> exact absurd sign (by decide)
    · cases found : written.target with
      | none => simp only [found, Option.elim_none, List.not_mem_nil] at digit
      | some numeral =>
        rw [found] at digit
        exact numeral.notMem_chars (by cases letter <;> rfl) digit

/-- The trigger with this target written out, behind an equals sign if there is no comparator. -/
def withTarget (written : WrittenTrigger) (target : UInt32) : WrittenTrigger where
  comparator := some (written.comparator.getD .equal)
  target := some (.ofNat target.toNat)
  limit := written.limit

/-- The trigger with this limit written out. -/
def withLimit (written : WrittenTrigger) (limit : UInt32) : WrittenTrigger :=
  { written with limit := some { letter := .upper, numeral := .ofNat limit.toNat } }

/-- Where no limit stands in a text behind its first character, one may be put at its end. -/
theorem append_withLimit {written : WrittenTrigger} {lead : Char} {text : String}
    (split : text.toList = lead :: written.chars) (unlimited : Unlimited text.toList)
    (limit : UInt32) :
    written.limit = none ∧
      (text ++ "L" ++ toString limit).toList = lead :: (written.withLimit limit).chars := by
  rw [split] at unlimited
  have absent := written.unlimited_iff.mp unlimited.of_cons
  have letter : "L".toList = ['L'] := rfl
  refine ⟨absent, ?_⟩
  rw [String.toList_append, String.toList_append, split, letter, Numeral.toList_toString, chars,
    chars, absent, Option.elim_none, List.append_nil, List.append_assoc]
  rfl

end WrittenTrigger

namespace WrittenReroll

/-- The reroll that a condition makes behind the letter, perhaps with a limit behind it. -/
def ofCondition (letter : LetterCase) (condition : WrittenCondition)
    (limit : Option WrittenLimit) : WrittenReroll where
  comparator := condition.comparator
  target := some condition.target
  limit
  letter
  has_target := rfl

/-- Every reroll is a condition with a letter before it, and maybe a limit behind. -/
theorem exists_ofCondition_eq (written : WrittenReroll) :
    ∃ condition, ofCondition written.letter condition written.limit = written := by
  obtain ⟨⟨comparator, target, limit⟩, letter, has_target⟩ := written
  obtain ⟨target, rfl⟩ := Option.isSome_iff_exists.mp has_target
  exact ⟨⟨comparator, target⟩, rfl⟩

/-- The reroll with this limit written behind it, instead of its own if it has one. -/
def withLimit (written : WrittenReroll) (limit : UInt32) : WrittenReroll where
  toWrittenTrigger := written.toWrittenTrigger.withLimit limit
  letter := written.letter
  has_target := written.has_target

/-- The limit that goes without saying may be written out, and then it is not a matter of how many
dice there are. -/
theorem meaning_withLimit {written : WrittenReroll} (absent : written.limit = none)
    (quantity other : UInt32) :
    (written.withLimit quantity).meaning other = written.meaning quantity := by
  simp only [meaning, withLimit, WrittenTrigger.withLimit, absent, Option.elim_some,
    Option.elim_none, Numeral.word_ofNat]

end WrittenReroll

namespace WrittenExplosion

/-- The explosion that a condition makes behind the mark, perhaps with a limit behind it. -/
def ofCondition (condition : WrittenCondition) (limit : Option WrittenLimit) :
    WrittenExplosion where
  comparator := condition.comparator
  target := some condition.target
  limit

/-- The target that goes without saying may be written out, and then it is not a matter of how many
sides the dice have. -/
theorem meaning_withTarget {written : WrittenExplosion} (absent : written.target = none)
    (sides other explosions : UInt32) :
    (WrittenExplosion.mk (written.withTarget sides)).meaning other explosions =
      written.meaning sides explosions := by
  simp only [meaning, WrittenTrigger.withTarget, absent, Option.getD_some, Option.elim_some,
    Option.elim_none, Numeral.word_ofNat]

/-- Writing out the limit in force does not change what an explosion means. -/
theorem meaning_withLimit {written : WrittenExplosion} (absent : written.limit = none)
    (sides explosions other : UInt32) :
    (WrittenExplosion.mk (written.withLimit explosions)).meaning sides other =
      written.meaning sides explosions := by
  simp only [meaning, WrittenTrigger.withLimit, absent, Option.elim_some, Option.elim_none,
    Numeral.word_ofNat]

end WrittenExplosion

/-- Behind a condition there is the letter of a limit exactly if there is a limit. -/
theorem WrittenCondition.unlimited_append_iff (written : WrittenCondition)
    {limit : Option WrittenLimit} :
    Unlimited (written.chars ++ limit.elim [] (·.chars)) ↔ limit = none :=
  (WrittenExplosion.ofCondition written limit).unlimited_iff

/-- There is no limit in a condition. -/
theorem WrittenCondition.unlimited_chars (written : WrittenCondition) :
    Unlimited written.chars := by
  have alone : Unlimited (written.chars ++ (none : Option WrittenLimit).elim [] (·.chars)) :=
    written.unlimited_append_iff.mpr rfl
  rwa [Option.elim_none, List.append_nil] at alone

/-- A condition without white space around it is written in the grammar as it stands. -/
theorem Comparison.parse_eq_ok_iff_of_solid {condition : String} {comparison : Comparison}
    (solid : Text.Solid condition.toList) : parse condition = .ok comparison ↔
      ∃ written : WrittenCondition,
        condition.toList = written.chars ∧ written.meaning = comparison := by
  rw [parse_eq_ok_iff, Text.trim_eq_self solid]

namespace Trigger

/-- The text with the letter of a reroll before it. -/
def rerollText (letter : LetterCase) (trigger : String) : String :=
  String.ofList [letter.write 'r'] ++ trigger

theorem toList_rerollText (letter : LetterCase) (trigger : String) :
    (rerollText letter trigger).toList = letter.write 'r' :: trigger.toList := by
  rw [rerollText, String.toList_append, String.toList_ofList, List.singleton_append]

variable {quantity sides explosions : UInt32} {text : String} {trigger : Trigger}

/-- A reroll is a condition behind the letter, perhaps with a limit behind it. -/
theorem parseReroll_eq_ok_iff_condition : parseReroll quantity text = .ok trigger ↔
    ∃ (letter : LetterCase) (condition : WrittenCondition) (limit : Option WrittenLimit),
      text.toList = letter.write 'r' :: (condition.chars ++ limit.elim [] (·.chars)) ∧
        trigger = { on := condition.meaning, limit := limit.elim quantity (·.numeral.word) } := by
  rw [parseReroll_eq_ok_iff]
  constructor
  · intro ⟨written, split, meant⟩
    obtain ⟨condition, same⟩ := written.exists_ofCondition_eq
    rw [← same] at split meant
    exact ⟨written.letter, condition, written.limit, split, meant.symm⟩
  · intro ⟨letter, condition, limit, split, meant⟩
    exact ⟨.ofCondition letter condition limit, split, meant.symm⟩

/-- A letter and a condition make a reroll with that condition, limited as it is written or by the
number of dice. -/
theorem parseReroll_of_condition (letter : LetterCase) {condition : WrittenCondition}
    (limit : Option WrittenLimit)
    (split : text.toList = letter.write 'r' :: (condition.chars ++ limit.elim [] (·.chars))) :
    parseReroll quantity text =
      .ok { on := condition.meaning, limit := limit.elim quantity (·.numeral.word) } :=
  parseReroll_eq_ok_iff_condition.mpr ⟨letter, condition, limit, split, rfl⟩

/-- A sign and a condition make an explosion with that condition, limited as it is written or by the
limits in force. -/
theorem parseExplosion_of_condition {condition : WrittenCondition} (limit : Option WrittenLimit)
    (split : text.toList = '!' :: (condition.chars ++ limit.elim [] (·.chars))) :
    parseExplosion sides explosions text =
      .ok { on := condition.meaning, limit := limit.elim explosions (·.numeral.word) } :=
  parseExplosion_eq_ok_iff.mpr ⟨.ofCondition condition limit, split, rfl⟩

/-- What a reroll has behind its letter is a condition, apart from its limit. -/
theorem exists_condition_of_parseReroll (accepted : parseReroll quantity text = .ok trigger) :
    ∃ letter condition, Text.Solid condition.toList ∧
      Comparison.parse condition = .ok trigger.on ∧
      ((text = rerollText letter condition ∧ trigger.limit = quantity) ∨
        ∃ limit : WrittenLimit, text = rerollText letter condition ++ limit.text ∧
          trigger.limit = limit.numeral.word) := by
  obtain ⟨letter, written, limit, split, rfl⟩ := parseReroll_eq_ok_iff_condition.mp accepted
  have solid : Text.Solid (String.ofList written.chars).toList := by
    rw [String.toList_ofList]
    exact Text.solid_of_forall written.isSpace_of_mem_chars
  have stated : Comparison.parse (String.ofList written.chars) = .ok written.meaning :=
    (Comparison.parse_eq_ok_iff_of_solid solid).mpr ⟨written, String.toList_ofList, rfl⟩
  refine ⟨letter, _, solid, stated, ?_⟩
  cases limit with
  | none =>
    refine .inl ⟨String.toList_inj.mp ?_, rfl⟩
    rw [split, toList_rerollText, String.toList_ofList, Option.elim_none, List.append_nil]
  | some limit =>
    refine .inr ⟨limit, String.toList_inj.mp ?_, rfl⟩
    rw [split, String.toList_append, toList_rerollText, String.toList_ofList, limit.toList_text,
      Option.elim_some, List.cons_append]

/-- A text is a condition exactly if it makes a reroll behind the letter and has no limit in it. -/
theorem parse_condition_eq_ok_iff {condition : String} {on : Comparison} {letter : LetterCase}
    (solid : Text.Solid condition.toList) : Comparison.parse condition = .ok on ↔
      (∃ limit, parseReroll quantity (rerollText letter condition) = .ok { on, limit }) ∧
        Unlimited condition.toList := by
  rw [Comparison.parse_eq_ok_iff_of_solid solid]
  simp only [parseReroll_eq_ok_iff_condition, toList_rerollText]
  constructor
  · intro ⟨written, split, meant⟩
    refine ⟨⟨quantity, letter, written, none, ?_, ?_⟩, split ▸ written.unlimited_chars⟩
    · rw [split, Option.elim_none, List.append_nil]
    · rw [meant, Option.elim_none]
  · intro ⟨⟨limit, letter', written, writtenLimit, split, meant⟩, unlimited⟩
    have behind := (List.cons.inj split).2
    rw [behind, written.unlimited_append_iff] at unlimited
    rw [unlimited, Option.elim_none, List.append_nil] at behind
    exact ⟨written, behind, (congrArg Trigger.on meant).symm⟩

/-- The limit of a reroll may be written out, whatever it is short for. -/
theorem parseReroll_append_limit (accepted : parseReroll quantity text = .ok trigger)
    (unlimited : Unlimited text.toList) (other : UInt32) :
    parseReroll other (text ++ "L" ++ toString quantity) = .ok trigger := by
  obtain ⟨written, split, rfl⟩ := parseReroll_eq_ok_iff.mp accepted
  obtain ⟨absent, spelled⟩ := WrittenTrigger.append_withLimit split unlimited quantity
  exact parseReroll_eq_ok_iff.mpr
    ⟨written.withLimit quantity, spelled, written.meaning_withLimit absent quantity other⟩

/-- Writing out the limit in force does not change what an explosion reads as. -/
theorem parseExplosion_append_limit (accepted : parseExplosion sides explosions text = .ok trigger)
    (unlimited : Unlimited text.toList) (other : UInt32) :
    parseExplosion sides other (text ++ "L" ++ toString explosions) = .ok trigger := by
  obtain ⟨written, split, rfl⟩ := parseExplosion_eq_ok_iff.mp accepted
  obtain ⟨absent, spelled⟩ := WrittenTrigger.append_withLimit split unlimited explosions
  exact parseExplosion_eq_ok_iff.mpr
    ⟨⟨written.withLimit explosions⟩, spelled, written.meaning_withLimit absent sides _ other⟩

/-- The target of an explosion may be written out, whatever it is short for. -/
theorem parseExplosion_withTarget {written : WrittenExplosion}
    (accepted : parseExplosion sides explosions text = .ok trigger)
    (split : text.toList = written.chars) (absent : written.target = none) (other : UInt32) :
    parseExplosion other explosions (String.ofList ('!' :: (written.withTarget sides).chars)) =
      .ok trigger := by
  have meant : parseExplosion sides explosions text = .ok (written.meaning sides explosions) :=
    parseExplosion_eq_ok_iff.mpr ⟨written, split, rfl⟩
  obtain rfl := Except.ok.inj (accepted.symm.trans meant)
  exact parseExplosion_eq_ok_iff.mpr ⟨⟨written.withTarget sides⟩, String.toList_ofList,
    written.meaning_withTarget absent sides other explosions⟩

/-- **Conditions, rerolls and explosions.** A text without white space around it is a condition
exactly if it makes a reroll behind the letter and no limit stands in it. Then it makes an explosion
behind the mark as well, and with a limit behind it both take that limit; and every reroll comes
from a condition in this way. Where no limit stands in a reroll or an explosion, or no target in an
explosion, what it is short for may be written out, and from then on it is no matter of the dice or
of the limits in force. -/
theorem triggers_from_conditions (quantity sides explosions : UInt32) :
    (∀ condition : String, Text.Solid condition.toList → ∀ (letter : LetterCase) (on : Comparison),
      (Comparison.parse condition = .ok on ↔
        (∃ limit, parseReroll quantity (rerollText letter condition) = .ok { on, limit }) ∧
          Unlimited condition.toList) ∧
      (Comparison.parse condition = .ok on →
        parseReroll quantity (rerollText letter condition) = .ok { on, limit := quantity } ∧
        parseExplosion sides explosions ("!" ++ condition) = .ok { on, limit := explosions } ∧
        ∀ limit : WrittenLimit,
          parseReroll quantity (rerollText letter condition ++ limit.text) =
            .ok { on, limit := limit.numeral.word } ∧
          parseExplosion sides explosions ("!" ++ condition ++ limit.text) =
            .ok { on, limit := limit.numeral.word })) ∧
    (∀ text trigger, parseReroll quantity text = .ok trigger →
      (∃ letter condition, Text.Solid condition.toList ∧
        Comparison.parse condition = .ok trigger.on ∧
        ((text = rerollText letter condition ∧ trigger.limit = quantity) ∨
          ∃ limit : WrittenLimit, text = rerollText letter condition ++ limit.text ∧
            trigger.limit = limit.numeral.word)) ∧
      (Unlimited text.toList → ∀ other,
        parseReroll other (text ++ "L" ++ toString quantity) = .ok trigger)) ∧
    ∀ text trigger, parseExplosion sides explosions text = .ok trigger →
      (∃ written : WrittenExplosion, text.toList = written.chars) ∧
      (∀ written : WrittenExplosion, text.toList = written.chars → written.target = none →
        ∀ other, parseExplosion other explosions
          (String.ofList ('!' :: (written.withTarget sides).chars)) = .ok trigger) ∧
      (Unlimited text.toList → ∀ other,
        parseExplosion sides other (text ++ "L" ++ toString explosions) = .ok trigger) := by
  refine ⟨fun condition solid letter on => ⟨parse_condition_eq_ok_iff solid, fun stated => ?_⟩,
    fun text trigger accepted => ⟨?_, parseReroll_append_limit accepted⟩,
    fun text trigger accepted => ⟨?_, fun written => parseExplosion_withTarget accepted,
      parseExplosion_append_limit accepted⟩⟩
  · obtain ⟨written, split, rfl⟩ := (Comparison.parse_eq_ok_iff_of_solid solid).mp stated
    have mark : "!".toList = ['!'] := rfl
    refine ⟨parseReroll_of_condition letter none ?_, parseExplosion_of_condition none ?_,
      fun limit => ⟨parseReroll_of_condition letter (some limit) ?_,
        parseExplosion_of_condition (some limit) ?_⟩⟩
    · rw [toList_rerollText, split, Option.elim_none, List.append_nil]
    · rw [String.toList_append, mark, split, Option.elim_none, List.append_nil,
        List.singleton_append]
    · rw [String.toList_append, toList_rerollText, limit.toList_text, split, Option.elim_some,
        List.cons_append]
    · rw [String.toList_append, String.toList_append, mark, limit.toList_text, split,
        Option.elim_some, List.append_assoc, List.singleton_append]
  · exact exists_condition_of_parseReroll accepted
  · obtain ⟨written, split, -⟩ := parseExplosion_eq_ok_iff.mp accepted
    exact ⟨written, split⟩

/-- A condition with one sign and one with two are good for rerolls and explosions alike. The zeros
before a limit do not matter, and the target of `!<` is the highest face. -/
theorem triggers_from_conditions_two_signs :
    let low : Comparison := { comparator := .atMost, target := 2 }
    let high : Comparison := { comparator := .less, target := 6 }
    Text.Solid "<=2".toList ∧ Comparison.parse "<=2" = .ok low ∧
      parseReroll 4 "R<=2" = .ok { on := low, limit := 4 } ∧
      parseReroll 4 "R<=2l007" = .ok { on := low, limit := 7 } ∧
      parseExplosion 6 100 "!<=2l007" = .ok { on := low, limit := 7 } ∧
      Unlimited "R<=2".toList ∧ parseReroll 9 "R<=2L4" = .ok { on := low, limit := 4 } ∧
      parseExplosion 6 100 "!<" = .ok { on := high, limit := 100 } ∧
      parseExplosion 20 100 "!<6" = .ok { on := high, limit := 100 } ∧
      Unlimited "!<".toList ∧ parseExplosion 6 3 "!<L100" = .ok { on := high, limit := 100 } := by
  intro low high
  obtain ⟨conditions, rerolls, explosions⟩ := triggers_from_conditions 4 6 100
  have solid : Text.Solid "<=2".toList := {
    first := by rintro _ ⟨⟩; rfl
    last := by rintro _ ⟨⟩; rfl }
  have stated : Comparison.parse "<=2" = .ok low := rfl
  obtain ⟨reroll, -, limited⟩ := (conditions "<=2" solid .upper low).2 stated
  let seven : Numeral := {
    chars := ['0', '0', '7']
    all := List.all_eq_true.mp rfl
    ne_nil := by decide }
  obtain ⟨rerollSeven, explosionSeven⟩ := limited { letter := .lower, numeral := seven }
  have unlimited : Unlimited "R<=2".toList := fun letter => by cases letter <;> decide
  let written : WrittenExplosion := { comparator := some .less, target := none, limit := none }
  have accepted : parseExplosion 6 100 "!<" = .ok { on := high, limit := 100 } := rfl
  have bare : Unlimited "!<".toList := fun letter => by cases letter <;> decide
  obtain ⟨-, targeted, spelled⟩ := explosions "!<" _ accepted
  exact ⟨solid, stated, reroll, rerollSeven, explosionSeven, unlimited,
    (rerolls "R<=2" _ reroll).2 unlimited 9, accepted, targeted written rfl rfl 20, bare,
    spelled bare 3⟩

end Trigger
end TabletopDice
