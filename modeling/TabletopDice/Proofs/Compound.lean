import TabletopDice.Cup

/-!
# Compound texts

A compound text is rolled part by part, and its parts up to the first bad one are all that is taken
from the source. Rolling two texts with a comma between them is rolling the one and then the other
from where the first one left the source.
-/

namespace TabletopDice

namespace Formula

/-- The parts of two texts with a comma between them are those of the one and then those of the
other. -/
theorem parts_append_comma (first second : String) :
    parts (first ++ "," ++ second) = parts first ++ parts second := by
  have comma : ",".toList = [','] := rfl
  have split : (first ++ "," ++ second).toList = first.toList ++ ',' :: second.toList := by
    simp only [String.toList_append, comma, List.append_assoc, List.singleton_append]
  simp only [parts, split, List.splitOn_append_cons_self, List.map_append]

/-- There is one piece more than there are commas. -/
theorem length_splitOn_comma (chars : List Char) :
    (chars.splitOn ',').length = chars.count ',' + 1 := by
  induction chars with
  | nil => rfl
  | cons c chars ih =>
    rw [List.splitOn_cons_eq_if_modifyHead, List.count_cons]
    by_cases comma : c = ','
    · subst comma
      simp only [BEq.rfl, ↓reduceIte, List.length_cons, ih]
    · simp only [beq_iff_eq, comma, ↓reduceIte, List.length_modifyHead, ih, Nat.add_zero]

/-- A text has one part more than it has commas. -/
theorem length_parts (text : String) : (parts text).length = text.toList.count ',' + 1 := by
  rw [parts, List.length_map, length_splitOn_comma]

end Formula

/-- A play goes on to the next one only if it comes to a value, from the state as it left it. -/
theorem Play.bind_eq {State α β : Type} (play : ExceptT Fault (StateM State) α)
    (next : α → ExceptT Fault (StateM State) β) (start : State) :
    (play >>= next) start =
      match play start with
      | (.error fault, left) => (.error fault, left)
      | (.ok value, left) => next value left := by
  change (ExceptT.bindCont next (play start).1 : ExceptT Fault (StateM State) β) (play start).2 = _
  rcases play start with ⟨_ | _, _⟩ <;> rfl

/-- One call after another. A fault of the first is the fault of both, with the state as the first
left it; else the second goes on from there, and its values come behind those of the first. -/
def inTurn {State α : Type} (first second : State → Except Fault (List α) × State)
    (start : State) : Except Fault (List α) × State :=
  match first start with
  | (.error fault, left) => (.error fault, left)
  | (.ok values, middle) =>
    match second middle with
    | (.error fault, left) => (.error fault, left)
    | (.ok more, left) => (.ok (values ++ more), left)

/-- For plays, one call after another is the sequence of both. -/
theorem inTurn_eq_bind {σ α : Type} (first second : Play σ (List α)) (cup : Cup σ) :
    inTurn first second cup =
      (do
        let values ← first
        let more ← second
        return values ++ more : Play σ (List α)) cup := by
  simp only [Play.bind_eq, inTurn]
  rcases first cup with ⟨fault | values, middle⟩
  · rfl
  · dsimp only
    rcases second middle with ⟨fault | more, left⟩ <;> rfl

/-- Where the limits stay as they are, one call after another may be watched at the source. -/
theorem inTurn_source {σ α : Type} {limits : Limits} (first second : Play σ (List α))
    (keeps : ∀ cup, (first cup).2.limits = cup.limits) (source : σ) :
    (inTurn first second { source, limits }).map id (·.source) =
      inTurn (fun source => (first { source, limits }).map id (·.source))
        (fun source => (second { source, limits }).map id (·.source)) source := by
  have kept := keeps { source, limits }
  simp only [inTurn]
  cases outcome : first { source, limits } with
  | mk result middle =>
    rw [outcome] at kept
    obtain ⟨middle, _⟩ := middle
    obtain rfl : _ = limits := kept
    cases result with
    | error fault => rfl
    | ok values =>
      dsimp only [Prod.map_apply, id_eq]
      rcases second { source := middle, limits := _ } with ⟨fault | more, left⟩ <;> rfl

namespace Cup

variable {σ : Type} [FaceSource σ]

/-- A text that is refused leaves the cup as it is. -/
theorem rollFormula_of_error {limits : Limits} {text : String} {fault : Fault}
    (rejected : Formula.parse limits text = .error fault) (source : σ) :
    rollFormula text { source, limits } = (.error fault, { source, limits }) := by
  unfold rollFormula
  simp only [rejected]

/-- A text that is read as a formula is rolled with the faces of the formula. -/
theorem rollFormula_of_ok {limits : Limits} {text : String} {formula : Formula}
    (accepted : Formula.parse limits text = .ok formula) (source : σ) :
    rollFormula text { source, limits } =
      (.ok (Roll.ofFaces text (formula.faces source).1 formula.modifier),
        { source := (formula.faces source).2, limits }) := by
  unfold rollFormula
  simp only [accepted]

/-- Rolls each of the texts, from left to right. -/
def rollAll (texts : List String) : Play σ (List Roll) :=
  texts.mapM rollFormula

/-- The first text is rolled, and then the others, unless there is a fault. -/
theorem rollAll_cons (text : String) (texts : List String) (cup : Cup σ) :
    rollAll (text :: texts) cup =
      match rollFormula text cup with
      | (.error fault, left) => (.error fault, left)
      | (.ok roll, middle) =>
        match rollAll texts middle with
        | (.error fault, left) => (.error fault, left)
        | (.ok rolls, left) => (.ok (roll :: rolls), left) := by
  simp only [rollAll, List.mapM_cons, Play.bind_eq]
  rcases rollFormula text cup with ⟨fault | roll, middle⟩
  · rfl
  · dsimp only
    rcases texts.mapM rollFormula middle with ⟨fault | rolls, left⟩ <;> rfl

theorem rollAll_append (first second : List String) (cup : Cup σ) :
    rollAll (first ++ second) cup = inTurn (rollAll first) (rollAll second) cup := by
  rw [inTurn_eq_bind, rollAll, List.mapM_append]
  rfl

/-- The texts are all formulas, and rolled in order they come to these rolls and take the one source
to the other. -/
inductive Rolls (limits : Limits) : List String → σ → List Roll → σ → Prop where
  | nil (source : σ) : Rolls limits [] source [] source
  | cons {text : String} {texts : List String} {formula : Formula} {source left : σ}
      {rolls : List Roll} (accepted : Formula.parse limits text = .ok formula)
      (rest : Rolls limits texts (formula.faces source).2 rolls left) :
      Rolls limits (text :: texts) source
        (Roll.ofFaces text (formula.faces source).1 formula.modifier :: rolls) left

namespace Rolls

variable {limits : Limits} {texts : List String} {source left : σ} {rolls : List Roll}

/-- There is one roll for each text. -/
theorem length_eq (rolled : Rolls limits texts source rolls left) :
    rolls.length = texts.length := by
  induction rolled with
  | nil => rfl
  | cons _ _ ih => rw [List.length_cons, List.length_cons, ih]

/-- Texts that are all formulas come to their rolls. -/
theorem rollAll_eq (rolled : Rolls limits texts source rolls left) :
    rollAll texts { source, limits } = (.ok rolls, { source := left, limits }) := by
  induction rolled with
  | nil => rfl
  | cons accepted _ ih =>
    rw [rollAll_cons, rollFormula_of_ok accepted]
    simp only [ih]

/-- The first text that is no formula ends the play, with the source as it is found there. -/
theorem rollAll_append_cons {bad : String} {fault : Fault}
    (rolled : Rolls limits texts source rolls left)
    (rejected : Formula.parse limits bad = .error fault) (after : List String) :
    (rollAll (texts ++ bad :: after) : Play σ (List Roll)) { source, limits } =
      (.error fault, { source := left, limits }) := by
  simp only [rollAll_append, inTurn, rolled.rollAll_eq, rollAll_cons,
    rollFormula_of_error rejected]

end Rolls

/-- Either all texts are rolled, or those before the first one that is no formula. -/
theorem rolls_or_rejected (limits : Limits) (texts : List String) (source : σ) :
    (∃ rolls left, Rolls limits texts source rolls left) ∨
      ∃ before bad after rolls left fault, texts = before ++ bad :: after ∧
        Rolls limits before source rolls left ∧ Formula.parse limits bad = .error fault := by
  induction texts generalizing source with
  | nil => exact .inl ⟨[], source, .nil source⟩
  | cons text texts ih =>
    cases read : Formula.parse limits text with
    | error fault => exact .inr ⟨[], text, texts, [], source, fault, rfl, .nil source, read⟩
    | ok formula =>
      rcases ih (formula.faces source).2 with ⟨rolls, left, rolled⟩ |
        ⟨before, bad, after, rolls, left, fault, rfl, rolled, rejected⟩
      · exact .inl ⟨_, left, .cons read rolled⟩
      · exact .inr ⟨text :: before, bad, after, _, left, fault, rfl, .cons read rolled, rejected⟩

variable {cup left : Cup σ} {text : String}

/-- A roll that succeeds has rolled all of its parts and left the limits as they are. -/
theorem roll_eq_ok {rolls : List Roll} (rolled : roll text cup = (.ok rolls, left)) :
    left.limits = cup.limits ∧
      Rolls cup.limits (Formula.parts text) cup.source rolls left.source := by
  obtain ⟨found, last, run⟩ | ⟨before, bad, after, found, last, fault, split, run, rejected⟩ :=
    rolls_or_rejected cup.limits (Formula.parts text) cup.source
  · cases rolled.symm.trans run.rollAll_eq
    exact ⟨rfl, run⟩
  · have failed := run.rollAll_append_cons rejected after
    rw [← split] at failed
    cases rolled.symm.trans failed

/-- A roll that fails has rolled the parts before the first bad one, and left the limits as they
are. -/
theorem roll_eq_error {fault : Fault} (failed : roll text cup = (.error fault, left)) :
    left.limits = cup.limits ∧ ∃ before bad after rolls,
      Formula.parts text = before ++ bad :: after ∧
        Rolls cup.limits before cup.source rolls left.source ∧
        Formula.parse cup.limits bad = .error fault := by
  obtain ⟨found, last, run⟩ | ⟨before, bad, after, found, last, reason, split, run, rejected⟩ :=
    rolls_or_rejected cup.limits (Formula.parts text) cup.source
  · cases failed.symm.trans run.rollAll_eq
  · have ended := run.rollAll_append_cons rejected after
    rw [← split] at ended
    cases failed.symm.trans ended
    exact ⟨rfl, before, bad, after, found, split, run, rejected⟩

/-- A roll leaves the limits as they are, whether it fails or not. -/
theorem limits_roll (text : String) (cup : Cup σ) : (roll text cup).2.limits = cup.limits := by
  cases outcome : roll text cup with
  | mk result left =>
    cases result with
    | error fault => exact (roll_eq_error outcome).1
    | ok rolls => exact (roll_eq_ok outcome).1

/-- A condition that is none is found before anything is rolled. -/
theorem tally_of_error {condition : String} {fault : Fault}
    (rejected : Comparison.parse condition = .error fault) (text : String) (cup : Cup σ) :
    tally text condition cup = (.error fault, cup) := by
  unfold tally
  rw [rejected]
  rfl

/-- A tally takes what the roll takes, and counts in each of its rolls. -/
theorem tally_of_ok {condition : String} {comparison : Comparison}
    (accepted : Comparison.parse condition = .ok comparison) (text : String) (cup : Cup σ) :
    tally text condition cup =
      (roll text cup).map (Except.map (List.map (·.tally comparison))) id := by
  unfold tally
  simp only [accepted, Play.bind_eq]
  rcases roll text cup with ⟨fault | rolls, left⟩ <;> rfl

/-- A tally fails because of its condition, with nothing taken, or as the roll does. -/
theorem tally_eq_error {condition : String} {fault : Fault}
    (failed : tally text condition cup = (.error fault, left)) :
    (Comparison.parse condition = .error fault ∧ left = cup) ∨
      roll text cup = (.error fault, left) := by
  cases read : Comparison.parse condition with
  | error reason =>
    rw [tally_of_error read] at failed
    cases failed
    exact .inl ⟨rfl, rfl⟩
  | ok comparison =>
    rw [tally_of_ok read] at failed
    cases outcome : roll text cup with
    | mk result last =>
      rw [outcome] at failed
      cases result with
      | error reason =>
        cases failed
        exact .inr rfl
      | ok rolls => cases failed

/-- Two texts with a comma between them are rolled in turn. -/
theorem roll_inTurn (first second : String) (cup : Cup σ) :
    roll (first ++ "," ++ second) cup = inTurn (roll first) (roll second) cup := by
  have whole : roll (first ++ "," ++ second) cup =
      rollAll (Formula.parts first ++ Formula.parts second) cup := by
    rw [← Formula.parts_append_comma]
    rfl
  exact whole.trans (rollAll_append _ _ cup)

/-- Two texts with a comma between them are tallied in turn. -/
theorem tally_inTurn (first second condition : String) (cup : Cup σ) :
    tally (first ++ "," ++ second) condition cup =
      inTurn (tally first condition) (tally second condition) cup := by
  cases read : Comparison.parse condition with
  | error fault => simp only [inTurn, tally_of_error read]
  | ok comparison =>
    simp only [inTurn, tally_of_ok read, roll_inTurn]
    rcases roll first cup with ⟨fault | rolls, middle⟩
    · rfl
    · dsimp only [Prod.map_apply, Except.map, id_eq]
      rcases roll second middle with ⟨fault | more, left⟩
      · rfl
      · simp only [Prod.map_apply, Except.map, List.map_append, id_eq]

/-- A tally leaves the limits as they are, whether it fails or not. -/
theorem limits_tally (text condition : String) (cup : Cup σ) :
    (tally text condition cup).2.limits = cup.limits := by
  cases read : Comparison.parse condition with
  | error fault => rw [tally_of_error read]
  | ok comparison =>
    rw [tally_of_ok read]
    exact limits_roll text cup

section Generator

variable {γ : Type} [WordSource γ]

/-- With a generator, two texts with a comma between them are rolled in turn. -/
theorem rollWith_inTurn (first second : String) (generator : γ) :
    rollWith (first ++ "," ++ second) generator =
      inTurn (rollWith first) (rollWith second) generator := by
  rw [rollWith, roll_inTurn]
  exact inTurn_source _ _ (limits_roll first) generator

/-- With a generator, two texts with a comma between them are tallied in turn. -/
theorem tallyWith_inTurn (first second condition : String) (generator : γ) :
    tallyWith (first ++ "," ++ second) condition generator =
      inTurn (tallyWith first condition) (tallyWith second condition) generator := by
  rw [tallyWith, tally_inTurn]
  exact inTurn_source _ _ (limits_tally first condition) generator

end Generator

/-- **Rolling compound texts.** A comma between two texts means that the one is rolled or tallied
and then the other, on the same cup or with the same generator. A call that fails has taken from the
source what the parts before the first bad one took, and a roll that does not fail comes to one
more outcome than there are commas. -/
theorem roll_append_comma :
    (∀ first second : String,
      (∀ cup : Cup σ,
        roll (first ++ "," ++ second) cup = inTurn (roll first) (roll second) cup) ∧
      (∀ (condition : String) (cup : Cup σ),
        tally (first ++ "," ++ second) condition cup =
          inTurn (tally first condition) (tally second condition) cup) ∧
      ∀ {γ : Type} [WordSource γ] (generator : γ),
        rollWith (first ++ "," ++ second) generator =
            inTurn (rollWith first) (rollWith second) generator ∧
          ∀ condition : String, tallyWith (first ++ "," ++ second) condition generator =
            inTurn (tallyWith first condition) (tallyWith second condition) generator) ∧
    ∀ (text : String) (cup left : Cup σ),
      (∀ fault, roll text cup = (.error fault, left) →
        ∃ before bad after rolls, Formula.parts text = before ++ bad :: after ∧
          rollAll before cup = (.ok rolls, left) ∧
          Formula.parse cup.limits bad = .error fault) ∧
      (∀ condition fault, tally text condition cup = (.error fault, left) →
        (Comparison.parse condition = .error fault ∧ left = cup) ∨
          roll text cup = (.error fault, left)) ∧
      ∀ rolls, roll text cup = (.ok rolls, left) →
        rolls.length = text.toList.count ',' + 1 := by
  refine ⟨fun first second => ⟨roll_inTurn first second,
    fun condition => tally_inTurn first second condition,
    fun generator => ⟨rollWith_inTurn first second generator,
      fun condition => tallyWith_inTurn first second condition generator⟩⟩, ?_⟩
  intro text cup left
  refine ⟨fun fault failed => ?_, fun condition fault => tally_eq_error, fun rolls rolled => ?_⟩
  · obtain ⟨source, limits⟩ := cup
    obtain ⟨left, _⟩ := left
    obtain ⟨rfl, before, bad, after, rolls, split, run, rejected⟩ := roll_eq_error failed
    exact ⟨before, bad, after, rolls, split, run.rollAll_eq, rejected⟩
  · rw [(roll_eq_ok rolled).2.length_eq, Formula.length_parts]

end Cup
end TabletopDice
