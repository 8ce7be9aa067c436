import TabletopDice.Proofs.Conditions
import TabletopDice.Proofs.Splitting

/-!
# Tallies are rolls that are cut

To tally is to roll and then to count, so a tally draws, fails and shows faces just as the roll
does. The five comparators cut the faces of a roll at a target, and a modifier has no part in either
(`tallies_cut_rolls`).
-/

namespace TabletopDice

namespace Comparator

variable (face target : UInt32)

theorem holds_atMost :
    atMost.holds face target = (less.holds face target || equal.holds face target) := by
  rw [holds, holds, holds, ← Bool.decide_or, decide_eq_decide, UInt32.le_iff_lt_or_eq]

theorem holds_atLeast :
    atLeast.holds face target = (equal.holds face target || greater.holds face target) := by
  rw [holds, holds, holds, ← Bool.decide_or, decide_eq_decide, UInt32.le_iff_lt_or_eq, or_comm,
    eq_comm]

theorem holds_greater : greater.holds face target = !atMost.holds face target := by
  rw [holds, holds, ← decide_not, decide_eq_decide, UInt32.not_le]

end Comparator

/-- Two tests that nothing meets at once count apart what the one or the other takes. -/
theorem countP_or_of_disjoint {α : Type} {takes takes' : α → Bool}
    (disjoint : ∀ member, takes member → takes' member = false) (members : List α) :
    members.countP (fun member => takes member || takes' member) =
      members.countP takes + members.countP takes' := by
  induction members with
  | nil => rfl
  | cons member members ih =>
    rw [List.countP_cons, List.countP_cons, List.countP_cons, ih]
    cases taken : takes member with
    | true =>
      simp only [disjoint member taken, Bool.true_or, Bool.false_eq_true, ↓reduceIte]
      omega
    | false =>
      simp only [Bool.false_or, Bool.false_eq_true, ↓reduceIte]
      omega

/-- The tallies of one roll at a target, by comparator, cut its faces into those below the target,
those that are equal to it and those above it. -/
structure Roll.CutAt (target : UInt32) (roll : Roll) (tallies : Comparator → Tally) : Prop where
  written_eq : ∀ comparator, (tallies comparator).written = roll.written
  faces_eq : ∀ comparator, (tallies comparator).faces = roll.faces
  condition_eq : ∀ comparator, (tallies comparator).condition = { comparator, target }
  less_eq : (tallies .less).successes = roll.faces.countP (· < target)
  equal_eq : (tallies .equal).successes = roll.faces.countP (· = target)
  greater_eq : (tallies .greater).successes = roll.faces.countP (target < ·)
  length_eq : (tallies .less).successes + (tallies .equal).successes +
    (tallies .greater).successes = roll.faces.length
  atMost_eq : (tallies .atMost).successes =
    (tallies .less).successes + (tallies .equal).successes
  atLeast_eq : (tallies .atLeast).successes =
    (tallies .equal).successes + (tallies .greater).successes

namespace Roll

/-- The tallies of a roll by all comparators at one target. -/
def talliesAt (target : UInt32) (roll : Roll) (comparator : Comparator) : Tally :=
  roll.tally { comparator, target }

variable (target : UInt32) (roll : Roll)

/-- A tally counts the faces that stand to the target as its comparator says. -/
theorem successes_talliesAt (comparator : Comparator) :
    (roll.talliesAt target comparator).successes =
      roll.faces.countP fun face => comparator.holds face target :=
  rfl

/-- The faces at most at the target are those below it and those at it. -/
theorem successes_atMost : (roll.talliesAt target .atMost).successes =
    (roll.talliesAt target .less).successes + (roll.talliesAt target .equal).successes := by
  simp only [successes_talliesAt, Comparator.holds_atMost]
  apply countP_or_of_disjoint
  intro face below
  simp only [Comparator.holds, decide_eq_true_eq, decide_eq_false_iff_not] at below ⊢
  exact UInt32.ne_of_lt below

/-- The faces at least at the target are those at it and those above it. -/
theorem successes_atLeast : (roll.talliesAt target .atLeast).successes =
    (roll.talliesAt target .equal).successes + (roll.talliesAt target .greater).successes := by
  simp only [successes_talliesAt, Comparator.holds_atLeast]
  apply countP_or_of_disjoint
  intro face same
  simp only [Comparator.holds, decide_eq_true_eq, decide_eq_false_iff_not] at same ⊢
  exact same ▸ UInt32.lt_irrefl _

/-- Every face is either at most at the target or above it. -/
theorem length_faces_eq_successes : roll.faces.length =
    (roll.talliesAt target .atMost).successes + (roll.talliesAt target .greater).successes := by
  simp only [successes_talliesAt, Comparator.holds_greater]
  rw [List.length_eq_countP_add_countP fun face => Comparator.atMost.holds face target]
  simp only [Bool.not_eq_true, Bool.decide_eq_false]

/-- The five tallies of a roll at one target cut it. -/
theorem cutAt_talliesAt : roll.CutAt target (roll.talliesAt target) where
  written_eq _ := rfl
  faces_eq _ := rfl
  condition_eq _ := rfl
  less_eq := rfl
  equal_eq := rfl
  greater_eq := rfl
  length_eq := by rw [length_faces_eq_successes target, successes_atMost]
  atMost_eq := roll.successes_atMost target
  atLeast_eq := roll.successes_atLeast target

end Roll

/-- Two outcomes look the same: both are the same fault, or values that look the same, and the state
is left the same. -/
inductive SameOutcome {State α β : Type} (view : α → β) :
    Except Fault α × State → Except Fault α × State → Prop where
  | fault (reason : Fault) (left : State) :
      SameOutcome view (.error reason, left) (.error reason, left)
  | value {value value' : α} (same : view value = view value') (left : State) :
      SameOutcome view (.ok value, left) (.ok value', left)

/-- What is made of two outcomes looks the same, if no more is looked at than was before. -/
theorem SameOutcome.map {State α α' β β' : Type} {view : α → β} {view' : α' → β'} {f : α → α'}
    {outcome outcome' : Except Fault α × State}
    (keeps : ∀ value value', view value = view value' → view' (f value) = view' (f value'))
    (same : SameOutcome view outcome outcome') :
    SameOutcome view' (outcome.map (Except.map f) id) (outcome'.map (Except.map f) id) := by
  cases same with
  | fault reason left => exact .fault reason left
  | value same left => exact .value (keeps _ _ same) left

namespace Formula

/-- The formula with another modifier. -/
def withModifier (formula : Formula) (modifier : Int64) : Formula :=
  { formula with modifier }

theorem sameDie_withModifier (formula : Formula) (modifier : Int64) :
    (formula.withModifier modifier).SameDie formula :=
  ⟨rfl, rfl, rfl, rfl⟩

/-- The modifier has nothing to do with the faces that count. -/
theorem faces_withModifier {σ : Type} [FaceSource σ] (formula : Formula) (modifier : Int64)
    (source : σ) : (formula.withModifier modifier).faces source = formula.faces source := by
  have same := (formula.sameDie_withModifier modifier).rollBlocks_eq formula.quantity.toNat
    formula.rerollLimit source
  have pools : (formula.withModifier modifier).pool source = formula.pool source := pool_congr same
  rw [faces, faces, pools]
  rfl

/-- Nothing stands against rolling a formula because of its modifier. -/
theorem checked_withModifier (formula : Formula) (modifier : Int64) (limits : Limits) :
    (formula.withModifier modifier).checked limits =
      (formula.checked limits).map (·.withModifier modifier) := by
  have objections : (formula.withModifier modifier).objection? limits =
      formula.objection? limits := rfl
  rw [checked, checked, objections]
  cases formula.objection? limits <;> rfl

end Formula

/-- The outline with another modifier, or with none. -/
def Outline.withModifier (outline : Outline) (modifier : Option WrittenModifier) : Outline :=
  { outline with modifier }

/-- An outline with another modifier comes to the same verdict but for the modifier. -/
theorem Outline.formula_withModifier (outline : Outline) (modifier : Option WrittenModifier)
    (explosions : UInt32) :
    (outline.withModifier modifier).formula explosions =
      (outline.formula explosions).map (·.withModifier (modifier.elim 0 (·.value))) := by
  simp only [formula, withModifier]
  cases outline.reroll.mapM fun span =>
    Trigger.parseReroll outline.quantity.amount (String.ofList span.chars) with
  | error fault => rfl
  | ok reroll =>
    cases outline.explosion.mapM fun span =>
      Trigger.parseExplosion outline.sides.amount explosions (String.ofList span.chars) with
    | error fault => rfl
    | ok explosion => rfl

namespace Formula

/-- Two texts are the same, or they have outlines that differ in the modifier only: each may have
one of its own, or none. -/
inductive SameButModifier : String → String → Prop where
  | unchanged (text : String) : SameButModifier text text
  | changed {text text' : String} {outline : Outline} (modifier : Option WrittenModifier)
      (delimited : text.toList = outline.chars)
      (delimited' : text'.toList = (outline.withModifier modifier).chars) :
      SameButModifier text text'

/-- With another modifier, a text comes to the same fault or to the formula with that modifier. -/
theorem parse_withModifier {text text' : String} {outline : Outline}
    {modifier : Option WrittenModifier} (delimited : text.toList = outline.chars)
    (delimited' : text'.toList = (outline.withModifier modifier).chars) (limits : Limits) :
    parse limits text' =
      (parse limits text).map (·.withModifier (modifier.elim 0 (·.value))) := by
  rw [parse_of_outline delimited, parse_of_outline delimited', Outline.formula_withModifier]
  cases outline.formula limits.explosions with
  | error fault => rfl
  | ok formula => exact formula.checked_withModifier _ limits

end Formula

namespace Cup

open Formula (parts SameButModifier)

variable {σ : Type} [FaceSource σ]

/-- Formulas that differ in the modifier only are rolled to the same faces, or refused alike. -/
theorem sameOutcome_rollFormula {text text' : String} (same : SameButModifier text text')
    (cup : Cup σ) :
    SameOutcome (·.faces) (rollFormula text cup) (rollFormula text' cup) := by
  obtain ⟨source, limits⟩ := cup
  cases same with
  | unchanged =>
    rcases rollFormula text { source, limits } with ⟨fault | roll, left⟩
    · exact .fault fault left
    · exact .value rfl left
  | changed modifier delimited delimited' =>
    have read' := Formula.parse_withModifier delimited delimited' limits
    cases read : Formula.parse limits text with
    | error fault =>
      rw [read] at read'
      rw [rollFormula_of_error read, rollFormula_of_error read']
      exact .fault fault _
    | ok formula =>
      rw [read] at read'
      rw [rollFormula_of_ok read, rollFormula_of_ok read', Formula.faces_withModifier]
      refine .value ?_ _
      rfl

/-- Texts that differ in the modifiers only are rolled to the same faces, or refused alike. -/
theorem sameOutcome_rollAll {texts texts' : List String}
    (same : List.Forall₂ SameButModifier texts texts') (cup : Cup σ) :
    SameOutcome (List.map (·.faces)) (rollAll texts cup) (rollAll texts' cup) := by
  induction same generalizing cup with
  | nil => exact .value rfl cup
  | @cons text text' texts texts' head _ ih =>
    rw [rollAll_cons, rollAll_cons]
    have first := sameOutcome_rollFormula head cup
    generalize rollFormula text cup = outcome, rollFormula text' cup = outcome' at first ⊢
    cases first with
    | fault reason left => exact .fault reason left
    | value same middle =>
      have others := ih middle
      dsimp only
      generalize rollAll texts middle = outcome, rollAll texts' middle = outcome' at others ⊢
      cases others with
      | fault reason left => exact .fault reason left
      | value same' left =>
        refine .value ?_ left
        rw [List.map_cons, List.map_cons, same, same']

/-- Texts that differ in the modifiers only are tallied alike. -/
theorem sameOutcome_tally {text text' : String}
    (same : List.Forall₂ SameButModifier (parts text) (parts text')) (condition : String)
    (cup : Cup σ) :
    SameOutcome (List.map fun tally => (tally.faces, tally.successes)) (tally text condition cup)
      (tally text' condition cup) := by
  cases read : Comparison.parse condition with
  | error fault =>
    rw [tally_of_error read, tally_of_error read]
    exact .fault fault cup
  | ok comparison =>
    rw [tally_of_ok read, tally_of_ok read]
    refine SameOutcome.map ?_ (sameOutcome_rollAll same cup)
    intro rolls rolls' same
    -- What is shown of a tally is told by the faces of its roll.
    let shown (faces : List UInt32) := (faces, faces.countP comparison.takes)
    have again := congrArg (List.map shown) same
    rw [List.map_map, List.map_map] at again ⊢
    exact again

/-- The text of a comparison is a condition, so the tally comes to what the roll comes to, but for
its counts. -/
theorem tally_text (text : String) (comparison : Comparison) (cup : Cup σ) :
    tally text (toString comparison) cup =
      (roll text cup).map (Except.map (List.map (·.tally comparison))) id :=
  tally_of_ok comparison.parse_text text cup

/-- **Tallies cut rolls.** Whatever is rolled from the same cup, the five tallies at a target fail
just as the roll does, or else show its texts and faces; the cup is left as the roll leaves it; and
the counts for each part of the text cut its faces at the target. If only modifiers are changed in a
text, its rolls show the same faces and its tallies the same counts. A condition that is none is at
fault before anything is thrown, whatever the text is. -/
theorem tallies_cut_rolls :
    (∀ (text : String) (target : UInt32) (cup left : Cup σ),
      let run (comparator : Comparator) :=
        tally text (String.ofList comparator.signs ++ toString target) cup
      (∀ fault, roll text cup = (.error fault, left) →
        ∀ comparator, run comparator = (.error fault, left)) ∧
      ∀ rolls, roll text cup = (.ok rolls, left) →
        ∃ cuts : List (Comparator → Tally),
          (∀ comparator, run comparator = (.ok (cuts.map (· comparator)), left)) ∧
          List.Forall₂ (Roll.CutAt target) rolls cuts) ∧
    (∀ text text', List.Forall₂ SameButModifier (parts text) (parts text') → ∀ cup : Cup σ,
      SameOutcome (List.map (·.faces)) (roll text cup) (roll text' cup) ∧
      ∀ condition, SameOutcome (List.map fun tally => (tally.faces, tally.successes))
        (tally text condition cup) (tally text' condition cup)) ∧
    ∀ condition, (∀ written : WrittenCondition,
        (Text.trim condition).toList ≠ written.chars) →
      ∀ (text : String) (cup : Cup σ),
        tally text condition cup = (.error (.malformed .condition condition), cup) ∧
        thrownIn (tally text condition) cup = [] := by
  refine ⟨fun text target cup left => ?_, fun text text' same cup => ?_,
    fun condition unwritten text cup => ?_⟩
  · intro run
    have run_eq (comparator : Comparator) : run comparator =
        (roll text cup).map (Except.map (List.map (·.talliesAt target comparator))) id :=
      tally_text text { comparator, target } cup
    refine ⟨fun fault failed comparator => ?_, fun rolls rolled => ?_⟩
    · rw [run_eq, failed]
      rfl
    · refine ⟨rolls.map (·.talliesAt target), fun comparator => ?_, ?_⟩
      · rw [run_eq, rolled, List.map_map]
        rfl
      · rw [List.forall₂_map_right_iff, List.forall₂_same]
        exact fun roll _ => roll.cutAt_talliesAt target
  · exact ⟨sameOutcome_rollAll same cup, fun condition => sameOutcome_tally same condition cup⟩
  · have rejected := Comparison.parse_of_unwritten unwritten
    exact ⟨tally_of_error rejected text cup, thrownIn_tally_of_error rejected text cup⟩

/-- Two rolls are cut at a target of four. The second text has another modifier with blanks in it,
the third one has no dice at its end, and the last condition is none. -/
theorem tallies_cut_rolls_at_four :
    let cup : Cup Replay := { source := { draws := #[0.3, 0.99, 0.5] } }
    let run (text : String) (comparator : Comparator) :=
      tally text (String.ofList comparator.signs ++ toString (4 : UInt32)) cup
    (∃ rolls left, roll "2d6,1d8+7" cup = (.ok rolls, left) ∧
      ∃ cuts : List (Comparator → Tally),
        (∀ comparator, run "2d6,1d8+7" comparator = (.ok (cuts.map (· comparator)), left)) ∧
        List.Forall₂ (Roll.CutAt 4) rolls cuts) ∧
    (∃ left, roll "2d6,0d8" cup = (.error (.unrollable .nonPositive), left) ∧
      ∀ comparator, run "2d6,0d8" comparator = (.error (.unrollable .nonPositive), left)) ∧
    (List.Forall₂ SameButModifier (parts "2d6,1d8+7") (parts "2d6,1d8 - 7") ∧
      SameOutcome (List.map (·.faces)) (roll "2d6,1d8+7" cup) (roll "2d6,1d8 - 7" cup)) ∧
    ((∀ written : WrittenCondition, (Text.trim "=>5").toList ≠ written.chars) ∧
      tally "2d6,1d8+7" "=>5" cup = (.error (.malformed .condition "=>5"), cup)) := by
  intro cup run
  let dice : Formula :=
    { quantity := 2, sides := 6, reroll := none, explosion := none, selection := none
      modifier := 0 }
  let die : Formula :=
    { quantity := 1, sides := 8, reroll := none, explosion := none, selection := none
      modifier := 7 }
  let blank : Run Char.isWhitespace := { chars := [' '], all := List.forall_mem_singleton.mpr rfl }
  let modifier : WrittenModifier :=
    { before := blank, sign := .minus, between := blank, numeral := .ofNat 7
      value_le := by decide }
  let outline : Outline :=
    { quantity := .ofNat 1, letter := .lower, sides := .ofNat 8, reroll := none
      explosion := none, selection := none
      modifier := some { modifier with before := .empty, sign := .plus, between := .empty }
      trailing := .empty }
  have diceRead : Formula.parse {} "2d6" = .ok dice := rfl
  have dieRead : Formula.parse {} "1d8+7" = .ok die := rfl
  have noDie : Formula.parse {} "0d8" = .error (.unrollable .nonPositive) := rfl
  have rolled : Rolls {} ["2d6", "1d8+7"] cup.source _ _ :=
    .cons diceRead (.cons dieRead (.nil _))
  have rolledFirst : Rolls {} ["2d6"] cup.source _ _ := .cons diceRead (.nil _)
  have succeeded : roll "2d6,1d8+7" cup = (.ok _, _) := rolled.rollAll_eq
  have failed : roll "2d6,0d8" cup = (.error (.unrollable .nonPositive), _) :=
    rolledFirst.rollAll_append_cons noDie []
  have delimited : "1d8+7".toList = outline.chars := rfl
  have same : List.Forall₂ SameButModifier (parts "2d6,1d8+7") (parts "2d6,1d8 - 7") :=
    .cons (.unchanged "2d6") (.cons (.changed (some modifier) delimited rfl) .nil)
  have unwritten : ∀ written : WrittenCondition,
      (Text.trim "=>5").toList ≠ written.chars := by
    intro written split
    have accepted := Comparison.parse_eq_ok_iff.mpr ⟨written, split, rfl⟩
    cases accepted
  exact ⟨⟨_, _, succeeded, (tallies_cut_rolls.1 _ 4 cup _).2 _ succeeded⟩,
    ⟨_, failed, (tallies_cut_rolls.1 _ 4 cup _).1 _ failed⟩,
    ⟨same, (tallies_cut_rolls.2.1 _ _ same cup).1⟩,
    ⟨unwritten, (tallies_cut_rolls.2.2 _ unwritten _ cup).1⟩⟩

end Cup
end TabletopDice
