import TabletopDice.Proofs.Interchange

/-!
# Calls that fail

Texts are read before their dice are thrown, and nothing that is thrown is read. So whether a call
fails, and with which fault, is settled by its texts and the limits (`roll_eq_error_iff`), and a
call that fails has thrown the dice of the parts before the first bad one. Apart from these dice a
fault leaves no trace in a session (`Step.left_of_fault`).
-/

namespace TabletopDice

section Outcome

variable {State α β : Type} {outcome : Except Fault α × State} {fault : Fault} {left : State}

/-- An outcome has this result exactly if it is this result with some state. -/
theorem fst_eq_iff_exists {result : Except Fault α} :
    outcome.1 = result ↔ ∃ left, outcome = (result, left) := by
  constructor
  · intro same
    exact ⟨outcome.2, Prod.ext same rfl⟩
  · intro ⟨left, same⟩
    exact congrArg Prod.fst same

theorem map_except_eq_error_iff {result : Except Fault α} {f : α → β} :
    result.map f = .error fault ↔ result = .error fault := by
  cases result <;> simp only [Except.map, Except.error.injEq, reduceCtorEq]

/-- There are values exactly if something can be made of them. -/
theorem exists_map_except_eq_ok_iff {result : Except Fault α} {f : α → β} :
    (∃ value, result.map f = .ok value) ↔ ∃ value, result = .ok value := by
  cases result <;> simp only [Except.map, Except.ok.injEq, exists_eq', reduceCtorEq, exists_false]

/-- What is made of the values changes neither the fault of an outcome nor the state it leaves. -/
theorem map_eq_error_iff {f : α → β} :
    outcome.map (Except.map f) id = (.error fault, left) ↔ outcome = (.error fault, left) := by
  rw [Prod.ext_iff, Prod.ext_iff]
  exact and_congr_left' map_except_eq_error_iff

end Outcome

section Thrown

variable {σ : Type}

/-- The cup with a source that is recorded from now on. -/
def Cup.recorded (cup : Cup σ) : Cup (Recorded σ) where
  source := { source := cup.source }
  limits := cup.limits

/-- The dice that a call throws, in order, each by its sides. -/
def thrownIn {α : Type} (call : Cup (Recorded σ) → α × Cup (Recorded σ)) (cup : Cup σ) :
    List UInt32 :=
  (call cup.recorded).2.source.thrown

variable [FaceSource σ]

/-- A step leaves the source as the dice of its call leave it. -/
theorem Step.source_take (step : Step) (cup : Cup σ) :
    (step.take cup).2.source = FaceSource.after cup.source (thrownIn step.take cup) := by
  have start : Cup.Related (fun recorded source => recorded.source = source ∧
      source = FaceSource.after cup.source recorded.thrown) cup.recorded cup := ⟨rfl, rfl, rfl⟩
  exact ((lockstep_recorded cup.source).take start step).related_left.source.2

/-- A session may begin with dice thrown one by one, which do nothing but move the source on. -/
theorem session_die_append (dice : List UInt32) (steps : List Step) (cup : Cup σ) :
    (session (dice.map .die ++ steps) cup).drop dice.length =
      session steps { cup with source := FaceSource.after cup.source dice } := by
  induction dice generalizing cup with
  | nil => rfl
  | cons sides dice ih =>
    rw [List.map_cons, List.cons_append, session_cons, List.length_cons, List.drop_succ_cons]
    exact ih (cup.die sides).2

end Thrown

namespace Cup

/-- Each of the texts is a formula that can be rolled within the limits. -/
def Accepted (limits : Limits) (texts : List String) : Prop :=
  ∀ text ∈ texts, ∃ formula, Formula.parse limits text = .ok formula

/-- The first of the texts that is no formula, with its fault and with the texts before it. -/
structure FirstRejected (limits : Limits) (texts before : List String) (bad : String)
    (fault : Fault) : Prop where
  split : ∃ after, texts = before ++ bad :: after
  accepted : Accepted limits before
  rejected : Formula.parse limits bad = .error fault

variable {σ : Type} [FaceSource σ] {limits : Limits} {texts : List String} {source left : σ}

/-- Texts that have been rolled are formulas. -/
theorem Rolls.accepted {rolls : List Roll} (rolled : Rolls limits texts source rolls left) :
    Accepted limits texts := by
  induction rolled with
  | nil => exact List.forall_mem_nil _
  | cons accepted _ ih => exact List.forall_mem_cons.mpr ⟨⟨_, accepted⟩, ih⟩

/-- Texts that are formulas are rolled with every source. -/
theorem Accepted.exists_rolls (accepted : Accepted limits texts) (source : σ) :
    ∃ rolls left, Rolls limits texts source rolls left := by
  obtain rolled | ⟨before, bad, after, _, _, fault, rfl, _, rejected⟩ :=
    rolls_or_rejected limits texts source
  · exact rolled
  · obtain ⟨formula, read⟩ := accepted bad (List.mem_append_right _ List.mem_cons_self)
    cases read.symm.trans rejected

section Roll

variable {cup cup' : Cup σ} {text condition : String} {fault : Fault}

/-- A roll succeeds exactly if each of its parts is a formula within the limits. -/
theorem exists_roll_eq_ok_iff (text : String) (cup : Cup σ) :
    (∃ rolls, (roll text cup).1 = .ok rolls) ↔ Accepted cup.limits (Formula.parts text) := by
  constructor
  · intro ⟨rolls, succeeded⟩
    exact (roll_eq_ok (Prod.ext succeeded rfl)).2.accepted
  · intro accepted
    obtain ⟨rolls, left, rolled⟩ := accepted.exists_rolls cup.source
    exact ⟨rolls, congrArg Prod.fst rolled.rollAll_eq⟩

theorem limits_rollFormula (text : String) (cup : Cup σ) :
    (rollFormula text cup).2.limits = cup.limits := by
  obtain ⟨source, limits⟩ := cup
  cases read : Formula.parse limits text with
  | error fault => rw [rollFormula_of_error read]
  | ok formula => rw [rollFormula_of_ok read]

/-- A roll fails at the first part that is no formula, and is left as the parts before it are. -/
theorem roll_eq_error_iff :
    roll text cup = (.error fault, cup') ↔
      ∃ before bad, FirstRejected cup.limits (Formula.parts text) before bad fault ∧
        (rollAll before cup).2 = cup' := by
  obtain ⟨source, limits⟩ := cup
  constructor
  · intro failed
    obtain ⟨source', _⟩ := cup'
    obtain ⟨rfl, before, bad, after, rolls, split, rolled, rejected⟩ := roll_eq_error failed
    exact ⟨before, bad, ⟨⟨after, split⟩, rolled.accepted, rejected⟩,
      congrArg Prod.snd rolled.rollAll_eq⟩
  · intro ⟨before, bad, ⟨⟨after, split⟩, accepted, rejected⟩, left⟩
    obtain ⟨rolls, source', rolled⟩ := accepted.exists_rolls source
    have ended := rolled.rollAll_append_cons rejected after
    rw [← split] at ended
    rw [rolled.rollAll_eq] at left
    exact left ▸ ended

/-- The fault of a roll has nothing to do with its source. -/
theorem fst_roll_eq_error_iff :
    (roll text cup).1 = .error fault ↔
      ∃ before bad, FirstRejected cup.limits (Formula.parts text) before bad fault := by
  constructor
  · intro failed
    obtain ⟨before, bad, first, -⟩ := roll_eq_error_iff.mp (Prod.ext failed rfl)
    exact ⟨before, bad, first⟩
  · intro ⟨before, bad, first⟩
    exact congrArg Prod.fst (roll_eq_error_iff.mpr ⟨before, bad, first, rfl⟩)

/-- A roll that fails has thrown the dice of the parts before the first bad one, and no others. -/
theorem FirstRejected.thrownIn_roll {before : List String} {bad : String}
    (first : FirstRejected cup.limits (Formula.parts text) before bad fault) :
    thrownIn (roll text) cup = thrownIn (rollAll before) cup := by
  have failed : roll text cup.recorded = (.error fault, (rollAll before cup.recorded).2) :=
    roll_eq_error_iff.mpr ⟨before, bad, first, rfl⟩
  unfold thrownIn
  rw [failed]

/-- A condition that is none is at fault as it was written. -/
theorem parse_condition_eq_error_iff :
    Comparison.parse condition = .error fault ↔
      (∀ comparison, Comparison.parse condition ≠ .ok comparison) ∧
        fault = .malformed .condition condition := by
  unfold Comparison.parse
  cases (WrittenTrigger.reader.whole? (Text.trim condition).toList).bind (·.condition?) with
  | none => simp only [Except.error.injEq, reduceCtorEq, ne_eq, not_false_eq_true, implies_true,
      true_and, eq_comm]
  | some comparison => simp only [reduceCtorEq, Except.ok.injEq, ne_eq, forall_eq', false_and]

/-- A tally succeeds exactly if its condition is one and each of its parts is a formula within the
limits. -/
theorem exists_tally_eq_ok_iff (text condition : String) (cup : Cup σ) :
    (∃ tallies, (tally text condition cup).1 = .ok tallies) ↔
      (∃ comparison, Comparison.parse condition = .ok comparison) ∧
        Accepted cup.limits (Formula.parts text) := by
  rw [← exists_roll_eq_ok_iff]
  cases read : Comparison.parse condition with
  | error fault =>
    rw [tally_of_error read]
    simp only [reduceCtorEq, exists_false, false_and]
  | ok comparison =>
    rw [tally_of_ok read, Prod.map_fst, exists_map_except_eq_ok_iff]
    simp only [Except.ok.injEq, exists_eq', true_and]

/-- A tally fails because of its condition, with nothing thrown, or else as the roll does. -/
theorem tally_eq_error_iff :
    tally text condition cup = (.error fault, cup') ↔
      ((∀ comparison, Comparison.parse condition ≠ .ok comparison) ∧
        fault = .malformed .condition condition ∧ cup' = cup) ∨
      ((∃ comparison, Comparison.parse condition = .ok comparison) ∧
        roll text cup = (.error fault, cup')) := by
  cases read : Comparison.parse condition with
  | error reason =>
    obtain ⟨-, rfl⟩ := parse_condition_eq_error_iff.mp read
    rw [tally_of_error read]
    simp only [ne_eq, reduceCtorEq, not_false_eq_true, implies_true, true_and, exists_false,
      false_and, or_false]
    exact Prod.ext_iff.trans (and_congr ((Except.error.injEq _ _).to_iff.trans eq_comm) eq_comm)
  | ok comparison =>
    rw [tally_of_ok read]
    simp only [ne_eq, Except.ok.injEq, forall_eq', false_and, exists_eq', true_and, false_or]
    exact map_eq_error_iff

/-- If its condition is none, a tally throws no dice. -/
theorem thrownIn_tally_of_error {reason : Fault}
    (rejected : Comparison.parse condition = .error reason) (text : String) (cup : Cup σ) :
    thrownIn (tally text condition) cup = [] := by
  unfold thrownIn
  rw [tally_of_error rejected]
  rfl

/-- If its condition is one, a tally throws the dice of the roll. -/
theorem thrownIn_tally_of_ok {comparison : Comparison}
    (accepted : Comparison.parse condition = .ok comparison) (text : String) (cup : Cup σ) :
    thrownIn (tally text condition) cup = thrownIn (roll text) cup := by
  unfold thrownIn
  rw [tally_of_ok accepted]
  rfl

/-- The fault of a tally has nothing to do with its source either. -/
theorem fst_tally_eq_error_iff :
    (tally text condition cup).1 = .error fault ↔
      ((∀ comparison, Comparison.parse condition ≠ .ok comparison) ∧
        fault = .malformed .condition condition) ∨
      ((∃ comparison, Comparison.parse condition = .ok comparison) ∧
        ∃ before bad, FirstRejected cup.limits (Formula.parts text) before bad fault) := by
  rw [← fst_roll_eq_error_iff]
  apply fst_eq_iff_exists.trans
  apply (exists_congr fun _ => tally_eq_error_iff).trans
  rw [exists_or]
  simp only [exists_and_left, exists_eq, and_true]
  exact or_congr_right (and_congr_right' fst_eq_iff_exists.symm)

end Roll

end Cup

namespace Step

variable {σ : Type} [FaceSource σ] {step : Step} {cup left : Cup σ} {fault : Fault}

theorem thrownIn_take_tally (text condition : String) (cup : Cup σ) :
    thrownIn (Step.tally text condition).take cup = thrownIn (Cup.tally text condition) cup := by
  simp only [thrownIn, take, Prod.map_snd, id_eq]

/-- A step that fails leaves the limits as they are. -/
theorem limits_of_fault (failed : step.take cup = (.fault fault, left)) :
    left.limits = cup.limits := by
  obtain rfl : (step.take cup).2 = left := congrArg Prod.snd failed
  cases step with
  | roll text => simp only [take, Prod.map_snd, id_eq, Cup.limits_roll]
  | rollFormula text => simp only [take, Prod.map_snd, id_eq, Cup.limits_rollFormula]
  | tally text condition => simp only [take, Prod.map_snd, id_eq, Cup.limits_tally]
  | limit limits => cases failed
  | die sides => cases failed

/-- All that is left of a step that fails is that its dice have been thrown. -/
theorem left_of_fault (failed : step.take cup = (.fault fault, left)) :
    left = { source := FaceSource.after cup.source (thrownIn step.take cup)
             limits := cup.limits } := by
  obtain ⟨source, limits⟩ := left
  obtain rfl : limits = cup.limits := limits_of_fault failed
  have moved : source = FaceSource.after cup.source (thrownIn step.take cup) := by
    rw [← step.source_take, failed]
  rw [moved]

end Step

namespace Cup

/-- **Faults are no matter of chance.** A roll and a tally fail with one source exactly if they fail
with any other, and with the same fault. A roll succeeds if all its parts are formulas; else its
fault is that of the first part that is none, and its dice are those of the parts before. A tally
fails in the same way, unless its condition is none: then that is its fault, whatever the text is,
and nothing is thrown. A step that fails leaves the limits as they were, and a session goes on from
it as if just its dice had been thrown, one by one. -/
theorem fault_whatever_is_drawn {σ τ : Type} [FaceSource σ] [FaceSource τ]
    (text condition : String) :
    (∀ (limits : Limits) (source : σ) (source' : τ) (fault : Fault),
      ((roll text { source, limits }).1 = .error fault ↔
        (roll text { source := source', limits }).1 = .error fault) ∧
      ((tally text condition { source, limits }).1 = .error fault ↔
        (tally text condition { source := source', limits }).1 = .error fault)) ∧
    ∀ cup : Cup σ,
      ((∃ rolls, (roll text cup).1 = .ok rolls) ↔ Accepted cup.limits (Formula.parts text)) ∧
      (∀ fault cup', roll text cup = (.error fault, cup') ↔
        ∃ before bad, FirstRejected cup.limits (Formula.parts text) before bad fault ∧
          (rollAll before cup).2 = cup' ∧
          thrownIn (roll text) cup = thrownIn (rollAll before) cup) ∧
      ((∃ tallies, (tally text condition cup).1 = .ok tallies) ↔
        (∃ comparison, Comparison.parse condition = .ok comparison) ∧
          Accepted cup.limits (Formula.parts text)) ∧
      (∀ fault cup', tally text condition cup = (.error fault, cup') ↔
        ((∀ comparison, Comparison.parse condition ≠ .ok comparison) ∧
          fault = .malformed .condition condition ∧ cup' = cup ∧
          thrownIn (tally text condition) cup = []) ∨
        ((∃ comparison, Comparison.parse condition = .ok comparison) ∧
          roll text cup = (.error fault, cup') ∧
          thrownIn (tally text condition) cup = thrownIn (roll text) cup)) ∧
      ∀ (step : Step) fault cup', step.take cup = (.fault fault, cup') →
        cup'.limits = cup.limits ∧
        ∀ later, session later cup' =
          (session ((thrownIn step.take cup).map .die ++ later) cup).drop
            (thrownIn step.take cup).length := by
  refine ⟨?_, fun cup => ⟨exists_roll_eq_ok_iff text cup, ?_,
    exists_tally_eq_ok_iff text condition cup, ?_, ?_⟩⟩
  · intro limits source source' fault
    refine ⟨?_, ?_⟩
    · rw [fst_roll_eq_error_iff, fst_roll_eq_error_iff]
    · rw [fst_tally_eq_error_iff, fst_tally_eq_error_iff]
  · intro fault cup'
    rw [roll_eq_error_iff]
    refine exists_congr fun before => exists_congr fun bad => and_congr_right fun first => ?_
    exact (and_iff_left first.thrownIn_roll).symm
  · intro fault cup'
    rw [tally_eq_error_iff]
    cases read : Comparison.parse condition with
    | error reason =>
      rw [thrownIn_tally_of_error read]
      simp only [ne_eq, reduceCtorEq, not_false_eq_true, implies_true, true_and, and_true,
        exists_false, false_and]
    | ok comparison =>
      rw [thrownIn_tally_of_ok read]
      simp only [ne_eq, Except.ok.injEq, forall_eq', false_and, exists_eq', true_and, and_true]
  · intro step fault cup' failed
    refine ⟨step.limits_of_fault failed, fun later => ?_⟩
    rw [session_die_append, Step.left_of_fault failed]

/-- The second part keeps no die, and by then the two dice of the first part have been thrown: the
session goes on as if they had been thrown one by one. -/
theorem fault_whatever_is_drawn_keep_zero :
    let cup : Cup Replay := { source := { draws := #[0.05, 0.99, 0.5] } }
    ∃ cup', (Step.tally "2d6,4d6kl0" ">=5").take cup = (.fault (.unrollable .keepZero), cup') ∧
      cup'.limits = {} ∧
      ∀ later, session later cup' = (session (.die 6 :: .die 6 :: later) cup).drop 2 := by
  intro cup
  have first : FirstRejected {} (Formula.parts "2d6,4d6kl0") ["2d6"] "4d6kl0"
      (.unrollable .keepZero) := {
    split := ⟨[], rfl⟩
    accepted := List.forall_mem_singleton.mpr ⟨_, rfl⟩
    rejected := rfl }
  have condition : Comparison.parse ">=5" = .ok { comparator := .atLeast, target := 5 } := rfl
  have failed : tally "2d6,4d6kl0" ">=5" cup = (.error (.unrollable .keepZero), _) :=
    tally_eq_error_iff.mpr
      (.inr ⟨⟨_, condition⟩, roll_eq_error_iff.mpr ⟨_, _, first, rfl⟩⟩)
  have dice : thrownIn (Step.tally "2d6,4d6kl0" ">=5").take cup = [6, 6] := by
    rw [Step.thrownIn_take_tally, thrownIn_tally_of_ok condition, first.thrownIn_roll]
    rfl
  have gone := (@fault_whatever_is_drawn Replay WordCycle _ _ "" "").2 cup
  have taken : (Step.tally "2d6,4d6kl0" ">=5").take cup = (.fault (.unrollable .keepZero), _) :=
    congrArg (Prod.map (Answer.ofExcept .tallies) id) failed
  have later := gone.2.2.2.2 _ _ _ taken
  rw [dice] at later
  exact ⟨_, taken, later⟩

end Cup
end TabletopDice
