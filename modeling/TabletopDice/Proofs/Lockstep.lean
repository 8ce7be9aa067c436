import Mathlib.Data.List.Forall2
import TabletopDice.Chance.Replay
import TabletopDice.Proofs.Blocks
import TabletopDice.Proofs.Compound
import TabletopDice.Session

/-!
# Sources in lockstep

Nothing of a source is seen in a session but the faces that it shows. So if two sources, of whatever
kind, show the same faces in step with each other, two sessions of the same steps give the same
answers with them (`Lockstep.interchangeable`). The step lemmas below follow the program from a
single die up to a session.
-/

namespace TabletopDice

section Lockstep

variable {σ τ : Type}

/-- Two outcomes agree: they are the same value, and the states left behind are related. -/
structure Agree {α : Type} (related : σ → τ → Prop) (first : α × σ) (second : α × τ) : Prop where
  value_eq : first.1 = second.1
  related_left : related first.2 second.2

theorem Agree.mono {α : Type} {related wider : σ → τ → Prop} {first : α × σ} {second : α × τ}
    (agree : Agree related first second)
    (implies : ∀ source source', related source source' → wider source source') :
    Agree wider first second :=
  ⟨agree.value_eq, implies _ _ agree.related_left⟩

theorem Agree.map {α β : Type} {related : σ → τ → Prop} {first : α × σ} {second : α × τ}
    (agree : Agree related first second) (f : α → β) :
    Agree related (first.map f id) (second.map f id) :=
  ⟨congrArg f agree.value_eq, agree.related_left⟩

/-- Two cups with the same limits and with related sources. -/
structure Cup.Related (related : σ → τ → Prop) (cup : Cup σ) (cup' : Cup τ) : Prop where
  limits_eq : cup.limits = cup'.limits
  source : related cup.source cup'.source

/-- Plays that agree, and go on to plays that agree, agree all through. -/
theorem Agree.bind {α β : Type} {related : σ → τ → Prop} {play : Play σ α} {play' : Play τ α}
    {next : α → Play σ β} {next' : α → Play τ β} {cup : Cup σ} {cup' : Cup τ}
    (agree : Agree (Cup.Related related) (play cup) (play' cup'))
    (onward : ∀ value cup cup', Cup.Related related cup cup' →
      Agree (Cup.Related related) (next value cup) (next' value cup')) :
    Agree (Cup.Related related) ((play >>= next) cup) ((play' >>= next') cup') := by
  rw [Play.bind_eq, Play.bind_eq]
  generalize play cup = first at agree
  generalize play' cup' = second at agree
  obtain ⟨result, middle⟩ := first
  obtain ⟨result', middle'⟩ := second
  obtain ⟨value_eq, after⟩ := agree
  obtain rfl : result = result' := value_eq
  cases result with
  | error fault => exact ⟨rfl, after⟩
  | ok value => exact onward value middle middle' after

variable [FaceSource σ] [FaceSource τ]

/-- Related sources show the same face of every die, and are related again afterwards. -/
def Lockstep (related : σ → τ → Prop) : Prop :=
  ∀ source source', related source source' → ∀ sides,
    Agree related (FaceSource.face sides source) (FaceSource.face sides source')

/-- Within any limits, sessions of the same steps give the same answers with either source, and
after each step what is left is related. -/
def Interchangeable (related : σ → τ → Prop) (source : σ) (source' : τ) : Prop :=
  ∀ (limits : Limits) (steps : List Step),
    List.Forall₂ (Agree (Cup.Related related)) (session steps { source, limits })
      (session steps { source := source', limits })

variable {related : σ → τ → Prop} {source : σ} {source' : τ}

/-- A session goes on from the cup as its first step has left it. -/
theorem session_cons (step : Step) (steps : List Step) (cup : Cup σ) :
    session (step :: steps) cup = step.take cup :: session steps (step.take cup).2 := rfl

namespace Lockstep

section Formula

variable (lockstep : Lockstep related) (start : related source source') (formula : Formula)
include lockstep start

/-- Sources in lockstep have a die go on to the same faces. -/
theorem explosionsFrom (limit : Nat) (face : UInt32) :
    Agree related (formula.explosionsFrom limit face source)
      (formula.explosionsFrom limit face source') := by
  induction limit generalizing face source source' with
  | zero => exact ⟨rfl, start⟩
  | succ limit ih =>
    by_cases explodes : formula.explodes face
    · obtain ⟨shown, after⟩ := lockstep _ _ start formula.sides
      simp only [Formula.explosionsFrom, explodes, ↓reduceIte, ← shown]
      obtain ⟨rest, left⟩ := ih after (FaceSource.face formula.sides source).1
      exact ⟨congrArg (List.cons _) rest, left⟩
    · simp only [Formula.explosionsFrom, explodes, Bool.false_eq_true, ↓reduceIte]
      exact ⟨rfl, start⟩

/-- Sources in lockstep replace a face by the same one, or neither does. -/
theorem replacementFor (rerolls : Nat) (face : UInt32) :
    Agree related (formula.replacementFor rerolls face source)
      (formula.replacementFor rerolls face source') := by
  unfold Formula.replacementFor
  split
  · obtain ⟨shown, after⟩ := lockstep _ _ start formula.sides
    exact ⟨congrArg some shown, after⟩
  · exact ⟨rfl, start⟩

/-- Sources in lockstep show the same faces for a die. -/
theorem rollBlock (rerolls : Nat) :
    Agree related (formula.rollBlock rerolls source) (formula.rollBlock rerolls source') := by
  obtain ⟨first, afterFirst⟩ := lockstep _ _ start formula.sides
  obtain ⟨replacement, afterReplacement⟩ := lockstep.replacementFor afterFirst formula rerolls
    (FaceSource.face formula.sides source).1
  have explosions := lockstep.explosionsFrom afterReplacement formula formula.explosionLimit
  simp only [Formula.rollBlock, ← first, ← replacement]
  exact ⟨congrArg (Block.mk _ _) (explosions _).value_eq, (explosions _).related_left⟩

/-- Sources in lockstep show the same faces for any number of dice. -/
theorem rollBlocks (quantity rerolls : Nat) :
    Agree related (formula.rollBlocks quantity rerolls source)
      (formula.rollBlocks quantity rerolls source') := by
  induction quantity generalizing rerolls source source' with
  | zero => exact ⟨rfl, start⟩
  | succ quantity ih =>
    obtain ⟨block, after⟩ := lockstep.rollBlock start formula rerolls
    simp only [Formula.rollBlocks, ← block]
    obtain ⟨blocks, left⟩ := ih after
      (rerolls - (formula.rollBlock rerolls source).1.replacement.isSome.toNat)
    exact ⟨congrArg (List.cons _) blocks, left⟩

/-- With sources in lockstep the same faces of a formula count. -/
theorem faces : Agree related (formula.faces source) (formula.faces source') := by
  obtain ⟨blocks, left⟩ := lockstep.rollBlocks start formula formula.quantity.toNat
    formula.rerollLimit
  simp only [Formula.faces, Formula.pool_eq, ← blocks]
  exact ⟨rfl, left⟩

end Formula

section Cup

variable (lockstep : Lockstep related) {cup : Cup σ} {cup' : Cup τ}
  (start : cup.Related related cup')
include lockstep start

/-- With sources in lockstep a text is rolled alike, or refused with the same fault. -/
theorem rollFormula (text : String) :
    Agree (Cup.Related related) (Cup.rollFormula text cup) (Cup.rollFormula text cup') := by
  obtain ⟨source, limits⟩ := cup
  obtain ⟨source', _⟩ := cup'
  obtain ⟨rfl, start⟩ := start
  cases read : Formula.parse limits text with
  | error fault =>
    rw [Cup.rollFormula_of_error read, Cup.rollFormula_of_error read]
    exact ⟨rfl, rfl, start⟩
  | ok formula =>
    obtain ⟨faces, left⟩ := lockstep.faces start formula
    rw [Cup.rollFormula_of_ok read, Cup.rollFormula_of_ok read, faces]
    exact ⟨rfl, rfl, left⟩

/-- With sources in lockstep texts are rolled alike, up to the same fault if there is one. -/
theorem rollAll (texts : List String) :
    Agree (Cup.Related related) (Cup.rollAll texts cup) (Cup.rollAll texts cup') := by
  induction texts generalizing cup cup' with
  | nil => exact ⟨rfl, start⟩
  | cons text texts ih =>
    simp only [Cup.rollAll, List.mapM_cons]
    refine (lockstep.rollFormula start text).bind fun roll middle middle' after => ?_
    exact (ih after).bind fun rolls left left' finished => ⟨rfl, finished⟩

/-- With sources in lockstep a text is tallied alike, or refused with the same fault. -/
theorem tally (text condition : String) :
    Agree (Cup.Related related) (Cup.tally text condition cup)
      (Cup.tally text condition cup') := by
  cases read : Comparison.parse condition with
  | error fault =>
    rw [Cup.tally_of_error read, Cup.tally_of_error read]
    exact ⟨rfl, start⟩
  | ok comparison =>
    have rolls : Agree (Cup.Related related) (Cup.roll text cup) (Cup.roll text cup') :=
      lockstep.rollAll start (Formula.parts text)
    rw [Cup.tally_of_ok read, Cup.tally_of_ok read]
    exact ⟨congrArg (Except.map _) rolls.value_eq, rolls.related_left⟩

theorem die (sides : UInt32) :
    Agree (Cup.Related related) (cup.die sides) (cup'.die sides) := by
  obtain ⟨face, left⟩ := lockstep _ _ start.source sides
  exact ⟨face, start.limits_eq, left⟩

/-- With sources in lockstep every step has the same answer. -/
theorem take (step : Step) :
    Agree (Cup.Related related) (step.take cup) (step.take cup') := by
  cases step with
  | roll text => exact (lockstep.rollAll start (Formula.parts text)).map (Answer.ofExcept .rolls)
  | rollFormula text => exact (lockstep.rollFormula start text).map (Answer.ofExcept .roll)
  | tally text condition =>
    exact (lockstep.tally start text condition).map (Answer.ofExcept .tallies)
  | limit limits => exact ⟨rfl, rfl, start.source⟩
  | die sides => exact (lockstep.die start sides).map Answer.face

/-- With sources in lockstep all steps of a session have the same answers. -/
theorem session (steps : List Step) :
    List.Forall₂ (Agree (Cup.Related related)) (session steps cup) (session steps cup') := by
  induction steps generalizing cup cup' with
  | nil => exact .nil
  | cons step steps ih =>
    have taken := lockstep.take start step
    rw [session_cons, session_cons]
    exact .cons taken (ih taken.related_left)

end Cup

theorem interchangeable (lockstep : Lockstep related) (source : σ) (source' : τ)
    (start : related source source') : Interchangeable related source source' :=
  fun _ steps => lockstep.session ⟨rfl, start⟩ steps

end Lockstep
end Lockstep
end TabletopDice
