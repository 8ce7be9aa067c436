import TabletopDice.Cup

/-!
# Sessions

A session is a sequence of steps with one cup. A step that fails leaves the limits as they were and
does not end the session.
-/

namespace TabletopDice

/-- What can be done with a cup in a session: call it, set its limits, or throw a single die. -/
inductive Step where
  | roll (text : String)
  | rollFormula (text : String)
  | tally (text condition : String)
  | limit (limits : Limits)
  | die (sides : UInt32)
deriving DecidableEq

/-- What a step of a session comes to, each in the form of its call. -/
inductive Answer where
  | rolls (rolls : List Roll)
  | roll (roll : Roll)
  | tallies (tallies : List Tally)
  | limits (limits : Limits)
  | face (face : UInt32)
  | fault (fault : Fault)
deriving DecidableEq

/-- The answer that the outcome of a play stands for. -/
def Answer.ofExcept {α : Type} (answer : α → Answer) : Except Fault α → Answer
  | .ok value => answer value
  | .error reason => .fault reason

variable {σ : Type} [FaceSource σ]

/-- Takes a step: its answer, and the cup as it is left. -/
def Step.take (step : Step) (cup : Cup σ) : Answer × Cup σ :=
  match step with
  | .roll text => (Cup.roll text cup).map (Answer.ofExcept .rolls) id
  | .rollFormula text => (Cup.rollFormula text cup).map (Answer.ofExcept .roll) id
  | .tally text condition => (Cup.tally text condition cup).map (Answer.ofExcept .tallies) id
  | .limit limits => (.limits limits, { cup with limits })
  | .die sides => (cup.die sides).map .face id

/-- Takes the steps of a session in order: each answer, with the cup as its step leaves it. -/
def session : List Step → Cup σ → List (Answer × Cup σ)
  | [], _ => []
  | step :: steps, cup =>
    let (answer, cup) := step.take cup
    (answer, cup) :: session steps cup

end TabletopDice
