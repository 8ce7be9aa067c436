import TabletopDice.Cup

/-!
# Requests

The values of the command line make a request. It is run with a source of chance, and what can be
seen of the run is a sequence of events: the records that tell of the work, the lines that are
printed, and the fault that ends the run, if one does. A run rolls as a cup does, and tells of it.
-/

namespace TabletopDice

/-- What the command line is asked for. -/
structure Request where
  /-- The text whose parts are rolled. -/
  text : String
  /-- The condition by which the faces are tallied, if they are not to be summed up. -/
  condition : Option String := none
  /-- The seed that makes the rolls reproducible, if there is one. -/
  seed : Option UInt64 := none
  limits : Limits := {}
deriving DecidableEq

/-- What can be seen of a run. -/
inductive Event where
  /-- A record is told to whoever listens. -/
  | told (record : Record)
  /-- A line is printed. -/
  | printed (line : String)
  /-- The fault that ends the run is reported. -/
  | reported (fault : Fault)
deriving DecidableEq

/-- A cup that is rolled with, and what has been seen of it so far. -/
structure Desk (σ : Type) where
  cup : Cup σ
  events : Array Event := #[]

/-- A play with a cup that is watched. -/
abbrev Watched (σ : Type) : Type → Type :=
  ExceptT Fault (StateM (Desk σ))

namespace Watched

variable {σ : Type}

/-- Has an event seen, behind those that were seen before it. -/
def emit (event : Event) : Watched σ Unit :=
  modify fun desk => { desk with events := desk.events.push event }

/-- Has events seen, one after another. -/
def emitAll (events : List Event) : Watched σ Unit :=
  events.forM emit

/-- Prints each of the values on a line of its own. -/
def printAll {α : Type} [ToString α] (values : List α) : Watched σ Unit :=
  emitAll (values.map fun value => .printed (toString value))

variable [FaceSource σ]

/-- Rolls the formula that the whole text states. Once it is read it is told of, then each reroll
and each explosion of its dice, and at last its total. -/
def rollFormula (text : String) : Watched σ Roll := do
  let { source, limits } := (← get).cup
  let formula ← Formula.parse limits text
  emit (.told (.parsed text formula))
  let tray := formula.rollOut source
  modify fun desk => { desk with cup.source := tray.source }
  emitAll (tray.log.toList.map .told)
  let roll := Roll.ofFaces text (formula.select tray.faces.toList) formula.modifier
  emit (.told (.rolled text roll.total))
  return roll

/-- Rolls each part of a compound text, from left to right. -/
def roll (text : String) : Watched σ (List Roll) :=
  (Formula.parts text).mapM rollFormula

/-- Rolls each part of a compound text and tallies its faces by a condition, which is read before
anything is rolled. -/
def tally (text condition : String) : Watched σ (List Tally) := do
  let condition ← Comparison.parse condition
  let rolls ← roll text
  return rolls.map (·.tally condition)

end Watched

/-- What was seen of a run from its start to its end, and the code that it ended with. -/
structure Transcript where
  events : List Event
  exitCode : UInt32
deriving DecidableEq

/-- The transcript of a run that has ended. A fault that ended it is reported. -/
def Transcript.ofRun {σ : Type} : Except Fault Unit × Desk σ → Transcript
  | (.ok (), desk) => { events := desk.events.toList, exitCode := 0 }
  | (.error fault, desk) => { events := desk.events.toList ++ [.reported fault], exitCode := 1 }

/-- The generators behind the command line: one for each seed, and one that needs no seed. -/
structure Generators (γ δ : Type) where
  seeded : UInt64 → γ
  unseeded : δ

namespace Request

/-- Runs the request: the parts of its text are rolled or tallied, and when all of them are, what
they come to is printed. -/
def run {σ : Type} [FaceSource σ] (request : Request) : Watched σ Unit :=
  match request.condition with
  | some condition => do
    let tallies ← Watched.tally request.text condition
    Watched.printAll tallies
  | none => do
    let rolls ← Watched.roll request.text
    Watched.printAll rolls

/-- Runs the request with a source, under its own limits. -/
def transcript {σ : Type} [FaceSource σ] (request : Request) (source : σ) : Transcript :=
  .ofRun (request.run { cup := { source, limits := request.limits } })

/-- Runs the request with the generator that its seed asks for. -/
def play {γ δ : Type} [FaceSource γ] [FaceSource δ] (request : Request)
    (generators : Generators γ δ) : Transcript :=
  match request.seed with
  | some seed => request.transcript (generators.seeded seed)
  | none => request.transcript generators.unseeded

end Request
end TabletopDice
