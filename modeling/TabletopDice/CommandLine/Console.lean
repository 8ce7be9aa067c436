import TabletopDice.CommandLine.Request

/-!
# The console

The events of a run are written to a console. Printed lines go to its output; records and faults go
to its error output. Which of the records are shown there, and how, is a matter of the diagnostics,
which belong to the surroundings of the program: unless these ask for records in a way of their own,
it asks for warnings.
-/

namespace TabletopDice

/-- Something that texts can be written to, either as output or as error output. -/
class Console (m : Type → Type) where
  out : String → m Unit
  err : String → m Unit

instance : Console IO where
  out := IO.print
  err := IO.eprint

/-- All that was written to a console. -/
structure Streams where
  out : String := ""
  err : String := ""
deriving DecidableEq

instance : Console (StateM Streams) where
  out text := modify fun streams => { streams with out := streams.out ++ text }
  err text := modify fun streams => { streams with err := streams.err ++ text }

/-- How the surroundings of the program show records and faults. -/
structure Diagnostics where
  /-- The records that are asked for, if there is a directive for them that can be read. -/
  asked : Option (Record → Bool)
  /-- The records that a directive lets through. -/
  filter : (directive : String) → Record → Bool
  /-- The text of a record that is the event with this index. -/
  render : (index : Nat) → Record → String
  /-- What is shown behind the message of a fault. -/
  backtrace : String

/-- Whether a record is shown: as the surroundings ask, or else if it is a warning. -/
def Diagnostics.wants (diagnostics : Diagnostics) (record : Record) : Bool :=
  diagnostics.asked.getD (diagnostics.filter "warn") record

section Write

variable {m : Type → Type} [Monad m] [Console m]

/-- Writes what is seen of the event with this index. -/
def Event.write (diagnostics : Diagnostics) (index : Nat) : Event → m Unit
  | told record =>
    if diagnostics.wants record then Console.err (diagnostics.render index record) else pure ()
  | printed line => Console.out (line ++ "\n")
  | reported fault => Console.err s!"Error: {fault.message}{diagnostics.backtrace}\n"

/-- Writes the events of a transcript in order. -/
def Transcript.write (diagnostics : Diagnostics) (transcript : Transcript) : m Unit :=
  transcript.events.zipIdx.forM fun (event, index) => event.write diagnostics index

/-- Runs the request and writes what is seen of it: the code to exit with. -/
def Request.main {γ δ : Type} [FaceSource γ] [FaceSource δ] (request : Request)
    (generators : Generators γ δ) (diagnostics : Diagnostics) : m UInt32 := do
  let transcript := request.play generators
  transcript.write diagnostics
  return transcript.exitCode

end Write
end TabletopDice
