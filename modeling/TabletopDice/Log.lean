import TabletopDice.Formula.Basic

/-!
# The log

While formulas are read and rolled, records tell of the work. A record has a level, by which
listeners choose what they want to hear, and all records of this library are meant for those who
look for faults in it: none is above the level of debugging.
-/

namespace TabletopDice

/-- How urgent a record is, from what only a tracer wants to know up to errors. -/
inductive Level where
  | trace
  | debug
  | info
  | warn
  | error
deriving DecidableEq

/-- The place of a level, counted from the least urgent one. -/
def Level.rank : Level → Nat
  | trace => 0
  | debug => 1
  | info => 2
  | warn => 3
  | error => 4

instance : LE Level := ⟨fun level level' => level.rank ≤ level'.rank⟩

instance (level level' : Level) : Decidable (level ≤ level') :=
  inferInstanceAs (Decidable (level.rank ≤ level'.rank))

theorem Level.le_refl (level : Level) : level ≤ level :=
  Nat.le_refl level.rank

/-- What is told about one thing that has been done: its fields are named, each with its value as a
text. -/
structure Record where
  level : Level
  message : String
  fields : List (String × String)
deriving DecidableEq

namespace Record

/-- The text was read as this formula, and there is no objection against it. -/
def parsed (text : String) (formula : Formula) : Record where
  level := .debug
  message := "parsed dice expression"
  fields := [("notation", text), ("parsed", toString formula)]

/-- A die showed a face that was rerolled, and so many rerolls are left. -/
def rerolled (face replacement : UInt32) (left : Nat) : Record where
  level := .trace
  message := "rerolled die"
  fields := [("from", toString face), ("to", toString replacement), ("remaining", toString left)]

/-- A die exploded and went on to this face. -/
def exploded (face : UInt32) : Record where
  level := .trace
  message := "die exploded"
  fields := [("value", toString face)]

/-- The formula of the text came to this total. -/
def rolled (text : String) (total : Int64) : Record where
  level := .debug
  message := "rolled dice expression"
  fields := [("notation", text), ("total", toString total)]

end Record
end TabletopDice
