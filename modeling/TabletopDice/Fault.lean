/-!
# Faults

A call fails for one of two reasons: a text is not written as it has to be, or a formula that is
well written asks for dice that cannot be rolled.
-/

namespace TabletopDice

/-- The phrases of the language that have a form of their own. -/
inductive Phrase where
  | formula
  | reroll
  | explosion
  | condition
deriving DecidableEq

/-- What stands against rolling a well-written formula. -/
inductive Objection where
  /-- There are no dice, or the dice have no sides. -/
  | nonPositive
  /-- There are more dice than the limit in force allows. -/
  | tooManyDice (limit : UInt32)
  /-- The selection drops every die written, or more. -/
  | dropAll
  /-- The selection keeps more dice than are written. -/
  | keepTooMany
  /-- The selection keeps no die. -/
  | keepZero
deriving DecidableEq

/-- Why a call fails. -/
inductive Fault where
  /-- The text is not written as its phrase has to be. -/
  | malformed (phrase : Phrase) (text : String)
  /-- The formula is well written but cannot be rolled. -/
  | unrollable (objection : Objection)
deriving DecidableEq

/-- The sentence that tells the user of the objection. -/
def Objection.message : Objection → String
  | nonPositive => "Number of dice and number of sides must be positive."
  | tooManyDice limit => s!"Cannot roll more than {limit} dice at once."
  | dropAll => "Cannot drop all dice or more dice than were rolled."
  | keepTooMany => "Cannot keep more dice than were rolled."
  | keepZero => "Cannot keep zero dice."

/-- The sentence that tells the user of the fault; the text at fault is shown as it was written. -/
def Fault.message : Fault → String
  | malformed .formula text =>
    s!"Invalid dice notation: \"{text}\". Expected format like \"4d6r<2!>5kh3+5\"."
  | malformed .reroll text => s!"Invalid reroll syntax: \"{text}\""
  | malformed .explosion text => s!"Invalid explode syntax: \"{text}\""
  | malformed .condition text => s!"Invalid success condition: \"{text}\""
  | unrollable objection => objection.message

end TabletopDice
