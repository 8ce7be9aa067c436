import TabletopDice.Comparison

/-!
# Triggers

A trigger says which faces set a reroll or an explosion off, and how often they may.
-/

namespace TabletopDice

/-- The faces that set something off, and how often they may. -/
structure Trigger where
  on : Comparison
  limit : UInt32
deriving DecidableEq

/-- The trigger's text, with its limit. -/
def Trigger.text (trigger : Trigger) : String :=
  s!"{trigger.on}L{trigger.limit}"

instance : ToString Trigger := ⟨Trigger.text⟩

end TabletopDice
