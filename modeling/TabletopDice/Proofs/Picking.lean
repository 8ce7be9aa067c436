import Mathlib.Data.List.Sort
import TabletopDice.Selection

/-!
# What a selection picks

A selection picks from one end of the sorted pool, so the faces that it leaves are faces of the pool
in ascending order. How many there are depends on its choice and its amount only, and which faces
they are depends only on how many and on the end from which they are left (`pick_congr`).
-/

namespace TabletopDice

/-- The other end of the sorted pool. -/
def Extreme.other : Extreme → Extreme
  | highest => lowest
  | lowest => highest

/-- The list has the faces of the pool, in ascending order. -/
structure Sorts (sorted pool : List UInt32) : Prop where
  perm : sorted.Perm pool
  ascending : sorted.Pairwise (· ≤ ·)

namespace Sorts

variable {sorted sorted' pool : List UInt32}

theorem mergeSort (pool : List UInt32) : Sorts pool.mergeSort pool where
  perm := List.mergeSort_perm pool _
  ascending := pool.pairwise_mergeSort' (· ≤ ·)

/-- There is one way only to sort a pool. -/
theorem unique (sorts : Sorts sorted pool) (sorts' : Sorts sorted' pool) : sorted = sorted' :=
  (sorts.perm.trans sorts'.perm.symm).eq_of_pairwise' sorts.ascending sorts'.ascending

theorem of_perm {other : List UInt32} (sorts : Sorts sorted other) (same : other.Perm pool) :
    Sorts sorted pool :=
  ⟨sorts.perm.trans same, sorts.ascending⟩

end Sorts

namespace Selection

/-- Keeps so many dice at one end. -/
def keep (extreme : Extreme) (amount : UInt32) : Selection :=
  { choice := .keep, extreme, amount }

/-- Drops so many dice at one end. -/
def drop (extreme : Extreme) (amount : UInt32) : Selection :=
  { choice := .drop, extreme, amount }

variable {selection : Selection} {pool : List UInt32}

/-- What is left of a pool is some of its faces, in ascending order. -/
theorem pick_sublist (selection : Selection) (pool : List UInt32) :
    (selection.pick pool).Sublist pool.mergeSort := by
  obtain ⟨choice, extreme, amount⟩ := selection
  cases choice <;> cases extreme
  · exact List.drop_sublist _ _
  · exact List.take_sublist _ _
  · exact List.take_sublist _ _
  · exact List.drop_sublist _ _

theorem mem_of_mem_pick {face : UInt32} (member : face ∈ selection.pick pool) : face ∈ pool :=
  List.mem_mergeSort.mp ((selection.pick_sublist pool).subset member)

theorem pairwise_pick (selection : Selection) (pool : List UInt32) :
    (selection.pick pool).Pairwise (· ≤ ·) := by
  exact (Sorts.mergeSort pool).ascending.sublist (selection.pick_sublist pool)

/-- A selection that keeps dice keeps as many as it says, or all of them. -/
theorem length_pick_of_keep (keeps : selection.choice = .keep) (pool : List UInt32) :
    (selection.pick pool).length = min selection.amount.toNat pool.length := by
  obtain ⟨choice, extreme, amount⟩ := selection
  obtain rfl : choice = .keep := keeps
  cases extreme with
  | highest =>
    simp only [pick, List.length_drop, List.length_mergeSort]
    omega
  | lowest => simp only [pick, List.length_take, List.length_mergeSort]

/-- A selection that drops dice drops as many as it says, or all of them. -/
theorem length_pick_of_drop (drops : selection.choice = .drop) (pool : List UInt32) :
    (selection.pick pool).length = pool.length - selection.amount.toNat := by
  obtain ⟨choice, extreme, amount⟩ := selection
  obtain rfl : choice = .drop := drops
  cases extreme with
  | highest =>
    simp only [pick, List.length_take, List.length_mergeSort]
    omega
  | lowest => simp only [pick, List.length_drop, List.length_mergeSort]

/-- How many of so many faces the selection leaves. -/
def left (selection : Selection) (count : Nat) : Nat :=
  match selection.choice with
  | .keep => min selection.amount.toNat count
  | .drop => count - selection.amount.toNat

/-- How many faces are left depends on their number alone. -/
theorem length_pick (selection : Selection) (pool : List UInt32) :
    (selection.pick pool).length = selection.left pool.length := by
  cases choice : selection.choice with
  | keep => rw [length_pick_of_keep choice, left, choice]
  | drop => rw [length_pick_of_drop choice, left, choice]

/-- No selection makes a pool longer. -/
theorem left_le (selection : Selection) (count : Nat) : selection.left count ≤ count := by
  cases choice : selection.choice with
  | keep =>
    rw [left, choice]
    exact Nat.min_le_right ..
  | drop =>
    rw [left, choice]
    exact Nat.sub_le ..

/-- The end of the sorted pool from which faces are left: the one that the selection keeps, or the
one that it does not drop. -/
def leftEnd (selection : Selection) : Extreme :=
  match selection.choice with
  | .keep => selection.extreme
  | .drop => selection.extreme.other

/-- Where the lowest faces are left, they are the front of the sorted pool. -/
theorem pick_of_lowest (low : selection.leftEnd = .lowest) (pool : List UInt32) :
    selection.pick pool = pool.mergeSort.take (selection.left pool.length) := by
  obtain ⟨choice, extreme, amount⟩ := selection
  cases choice <;> cases extreme
  case keep.lowest =>
    simp only [pick, left]
    rw [List.take_eq_take_min, List.length_mergeSort]
  case drop.highest => simp only [pick, left, List.length_mergeSort]
  case keep.highest => cases low
  case drop.lowest => cases low

/-- Where the highest faces are left, they are the end of the sorted pool. -/
theorem pick_of_highest (high : selection.leftEnd = .highest) (pool : List UInt32) :
    selection.pick pool =
      pool.mergeSort.drop (pool.length - selection.left pool.length) := by
  obtain ⟨choice, extreme, amount⟩ := selection
  cases choice <;> cases extreme
  case keep.highest =>
    simp only [pick, left, List.length_mergeSort]
    congr 1
    omega
  case drop.lowest =>
    simp only [pick, left]
    rw [List.drop_eq_drop_iff, List.length_mergeSort]
    omega
  case keep.lowest => cases high
  case drop.highest => cases high

/-- Selections that leave as many faces from the same end leave the same faces. -/
theorem pick_congr {other : Selection} (same_end : selection.leftEnd = other.leftEnd)
    (same_left : selection.left pool.length = other.left pool.length) :
    selection.pick pool = other.pick pool := by
  cases found : selection.leftEnd with
  | lowest =>
    rw [pick_of_lowest found, pick_of_lowest (same_end.symm.trans found), same_left]
  | highest =>
    rw [pick_of_highest found, pick_of_highest (same_end.symm.trans found), same_left]

/-- The order of the pool makes no difference to a selection. -/
theorem pick_of_perm {other : List UInt32} (same : other.Perm pool) (selection : Selection) :
    selection.pick other = selection.pick pool := by
  have sorted : other.mergeSort = pool.mergeSort :=
    ((Sorts.mergeSort other).of_perm same).unique (Sorts.mergeSort pool)
  simp only [pick, sorted]

end Selection
end TabletopDice
