import Mathlib.Algebra.Order.BigOperators.Group.List
import Mathlib.Algebra.Order.Ring.Nat
import Mathlib.Data.List.Forall2
import TabletopDice.Proofs.Partition

/-!
# The best and the worst dice

Of all ways to take so many dice from a pool, keeping the highest comes to the most pips and keeping
the lowest to the fewest, and not only in sum: in ascending order, die by die
(`keeping_is_extreme`). It is the same the other way round for the dice that are left when so many
are taken away.
-/

namespace TabletopDice

/-- How many pips the faces show together. -/
def pips (faces : List UInt32) : Nat :=
  (faces.map UInt32.toNat).sum

theorem pips_append (faces more : List UInt32) : pips (faces ++ more) = pips faces + pips more := by
  rw [pips, List.map_append, List.sum_append, pips, pips]

theorem pips_eq_of_perm {faces faces' : List UInt32} (same : faces.Perm faces') :
    pips faces = pips faces' :=
  (same.map _).sum_nat

/-- Faces that are higher place by place show more pips, or as many. -/
theorem pips_le_of_forall₂ {faces faces' : List UInt32}
    (each : List.Forall₂ (· ≤ ·) faces faces') : pips faces ≤ pips faces' := by
  apply List.Forall₂.sum_le_sum
  rw [List.forall₂_map_left_iff, List.forall₂_map_right_iff]
  exact each.imp fun _ _ => UInt32.le_iff_toNat_le.mp

section Sublist

variable {α : Type} {le : α → α → Prop} {chosen sorted : List α}

/-- No members that are chosen from an ascending list come before as many at its front. -/
theorem forall₂_take_of_sublist (refl : ∀ member, le member member)
    (ascending : sorted.Pairwise le) (sub : chosen.Sublist sorted) :
    List.Forall₂ le (sorted.take chosen.length) chosen := by
  induction sorted generalizing chosen with
  | nil =>
    rw [List.sublist_nil.mp sub]
    exact .nil
  | cons least sorted ih =>
    cases chosen with
    | nil => exact .nil
    | cons first chosen =>
      have head : le least first := by
        rcases List.mem_cons.mp (sub.subset List.mem_cons_self) with rfl | later
        · exact refl _
        · exact List.rel_of_pairwise_cons ascending later
      exact .cons head (ih ascending.of_cons sub.tail)

/-- At each place, what is chosen of a sorted list is below the end of the same length. -/
theorem forall₂_drop_of_sublist (refl : ∀ member, le member member)
    (ascending : sorted.Pairwise le) (sub : chosen.Sublist sorted) :
    List.Forall₂ le chosen (sorted.drop (sorted.length - chosen.length)) := by
  have descending : sorted.reverse.Pairwise (flip le) := List.pairwise_reverse.mpr ascending
  have front : List.Forall₂ (flip le) (sorted.reverse.take chosen.reverse.length)
      chosen.reverse := forall₂_take_of_sublist refl descending sub.reverse
  rw [List.length_reverse, List.take_reverse, List.forall₂_reverse_iff] at front
  exact front.flip

end Sublist

namespace Selection

variable {selection : Selection} {pool chosen sorted : List UInt32}

/-- Choosing from the pool is choosing from it in ascending order. -/
theorem sublist_of_sorts (sub : chosen.Subperm pool) (sorts : Sorts sorted chosen) :
    sorted.Sublist pool.mergeSort := by
  have sub : sorted.Subperm pool.mergeSort :=
    sorts.perm.subperm.trans (sub.trans (Sorts.mergeSort pool).perm.symm.subperm)
  exact List.sublist_of_subperm_of_pairwise sub sorts.ascending (Sorts.mergeSort pool).ascending

/-- No dice are lower than as many that are left from the lowest end. -/
theorem forall₂_pick_le (low : selection.leftEnd = .lowest) (sub : chosen.Subperm pool)
    (count : chosen.length = selection.left pool.length) (sorts : Sorts sorted chosen) :
    List.Forall₂ (· ≤ ·) (selection.pick pool) sorted := by
  rw [pick_of_lowest low, ← count, ← sorts.perm.length_eq]
  exact forall₂_take_of_sublist (fun _ => UInt32.le_refl _) (Sorts.mergeSort pool).ascending
    (sublist_of_sorts sub sorts)

/-- No dice are higher than as many that are left from the highest end. -/
theorem forall₂_le_pick (high : selection.leftEnd = .highest) (sub : chosen.Subperm pool)
    (count : chosen.length = selection.left pool.length) (sorts : Sorts sorted chosen) :
    List.Forall₂ (· ≤ ·) sorted (selection.pick pool) := by
  rw [pick_of_highest high, ← count, ← sorts.perm.length_eq,
    ← (Sorts.mergeSort pool).perm.length_eq]
  exact forall₂_drop_of_sublist (fun _ => UInt32.le_refl _) (Sorts.mergeSort pool).ascending
    (sublist_of_sorts sub sorts)

/-- No other choice of as many faces shows fewer pips than the lowest. -/
theorem pips_pick_le (low : selection.leftEnd = .lowest) (sub : chosen.Subperm pool)
    (count : chosen.length = selection.left pool.length) :
    pips (selection.pick pool) ≤ pips chosen := by
  rw [← pips_eq_of_perm (Sorts.mergeSort chosen).perm]
  exact pips_le_of_forall₂ (forall₂_pick_le low sub count (.mergeSort chosen))

/-- No other choice of as many faces shows more pips than the highest. -/
theorem pips_le_pick (high : selection.leftEnd = .highest) (sub : chosen.Subperm pool)
    (count : chosen.length = selection.left pool.length) :
    pips chosen ≤ pips (selection.pick pool) := by
  rw [← pips_eq_of_perm (Sorts.mergeSort chosen).perm]
  exact pips_le_of_forall₂ (forall₂_le_pick high sub count (.mergeSort chosen))

/-- What is left of a pool is a choice of its faces. -/
theorem pick_subperm (selection : Selection) (pool : List UInt32) :
    (selection.pick pool).Subperm pool :=
  (selection.pick_sublist pool).subperm.trans (Sorts.mergeSort pool).perm.subperm

/-- **The best and the worst dice.** Of all ways to choose so many dice from a pool, to keep the
lowest comes to the fewest pips and to keep the highest to the most, also die by die in ascending
order. Of all ways to take so many dice away, to drop the highest leaves the fewest pips and to drop
the lowest leaves the most. -/
theorem keeping_is_extreme (pool : List UInt32) (amount : UInt32) :
    let count := min amount.toNat pool.length
    let lowest := (keep .lowest amount).pick pool
    let highest := (keep .highest amount).pick pool
    (∀ extreme,
      ((keep extreme amount).pick pool).Subperm pool ∧
        ((keep extreme amount).pick pool).length = count ∧
        ((keep extreme amount).pick pool ++ (drop extreme amount).pick pool).Perm pool) ∧
    (∀ chosen : List UInt32, chosen.Subperm pool → chosen.length = count →
      (pips lowest ≤ pips chosen ∧ pips chosen ≤ pips highest) ∧
        ∀ sorted, Sorts sorted chosen →
          List.Forall₂ (· ≤ ·) lowest sorted ∧ List.Forall₂ (· ≤ ·) sorted highest) ∧
    ∀ taken rest : List UInt32, (taken ++ rest).Perm pool → taken.length = count →
      pips ((drop .highest amount).pick pool) ≤ pips rest ∧
        pips rest ≤ pips ((drop .lowest amount).pick pool) := by
  intro count lowest highest
  refine ⟨fun extreme => ⟨pick_subperm _ pool, length_pick_of_keep rfl pool,
    pick_keep_append_pick_drop_perm extreme amount pool⟩, fun chosen sub size => ?_,
    fun taken rest same size => ?_⟩
  · exact ⟨⟨pips_pick_le rfl sub size, pips_le_pick rfl sub size⟩, fun sorted sorts =>
      ⟨forall₂_pick_le rfl sub size sorts, forall₂_le_pick rfl sub size sorts⟩⟩
  · have sub : rest.Subperm pool :=
      (List.sublist_append_right taken rest).subperm.trans same.subperm
    have size' : rest.length = pool.length - amount.toNat := by
      have total := same.length_eq
      rw [List.length_append] at total
      omega
    exact ⟨pips_pick_le rfl sub size', pips_le_pick rfl sub size'⟩

/-- Any two of the five dice show at least the three pips of the lowest two and at most the eleven
of the highest two; so do the five and the two that are chosen here. -/
theorem keeping_is_extreme_two_of_five :
    let pool : List UInt32 := [5, 1, 6, 2, 5]
    (List.Subperm [5, 2] pool ∧ Sorts [2, 5] [5, 2] ∧ List.Perm ([5, 2] ++ [6, 1, 5]) pool) ∧
      pips ((keep .lowest 2).pick pool) = 3 ∧ pips ((keep .highest 2).pick pool) = 11 ∧
      (pips ((keep .lowest 2).pick pool) ≤ pips [5, 2] ∧
        pips [5, 2] ≤ pips ((keep .highest 2).pick pool)) ∧
      (List.Forall₂ (· ≤ ·) ((keep .lowest 2).pick pool) [2, 5] ∧
        List.Forall₂ (· ≤ ·) [2, 5] ((keep .highest 2).pick pool)) ∧
      pips ((drop .highest 2).pick pool) ≤ pips [6, 1, 5] ∧
      pips [6, 1, 5] ≤ pips ((drop .lowest 2).pick pool) := by
  intro pool
  have same : List.Perm ([5, 2] ++ [6, 1, 5]) pool := by decide
  have sub : List.Subperm [5, 2] pool :=
    (List.sublist_append_left [5, 2] [6, 1, 5]).subperm.trans same.subperm
  have sorts : Sorts [2, 5] [5, 2] := ⟨by decide, by decide⟩
  have sorted : pool.mergeSort = [1, 2, 5, 5, 6] :=
    (Sorts.mergeSort pool).unique ⟨by decide, by decide⟩
  obtain ⟨-, choices, removals⟩ := keeping_is_extreme pool 2
  obtain ⟨between, each⟩ := choices [5, 2] sub rfl
  refine ⟨⟨sub, sorts, same⟩, ?_, ?_, between, each [2, 5] sorts,
    removals [5, 2] [6, 1, 5] same rfl⟩
  · rw [pick_of_lowest rfl, sorted]
    rfl
  · rw [pick_of_highest rfl, sorted]
    rfl

end Selection
end TabletopDice
