import Mathlib.Data.List.DropRight
import TabletopDice.Proofs.Picking

/-!
# Selections one after another

What a selection has left is in ascending order, so a second selection has nothing to sort and goes
on counting from an end. Two selections that leave faces at the same end are as good as one
(`pick_pick`), and dice that are dropped at the one end have nothing to do with those that are
dropped at the other.
-/

namespace TabletopDice.Selection

variable {first second both selection : Selection} {pool : List UInt32}

/-- There is nothing to sort in what a selection has left. -/
theorem mergeSort_pick (selection : Selection) (pool : List UInt32) :
    (selection.pick pool).mergeSort = selection.pick pool :=
  (Sorts.mergeSort _).unique ⟨.refl _, selection.pairwise_pick pool⟩

/-- Two selections that leave faces at the same end are one that leaves as many as both. -/
theorem pick_pick (same_end : second.leftEnd = first.leftEnd)
    (both_end : both.leftEnd = first.leftEnd)
    (both_left : both.left pool.length = second.left (first.left pool.length)) :
    second.pick (first.pick pool) = both.pick pool := by
  have fewer := second.left_le (first.left pool.length)
  have few := first.left_le pool.length
  cases found : first.leftEnd with
  | lowest =>
    rw [pick_of_lowest (same_end.trans found), mergeSort_pick, length_pick, pick_of_lowest found,
      pick_of_lowest (both_end.trans found), both_left, List.take_take, Nat.min_eq_left fewer]
  | highest =>
    rw [pick_of_highest (same_end.trans found), mergeSort_pick, length_pick,
      pick_of_highest found, pick_of_highest (both_end.trans found), both_left, List.drop_drop]
    congr 1
    omega

/-- A selection that leaves all faces of an ascending pool leaves the pool as it is. -/
theorem pick_eq_self (ascending : pool.Pairwise (· ≤ ·))
    (all : selection.left pool.length = pool.length) : selection.pick pool = pool := by
  have sorted : pool.mergeSort = pool :=
    (Sorts.mergeSort pool).unique ⟨.refl pool, ascending⟩
  have sub := selection.pick_sublist pool
  rw [sorted] at sub
  apply sub.eq_of_length
  rw [length_pick, all]

/-- Keeping twice at the same end is keeping the lesser amount. -/
theorem pick_keep_keep (extreme : Extreme) (amount more : UInt32) (pool : List UInt32) :
    (keep extreme more).pick ((keep extreme amount).pick pool) =
      (keep extreme (min amount more)).pick pool := by
  have least : (min amount more).toNat = min amount.toNat more.toNat := UInt32.toNat_min ..
  have both_left : (keep extreme (min amount more)).left pool.length =
      (keep extreme more).left ((keep extreme amount).left pool.length) := by
    simp only [left, keep, least]
    omega
  exact pick_pick rfl rfl both_left

/-- Dropping twice at the same end is dropping both amounts together. -/
theorem pick_drop_drop (extreme : Extreme) {amount more : UInt32}
    (fits : amount.toNat + more.toNat < UInt32.size) (pool : List UInt32) :
    (drop extreme more).pick ((drop extreme amount).pick pool) =
      (drop extreme (amount + more)).pick pool := by
  have sum : (amount + more).toNat = amount.toNat + more.toNat := by
    rw [UInt32.toNat_add, Nat.mod_eq_of_lt fits]
  have both_left : (drop extreme (amount + more)).left pool.length =
      (drop extreme more).left ((drop extreme amount).left pool.length) := by
    simp only [left, drop, sum]
    omega
  exact pick_pick rfl rfl both_left

/-- No dice are left when two selections drop all of them between them, at whichever ends. -/
theorem pick_drop_drop_eq_nil (extreme other : Extreme) {amount more : UInt32}
    (all : pool.length ≤ amount.toNat + more.toNat) :
    (drop other more).pick ((drop extreme amount).pick pool) = [] := by
  apply List.eq_nil_of_length_eq_zero
  rw [length_pick_of_drop rfl, length_pick_of_drop rfl]
  simp only [drop]
  omega

/-- Dropping the lowest cuts the sorted pool at its front. -/
theorem pick_drop_lowest (amount : UInt32) (pool : List UInt32) :
    (drop .lowest amount).pick pool = pool.mergeSort.drop amount.toNat := rfl

/-- Dropping the highest cuts the sorted pool at its end. -/
theorem pick_drop_highest (amount : UInt32) (pool : List UInt32) :
    (drop .highest amount).pick pool = pool.mergeSort.rdrop amount.toNat := rfl

/-- **Selections one after another.** To keep dice at one end twice is to keep the fewer of them,
and to drop dice at one end twice is to drop as many as both times together. What is dropped at the
lowest end and at the highest end is missing in ascending order from the front and from the back, in
whichever order the two are dropped. Nothing is left where both amounts together are as many as the
dice, and to keep all dice of an ascending pool changes nothing. -/
theorem pick_one_after_another (pool : List UInt32) (amount more : UInt32) :
    (∀ extreme,
      (keep extreme more).pick ((keep extreme amount).pick pool) =
          (keep extreme (min amount more)).pick pool ∧
        (keep extreme amount).pick ((keep extreme amount).pick pool) =
          (keep extreme amount).pick pool ∧
        (amount.toNat + more.toNat < UInt32.size →
          (drop extreme more).pick ((drop extreme amount).pick pool) =
            (drop extreme (amount + more)).pick pool) ∧
        (pool.length ≤ amount.toNat + more.toNat →
          (drop extreme more).pick ((drop extreme amount).pick pool) = []) ∧
        (pool.Pairwise (· ≤ ·) → pool.length ≤ amount.toNat →
          (keep extreme amount).pick pool = pool)) ∧
    let between := (pool.mergeSort.drop amount.toNat).rdrop more.toNat
    (drop .highest more).pick ((drop .lowest amount).pick pool) = between ∧
      (drop .lowest amount).pick ((drop .highest more).pick pool) = between ∧
      (pool.length ≤ amount.toNat + more.toNat → between = []) := by
  have upper_last : (drop .highest more).pick ((drop .lowest amount).pick pool) =
      (pool.mergeSort.drop amount.toNat).rdrop more.toNat := by
    rw [pick_drop_highest, mergeSort_pick, pick_drop_lowest]
  have lower_last : (drop .lowest amount).pick ((drop .highest more).pick pool) =
      (pool.mergeSort.drop amount.toNat).rdrop more.toNat := by
    rw [pick_drop_lowest, mergeSort_pick, pick_drop_highest, List.rdrop, List.rdrop,
      List.drop_take, List.length_drop, Nat.sub_right_comm]
  refine ⟨fun extreme => ⟨pick_keep_keep extreme amount more pool, ?_,
    fun fits => pick_drop_drop extreme fits pool, pick_drop_drop_eq_nil extreme extreme,
    fun ascending enough => ?_⟩, upper_last, lower_last, fun all => ?_⟩
  · rw [pick_keep_keep, Std.min_self]
  · exact pick_eq_self ascending (Nat.min_eq_right enough)
  · rw [← upper_last]
    exact pick_drop_drop_eq_nil .lowest .highest all

/-- Dropping one die after three others is dropping four. Amounts that are too great together for a
word leave nothing, and keeping all of a sorted pool changes nothing. -/
theorem pick_one_after_another_drop_three :
    let pool : List UInt32 := [5, 1, 6, 2, 5]
    let sorted : List UInt32 := [1, 2, 5, 5, 6]
    ((3 : UInt32).toNat + (1 : UInt32).toNat < UInt32.size ∧
        (drop .lowest 1).pick ((drop .lowest 3).pick pool) = (drop .lowest (3 + 1)).pick pool ∧
        (drop .lowest (3 + 1)).pick pool = [6]) ∧
      (pool.length ≤ (3 : UInt32).toNat + (4294967295 : UInt32).toNat ∧
        (drop .highest 4294967295).pick ((drop .highest 3).pick pool) = [] ∧
        (pool.mergeSort.drop (3 : UInt32).toNat).rdrop (4294967295 : UInt32).toNat = []) ∧
      (sorted.Pairwise (· ≤ ·) ∧ sorted.length ≤ (5 : UInt32).toNat ∧
        (keep .highest 5).pick sorted = sorted) := by
  intro pool sorted
  have fits : (3 : UInt32).toNat + (1 : UInt32).toNat < UInt32.size := by decide
  have all : pool.length ≤ (3 : UInt32).toNat + (4294967295 : UInt32).toNat := by decide
  have ascending : sorted.Pairwise (· ≤ ·) := by decide
  have enough : sorted.length ≤ (5 : UInt32).toNat := by decide
  have sorts : Sorts sorted pool := ⟨by decide, by decide⟩
  have one_left : (drop .lowest (3 + 1)).pick pool = [6] := by
    rw [pick_drop_lowest, (Sorts.mergeSort pool).unique sorts]
    rfl
  obtain ⟨one_more, -⟩ := pick_one_after_another pool 3 1
  obtain ⟨rest, between⟩ := pick_one_after_another pool 3 4294967295
  obtain ⟨whole, -⟩ := pick_one_after_another sorted 5 0
  exact ⟨⟨fits, (one_more .lowest).2.2.1 fits, one_left⟩,
    ⟨all, (rest .highest).2.2.2.1 all, between.2.2 all⟩,
    ascending, enough, (whole .highest).2.2.2.2 ascending enough⟩

end TabletopDice.Selection
