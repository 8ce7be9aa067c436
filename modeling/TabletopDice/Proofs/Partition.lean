import TabletopDice.Proofs.Picking

/-!
# Keeping and dropping

What is kept at one end of a pool and what is dropped there make up the sorted pool, whatever the
amount and however often a face occurs (`keep_and_drop_partition`). So to drop dice at one end is to
keep the others at the other end.
-/

namespace TabletopDice.Selection

/-- The lowest dice that are kept and those that are left without them make up the sorted pool. -/
theorem sorts_keep_append_drop (pool : List UInt32) (amount : UInt32) :
    Sorts ((keep .lowest amount).pick pool ++ (drop .lowest amount).pick pool) pool := by
  simp only [pick, keep, drop, List.take_append_drop]
  exact .mergeSort pool

/-- Those that are left without the highest dice and the highest that are kept make up the sorted
pool. -/
theorem sorts_drop_append_keep (pool : List UInt32) (amount : UInt32) :
    Sorts ((drop .highest amount).pick pool ++ (keep .highest amount).pick pool) pool := by
  simp only [pick, keep, drop, List.take_append_drop]
  exact .mergeSort pool

/-- Each die is either kept or dropped. -/
theorem pick_keep_append_pick_drop_perm (extreme : Extreme) (amount : UInt32)
    (pool : List UInt32) :
    ((keep extreme amount).pick pool ++ (drop extreme amount).pick pool).Perm pool := by
  cases extreme with
  | highest => exact List.perm_append_comm.trans (sorts_drop_append_keep pool amount).perm
  | lowest => exact (sorts_keep_append_drop pool amount).perm

/-- To drop dice at one end is to keep as many as are left at the other end. -/
theorem pick_drop_eq_pick_keep {pool : List UInt32} {amount rest : UInt32} (extreme : Extreme)
    (rest_eq : rest.toNat = pool.length - amount.toNat) :
    (drop extreme amount).pick pool = (keep extreme.other rest).pick pool := by
  have same_left : (drop extreme amount).left pool.length =
      (keep extreme.other rest).left pool.length := by
    simp only [left, drop, keep]
    omega
  exact pick_congr rfl same_left

/-- **Keep and drop.** Whatever a selection picks is ascending, and does not depend on the order of
the pool. The dice that are kept at an end and those that are dropped there are all of the pool in
ascending order, also if there are fewer dice than the amount; so dropping at one end is keeping at
the other. -/
theorem keep_and_drop_partition (pool : List UInt32) (amount : UInt32) :
    let taken := min amount.toNat pool.length
    (∀ choice extreme,
      let selection : Selection := { choice, extreme, amount }
      (selection.pick pool).Pairwise (· ≤ ·) ∧
        ∀ other : List UInt32, other.Perm pool → selection.pick other = selection.pick pool) ∧
    Sorts ((keep .lowest amount).pick pool ++ (drop .lowest amount).pick pool) pool ∧
    Sorts ((drop .highest amount).pick pool ++ (keep .highest amount).pick pool) pool ∧
    ∀ extreme,
      ((keep extreme amount).pick pool).length = taken ∧
      ((drop extreme amount).pick pool).length = pool.length - taken ∧
      (pool.length < UInt32.size → (drop extreme amount).pick pool =
        (keep extreme.other (.ofNat (pool.length - taken))).pick pool) := by
  intro taken
  refine ⟨fun choice extreme => ⟨pairwise_pick _ pool, fun other same => pick_of_perm same _⟩,
    sorts_keep_append_drop pool amount, sorts_drop_append_keep pool amount, fun extreme => ?_⟩
  have rest_eq : pool.length - taken = pool.length - amount.toNat := by omega
  refine ⟨length_pick_of_keep rfl pool, ?_, fun fits => ?_⟩
  · rw [rest_eq]
    exact length_pick_of_drop rfl pool
  · apply pick_drop_eq_pick_keep
    rw [rest_eq]
    exact UInt32.toNat_ofNat_of_lt' (Nat.lt_of_le_of_lt (Nat.sub_le ..) fits)

/-- The two highest of five dice, of which two show the same, do not depend on the order of the
pool, and dropping them leaves the three lowest. -/
theorem keep_and_drop_partition_two_of_five :
    let pool : List UInt32 := [5, 1, 6, 2, 5]
    (pool.length < UInt32.size ∧ List.Perm [6, 5, 5, 2, 1] pool) ∧
      (keep .highest 2).pick [6, 5, 5, 2, 1] = (keep .highest 2).pick pool ∧
      (keep .highest 2).pick pool = [5, 6] ∧
      (drop .highest 2).pick pool =
        (keep .lowest (.ofNat (pool.length - min (2 : UInt32).toNat pool.length))).pick pool ∧
      (drop .highest 2).pick pool = [1, 2, 5] := by
  intro pool
  have fits : pool.length < UInt32.size := by decide
  have same : List.Perm [6, 5, 5, 2, 1] pool := by decide
  have sorted : pool.mergeSort = [1, 2, 5, 5, 6] :=
    (Sorts.mergeSort pool).unique ⟨by decide, by decide⟩
  obtain ⟨each, -, -, ends⟩ := keep_and_drop_partition pool 2
  refine ⟨⟨fits, same⟩, (each .keep .highest).2 _ same, ?_, (ends .highest).2.2 fits, ?_⟩
  · rw [pick_of_highest rfl, sorted]
    rfl
  · rw [pick_of_lowest rfl, sorted]
    rfl

end TabletopDice.Selection
