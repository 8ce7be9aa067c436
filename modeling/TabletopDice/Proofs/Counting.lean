import TabletopDice.Proofs.Accepted

/-!
# Counting what is left

The faces that meet a condition such as `>=5` are the highest of a pool, and those that meet `<5`
the lowest. So they lie together at one end of the sorted pool, and how many of them a selection
leaves can be told from their number alone (`successes_left`).
-/

namespace TabletopDice

namespace Extreme

theorem other_other (extreme : Extreme) : extreme.other.other = extreme := by
  cases extreme <;> rfl

/-- Of two extremes that differ, each is the other one. -/
theorem eq_other_of_ne {extreme extreme' : Extreme} (ne : extreme ≠ extreme') :
    extreme = extreme'.other := by
  cases extreme with
  | highest =>
    cases extreme' with
    | highest => exact absurd rfl ne
    | lowest => rfl
  | lowest =>
    cases extreme' with
    | highest => rfl
    | lowest => exact absurd rfl ne

end Extreme

section Front

variable {α : Type} {takes : α → Bool} {members : List α}

/-- If what is taken comes before all the rest, a front of the list has as much of it as it can. -/
theorem countP_take_of_front (front : members.Pairwise fun first later => takes later → takes first)
    (count : Nat) : (members.take count).countP takes = min count (members.countP takes) := by
  induction members generalizing count with
  | nil => simp only [List.take_nil, List.countP_nil, Nat.min_zero]
  | cons member members ih =>
    cases count with
    | zero => simp only [List.take_zero, List.countP_nil, Nat.zero_min]
    | succ count =>
      rw [List.take_succ_cons, List.countP_cons, List.countP_cons, ih front.of_cons]
      cases taken : takes member with
      | true =>
        simp only [↓reduceIte]
        omega
      | false =>
        have none_later : members.countP takes = 0 := by
          rw [List.countP_eq_zero]
          intro later there passes
          have passes := List.rel_of_pairwise_cons front there passes
          rw [taken] at passes
          cases passes
        simp only [none_later, Bool.false_eq_true, ↓reduceIte, Nat.add_zero, Nat.min_zero]

/-- What is taken in front of a place and behind it is all that is taken. -/
theorem countP_take_add_countP_drop (takes : α → Bool) (members : List α) (count : Nat) :
    (members.take count).countP takes + (members.drop count).countP takes =
      members.countP takes := by
  rw [← List.countP_append, List.take_append_drop]

/-- If those that pass are in front, dropping members drops them first. -/
theorem countP_drop_of_front (front : members.Pairwise fun first later => takes later → takes first)
    (count : Nat) : (members.drop count).countP takes = members.countP takes - count := by
  have whole := countP_take_add_countP_drop takes members count
  rw [countP_take_of_front front] at whole
  omega

/-- If what is taken comes behind all the rest, a back of the list has as much of it as it can. -/
theorem countP_drop_of_back (back : members.Pairwise fun first later => takes first → takes later)
    (count : Nat) : (members.drop count).countP takes =
      min (members.length - count) (members.countP takes) := by
  rw [← List.countP_reverse, List.reverse_drop,
    countP_take_of_front (List.pairwise_reverse.mpr back), List.countP_reverse]

/-- If those that pass are at the back, the front has those that are too many for the rest. -/
theorem countP_take_of_back (back : members.Pairwise fun first later => takes first → takes later)
    (count : Nat) : (members.take count).countP takes =
      members.countP takes - (members.length - count) := by
  have whole := countP_take_add_countP_drop takes members count
  rw [countP_drop_of_back back] at whole
  omega

end Front

namespace Comparator

variable {comparator : Comparator} {face face' target : UInt32}

/-- The end of the sorted pool at which the faces lie that the comparator takes. The faces that are
equal to the target may lie anywhere. -/
def favours? : Comparator → Option Extreme
  | equal => none
  | less | atMost => some .lowest
  | greater | atLeast => some .highest

/-- Where high faces are favoured, a higher one holds as well. -/
theorem holds_of_le (high : comparator.favours? = some .highest) (le : face ≤ face')
    (holds : comparator.holds face target) : comparator.holds face' target := by
  cases comparator with
  | equal => cases high
  | less => cases high
  | atMost => cases high
  | greater =>
    simp only [Comparator.holds, decide_eq_true_eq] at holds ⊢
    exact UInt32.lt_of_lt_of_le holds le
  | atLeast =>
    simp only [Comparator.holds, decide_eq_true_eq] at holds ⊢
    exact UInt32.le_trans holds le

/-- Where low faces are favoured, a lower one holds as well. -/
theorem holds_of_ge (low : comparator.favours? = some .lowest) (le : face ≤ face')
    (holds : comparator.holds face' target) : comparator.holds face target := by
  cases comparator with
  | equal => cases low
  | greater => cases low
  | atLeast => cases low
  | less =>
    simp only [Comparator.holds, decide_eq_true_eq] at holds ⊢
    exact UInt32.lt_of_le_of_lt le holds
  | atMost =>
    simp only [Comparator.holds, decide_eq_true_eq] at holds ⊢
    exact UInt32.le_trans le holds

end Comparator

section Ascending

variable {condition : Comparison} {faces : List UInt32}

/-- What a condition takes that favours the lowest end comes first in ascending order. -/
theorem Comparison.front_of_ascending (low : condition.comparator.favours? = some .lowest)
    (ascending : faces.Pairwise (· ≤ ·)) :
    faces.Pairwise fun first later => condition.takes later → condition.takes first :=
  ascending.imp fun le holds => Comparator.holds_of_ge low le holds

/-- In an ascending pool, where high faces are favoured, those that pass are at the back. -/
theorem Comparison.back_of_ascending (high : condition.comparator.favours? = some .highest)
    (ascending : faces.Pairwise (· ≤ ·)) :
    faces.Pairwise fun first later => condition.takes first → condition.takes later :=
  ascending.imp fun le holds => Comparator.holds_of_le high le holds

end Ascending

namespace Selection

variable {selection : Selection} {condition : Comparison} {favoured : Extreme}

/-- What a selection leaves at the end that a condition favours meets it as far as there is enough
that does. -/
theorem countP_pick_of_favoured (ordered : condition.comparator.favours? = some favoured)
    (same_end : selection.leftEnd = favoured) (pool : List UInt32) :
    (selection.pick pool).countP condition.takes =
      min (selection.left pool.length) (pool.countP condition.takes) := by
  obtain ⟨same, ascending⟩ := Sorts.mergeSort pool
  have few := selection.left_le pool.length
  cases favoured with
  | lowest =>
    have front := Comparison.front_of_ascending ordered ascending
    rw [pick_of_lowest same_end, countP_take_of_front front, same.countP_eq]
  | highest =>
    have back := Comparison.back_of_ascending ordered ascending
    rw [pick_of_highest same_end, countP_drop_of_back back, same.countP_eq, same.length_eq]
    omega

/-- What a selection leaves at the other end meets the condition only after all that does not. -/
theorem countP_pick_of_other (ordered : condition.comparator.favours? = some favoured)
    (other_end : selection.leftEnd = favoured.other) (pool : List UInt32) :
    (selection.pick pool).countP condition.takes =
      pool.countP condition.takes - (pool.length - selection.left pool.length) := by
  obtain ⟨same, ascending⟩ := Sorts.mergeSort pool
  cases favoured with
  | lowest =>
    have front := Comparison.front_of_ascending ordered ascending
    rw [pick_of_highest other_end, countP_drop_of_front front, same.countP_eq]
  | highest =>
    have back := Comparison.back_of_ascending ordered ascending
    rw [pick_of_lowest other_end, countP_take_of_back back, same.countP_eq, same.length_eq]

section Ordered

variable (ordered : condition.comparator.favours? = some favoured) (pool : List UInt32)
  (amount : UInt32)
include ordered

/-- Keeping at the favoured end keeps successes as long as there are any. -/
theorem countP_keep_favoured : ((keep favoured amount).pick pool).countP condition.takes =
    min (min amount.toNat pool.length) (pool.countP condition.takes) :=
  countP_pick_of_favoured ordered rfl pool

/-- Keeping at the other end keeps the successes that are too many for what is dropped. -/
theorem countP_keep_other : ((keep favoured.other amount).pick pool).countP condition.takes =
    pool.countP condition.takes - (pool.length - min amount.toNat pool.length) :=
  countP_pick_of_other ordered rfl pool

/-- Dropping at the other end drops successes only when there is nothing else left. -/
theorem countP_drop_other : ((drop favoured.other amount).pick pool).countP condition.takes =
    min (pool.length - min amount.toNat pool.length) (pool.countP condition.takes) := by
  have same_end : (drop favoured.other amount).leftEnd = favoured := favoured.other_other
  rw [countP_pick_of_favoured ordered same_end]
  simp only [left, drop]
  omega

/-- Dropping at the favoured end drops successes first. -/
theorem countP_drop_favoured : ((drop favoured amount).pick pool).countP condition.takes =
    pool.countP condition.takes - min amount.toNat pool.length := by
  have few : pool.countP condition.takes ≤ pool.length := List.countP_le_length
  rw [countP_pick_of_other ordered rfl]
  simp only [left, drop]
  omega

end Ordered

/-- How many dice that meet a condition are left by a selection of so many dice, among which so many
meet it, where the condition favours this end. -/
def successes (selection : Selection) (favoured : Extreme) (dice passing : Nat) : Nat :=
  let taken := min selection.amount.toNat dice
  match selection.choice with
  | .keep => if selection.extreme = favoured then min taken passing else passing - (dice - taken)
  | .drop => if selection.extreme = favoured then passing - taken else min (dice - taken) passing

/-- How many successes a selection leaves depends on how many there are, and among how many
faces. -/
theorem countP_pick (ordered : condition.comparator.favours? = some favoured)
    (selection : Selection) (pool : List UInt32) :
    (selection.pick pool).countP condition.takes =
      selection.successes favoured pool.length (pool.countP condition.takes) := by
  obtain ⟨choice, extreme, amount⟩ := selection
  by_cases same : extreme = favoured
  · subst same
    cases choice with
    | keep =>
      simp only [successes, ↓reduceIte]
      exact countP_keep_favoured ordered pool amount
    | drop =>
      simp only [successes, ↓reduceIte]
      exact countP_drop_favoured ordered pool amount
  · obtain rfl : extreme = favoured.other := Extreme.eq_other_of_ne same
    cases choice with
    | keep =>
      simp only [successes, same, ↓reduceIte]
      exact countP_keep_other ordered pool amount
    | drop =>
      simp only [successes, same, ↓reduceIte]
      exact countP_drop_other ordered pool amount

end Selection

/-- **Successes after a selection.** If a condition sets faces above or below its target, then how
many faces that meet it are left by a selection depends only on how many there were: at the end that
the condition favours they are kept or dropped first, and at the other end last. So it is with the
successes in a tally, which come from the pool of its formula. -/
theorem successes_left {condition : Comparison} {favoured : Extreme}
    (ordered : condition.comparator.favours? = some favoured) :
    (∀ (pool : List UInt32) (amount : UInt32),
      let taken := min amount.toNat pool.length
      let passing := pool.countP condition.takes
      ((Selection.keep favoured amount).pick pool).countP condition.takes = min taken passing ∧
      ((Selection.keep favoured.other amount).pick pool).countP condition.takes =
        passing - (pool.length - taken) ∧
      ((Selection.drop favoured.other amount).pick pool).countP condition.takes =
        min (pool.length - taken) passing ∧
      ((Selection.drop favoured amount).pick pool).countP condition.takes = passing - taken) ∧
    ∀ {σ : Type} [FaceSource σ] (formula : Formula) (source : σ) (written : String),
      let pool := (formula.pool source).1
      let passing := pool.countP condition.takes
      let roll := Roll.ofFaces written (formula.faces source).1 formula.modifier
      (roll.tally condition).successes =
        formula.selection.elim passing (·.successes favoured pool.length passing) := by
  refine ⟨fun pool amount => ⟨Selection.countP_keep_favoured ordered pool amount,
    Selection.countP_keep_other ordered pool amount,
    Selection.countP_drop_other ordered pool amount,
    Selection.countP_drop_favoured ordered pool amount⟩, fun formula source written => ?_⟩
  intro pool passing roll
  change (formula.select pool).countP condition.takes = _
  cases found : formula.selection with
  | none => rw [Formula.select_of_none found, Option.elim_none]
  | some selection =>
    rw [Formula.select_of_some found, Selection.countP_pick ordered, Option.elim_some]

/-- Three of five dice meet the condition. So many of them are left by each of the selections, and
with ten dice to drop there is nothing left. -/
theorem successes_left_three_of_five :
    let condition : Comparison := { comparator := .atLeast, target := 5 }
    let pool : List UInt32 := [5, 1, 6, 2, 5]
    condition.comparator.favours? = some .highest ∧ pool.countP condition.takes = 3 ∧
      ((Selection.keep .highest 2).pick pool).countP condition.takes = 2 ∧
      ((Selection.keep .lowest 4).pick pool).countP condition.takes = 2 ∧
      ((Selection.drop .lowest 10).pick pool).countP condition.takes = 0 ∧
      ((Selection.drop .highest 1).pick pool).countP condition.takes = 2 := by
  intro condition pool
  have ordered : condition.comparator.favours? = some .highest := rfl
  have counts := (successes_left ordered).1 pool
  exact ⟨ordered, rfl, (counts 2).1, (counts 4).2.1, (counts 10).2.2.1, (counts 1).2.2.2⟩

end TabletopDice
