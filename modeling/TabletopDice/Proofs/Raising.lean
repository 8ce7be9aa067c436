import TabletopDice.Proofs.Counting
import TabletopDice.Proofs.Failure
import TabletopDice.Proofs.Totals

/-!
# Higher faces

A formula that neither rerolls nor explodes takes one face for each of its dice, whatever the faces
are. So a source that shows higher faces fills the pool with higher faces, place by place. Sorting
may move the faces of the two pools to different places, but for every target there are as many
faces that reach it or more, so in ascending order they are higher place by place again
(`Sorts.forall₂_le`). Then nothing that is picked from them is lower, and nor is the total.
-/

namespace TabletopDice

section Sorted

variable {sorted sorted' pool pool' : List UInt32}

/-- Higher faces reach a target in no fewer places. -/
theorem countP_le_of_forall₂ {condition : Comparison}
    (high : condition.comparator.favours? = some .highest)
    (each : List.Forall₂ (· ≤ ·) pool pool') :
    pool.countP condition.takes ≤ pool'.countP condition.takes := by
  induction each with
  | nil => exact Nat.le_refl _
  | @cons face face' pool pool' le _ ih =>
    rw [List.countP_cons, List.countP_cons]
    cases taken : condition.takes face with
    | true =>
      have taken' : condition.takes face' = true := Comparator.holds_of_le high le taken
      simp only [taken', ↓reduceIte, Nat.add_le_add_right ih 1]
    | false =>
      simp only [Bool.false_eq_true, ↓reduceIte, Nat.add_zero]
      exact Nat.le_add_right_of_le ih

/-- In ascending order, all faces from a place on reach the face at that place. -/
theorem Sorts.le_of_mem_drop (sorts : Sorts sorted pool) {place : Nat}
    (within : place < sorted.length) : ∀ face ∈ sorted.drop place, sorted[place] ≤ face := by
  have ascending := sorts.ascending.sublist (List.drop_sublist place sorted)
  rw [List.drop_eq_getElem_cons within] at ascending ⊢
  intro face there
  rcases List.mem_cons.mp there with rfl | later
  · exact UInt32.le_refl _
  · exact List.rel_of_pairwise_cons ascending later

/-- Pools of which the one is higher place by place are so in ascending order as well. -/
theorem Sorts.forall₂_le (sorts : Sorts sorted pool) (sorts' : Sorts sorted' pool')
    (each : List.Forall₂ (· ≤ ·) pool pool') : List.Forall₂ (· ≤ ·) sorted sorted' := by
  have length_eq : sorted.length = sorted'.length :=
    sorts.perm.length_eq.trans (each.length_eq.trans sorts'.perm.length_eq.symm)
  apply List.forall₂_of_length_eq_of_get length_eq
  intro place within within'
  -- As many faces of the higher pool reach this one, and in ascending order they are the last.
  let reaching : Comparison := { comparator := .atLeast, target := sorted[place] }
  have reach : (sorted.drop place).countP reaching.takes = (sorted.drop place).length := by
    rw [List.countP_eq_length]
    exact fun face there => decide_eq_true (sorts.le_of_mem_drop within face there)
  have enough : sorted.length - place ≤ sorted'.countP reaching.takes := by
    calc sorted.length - place = (sorted.drop place).countP reaching.takes := by
          rw [reach, List.length_drop]
      _ ≤ sorted.countP reaching.takes := (List.drop_sublist place sorted).countP_le
      _ = pool.countP reaching.takes := sorts.perm.countP_eq _
      _ ≤ pool'.countP reaching.takes := countP_le_of_forall₂ rfl each
      _ = sorted'.countP reaching.takes := (sorts'.perm.countP_eq _).symm
  have back : sorted'.Pairwise fun first later => reaching.takes first → reaching.takes later :=
    Comparison.back_of_ascending rfl sorts'.ascending
  have reach' : (sorted'.drop place).countP reaching.takes = (sorted'.drop place).length := by
    rw [countP_drop_of_back back, List.length_drop]
    omega
  have there : sorted'[place] ∈ sorted'.drop place := by
    rw [List.drop_eq_getElem_cons within']
    exact List.mem_cons_self
  exact of_decide_eq_true (List.countP_eq_length.mp reach' _ there)

/-- If the faces are higher place by place, so are those that are left, in ascending order. -/
theorem Selection.forall₂_pick (each : List.Forall₂ (· ≤ ·) pool pool')
    (selection : Selection) :
    List.Forall₂ (· ≤ ·) (selection.pick pool) (selection.pick pool') := by
  have sorted := (Sorts.mergeSort pool).forall₂_le (Sorts.mergeSort pool') each
  cases found : selection.leftEnd with
  | lowest =>
    rw [pick_of_lowest found, pick_of_lowest found, each.length_eq]
    exact List.forall₂_take _ sorted
  | highest =>
    rw [pick_of_highest found, pick_of_highest found, each.length_eq]
    exact List.forall₂_drop _ sorted

/-- If the faces are higher place by place, so are those that count. -/
theorem Formula.forall₂_select (each : List.Forall₂ (· ≤ ·) pool pool') (formula : Formula) :
    List.Forall₂ (· ≤ ·) (formula.select pool) (formula.select pool') := by
  cases found : formula.selection with
  | none => rwa [select_of_none found, select_of_none found]
  | some selection =>
    rw [select_of_some found, select_of_some found]
    exact selection.forall₂_pick each

end Sorted

/-- The face that a source shows at some place, counted from zero, if dice with so many sides are
thrown with it one after another. -/
def FaceSource.nth {σ : Type} [FaceSource σ] (sides : UInt32) (source : σ) (place : Nat) : UInt32 :=
  (face sides (after source (List.replicate place sides))).1

theorem FaceSource.nth_comp_succ {σ : Type} [FaceSource σ] (sides : UInt32) (source : σ) :
    nth sides source ∘ Nat.succ = nth sides (face sides source).2 := rfl

namespace Formula

variable {σ τ : Type} [FaceSource σ] [FaceSource τ] {formula : Formula}

/-- Without reroll and explosion a die shows one face. -/
theorem rollBlock_of_plain (unrerolled : formula.reroll = none)
    (unexploded : formula.explosion = none) (rerolls : Nat) (source : σ) :
    formula.rollBlock rerolls source =
      ({ first := FaceSource.nth formula.sides source 0, replacement := none, explosions := [] },
        (FaceSource.face formula.sides source).2) := by
  have never (face : UInt32) : formula.rerolls face = false := by
    rw [Formula.rerolls, unrerolled, Option.any_none]
  simp only [rollBlock, replacementFor, never, Bool.and_false, Bool.false_eq_true, ↓reduceIte,
    explosionLimit_of_none unexploded, explosionsFrom]
  rfl

/-- Without rerolls and explosions the pool has the faces that the source shows first. -/
theorem pool_of_plain (unrerolled : formula.reroll = none) (unexploded : formula.explosion = none)
    (source : σ) : (formula.pool source).1 =
      (List.range formula.quantity.toNat).map (FaceSource.nth formula.sides source) := by
  rw [pool_eq]
  dsimp only
  generalize formula.rerollLimit = rerolls
  induction formula.quantity.toNat generalizing rerolls source with
  | zero => rfl
  | succ quantity ih =>
    simp only [rollBlocks, rollBlock_of_plain unrerolled unexploded, List.flatMap_cons, ih,
      List.range_succ_eq_map, List.map_cons, List.map_map, FaceSource.nth_comp_succ]
    rfl

/-- **Higher faces.** If a formula neither rerolls nor explodes and one source shows faces for its
dice that are nowhere lower than those of another, then so are the faces of its pool and those that
count, which are as many, and the total is not less. -/
theorem higher_faces (unrerolled : formula.reroll = none) (unexploded : formula.explosion = none)
    (source : σ) (source' : τ)
    (higher : ∀ place < formula.quantity.toNat,
      FaceSource.nth formula.sides source place ≤ FaceSource.nth formula.sides source' place) :
    let faces := (formula.faces source).1
    let faces' := (formula.faces source').1
    List.Forall₂ (· ≤ ·) (formula.pool source).1 (formula.pool source').1 ∧
      faces.length = faces'.length ∧ List.Forall₂ (· ≤ ·) faces faces' ∧
      ∀ written, (Roll.ofFaces written faces formula.modifier).total ≤
        (Roll.ofFaces written faces' formula.modifier).total := by
  intro faces faces'
  have pools : List.Forall₂ (· ≤ ·) (formula.pool source).1 (formula.pool source').1 := by
    rw [pool_of_plain unrerolled unexploded, pool_of_plain unrerolled unexploded,
      List.forall₂_map_left_iff, List.forall₂_map_right_iff, List.forall₂_same]
    exact fun place within => higher place (List.mem_range.mp within)
  have each : List.Forall₂ (· ≤ ·) faces faces' := formula.forall₂_select pools
  exact ⟨pools, each.length_eq, each,
    fun _ => Roll.total_le_of_pips_le formula.modifier (pips_le_of_forall₂ each)⟩

/-- The faces are 5, 1 and 3 with the one source and 5, 4 and 3 with the other, so the two that are
kept are higher with the other, and so is the total. -/
theorem higher_faces_keep_two :
    let formula : Formula :=
      { quantity := 3, sides := 6, reroll := none, explosion := none
        selection := some (.keep .highest 2), modifier := -1 }
    let source : Replay := { draws := #[0.7, 0.1, 0.4] }
    let source' : Replay := { draws := #[0.8, 0.5, 0.4] }
    (formula.reroll = none ∧ formula.explosion = none ∧
        ∀ place < formula.quantity.toNat, FaceSource.nth formula.sides source place ≤
          FaceSource.nth formula.sides source' place) ∧
      List.Forall₂ (· ≤ ·) (formula.faces source).1 (formula.faces source').1 ∧
      (Roll.ofFaces "3d6kh2-1" (formula.faces source).1 formula.modifier).total ≤
        (Roll.ofFaces "3d6kh2-1" (formula.faces source').1 formula.modifier).total := by
  intro formula source source'
  have higher : ∀ place < formula.quantity.toNat, FaceSource.nth formula.sides source place ≤
      FaceSource.nth formula.sides source' place := by decide
  have unrerolled : formula.reroll = none := rfl
  obtain ⟨-, -, each, totals⟩ := higher_faces unrerolled rfl source source' higher
  exact ⟨⟨rfl, rfl, higher⟩, each, totals _⟩

end Formula
end TabletopDice
