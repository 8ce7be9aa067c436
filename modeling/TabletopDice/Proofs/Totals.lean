import TabletopDice.Proofs.Extremes
import TabletopDice.Roll

/-!
# Totals

A total is a 64-bit number that goes no further when it has come to the greatest of them. Faces can
only be added to it, so it never leaves that number again: a total is the modifier together with the
pips of all faces, or the greatest number if that is less (`toInt_total`). So neither the order of
the faces matters nor where the adding is interrupted (`total_clamped_once`).
-/

namespace TabletopDice.Roll

/-- No face takes a total below the least number. -/
theorem minValue_le_add (total : Int64) (face : UInt32) :
    Int64.minValue.toInt ≤ total.toInt + face.toNat := by
  have lowest := total.le_toInt
  rw [Int64.toInt_minValue]
  omega

/-- Adding a face stops at the greatest number. -/
theorem toInt_addFace (total : Int64) (face : UInt32) :
    (addFace total face).toInt = min (2 ^ 63 - 1) (total.toInt + face.toNat) := by
  have above := minValue_le_add total face
  rw [addFace, Int64.ofIntClamp, dif_pos above, ← Int64.toInt_maxValue]
  by_cases fits : total.toInt + face.toNat ≤ Int64.maxValue.toInt
  · rw [dif_pos fits, Int64.toInt_ofIntLE, min_eq_right fits]
  · rw [dif_neg fits, min_eq_left (Int.le_of_not_le fits)]

/-- Stopping at the greatest number after every face is stopping there once. -/
theorem toInt_total (written : String) (faces : List UInt32) (modifier : Int64) :
    (ofFaces written faces modifier).total.toInt =
      min (2 ^ 63 - 1) (modifier.toInt + pips faces) := by
  change (faces.foldl addFace modifier).toInt = _
  induction faces generalizing modifier with
  | nil =>
    have small := modifier.toInt_lt
    simp only [List.foldl_nil, pips, List.map_nil, List.sum_nil]
    omega
  | cons face faces ih =>
    have sum : pips (face :: faces) = face.toNat + pips faces := List.sum_cons
    rw [List.foldl_cons, ih, toInt_addFace, sum]
    omega

/-- A total that has room for all pips is exact. -/
theorem toInt_total_of_le {faces : List UInt32} {modifier : Int64}
    (room : modifier.toInt + pips faces ≤ 2 ^ 63 - 1) (written : String) :
    (ofFaces written faces modifier).total.toInt = modifier.toInt + pips faces := by
  rw [toInt_total, min_eq_right room]

/-- More pips never make the total less. -/
theorem total_le_of_pips_le {written written' : String} {faces faces' : List UInt32}
    (modifier : Int64) (fewer : pips faces ≤ pips faces') :
    (ofFaces written faces modifier).total ≤ (ofFaces written' faces' modifier).total := by
  rw [Int64.le_iff_toInt_le, toInt_total, toInt_total]
  omega

/-- The order of the faces does not matter for the total. -/
theorem total_eq_of_perm {faces faces' : List UInt32} (same : faces.Perm faces')
    (written : String) (modifier : Int64) :
    (ofFaces written faces modifier).total = (ofFaces written faces' modifier).total := by
  apply Int64.toInt_inj.mp
  rw [toInt_total, toInt_total, pips_eq_of_perm same]

/-- A total is added up in two goes: that of the first faces is the modifier of the others. -/
theorem total_append (written : String) (faces more : List UInt32) (modifier : Int64) :
    (ofFaces written (faces ++ more) modifier).total =
      (ofFaces written more (ofFaces written faces modifier).total).total :=
  List.foldl_append

/-- More faces never make a total lower. -/
theorem total_le_append (written : String) (faces more : List UInt32) (modifier : Int64) :
    (ofFaces written faces modifier).total ≤ (ofFaces written (faces ++ more) modifier).total := by
  apply total_le_of_pips_le
  rw [pips_append]
  exact Nat.le_add_right ..

/-- **Clamping once.** To stop at the greatest number on the way is to stop there at the end: the
total is the modifier with all pips, or the greatest number. It never falls on the way, and no face
takes it below the least number, so at that end there is nothing to stop. The order of the faces
makes no difference, also if they are sorted first, and the adding may be interrupted anywhere. -/
theorem total_clamped_once (written : String) (faces : List UInt32) (modifier : Int64) :
    let total (faces : List UInt32) (modifier : Int64) := (ofFaces written faces modifier).total
    (total faces modifier).toInt = min (2 ^ 63 - 1) (modifier.toInt + pips faces) ∧
    (∀ before face after, faces = before ++ face :: after →
      -2 ^ 63 ≤ (total before modifier).toInt + face.toNat ∧
        total before modifier ≤ total faces modifier) ∧
    (∀ other : List UInt32, other.Perm faces → total other modifier = total faces modifier) ∧
    total faces.mergeSort modifier = total faces modifier ∧
    ∀ more, total (faces ++ more) modifier = total more (total faces modifier) := by
  intro total
  refine ⟨toInt_total written faces modifier, ?_, ?_, ?_, ?_⟩
  · rintro before face after rfl
    exact ⟨minValue_le_add _ face, total_le_append written before (face :: after) modifier⟩
  · intro other same
    exact total_eq_of_perm same written modifier
  · exact total_eq_of_perm (List.mergeSort_perm faces _) written modifier
  · intro more
    exact total_append written faces more modifier

/-- Whichever of two faces comes second takes the total to the greatest number, where it stays. -/
theorem total_clamped_once_at_greatest :
    let modifier := Int64.maxValue - 7
    let total (faces : List UInt32) := (ofFaces "2d9+1" faces modifier).total
    ([5, 9] : List UInt32) = [5] ++ 9 :: [] ∧ total [5] ≤ total [5, 9] ∧
      total [5, 9] = Int64.maxValue ∧
      List.Perm [9, 5] ([5, 9] : List UInt32) ∧ total [9, 5] = total [5, 9] := by
  intro modifier total
  obtain ⟨-, rises, reordered, -, -⟩ := total_clamped_once "2d9+1" [5, 9] modifier
  have same : List.Perm [9, 5] ([5, 9] : List UInt32) := by decide
  exact ⟨rfl, (rises [5] 9 [] rfl).2, by decide, same, reordered [9, 5] same⟩

end TabletopDice.Roll
