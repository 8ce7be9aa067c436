import TabletopDice.Chance.Replay
import TabletopDice.Proofs.Accounting

/-!
# Rolling dice in two goes

The dice of a formula have nothing in common but the rerolls that are left for them. So some of the
dice may be rolled first and the others afterwards, if the others get just the rerolls that are left
(`pool_in_two_goes`); and where rerolls cannot run out, not even those have to be counted.
-/

namespace TabletopDice

namespace Formula

variable {σ : Type} [FaceSource σ] {formula other : Formula}

/-- Two formulas treat a single die alike. They may differ in how many dice there are, in how many
rerolls there are for all of them, and in what becomes of the pool. -/
structure SameDie (formula other : Formula) : Prop where
  sides_eq : formula.sides = other.sides
  rerolls_eq : formula.rerolls = other.rerolls
  explodes_eq : formula.explodes = other.explodes
  explosionLimit_eq : formula.explosionLimit = other.explosionLimit

namespace SameDie

theorem trans {third : Formula} (same : formula.SameDie other) (same' : other.SameDie third) :
    formula.SameDie third where
  sides_eq := same.sides_eq.trans same'.sides_eq
  rerolls_eq := same.rerolls_eq.trans same'.rerolls_eq
  explodes_eq := same.explodes_eq.trans same'.explodes_eq
  explosionLimit_eq := same.explosionLimit_eq.trans same'.explosionLimit_eq

theorem rollBlock_eq (same : formula.SameDie other) (rerolls : Nat) (source : σ) :
    formula.rollBlock rerolls source = other.rollBlock rerolls source := by
  simp only [rollBlock, replacementFor, same.sides_eq, same.rerolls_eq, same.explosionLimit_eq,
    explosionsFrom_congr same.sides_eq same.explodes_eq]

theorem rollBlocks_eq (same : formula.SameDie other) (quantity rerolls : Nat) (source : σ) :
    formula.rollBlocks quantity rerolls source = other.rollBlocks quantity rerolls source :=
  rollBlocks_congr (fun _ _ => same.rollBlock_eq _) quantity source

end SameDie

section Blocks

/-- The dice that come later get the rerolls that those before them have left. -/
theorem rollBlocks_add (formula : Formula) (first second rerolls : Nat) (source : σ) :
    formula.rollBlocks (first + second) rerolls source =
      let front := formula.rollBlocks first rerolls source
      let back := formula.rollBlocks second
        (rerolls - front.1.countP (·.replacement.isSome)) front.2
      (front.1 ++ back.1, back.2) := by
  induction first generalizing rerolls source with
  | zero => simp only [rollBlocks, Nat.zero_add, List.countP_nil, Nat.sub_zero, List.nil_append]
  | succ first ih =>
    rw [Nat.succ_add]
    simp only [rollBlocks, ih, List.countP_cons, List.cons_append, Nat.sub_sub]
    cases (formula.rollBlock rerolls source).1.replacement.isSome <;>
      simp only [Bool.toNat_true, Bool.toNat_false, Bool.false_eq_true, ↓reduceIte, Nat.add_comm]

/-- A die is rerolled exactly if its first face asks for it and a reroll is left. -/
theorem isSome_replacement (formula : Formula) (rerolls : Nat) (source : σ) :
    (formula.rollBlock rerolls source).1.replacement.isSome =
      (0 < rerolls && formula.rerolls (formula.rollBlock rerolls source).1.first) :=
  formula.isSome_replacementFor rerolls _ _

/-- How many rerolls are left matters to a die only if it asks for one. -/
theorem rollBlock_congr {rerolls rerolls' : Nat} {source : σ}
    (alike : formula.rerolls (formula.rollBlock rerolls source).1.first →
      (0 < rerolls' ↔ 0 < rerolls)) :
    formula.rollBlock rerolls' source = formula.rollBlock rerolls source := by
  simp only [rollBlock, replacementFor] at alike ⊢
  cases asks : formula.rerolls (FaceSource.face formula.sides source).1 with
  | false => simp only [Bool.and_false, Bool.false_eq_true, ↓reduceIte]
  | true => simp only [alike asks]

/-- With rerolls for all dice that ask for one, it does not matter how many there are. -/
theorem rollBlocks_of_enough {quantity rerolls rerolls' : Nat} {source : σ}
    (enough : (formula.rollBlocks quantity rerolls source).1.countP
      (formula.rerolls ·.first) ≤ rerolls)
    (enough' : (formula.rollBlocks quantity rerolls source).1.countP
      (formula.rerolls ·.first) ≤ rerolls') :
    formula.rollBlocks quantity rerolls' source = formula.rollBlocks quantity rerolls source := by
  induction quantity generalizing rerolls rerolls' source with
  | zero => rfl
  | succ quantity ih =>
    simp only [rollBlocks, List.countP_cons] at enough enough' ⊢
    have replaced := formula.isSome_replacement rerolls source
    cases asks : formula.rerolls (formula.rollBlock rerolls source).1.first with
    | true =>
      simp only [asks, ↓reduceIte] at enough enough'
      have same : formula.rollBlock rerolls' source = formula.rollBlock rerolls source :=
        rollBlock_congr fun _ => by omega
      have granted : (formula.rollBlock rerolls source).1.replacement.isSome = true := by
        rw [replaced, asks, Bool.and_true, decide_eq_true_eq]
        omega
      rw [granted, Bool.toNat_true] at enough enough'
      rw [same, granted, Bool.toNat_true, ih (Nat.le_sub_of_add_le enough)
        (Nat.le_sub_of_add_le enough')]
    | false =>
      simp only [asks, Bool.false_eq_true, ↓reduceIte, Nat.add_zero] at enough enough'
      have same : formula.rollBlock rerolls' source = formula.rollBlock rerolls source :=
        rollBlock_congr fun asked => absurd (asks.symm.trans asked) Bool.false_ne_true
      have kept : (formula.rollBlock rerolls source).1.replacement.isSome = false := by
        rw [replaced, asks, Bool.and_false]
      rw [kept, Bool.toNat_false, Nat.sub_zero] at enough enough'
      rw [same, kept, Bool.toNat_false, Nat.sub_zero, Nat.sub_zero, ih enough enough']

/-- No more dice are rerolled than there are, nor more than there are rerolls. -/
theorem countP_replaced_le (formula : Formula) (quantity : Nat) (source : σ) :
    let blocks := (formula.rollBlocks quantity formula.rerollLimit source).1
    blocks.countP (·.replacement.isSome) ≤ formula.rerollLimit ∧
      blocks.countP (·.replacement.isSome) ≤ quantity := by
  intro blocks
  have lawful : formula.LawfulFrom 0 blocks := formula.lawfulFrom_rollBlocks quantity 0 source
  have length_eq : blocks.length = quantity := formula.length_rollBlocks quantity _ source
  constructor
  · rw [lawful.countP_replaced]
    exact Nat.min_le_left ..
  · rw [← length_eq]
    exact List.countP_le_length

end Blocks

/-- The formula with so many dice instead of its own. -/
def withQuantity (formula : Formula) (quantity : UInt32) : Formula :=
  { formula with quantity }

/-- The formula when so many of its rerolls have been used up. -/
def spendRerolls (formula : Formula) (spent : Nat) : Formula :=
  { formula with
    reroll := formula.reroll.map fun reroll =>
      { reroll with limit := UInt32.ofNat (reroll.limit.toNat - spent) } }

theorem sameDie_withQuantity (formula : Formula) (quantity : UInt32) :
    (formula.withQuantity quantity).SameDie formula :=
  ⟨rfl, rfl, rfl, rfl⟩

theorem sameDie_spendRerolls (formula : Formula) (spent : Nat) :
    (formula.spendRerolls spent).SameDie formula where
  sides_eq := rfl
  rerolls_eq := by
    funext face
    simp only [rerolls, spendRerolls, Option.any_map]
  explodes_eq := rfl
  explosionLimit_eq := rfl

theorem rerollLimit_spendRerolls (formula : Formula) (spent : Nat) :
    (formula.spendRerolls spent).rerollLimit = formula.rerollLimit - spent := by
  cases found : formula.reroll with
  | none => simp only [rerollLimit, spendRerolls, found, Option.map_none, Option.elim_none,
      Nat.zero_sub]
  | some reroll =>
    have small : reroll.limit.toNat - spent < UInt32.size :=
      Nat.lt_of_le_of_lt (Nat.sub_le ..) reroll.limit.toNat_lt
    simp only [rerollLimit, spendRerolls, found, Option.map_some, Option.elim_some,
      UInt32.toNat_ofNat_of_lt' small]

/-- Formulas of the same dice have the pools of each other, for their own number of dice and
rerolls. -/
theorem SameDie.pool_eq (same : formula.SameDie other) (source : σ) :
    formula.pool source =
      (other.rollBlocks formula.quantity.toNat formula.rerollLimit source).map
        (·.flatMap (·.chain)) id := by
  rw [Formula.pool_eq, same.rollBlocks_eq]
  rfl

/-- The pool of another number of dice is made of so many blocks. -/
theorem pool_withQuantity (formula : Formula) (quantity : UInt32) (source : σ) :
    (formula.withQuantity quantity).pool source =
      (formula.rollBlocks quantity.toNat formula.rerollLimit source).map
        (·.flatMap (·.chain)) id :=
  (formula.sameDie_withQuantity quantity).pool_eq source

/-- The pool of dice with fewer rerolls is made of the blocks that these leave. -/
theorem pool_spendRerolls (formula : Formula) (quantity : UInt32) (spent : Nat) (source : σ) :
    ((formula.withQuantity quantity).spendRerolls spent).pool source =
      (formula.rollBlocks quantity.toNat (formula.rerollLimit - spent) source).map
        (·.flatMap (·.chain)) id := by
  have same := ((formula.withQuantity quantity).sameDie_spendRerolls spent).trans
    (formula.sameDie_withQuantity quantity)
  rw [same.pool_eq, rerollLimit_spendRerolls]
  rfl

/-- The rerolls that are used up can be told by the faces shown and those in the pool. -/
theorem draws_withQuantity (formula : Formula) (quantity : UInt32) (source : σ) :
    (formula.withQuantity quantity).draws source =
      ((formula.withQuantity quantity).pool source).1.length +
        (formula.rollBlocks quantity.toNat formula.rerollLimit source).1.countP
          (·.replacement.isSome) := by
  rw [draws_eq, (formula.sameDie_withQuantity quantity).rollBlocks_eq]
  rfl

/-- Dice that each have a reroll left do not depend on how many there are beyond that. -/
theorem rollBlocks_of_plenty {quantity spent : Nat}
    (plenty : spent + quantity ≤ formula.rerollLimit) (source : σ) :
    formula.rollBlocks quantity (formula.rerollLimit - spent) source =
      formula.rollBlocks quantity formula.rerollLimit source := by
  have asking : (formula.rollBlocks quantity formula.rerollLimit source).1.countP
      (formula.rerolls ·.first) ≤ quantity :=
    Nat.le_trans List.countP_le_length (Nat.le_of_eq (formula.length_rollBlocks ..))
  exact rollBlocks_of_enough (by omega) (by omega)

/-- The dice that come first leave to the others the source and the rerolls that are left. -/
theorem pool_withQuantity_add (formula : Formula) {first second : UInt32}
    (fits : first.toNat + second.toNat < UInt32.size) (source : σ) :
    let front := formula.rollBlocks first.toNat formula.rerollLimit source
    let spent := front.1.countP (·.replacement.isSome)
    (formula.withQuantity (first + second)).pool source =
      (((formula.withQuantity second).spendRerolls spent).pool front.2).map
        (front.1.flatMap (·.chain) ++ ·) id := by
  intro front spent
  have quantity : (first + second).toNat = first.toNat + second.toNat := by
    rw [UInt32.toNat_add]
    exact Nat.mod_eq_of_lt fits
  rw [pool_withQuantity, pool_spendRerolls, quantity, rollBlocks_add]
  simp only [Prod.map_apply, List.flatMap_append, id_eq]
  rfl

/-- **Rolling in two goes.** To roll some dice and then some more, with the rerolls that are left,
is to roll all of them at once: the pools are joined, and the source is left the same. How many
rerolls have been used up is told by the faces shown and those in the pool. Without a reroll, or if
there is one for each die, there is no need to count them. -/
theorem pool_in_two_goes (formula : Formula) (first second : UInt32)
    (fits : first.toNat + second.toNat < UInt32.size) (source : σ) :
    let whole := formula.withQuantity (first + second)
    let front := formula.withQuantity first
    let back := formula.withQuantity second
    let pool := (front.pool source).1
    let middle := (front.pool source).2
    let spent := front.draws source - pool.length
    (pool.length ≤ front.draws source ∧ spent ≤ formula.rerollLimit) ∧
      whole.pool source = ((back.spendRerolls spent).pool middle).map (pool ++ ·) id ∧
      (formula.reroll = none ∨ first.toNat + second.toNat ≤ formula.rerollLimit →
        whole.pool source = (back.pool middle).map (pool ++ ·) id) := by
  intro whole front back pool middle spent
  have draws := formula.draws_withQuantity first source
  obtain ⟨replaced_le, replaced_le_first⟩ := formula.countP_replaced_le first.toNat source
  have spent_eq : spent = (formula.rollBlocks first.toNat formula.rerollLimit source).1.countP
      (·.replacement.isSome) := Nat.sub_eq_of_eq_add' draws
  have inTurn : whole.pool source =
      ((back.spendRerolls spent).pool middle).map (pool ++ ·) id := by
    simp only [middle, pool, front, spent_eq, pool_withQuantity]
    exact formula.pool_withQuantity_add fits source
  refine ⟨⟨draws ▸ Nat.le_add_right .., spent_eq ▸ replaced_le⟩, inTurn, fun plenty => ?_⟩
  rw [inTurn, pool_spendRerolls, spent_eq, pool_withQuantity]
  rcases plenty with absent | enough
  · rw [rerollLimit_of_none absent, Nat.zero_sub]
  · rw [rollBlocks_of_plenty (by omega)]

/-- The first die is rerolled and explodes, and still the three dice behind it are rolled as they
are alone. -/
theorem pool_in_two_goes_one_and_three :
    let formula : Formula :=
      { quantity := 4, sides := 6
        reroll := some { on := { comparator := .less, target := 3 }, limit := 4 }
        explosion := some { on := { comparator := .equal, target := 6 }, limit := 1 }
        selection := none, modifier := 0 }
    let source := Replay.ofFaces 6 [1, 6, 6, 3, 2, 4, 5]
    let rolled := (formula.withQuantity 1).pool source
    (1 : UInt32).toNat + (3 : UInt32).toNat < UInt32.size ∧
      (1 : UInt32).toNat + (3 : UInt32).toNat ≤ formula.rerollLimit ∧
      rolled.1 = [6, 6] ∧ rolled.2.taken = 3 ∧
      ((formula.withQuantity 3).pool rolled.2).1 = [3, 4, 5] ∧
      (formula.pool source).1 = [6, 6, 3, 4, 5] ∧
      formula.pool source = ((formula.withQuantity 3).pool rolled.2).map (rolled.1 ++ ·) id := by
  intro formula source rolled
  have inTurn : formula.pool source =
      ((formula.withQuantity 3).pool rolled.2).map (rolled.1 ++ ·) id :=
    (pool_in_two_goes formula 1 3 (by decide) source).2.2 (.inr (by decide))
  have first : rolled.1 = [6, 6] := by decide +kernel
  have taken : rolled.2.taken = 3 := by decide +kernel
  have second : ((formula.withQuantity 3).pool rolled.2).1 = [3, 4, 5] := by decide +kernel
  refine ⟨by decide, by decide, first, taken, second, ?_, inTurn⟩
  rw [inTurn, Prod.map_fst, first, second]
  rfl

end Formula
end TabletopDice
