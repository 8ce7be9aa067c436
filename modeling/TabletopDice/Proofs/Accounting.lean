import Mathlib.Data.List.Perm.Basic
import TabletopDice.Proofs.Blocks

/-!
# The balance of a roll

What the source shows while a formula is rolled is either in the pool or was replaced. The blocks of
the dice tell how many faces there are of each kind: rerolls are granted first come, first served
until none are left, so as many faces were replaced as asked for it, up to the limit; and every face
in the pool that sets an explosion off has a face behind it, unless its die had no explosions left.
-/

namespace TabletopDice

namespace Block

/-- Whether the explosions of the die were used up while its last face would set off another. -/
def cutShort (formula : Formula) (block : Block) : Bool :=
  block.chain.length = 1 + formula.explosionLimit && block.chain.getLast?.any formula.explodes

variable {formula : Formula} {spent : Nat} {block : Block}

/-- A block shows the faces of its chain, and one more if its first face was replaced. -/
theorem length_shown (block : Block) :
    block.shown.length = block.chain.length + block.replacement.isSome.toNat := by
  obtain ⟨first, replacement, explosions⟩ := block
  cases replacement <;> simp [shown, chain]

/-- A die is rerolled exactly if it asks for it and a reroll is left. -/
theorem Lawful.isSome_iff (lawful : block.Lawful formula spent) :
    block.replacement.isSome ↔ formula.rerolls block.first ∧ spent < formula.rerollLimit :=
  lawful.replaced_iff.trans Formula.exists_reroll_iff

/-- A face that was replaced asked for it. -/
theorem Lawful.rerolls_of_mem_discarded (lawful : block.Lawful formula spent) :
    ∀ face ∈ block.discarded, formula.rerolls face := by
  intro face member
  cases replaced : block.replacement.isSome with
  | false =>
    simp only [discarded, replaced, Bool.false_eq_true, ↓reduceIte, List.not_mem_nil] at member
  | true =>
    simp only [discarded, replaced, ↓reduceIte, List.mem_singleton] at member
    subst member
    exact (lawful.isSome_iff.mp replaced).1

/-- Of the faces of a chain only the last may fail to set an explosion off, and if it does not fail
the die was cut short. -/
theorem Lawful.countP_chain (lawful : block.Lawful formula spent) :
    block.chain.countP formula.explodes + 1 =
      block.chain.length + (block.cutShort formula).toNat := by
  obtain ⟨passing, -, last, lastIs, stopped⟩ := lawful.exhausted_chain
  have split : block.chain.dropLast ++ [last] = block.chain :=
    List.dropLast_append_getLast? last lastIs
  have passed : block.chain.dropLast.countP formula.explodes = block.chain.dropLast.length :=
    List.countP_eq_length.mpr passing
  have length_eq : block.chain.dropLast.length + 1 = block.chain.length := by
    rw [← split, List.dropLast_concat, List.length_append, List.length_singleton]
  have count : block.chain.countP formula.explodes =
      block.chain.dropLast.length + (formula.explodes last).toNat := by
    rw [← split, List.countP_append, List.dropLast_concat, passed, List.countP_singleton]
    cases formula.explodes last <;> rfl
  have cut : block.cutShort formula = formula.explodes last := by
    rw [cutShort, lastIs, Option.any_some]
    rcases stopped with fails | full
    · rw [fails, Bool.and_false]
    · rw [decide_eq_true full, Bool.true_and]
  rw [count, cut]
  omega

end Block

namespace Formula

variable {formula : Formula} {spent : Nat} {blocks : List Block}

/-- Rerolls are granted first come, first served: as many dice are rerolled as ask for it, until
none of the rerolls are left. -/
theorem LawfulFrom.countP_replaced (lawful : formula.LawfulFrom spent blocks) :
    blocks.countP (·.replacement.isSome) =
      min (formula.rerollLimit - spent) (blocks.countP (formula.rerolls ·.first)) := by
  induction blocks generalizing spent with
  | nil => rw [List.countP_nil, List.countP_nil, Nat.min_zero]
  | cons block blocks ih =>
    obtain ⟨head, tail⟩ := lawfulFrom_cons.mp lawful
    have rest := ih tail
    have replaced := head.isSome_iff
    rw [List.countP_cons, List.countP_cons, rest]
    cases granted : block.replacement.isSome with
    | true =>
      obtain ⟨asks, left⟩ := replaced.mp granted
      simp only [asks, ↓reduceIte, Bool.toNat_true]
      omega
    | false =>
      simp only [Bool.false_eq_true, ↓reduceIte, Bool.toNat_false, Nat.add_zero]
      cases asks : formula.rerolls block.first with
      | true =>
        have none_left : ¬ spent < formula.rerollLimit := by
          intro left
          rw [replaced.mpr ⟨asks, left⟩] at granted
          cases granted
        simp only [↓reduceIte]
        omega
      | false => simp only [Bool.false_eq_true, ↓reduceIte, Nat.add_zero]

/-- All faces that were replaced asked for it. -/
theorem LawfulFrom.rerolls_of_mem_discarded (lawful : formula.LawfulFrom spent blocks) :
    ∀ face ∈ blocks.flatMap (·.discarded), formula.rerolls face := by
  intro face member
  obtain ⟨block, there, discarded⟩ := List.mem_flatMap.mp member
  obtain ⟨before, after, split⟩ := List.append_of_mem there
  exact (lawful before block after split).rerolls_of_mem_discarded face discarded

/-- Each die has one face more in the pool than set explosions off, unless it was cut short. -/
theorem LawfulFrom.countP_chains (lawful : formula.LawfulFrom spent blocks) :
    (blocks.flatMap (·.chain)).countP formula.explodes + blocks.length =
      (blocks.flatMap (·.chain)).length + blocks.countP (·.cutShort formula) := by
  induction blocks generalizing spent with
  | nil => rfl
  | cons block blocks ih =>
    obtain ⟨head, tail⟩ := lawfulFrom_cons.mp lawful
    have rest := ih tail
    have chain := head.countP_chain
    rw [List.flatMap_cons, List.countP_append, List.length_append, List.length_cons,
      List.countP_cons]
    cases cut : block.cutShort formula with
    | true =>
      simp only [cut, Bool.toNat_true, ↓reduceIte] at chain ⊢
      omega
    | false =>
      simp only [cut, Bool.toNat_false, Bool.false_eq_true, ↓reduceIte] at chain ⊢
      omega

/-- Blocks show the faces of their chains, and one more for each die that was rerolled. -/
theorem length_flatMap_shown (blocks : List Block) :
    (blocks.flatMap (·.shown)).length =
      (blocks.flatMap (·.chain)).length + blocks.countP (·.replacement.isSome) := by
  induction blocks with
  | nil => rfl
  | cons block blocks ih =>
    simp only [List.flatMap_cons, List.length_append, List.countP_cons, block.length_shown, ih]
    cases block.replacement.isSome <;> simp <;> omega

/-- How many faces the source shows while the formula is rolled. -/
def draws {σ : Type} [FaceSource σ] (formula : Formula) (source : σ) : Nat :=
  (formula.pool ({ source } : Recorded σ)).2.shown.length

/-- The source shows the faces of the pool, and one more for each die that was rerolled. -/
theorem draws_eq {σ : Type} [FaceSource σ] (formula : Formula) (source : σ) :
    formula.draws source = (formula.pool source).1.length +
      (formula.rollBlocks formula.quantity.toNat formula.rerollLimit source).1.countP
        (·.replacement.isSome) := by
  rw [draws, shown_pool, pool_eq, length_flatMap_shown]

/-- All that is shown is in the pool or was replaced. -/
theorem shown_perm (blocks : List Block) :
    (blocks.flatMap (·.shown)).Perm
      (blocks.flatMap (·.chain) ++ blocks.flatMap (·.discarded)) := by
  have pieces : blocks.flatMap (·.shown) =
      blocks.flatMap fun block => block.discarded ++ block.chain :=
    congrArg blocks.flatMap (funext Block.shown_eq_discarded_append)
  rw [pieces]
  exact (List.flatMap_append_perm blocks _ _).symm.trans List.perm_append_comm

/-- How many of the dice are rerolled: all whose first face asks for it, up to the limit. -/
def rerolled (formula : Formula) (blocks : List Block) : Nat :=
  min formula.rerollLimit (blocks.countP (formula.rerolls ·.first))

/-- As many dice were rerolled as the first faces tell. -/
theorem Accounts.countP_replaced {shown : List UInt32} (accounts : formula.Accounts shown blocks) :
    blocks.countP (·.replacement.isSome) = formula.rerolled blocks :=
  (lawfulFrom_zero.mpr accounts.lawful).countP_replaced

/-- The balance of a roll: how the faces that were shown, and the faces that are in the pool, follow
from what happened to each die. -/
structure Balance (formula : Formula) (shown pool : List UInt32) (blocks : List Block) :
    Prop where
  draws_eq : shown.length = pool.length + formula.rerolled blocks
  rerolled_le : formula.rerolled blocks ≤ min formula.rerollLimit formula.quantity.toNat
  discarded_length : (blocks.flatMap (·.discarded)).length = formula.rerolled blocks
  discarded_asked : ∀ face ∈ blocks.flatMap (·.discarded), formula.rerolls face
  shown_perm : shown.Perm (pool ++ blocks.flatMap (·.discarded))
  growth : pool.length + blocks.countP (·.cutShort formula) =
    formula.quantity.toNat + pool.countP formula.explodes

/-- Blocks that account for what was shown have their balance. -/
theorem Accounts.balance {shown : List UInt32} (accounts : formula.Accounts shown blocks) :
    formula.Balance shown (blocks.flatMap (·.chain)) blocks := by
  have replaced := accounts.countP_replaced
  obtain ⟨length_eq, rfl, lawful⟩ := accounts
  have lawful := lawfulFrom_zero.mpr lawful
  have draws := (length_flatMap_shown blocks).trans (congrArg (_ + ·) replaced)
  have asking : blocks.countP (formula.rerolls ·.first) ≤ blocks.length := List.countP_le_length
  exact {
    draws_eq := draws
    rerolled_le := by
      rw [rerolled]
      omega
    discarded_length := by
      have apart := (shown_perm blocks).length_eq
      rw [List.length_append] at apart
      omega
    discarded_asked := lawful.rerolls_of_mem_discarded
    shown_perm := shown_perm blocks
    growth := by
      have chains := lawful.countP_chains
      omega }

/-- **The balance of a roll.** Apart from the faces of the pool the source shows just the faces that
were replaced. They are those that asked for it, up to the limit of the reroll; and the pool has one
face for each die and one more for each of its faces that sets an explosion off, but for the dice
that were cut short. A record of the faces changes neither the pool nor the source. -/
theorem pool_balances {σ : Type} [FaceSource σ] (formula : Formula) (source : σ) :
    let rolled := formula.pool ({ source } : Recorded σ)
    rolled.1 = (formula.pool source).1 ∧ rolled.2.source = (formula.pool source).2 ∧
      ∃ blocks : List Block, formula.Accounts rolled.2.shown blocks ∧
        (formula.pool source).1 = blocks.flatMap (·.chain) ∧
        formula.Balance rolled.2.shown (formula.pool source).1 blocks := by
  intro rolled
  obtain ⟨pool, left, -⟩ := formula.pool_recorded source
  have accounts := formula.accounts_pool source
  have chains := congrArg Prod.fst (formula.pool_eq source)
  refine ⟨pool, left, _, accounts, chains, ?_⟩
  rw [chains]
  exact accounts.balance

end Formula
end TabletopDice
