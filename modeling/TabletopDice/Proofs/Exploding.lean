import TabletopDice.Chance.Replay
import TabletopDice.Proofs.Splitting

/-!
# How far a die explodes

A limit on explosions cuts the chain of a die short and changes nothing before the cut, so the pool
of one die is the front of its pool under any higher limit (`explosion_limit_truncates`). With no
explosions allowed, a formula rolls as if it had no explosion at all.
-/

namespace TabletopDice

/-- The block of a die that has stopped after so many explosions. -/
def Block.cutAfter (block : Block) (limit : Nat) : Block :=
  { block with explosions := block.explosions.take limit }

namespace Block

/-- Explosions that are cut off have nothing to do with the replacement. -/
@[simp] theorem replacement_cutAfter (block : Block) (limit : Nat) :
    (block.cutAfter limit).replacement = block.replacement :=
  rfl

/-- The chain that is cut is the front of the whole one. -/
theorem chain_cutAfter (block : Block) (limit : Nat) :
    (block.cutAfter limit).chain = block.chain.take (limit + 1) := by
  simp only [cutAfter, chain, List.take_succ_cons]

end Block

namespace Formula

variable {σ : Type} [FaceSource σ] {formula : Formula} {low high : Nat}

/-- The explosions of a die with a lower limit are the first of those with a higher one. -/
theorem explosionsFrom_of_le (le : low ≤ high) (face : UInt32) (source : σ) :
    (formula.explosionsFrom low face source).1 =
      (formula.explosionsFrom high face source).1.take low := by
  induction low generalizing high face source with
  | zero => rw [explosionsFrom, List.take_zero]
  | succ low ih =>
    obtain ⟨high, rfl⟩ := Nat.exists_eq_succ_of_ne_zero (Nat.ne_zero_of_lt le)
    by_cases explodes : formula.explodes face
    · simp only [explosionsFrom, explodes, ↓reduceIte, List.take_succ_cons,
        ih (Nat.le_of_succ_le_succ le)]
    · simp only [explosionsFrom, explodes, Bool.false_eq_true, ↓reduceIte, List.take_nil]

/-- If there are no more explosions with a higher limit, it is as good as the lower one. -/
theorem explosionsFrom_of_length_le (le : low ≤ high) {face : UInt32} {source : σ}
    (short : (formula.explosionsFrom high face source).1.length ≤ low) :
    formula.explosionsFrom low face source = formula.explosionsFrom high face source := by
  induction high generalizing low face source with
  | zero => rw [Nat.le_zero.mp le]
  | succ high ih =>
    by_cases explodes : formula.explodes face
    · simp only [explosionsFrom, explodes, ↓reduceIte, List.length_cons] at short
      obtain ⟨low, rfl⟩ := Nat.exists_eq_succ_of_ne_zero (Nat.ne_zero_of_lt short)
      simp only [explosionsFrom, explodes, ↓reduceIte,
        ih (Nat.le_of_succ_le_succ le) (Nat.le_of_succ_le_succ short)]
    · cases low <;> simp only [explosionsFrom, explodes, Bool.false_eq_true, ↓reduceIte]

/-- The formula with this explosion instead of its own. -/
def exploding (formula : Formula) (on : Comparison) (limit : UInt32) : Formula :=
  { formula with explosion := some { on, limit } }

/-- The formula without its explosion. -/
def withoutExplosion (formula : Formula) : Formula :=
  { formula with explosion := none }

section Exploding

variable {on : Comparison} {low high : UInt32} {source : σ}

/-- How a die explodes depends on the limit that it is given, not on that of its formula. -/
theorem explosionsFrom_exploding (formula : Formula) (on : Comparison) (low high : UInt32)
    (limit : Nat) (face : UInt32) (source : σ) :
    (formula.exploding on low).explosionsFrom limit face source =
      (formula.exploding on high).explosionsFrom limit face source := by
  apply explosionsFrom_congr <;> rfl

/-- A lower limit cuts the block of a die short. -/
theorem rollBlock_exploding_of_le (le : low ≤ high) (rerolls : Nat) (source : σ) :
    ((formula.exploding on low).rollBlock rerolls source).1 =
      ((formula.exploding on high).rollBlock rerolls source).1.cutAfter low.toNat := by
  have cut (face : UInt32) (source : σ) :
      ((formula.exploding on low).explosionsFrom low.toNat face source).1 =
        ((formula.exploding on high).explosionsFrom high.toNat face source).1.take low.toNat := by
    rw [formula.explosionsFrom_exploding on low high]
    exact explosionsFrom_of_le (UInt32.le_iff_toNat_le.mp le) face source
  exact congrArg (Block.mk _ _) (cut _ _)

/-- A die that stops by itself before the lower limit does not feel it. -/
theorem rollBlock_exploding_of_length_le (le : low ≤ high) {rerolls : Nat} {source : σ}
    (short : ((formula.exploding on high).rollBlock rerolls source).1.chain.length ≤
      low.toNat + 1) :
    (formula.exploding on low).rollBlock rerolls source =
      (formula.exploding on high).rollBlock rerolls source := by
  have few := Nat.le_of_succ_le_succ short
  have same := explosionsFrom_of_length_le (UInt32.le_iff_toNat_le.mp le) few
  rw [← formula.explosionsFrom_exploding on low high] at same
  exact congrArg (fun exploded => (Block.mk _ _ exploded.1, exploded.2)) same

end Exploding

section OneDie

variable (one : formula.quantity = 1) (source : σ)

include one

theorem rollBlocks_one_die :
    formula.rollBlocks formula.quantity.toNat formula.rerollLimit source =
      ([(formula.rollBlock formula.rerollLimit source).1],
        (formula.rollBlock formula.rerollLimit source).2) := by
  rw [one]
  rfl

theorem pool_one_die :
    formula.pool source = ((formula.rollBlock formula.rerollLimit source).1.chain,
      (formula.rollBlock formula.rerollLimit source).2) := by
  rw [pool_eq, rollBlocks_one_die one, List.flatMap_cons, List.flatMap_nil, List.append_nil]

/-- One die takes a draw for each face of its chain, and one more if it is rerolled. -/
theorem draws_one_die :
    formula.draws source = (formula.rollBlock formula.rerollLimit source).1.chain.length +
      (formula.rollBlock formula.rerollLimit source).1.replacement.isSome.toNat := by
  rw [draws, shown_pool, rollBlocks_one_die one, List.flatMap_cons, List.flatMap_nil,
    List.append_nil, Block.length_shown]

end OneDie

/-- A formula that has no explosions left for any die rolls as if it had no explosion. -/
theorem pool_exploding_zero (formula : Formula) (on : Comparison) (source : σ) :
    (formula.exploding on 0).pool source = formula.withoutExplosion.pool source := by
  have each : ∀ rerolls ≤ formula.rerollLimit, ∀ source : σ,
      (formula.exploding on 0).rollBlock rerolls source =
        formula.withoutExplosion.rollBlock rerolls source := fun _ _ _ => rfl
  exact pool_congr (rollBlocks_congr each formula.quantity.toNat source)

/-- **A limit on explosions.** The pool of one die under a limit is the front of its pool under any
higher limit, and each face that it has less is a draw less. So a limit that the die does not reach
makes no difference; and with no explosions allowed, any number of dice are rolled as without an
explosion. -/
theorem explosion_limit_truncates (formula : Formula) (on : Comparison) (source : σ) :
    (∀ low high : UInt32, low ≤ high →
      let short := (formula.withQuantity 1).exploding on low
      let long := (formula.withQuantity 1).exploding on high
      let pool := (long.pool source).1
      (short.pool source).1 = pool.take (min (low.toNat + 1) pool.length) ∧
        (pool.length ≤ low.toNat + 1 →
          short.pool source = long.pool source ∧ short.draws source = long.draws source) ∧
        (low.toNat + 1 < pool.length →
          short.draws source + (pool.length - (low.toNat + 1)) = long.draws source)) ∧
    (formula.exploding on 0).pool source = formula.withoutExplosion.pool source := by
  refine ⟨fun low high le => ?_, formula.pool_exploding_zero on source⟩
  intro short long pool
  have cut : (short.rollBlock short.rerollLimit source).1 =
      (long.rollBlock long.rerollLimit source).1.cutAfter low.toNat :=
    rollBlock_exploding_of_le le _ source
  have pool_eq : pool = (long.rollBlock long.rerollLimit source).1.chain :=
    congrArg Prod.fst (pool_one_die rfl source)
  have length_eq : (short.rollBlock short.rerollLimit source).1.chain.length =
      min (low.toNat + 1) pool.length := by
    rw [cut, Block.chain_cutAfter, List.length_take, pool_eq]
  refine ⟨?_, fun reached => ?_, fun cutShort => ?_⟩
  · rw [pool_one_die rfl, cut, Block.chain_cutAfter, ← List.take_eq_take_min, pool_eq]
  · have same : short.rollBlock short.rerollLimit source =
        long.rollBlock long.rerollLimit source :=
      rollBlock_exploding_of_length_le le (pool_eq ▸ reached)
    rw [pool_one_die rfl, pool_one_die rfl, draws_one_die rfl, draws_one_die rfl, same]
    exact ⟨rfl, rfl⟩
  · rw [draws_one_die rfl, draws_one_die rfl, length_eq, cut, ← pool_eq, Block.replacement_cutAfter]
    omega

/-- A limit of one instead of three cuts the first pool after two of its four faces. The second pool
has no more than two, so it is the same under both limits. -/
theorem explosion_limit_truncates_one_and_three :
    let on : Comparison := { comparator := .atLeast, target := 5 }
    let formula : Formula :=
      { quantity := 1, sides := 6
        reroll := some { on := { comparator := .equal, target := 1 }, limit := 1 }
        explosion := none, selection := none, modifier := 0 }
    let short := (formula.withQuantity 1).exploding on 1
    let long := (formula.withQuantity 1).exploding on 3
    let source := Replay.ofFaces 6 [1, 5, 6, 5, 2]
    let source' := Replay.ofFaces 6 [5, 4, 2]
    (1 : UInt32) ≤ 3 ∧
      (long.pool source).1 = [5, 6, 5, 2] ∧
      short.draws source + ((long.pool source).1.length - ((1 : UInt32).toNat + 1)) =
        long.draws source ∧
      (long.pool source').1 = [5, 4] ∧
      short.pool source' = long.pool source' := by
  intro on formula short long source source'
  have pool : (long.pool source).1 = [5, 6, 5, 2] := by decide +kernel
  have pool' : (long.pool source').1 = [5, 4] := by decide +kernel
  have cut : (1 : UInt32).toNat + 1 < (long.pool source).1.length := by
    rw [pool]
    decide
  have reached : (long.pool source').1.length ≤ (1 : UInt32).toNat + 1 := by
    rw [pool']
    decide
  have le : (1 : UInt32) ≤ 3 := by decide
  have truncated := (explosion_limit_truncates formula on source).1 1 3 le
  have truncated' := (explosion_limit_truncates formula on source').1 1 3 le
  exact ⟨le, pool, truncated.2.2 cut, pool', (truncated'.2.1 reached).1⟩

end Formula
end TabletopDice
