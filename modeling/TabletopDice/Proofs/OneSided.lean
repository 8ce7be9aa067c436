import TabletopDice.Chance.Replay
import TabletopDice.Proofs.Accepted
import TabletopDice.Proofs.Accounting
import TabletopDice.Proofs.Interchange

/-!
# Dice with one side

A die with one side shows a one whatever is drawn, and so does a die with none. So a formula of such
dice leaves nothing to chance: either all of its dice explode as often as they may or none does, and
either its rerolls are used as far as they go or not at all (`one_sided`).
-/

namespace TabletopDice

/-- A die with one side, or with none, shows a one whatever is drawn. -/
theorem faceOfDraw_of_le_one {sides : UInt32} (flat : sides ≤ 1) (draw : Float) :
    faceOfDraw draw sides = 1 := by
  by_cases positive : 0 < sides
  · obtain ⟨lower, upper⟩ : 1 ≤ faceOfDraw draw sides ∧ faceOfDraw draw sides ≤ sides :=
      faceOfDraw_mem positive
    exact UInt32.le_antisymm (UInt32.le_trans upper flat) lower
  · obtain rfl : sides = 0 := by
      rwa [UInt32.pos_iff_ne_zero, Classical.not_not] at positive
    simp only [faceOfDraw, UInt32.not_lt_zero, ↓reduceIte]
    rfl

namespace Formula

/-- How often a die explodes that shows nothing but ones. -/
def explosionsOfOnes (formula : Formula) : Nat :=
  if formula.explodes 1 then formula.explosionLimit else 0

/-- How many dice are rerolled that show nothing but ones. -/
def rerollsOfOnes (formula : Formula) : Nat :=
  if formula.rerolls 1 then min formula.rerollLimit formula.quantity.toNat else 0

/-- How many of so many faces count: those that the selection leaves, or all of them. -/
def left (formula : Formula) (count : Nat) : Nat :=
  formula.selection.elim count (·.left count)

/-- How many faces count depends on their number alone. -/
theorem length_select (formula : Formula) (pool : List UInt32) :
    (formula.select pool).length = formula.left pool.length := by
  cases found : formula.selection with
  | none => rw [select_of_none found, left, found, Option.elim_none]
  | some selection =>
    rw [select_of_some found, selection.length_pick, left, found, Option.elim_some]

end Formula

section Ones

variable {formula : Formula} {spent : Nat} {shown : List UInt32} {blocks : List Block}

/-- A chain of ones stops at once, or goes on until no explosions are left. -/
theorem Block.Lawful.length_chain_of_ones {block : Block} (lawful : block.Lawful formula spent)
    (ones : ∀ face ∈ block.chain, face = 1) :
    block.chain.length = 1 + formula.explosionsOfOnes := by
  obtain ⟨passing, -, last, lastIs, stopped⟩ := lawful.exhausted_chain
  obtain rfl : last = 1 := ones last (List.mem_of_getLast? lastIs)
  rw [Formula.explosionsOfOnes]
  cases explodes : formula.explodes 1 with
  | true =>
    rcases stopped with fails | full
    · cases explodes.symm.trans fails
    · exact full
  | false =>
    have short : block.chain.dropLast = [] := by
      rw [List.eq_nil_iff_forall_not_mem]
      intro face member
      have passes := passing face member
      rw [ones face (List.dropLast_subset _ member), explodes] at passes
      cases passes
    rw [← List.dropLast_append_getLast? 1 lastIs, short]
    rfl

/-- Dice that show nothing but ones all add the same number of faces to the pool. -/
theorem Formula.Accounts.length_chains_of_ones (accounts : formula.Accounts shown blocks)
    (ones : ∀ block ∈ blocks, ∀ face ∈ block.chain, face = 1) :
    (blocks.flatMap (·.chain)).length =
      formula.quantity.toNat * (1 + formula.explosionsOfOnes) := by
  have each : ∀ block ∈ blocks, block.chain.length = 1 + formula.explosionsOfOnes := by
    intro block there
    obtain ⟨before, after, split⟩ := List.append_of_mem there
    have lawful := accounts.lawful before block after split
    exact lawful.length_chain_of_ones (ones block there)
  rw [List.length_flatMap, List.map_congr_left each, List.map_const', List.sum_replicate_nat,
    accounts.length_eq]

/-- Either all dice ask for a reroll or none does. -/
theorem Formula.Accounts.rerolled_of_ones (accounts : formula.Accounts shown blocks)
    (ones : ∀ block ∈ blocks, block.first = 1) :
    formula.rerolled blocks = formula.rerollsOfOnes := by
  have asking : blocks.countP (formula.rerolls ·.first) =
      blocks.countP fun _ => formula.rerolls 1 := by
    apply List.countP_congr
    intro block there
    rw [ones block there]
  rw [Formula.rerolled, Formula.rerollsOfOnes, asking]
  cases formula.rerolls 1 with
  | true => rw [List.countP_true, accounts.length_eq, if_pos rfl]
  | false =>
    simp only [List.countP_false, Function.const_apply, Nat.min_zero, Bool.false_eq_true,
      ↓reduceIte]

end Ones

namespace Formula

section Pool

variable {σ : Type} [FaceSource σ] {formula : Formula} {shows : UInt32 → Prop}

/-- What every face has that the source shows, those have as well that were replaced. -/
theorem forall_mem_shown (all : ∀ source : σ, shows (FaceSource.face formula.sides source).1)
    (quantity rerolls : Nat) (source : σ) :
    ∀ face ∈ (formula.rollBlocks quantity rerolls source).1.flatMap (·.shown), shows face := by
  induction quantity generalizing rerolls source with
  | zero => exact List.forall_mem_nil _
  | succ quantity ih =>
    have discarded : ∀ face ∈ (formula.rollBlock rerolls source).1.discarded, shows face := by
      unfold Block.discarded
      split
      · exact List.forall_mem_singleton.mpr (all source)
      · exact List.forall_mem_nil _
    simp only [rollBlocks, List.flatMap_cons, Block.shown_eq_discarded_append, List.append_assoc]
    refine List.forall_mem_append.mpr ⟨discarded, List.forall_mem_append.mpr
      ⟨forall_mem_chain all rerolls source, ?_⟩⟩
    simpa only [Block.shown_eq_discarded_append] using ih _ _

/-- If the source shows nothing but ones, it can be said beforehand how many. -/
theorem pool_of_ones (all : ∀ source : σ, (FaceSource.face formula.sides source).1 = 1)
    (source : σ) :
    let count := formula.quantity.toNat * (1 + formula.explosionsOfOnes)
    (formula.pool source).1 = List.replicate count 1 ∧
      (formula.pool ({ source } : Recorded σ)).2.shown =
        List.replicate (count + formula.rerollsOfOnes) 1 := by
  let blocks := (formula.rollBlocks formula.quantity.toNat formula.rerollLimit source).1
  have accounts : formula.Accounts (blocks.flatMap (·.shown)) blocks :=
    formula.accounts_rollBlocks source
  have ones : ∀ face ∈ blocks.flatMap (·.shown), face = 1 := forall_mem_shown all _ _ source
  have inPool : ∀ face ∈ blocks.flatMap (·.chain), face = 1 :=
    forall_mem_rollBlocks all _ _ source
  have length_pool := accounts.length_chains_of_ones fun block there face member =>
    inPool face (List.mem_flatMap_of_mem there member)
  have rerolled := accounts.rerolled_of_ones fun block there =>
    ones block.first (List.mem_flatMap_of_mem there List.mem_cons_self)
  have draws := accounts.balance.draws_eq
  rw [length_pool, rerolled] at draws
  rw [shown_pool, pool_eq]
  exact ⟨List.eq_replicate_iff.mpr ⟨length_pool, inPool⟩,
    List.eq_replicate_iff.mpr ⟨draws, ones⟩⟩

end Pool

section Draws

variable {σ : Type} [DrawSource σ]

/-- A pool takes one draw for each face that is shown. -/
theorem source_pool (formula : Formula) (source : σ) :
    (formula.pool source).2 = DrawSource.after source (formula.draws source) := by
  have start : ({ source } : Recorded σ).source = source ∧
      source = FaceSource.after source ({ source } : Recorded σ).thrown := ⟨rfl, rfl⟩
  have left := ((lockstep_recorded source).faces start formula).related_left.2
  rw [← DrawSource.after_length] at left
  have length_eq (recorded : Recorded σ) : recorded.thrown.length = recorded.shown.length := by
    simp only [Recorded.thrown, Recorded.shown, List.length_map]
  rwa [length_eq] at left

/-- Of dice with one side at most, nothing but ones count, and as many as the selection leaves. -/
theorem faces_of_one_sided {formula : Formula} (flat : formula.sides ≤ 1) (source : σ) :
    (formula.faces source).1 = List.replicate
      (formula.left (formula.quantity.toNat * (1 + formula.explosionsOfOnes))) 1 := by
  have ones := (pool_of_ones (fun _ : σ => faceOfDraw_of_le_one flat _) source).1
  have select : (formula.faces source).1 = formula.select (formula.pool source).1 := rfl
  rw [select, ones, List.eq_replicate_iff, length_select, List.length_replicate]
  exact ⟨rfl, forall_mem_select fun _ => List.eq_of_mem_replicate⟩

end Draws

/-- All parts of the text that are formulas within the limits have dice with one side at most. -/
def OneSided (limits : Limits) (text : String) : Prop :=
  ∀ part ∈ parts text, ∀ formula, parse limits part = .ok formula → formula.sides ≤ 1

end Formula

namespace Cup

section Source

variable {σ τ : Type} [DrawSource σ] [DrawSource τ] {limits : Limits} {text : String}

/-- A text that is a formula is rolled, and the others from where it leaves the source. -/
theorem fst_rollAll_of_ok {σ : Type} [FaceSource σ] {formula : Formula}
    (accepted : Formula.parse limits text = .ok formula) (texts : List String) (source : σ) :
    (rollAll (text :: texts) { source, limits }).1 =
      (rollAll texts { source := (formula.faces source).2, limits }).1.map
        (Roll.ofFaces text (formula.faces source).1 formula.modifier :: ·) := by
  rw [rollAll_cons, rollFormula_of_ok accepted]
  dsimp only
  rcases rollAll texts { source := (formula.faces source).2, limits } with ⟨fault | rolls, left⟩ <;>
    rfl

/-- Of formulas whose dice have one side at most, any two sources show the same. -/
theorem fst_rollAll_of_one_sided {texts : List String}
    (flat : ∀ text ∈ texts, ∀ formula, Formula.parse limits text = .ok formula →
      formula.sides ≤ 1) (source : σ) (source' : τ) :
    (rollAll texts { source, limits }).1 = (rollAll texts { source := source', limits }).1 := by
  induction texts generalizing source source' with
  | nil => rfl
  | cons text texts ih =>
    obtain ⟨first, rest⟩ := List.forall_mem_cons.mp flat
    cases read : Formula.parse limits text with
    | error fault => simp only [rollAll_cons, rollFormula_of_error read]
    | ok formula =>
      have faces : (formula.faces source).1 = (formula.faces source').1 := by
        rw [Formula.faces_of_one_sided (first formula read),
          Formula.faces_of_one_sided (first formula read)]
      rw [fst_rollAll_of_ok read, fst_rollAll_of_ok read, faces]
      exact congrArg _ (ih rest _ _)

/-- Texts whose dice have one side at most are rolled alike with any two sources. -/
theorem fst_roll_of_one_sided (flat : Formula.OneSided limits text) (source : σ) (source' : τ) :
    (roll text { source, limits }).1 = (roll text { source := source', limits }).1 :=
  fst_rollAll_of_one_sided flat source source'

/-- Texts whose dice have one side at most are tallied alike with any two sources. -/
theorem fst_tally_of_one_sided (flat : Formula.OneSided limits text) (condition : String)
    (source : σ) (source' : τ) :
    (tally text condition { source, limits }).1 =
      (tally text condition { source := source', limits }).1 := by
  cases read : Comparison.parse condition with
  | error fault => rw [tally_of_error read, tally_of_error read]
  | ok comparison =>
    rw [tally_of_ok read, tally_of_ok read]
    exact congrArg (Except.map _) (fst_roll_of_one_sided flat source source')

end Source

section Generator

variable {γ : Type} [WordSource γ]

theorem fst_rollWith (text : String) (generator : γ) :
    (rollWith text generator).1 = (roll text { source := generator }).1 := by
  rw [rollWith, Prod.map_fst, id_eq]

theorem fst_tallyWith (text condition : String) (generator : γ) :
    (tallyWith text condition generator).1 =
      (tally text condition { source := generator }).1 := by
  rw [tallyWith, Prod.map_fst, id_eq]

end Generator

end Cup

namespace Formula

/-- **Dice with one side.** Dice that have one side at most show a one whatever is drawn: so the
pool of a formula, the draws for it and the faces that count are known beforehand, and texts of such
formulas come to the same rolls and the same tallies with any two sources and any two generators. -/
theorem one_sided {σ τ : Type} [DrawSource σ] [DrawSource τ] :
    (∀ formula : Formula, formula.sides ≤ 1 → ∀ source : σ,
      let count := formula.quantity.toNat * (1 + formula.explosionsOfOnes)
      let draws := count + formula.rerollsOfOnes
      formula.pool source = (List.replicate count 1, DrawSource.after source draws) ∧
        (formula.pool ({ source } : Recorded σ)).2.shown = List.replicate draws 1 ∧
        formula.faces source =
          (List.replicate (formula.left count) 1, DrawSource.after source draws)) ∧
    (∀ limits text, OneSided limits text → ∀ (source : σ) (source' : τ),
      (Cup.roll text { source, limits }).1 =
          (Cup.roll text { source := source', limits }).1 ∧
        ∀ condition, (Cup.tally text condition { source, limits }).1 =
          (Cup.tally text condition { source := source', limits }).1) ∧
    ∀ text, OneSided {} text → ∀ {γ δ : Type} [WordSource γ] [WordSource δ]
      (generator : γ) (generator' : δ),
      (rollWith text generator).1 = (rollWith text generator').1 ∧
        ∀ condition, (tallyWith text condition generator).1 =
          (tallyWith text condition generator').1 := by
  refine ⟨fun formula flat source => ?_, fun limits text flat source source' => ?_,
    fun text flat _ _ _ _ generator generator' => ?_⟩
  · obtain ⟨pool, shown⟩ := pool_of_ones (fun _ : σ => faceOfDraw_of_le_one flat _) source
    have left := formula.source_pool source
    rw [draws, shown, List.length_replicate] at left
    exact ⟨Prod.ext pool left, shown, Prod.ext (faces_of_one_sided flat source) left⟩
  · exact ⟨Cup.fst_roll_of_one_sided flat source source',
      fun condition => Cup.fst_tally_of_one_sided flat condition source source'⟩
  · simp only [Cup.fst_rollWith, Cup.fst_tallyWith]
    exact ⟨Cup.fst_roll_of_one_sided flat generator generator',
      fun condition => Cup.fst_tally_of_one_sided flat condition generator generator'⟩

/-- Each of three dice with one side explodes four times, but there are only two rerolls for them:
so there are fifteen ones in the pool, and seventeen draws were taken. -/
theorem one_sided_three_dice :
    let formula : Formula :=
      { quantity := 3, sides := 1
        reroll := some { on := { comparator := .equal, target := 1 }, limit := 2 }
        explosion := some { on := { comparator := .less, target := 2 }, limit := 4 }
        selection := some { choice := .drop, extreme := .lowest, amount := 5 }, modifier := 0 }
    let wild : Replay := { draws := #[-7, 0.5, 1e300] }
    let zeros : WordCycle := { words := #[] }
    let cycle : WordCycle := { words := #[3, 0xFFFFFFFFFFFFFFFF] }
    let text := "3d1r1!kh2,\t2D1!3 - 1"
    formula.sides ≤ 1 ∧
      formula.pool wild = (List.replicate 15 1, { wild with taken := 17 }) ∧
      (formula.pool ({ source := wild } : Recorded Replay)).2.shown = List.replicate 17 1 ∧
      formula.faces wild = (List.replicate 10 1, { wild with taken := 17 }) ∧
      OneSided {} text ∧
      (Cup.roll text { source := wild, limits := {} }).1 =
        (Cup.roll text { source := zeros, limits := {} }).1 ∧
      (rollWith text zeros).1 = (rollWith text cycle).1 ∧
      (tallyWith text ">=1" zeros).1 = (tallyWith text ">=1" cycle).1 := by
  intro formula wild zeros cycle text
  have flat : OneSided {} text := by
    have parts : parts "3d1r1!kh2,\t2D1!3 - 1" = ["3d1r1!kh2", "2D1!3 - 1"] := rfl
    simp only [OneSided, text, parts, List.forall_mem_cons, List.not_mem_nil, false_implies,
      implies_true, and_true]
    constructor <;>
    · rintro formula ⟨⟩
      decide
  obtain ⟨alone, sources, generators⟩ := @one_sided Replay WordCycle _ _
  obtain ⟨pool, shown, faces⟩ := alone formula (by decide) wild
  obtain ⟨rolls, tallies⟩ := generators text flat zeros cycle
  exact ⟨by decide, pool, shown, faces, flat, (sources {} text flat wild zeros).1, rolls,
    tallies _⟩

end Formula
end TabletopDice
