import Mathlib.Data.List.Forall2
import TabletopDice.Chance.Replay
import TabletopDice.Proofs.Blocks
import TabletopDice.Proofs.Compound
import TabletopDice.Proofs.Picking
import TabletopDice.Proofs.Reading

/-!
# What accepted formulas come to

A formula is checked before anything is rolled, and its selection is set against the dice that are
written. The pool may be longer than that, and its faces are drawn by chance; still nothing is left
to check when the dice have been rolled (`promised_of_parse`).
-/

namespace TabletopDice

/-- The chain of a lawful block has a face, and no more than the explosions allow. -/
theorem Block.Lawful.length_chain {formula : Formula} {spent : Nat} {block : Block}
    (lawful : block.Lawful formula spent) :
    1 ≤ block.chain.length ∧ block.chain.length ≤ 1 + formula.explosionLimit := by
  have some_face : 1 ≤ block.chain.length := by
    rw [chain, List.length_cons]
    omega
  exact ⟨some_face, lawful.exhausted_chain.length_le⟩

namespace Formula

section Pool

variable {σ : Type} [FaceSource σ] (formula : Formula)

/-- Each die adds one face to the pool, and one more at most for each explosion that it has. -/
theorem length_chain_of_mem {quantity : Nat} {source : σ} {block : Block}
    (member : block ∈ (formula.rollBlocks quantity formula.rerollLimit source).1) :
    1 ≤ block.chain.length ∧ block.chain.length ≤ 1 + formula.explosionLimit := by
  obtain ⟨before, after, split⟩ := List.append_of_mem member
  have lawful := formula.lawfulFrom_rollBlocks quantity 0 source
  exact (lawful before block after split).length_chain

/-- If each of some blocks keeps to its bounds, all of them together do. -/
theorem length_flatMap_chain {blocks : List Block} (each : ∀ block ∈ blocks,
    1 ≤ block.chain.length ∧ block.chain.length ≤ 1 + formula.explosionLimit) :
    blocks.length ≤ (blocks.flatMap (·.chain)).length ∧
      (blocks.flatMap (·.chain)).length ≤ blocks.length * (1 + formula.explosionLimit) := by
  induction blocks with
  | nil => simp only [List.flatMap_nil, List.length_nil, Nat.zero_mul, Nat.le_refl, and_self]
  | cons block blocks ih =>
    obtain ⟨some_face, few⟩ := each block List.mem_cons_self
    obtain ⟨lower, upper⟩ := ih fun block member => each block (List.mem_cons_of_mem _ member)
    rw [List.flatMap_cons, List.length_append, List.length_cons, Nat.succ_mul]
    omega

/-- There is a face in the pool for each die, and for each die no more than its explosions allow. -/
theorem length_pool (source : σ) :
    formula.quantity.toNat ≤ (formula.pool source).1.length ∧
      (formula.pool source).1.length ≤ formula.quantity.toNat * (1 + formula.explosionLimit) := by
  have each : ∀ block ∈ (formula.rollBlocks formula.quantity.toNat formula.rerollLimit source).1,
      1 ≤ block.chain.length ∧ block.chain.length ≤ 1 + formula.explosionLimit :=
    fun _ => formula.length_chain_of_mem
  have total := formula.length_flatMap_chain each
  rw [length_rollBlocks] at total
  rwa [pool_eq]

variable {formula} {shows : UInt32 → Prop}

/-- What every face has that the source shows, those have that a die goes on to. -/
theorem forall_mem_explosionsFrom
    (all : ∀ source : σ, shows (FaceSource.face formula.sides source).1) (limit : Nat)
    (face : UInt32) (source : σ) :
    ∀ next ∈ (formula.explosionsFrom limit face source).1, shows next := by
  induction limit generalizing face source with
  | zero => exact List.forall_mem_nil _
  | succ limit ih =>
    by_cases explodes : formula.explodes face
    · simp only [explosionsFrom, explodes, ↓reduceIte]
      exact List.forall_mem_cons.mpr ⟨all source, ih _ _⟩
    · simp only [explosionsFrom, explodes, Bool.false_eq_true, ↓reduceIte]
      exact List.forall_mem_nil _

/-- What every face has that the source shows, those of a chain have. -/
theorem forall_mem_chain
    (all : ∀ source : σ, shows (FaceSource.face formula.sides source).1) (rerolls : Nat)
    (source : σ) : ∀ face ∈ (formula.rollBlock rerolls source).1.chain, shows face := by
  have first (face : UInt32) (shown : shows face) (source : σ) :
      shows ((formula.replacementFor rerolls face source).1.getD face) := by
    unfold replacementFor
    split
    · exact all source
    · exact shown
  exact List.forall_mem_cons.mpr ⟨first _ (all source) _, forall_mem_explosionsFrom all _ _ _⟩

/-- What every face has that the source shows, those of all chains have. -/
theorem forall_mem_rollBlocks
    (all : ∀ source : σ, shows (FaceSource.face formula.sides source).1) (quantity rerolls : Nat)
    (source : σ) :
    ∀ face ∈ (formula.rollBlocks quantity rerolls source).1.flatMap (·.chain), shows face := by
  induction quantity generalizing rerolls source with
  | zero => exact List.forall_mem_nil _
  | succ quantity ih =>
    simp only [rollBlocks, List.flatMap_cons]
    exact List.forall_mem_append.mpr ⟨forall_mem_chain all rerolls source, ih _ _⟩

/-- What every face has that the source shows, every face of the pool has. -/
theorem forall_mem_pool (all : ∀ source : σ, shows (FaceSource.face formula.sides source).1)
    (source : σ) : ∀ face ∈ (formula.pool source).1, shows face := by
  rw [pool_eq]
  exact forall_mem_rollBlocks all _ _ source

end Pool

/-- What the check of a formula promises of its pool, and of the faces of it that count. -/
structure Promised (formula : Formula) (pool faces : List UInt32) : Prop where
  quantity_le : formula.quantity.toNat ≤ pool.length
  length_le : pool.length ≤ formula.quantity.toNat * (1 + formula.explosionLimit)
  pool_on_die : ∀ face ∈ pool, 1 ≤ face ∧ face ≤ formula.sides
  faces_on_die : ∀ face ∈ faces, 1 ≤ face ∧ face ≤ formula.sides
  ne_nil : faces ≠ []
  kept : ∀ selection ∈ formula.selection, selection.choice = .keep →
    faces.length = selection.amount.toNat ∧ selection.amount.toNat ≤ pool.length
  dropped : ∀ selection ∈ formula.selection, selection.choice = .drop →
    faces.length + selection.amount.toNat = pool.length
  ascending : formula.selection.isSome → faces.Pairwise (· ≤ ·)
  whole : formula.selection = none → faces = pool

theorem select_of_none {formula : Formula} (absent : formula.selection = none)
    (pool : List UInt32) : formula.select pool = pool := by
  rw [select, absent, Option.elim_none]

theorem select_of_some {formula : Formula} {selection : Selection}
    (there : selection ∈ formula.selection) (pool : List UInt32) :
    formula.select pool = selection.pick pool := by
  rw [select, there, Option.elim_some]

section Promised

variable {formula : Formula} {limits : Limits} {pool : List UInt32}

/-- A selection that keeps dice finds as many as it asks for, and that is one at least. -/
theorem Rollable.kept (rollable : formula.Rollable limits)
    (quantity_le : formula.quantity.toNat ≤ pool.length) {selection : Selection}
    (there : selection ∈ formula.selection) (keeps : selection.choice = .keep) :
    (formula.select pool).length = selection.amount.toNat ∧
      0 < selection.amount.toNat ∧ selection.amount.toNat ≤ pool.length := by
  have some_face : 0 < selection.amount.toNat :=
    UInt32.lt_iff_toNat_lt.mp (rollable.keep_pos selection there keeps)
  have enough : selection.amount.toNat ≤ formula.quantity.toNat :=
    UInt32.le_iff_toNat_le.mp (rollable.keep_le selection there keeps)
  rw [select_of_some there, Selection.length_pick_of_keep keeps]
  omega

/-- A selection that drops dice drops as many as it says, and leaves one at least. -/
theorem Rollable.dropped (rollable : formula.Rollable limits)
    (quantity_le : formula.quantity.toNat ≤ pool.length) {selection : Selection}
    (there : selection ∈ formula.selection) (drops : selection.choice = .drop) :
    0 < (formula.select pool).length ∧
      (formula.select pool).length + selection.amount.toNat = pool.length := by
  have fewer : selection.amount.toNat < formula.quantity.toNat :=
    UInt32.lt_iff_toNat_lt.mp (rollable.drop_lt selection there drops)
  rw [select_of_some there, Selection.length_pick_of_drop drops]
  omega

/-- As there is a face for each die, the selection of a formula that is rollable leaves some. -/
theorem Rollable.select_ne_nil (rollable : formula.Rollable limits)
    (quantity_le : formula.quantity.toNat ≤ pool.length) : formula.select pool ≠ [] := by
  apply List.ne_nil_of_length_pos
  cases found : formula.selection with
  | none =>
    have positive : 0 < formula.quantity.toNat := UInt32.lt_iff_toNat_lt.mp rollable.quantity_pos
    rw [select_of_none found]
    omega
  | some selection =>
    cases choice : selection.choice with
    | keep =>
      obtain ⟨length_eq, some_face, -⟩ := rollable.kept quantity_le found choice
      omega
    | drop => exact (rollable.dropped quantity_le found choice).1

/-- What all faces of a pool have, those that count have. -/
theorem forall_mem_select {shows : UInt32 → Prop} (all : ∀ face ∈ pool, shows face) :
    ∀ face ∈ formula.select pool, shows face := by
  cases found : formula.selection with
  | none => rwa [select_of_none found]
  | some selection =>
    rw [select_of_some found]
    exact fun face member => all face (Selection.mem_of_mem_pick member)

/-- What the check has let through keeps what is promised, whatever is drawn. -/
theorem Rollable.promised {σ : Type} [DrawSource σ] (rollable : formula.Rollable limits)
    (source : σ) : formula.Promised (formula.pool source).1 (formula.faces source).1 := by
  have on_die : ∀ face ∈ (formula.pool source).1, 1 ≤ face ∧ face ≤ formula.sides :=
    forall_mem_pool (fun _ => faceOfDraw_mem rollable.sides_pos) source
  obtain ⟨quantity_le, length_le⟩ := formula.length_pool source
  exact {
    quantity_le
    length_le
    pool_on_die := on_die
    faces_on_die := forall_mem_select on_die
    ne_nil := rollable.select_ne_nil quantity_le
    kept := fun selection there keeps =>
      have kept := rollable.kept quantity_le there keeps
      ⟨kept.1, kept.2.2⟩
    dropped := fun selection there drops => (rollable.dropped quantity_le there drops).2
    ascending := fun there => by
      obtain ⟨selection, found⟩ := Option.isSome_iff_exists.mp there
      change (formula.select (formula.pool source).1).Pairwise (· ≤ ·)
      rw [select_of_some found]
      exact selection.pairwise_pick _
    whole := fun absent => select_of_none absent _ }

end Promised

/-- The roll is that of a formula which is read from the text within the limits, and which keeps
what its check has promised. -/
def PromisedRoll (σ : Type) [FaceSource σ] (limits : Limits) (text : String) (roll : Roll) : Prop :=
  ∃ (formula : Formula) (source : σ), parse limits text = .ok formula ∧
    roll = Roll.ofFaces text (formula.faces source).1 formula.modifier ∧
    formula.Promised (formula.pool source).1 roll.faces

/-- Each roll of some texts is that of a formula which keeps what its check has promised. -/
theorem promised_of_rolls {σ : Type} [DrawSource σ] {limits : Limits} {texts : List String}
    {source left : σ} {rolls : List Roll} (rolled : Cup.Rolls limits texts source rolls left) :
    List.Forall₂ (PromisedRoll σ limits) texts rolls := by
  induction rolled with
  | nil => exact .nil
  | @cons text texts formula source left rolls accepted _ ih =>
    exact .cons ⟨formula, source, accepted, rfl, (rollable_of_parse accepted).promised source⟩ ih

/-- **The check is enough.** A formula that is read from a text under some limits comes to what its
check has promised, from any source of draws and whatever is drawn; and each outcome of a roll that
does not fail is that of such a formula, read from its part of the text. -/
theorem promised_of_parse {σ : Type} [DrawSource σ] (limits : Limits) (text : String) :
    (∀ formula, parse limits text = .ok formula → ∀ source : σ,
      formula.Promised (formula.pool source).1 (formula.faces source).1) ∧
    ∀ (source : σ) (left : Cup σ) (rolls : List Roll),
      Cup.roll text { source, limits } = (.ok rolls, left) →
        List.Forall₂ (PromisedRoll σ limits) (parts text) rolls := by
  constructor
  · intro formula accepted source
    exact (rollable_of_parse accepted).promised source
  · intro source left rolls rolled
    exact promised_of_rolls (Cup.roll_eq_ok rolled).2

/-- The promise holds of draws that lie outside of the unit interval, and of one that is no
number. -/
theorem promised_of_parse_wild_draws :
    let source : Replay := { draws := #[0.0 / 0.0, -3.5, 7.0, 0.5] }
    let formula : Formula :=
      { quantity := 3, sides := 6, reroll := none
        explosion := some { on := { comparator := .greater, target := 4 }, limit := 2 }
        selection := some { choice := .drop, extreme := .lowest, amount := 2 }
        modifier := 0 }
    parse {} "3d6!>4L2dl2" = .ok formula ∧
      formula.Promised (formula.pool source).1 (formula.faces source).1 ∧
      ∃ rolls left, Cup.roll "3d6!>4L2dl2" { source, limits := {} } = (.ok rolls, left) ∧
        List.Forall₂ (PromisedRoll Replay {}) (parts "3d6!>4L2dl2") rolls := by
  intro source formula
  have accepted : parse {} "3d6!>4L2dl2" = .ok formula := rfl
  have run : Cup.Rolls {} ["3d6!>4L2dl2"] source _ _ := .cons accepted (.nil _)
  have rolled := run.rollAll_eq
  exact ⟨accepted, (promised_of_parse {} _).1 formula accepted source, _, _, rolled,
    (promised_of_parse {} _).2 source _ _ rolled⟩

end Formula
end TabletopDice
