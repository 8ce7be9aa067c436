import TabletopDice.Chance.Replay
import TabletopDice.Proofs.Splitting

/-!
# How many rerolls are enough

A limit on rerolls is felt only by the dice that ask for a reroll in vain. So all limits that are
not below the number of dice that ask for one come to the same, and a limit below that makes no
difference until the first die that it refuses (`reroll_limit_while_it_binds`). If no reroll is made
at all, it does not matter what the formula would reroll.
-/

namespace TabletopDice

/-- More members than this satisfy the test, so there is one that does and has just as many of them
before it. -/
theorem exists_split_of_lt_countP {α : Type} {test : α → Bool} {members : List α} {count : Nat}
    (more : count < members.countP test) :
    ∃ before member after, members = before ++ member :: after ∧
      before.countP test = count ∧ test member = true := by
  rw [List.countP_eq_length_filter] at more
  obtain ⟨passing, member, others, found, length_eq⟩ : ∃ passing member others,
      members.filter test = passing ++ member :: others ∧ passing.length = count := by
    refine ⟨(members.filter test).take count, (members.filter test)[count],
      (members.filter test).drop (count + 1), ?_, List.length_take_of_le (Nat.le_of_lt more)⟩
    rw [← List.drop_eq_getElem_cons more, List.take_append_drop]
  obtain ⟨front, back, rfl, passed, rest⟩ := List.filter_eq_append_iff.mp found
  obtain ⟨failed, after, rfl, none_pass, passes, -⟩ := List.filter_eq_cons_iff.mp rest
  refine ⟨front ++ failed, member, after, (List.append_assoc ..).symm, ?_, passes⟩
  rw [List.countP_append, List.countP_eq_length_filter, passed, length_eq,
    List.countP_eq_zero.mpr none_pass, Nat.add_zero]

namespace Formula

variable {σ : Type} [FaceSource σ] {formula other : Formula} {source : σ}

/-- The formula with this reroll instead of its own. -/
def rerolling (formula : Formula) (on : Comparison) (limit : UInt32) : Formula :=
  { formula with reroll := some { on, limit } }

/-- The formula without its reroll. -/
def withoutReroll (formula : Formula) : Formula :=
  { formula with reroll := none }

/-- The two formulas come to the same pool and the same faces that count, and leave the source the
same. -/
structure RollsLike (formula other : Formula) (source : σ) : Prop where
  pool_eq : formula.pool source = other.pool source
  faces_eq : formula.faces source = other.faces source

theorem RollsLike.symm (alike : formula.RollsLike other source) : other.RollsLike formula source :=
  ⟨alike.pool_eq.symm, alike.faces_eq.symm⟩

theorem RollsLike.trans {third : Formula} (alike : formula.RollsLike other source)
    (alike' : other.RollsLike third source) : formula.RollsLike third source :=
  ⟨alike.pool_eq.trans alike'.pool_eq, alike.faces_eq.trans alike'.faces_eq⟩

/-- Formulas with the same selection roll alike if their pools are the same. -/
theorem RollsLike.of_pool_eq (selection_eq : formula.selection = other.selection)
    (pool_eq : formula.pool source = other.pool source) : formula.RollsLike other source where
  pool_eq
  faces_eq := by simp only [faces, select, pool_eq, selection_eq]

/-- The rolls of two formulas part at a die that asks for a reroll. The dice before it are rolled
the same, with so many rerolls, and it shows the same face; but only the first formula has a reroll
left for it. -/
inductive PartAfter (formula other : Formula) (source : σ) (spent : Nat) :
    List Block → List Block → Prop where
  | refusal (before : List Block) (die die' : Block) (after after' : List Block)
    (alike : (formula.withQuantity (.ofNat before.length)).pool ({ source } : Recorded σ) =
      (other.withQuantity (.ofNat before.length)).pool { source })
    (shows : (FaceSource.face formula.sides
      ((formula.withQuantity (.ofNat before.length)).pool source).2).1 = die.first)
    (shows' : die'.first = die.first)
    (asked : before.countP (formula.rerolls ·.first) = spent)
    (asks : formula.rerolls die.first)
    (granted : die.replacement.isSome)
    (refused : die'.replacement = none) :
    PartAfter formula other source spent (before ++ die :: after) (before ++ die' :: after')

/-- Where the blocks are split, the roll of the dice is split. -/
theorem rollBlocks_eq_append_cons {quantity rerolls : Nat} {before after : List Block}
    {die : Block}
    (split : (formula.rollBlocks quantity rerolls source).1 = before ++ die :: after) :
    ∃ middle,
      formula.rollBlocks before.length rerolls source = (before, middle) ∧
      quantity = before.length + (after.length + 1) ∧
      (formula.rollBlock (rerolls - before.countP (·.replacement.isSome)) middle).1 = die := by
  have quantity_eq : quantity = before.length + (after.length + 1) := by
    rw [← formula.length_rollBlocks quantity rerolls source, split, List.length_append,
      List.length_cons]
  rw [quantity_eq, rollBlocks_add] at split
  obtain ⟨front, rest⟩ := List.append_inj split (formula.length_rollBlocks ..)
  refine ⟨(formula.rollBlocks before.length rerolls source).2, Prod.ext front rfl, quantity_eq, ?_⟩
  rw [front] at rest
  exact (List.cons.inj rest).1

/-- With fewer rerolls than dice that ask for one, the same dice come first, and then one that is
refused. -/
theorem exists_refused {quantity fewer : Nat}
    (enough : (formula.rollBlocks quantity formula.rerollLimit source).1.countP
      (formula.rerolls ·.first) ≤ formula.rerollLimit)
    (few : fewer < (formula.rollBlocks quantity formula.rerollLimit source).1.countP
      (formula.rerolls ·.first)) :
    ∃ before middle after after',
      before.length < quantity ∧
      before.countP (formula.rerolls ·.first) = fewer ∧
      formula.rollBlocks before.length formula.rerollLimit source = (before, middle) ∧
      formula.rollBlocks before.length fewer source = (before, middle) ∧
      formula.rerolls (FaceSource.face formula.sides middle).1 ∧
      (formula.rollBlocks quantity formula.rerollLimit source).1 =
        before ++ (formula.rollBlock (formula.rerollLimit - fewer) middle).1 :: after ∧
      (formula.rollBlocks quantity fewer source).1 =
        before ++ (formula.rollBlock 0 middle).1 :: after' := by
  obtain ⟨before, die, after, split, asked, asks⟩ := exists_split_of_lt_countP few
  obtain ⟨middle, front, quantity_eq, die_eq⟩ := rollBlocks_eq_append_cons split
  have replaced : before.countP (·.replacement.isSome) = fewer := by
    have lawful := formula.lawfulFrom_rollBlocks before.length 0 source
    rw [Nat.sub_zero, front] at lawful
    rw [lawful.countP_replaced, asked]
    omega
  have front' : formula.rollBlocks before.length fewer source = (before, middle) := by
    rw [← front]
    apply rollBlocks_of_enough <;> simp only [front, asked]
    · omega
    · exact Nat.le_refl _
  rw [replaced] at die_eq
  subst die_eq
  refine ⟨before, middle, after,
    (formula.rollBlocks after.length 0 (formula.rollBlock 0 middle).2).1, by omega, asked, front,
    front', asks, split, ?_⟩
  rw [quantity_eq, rollBlocks_add]
  simp only [front', replaced, Nat.sub_self, rollBlocks, Nat.zero_sub]

/-- The record of another number of dice holds the faces of so many blocks. -/
theorem pool_withQuantity_recorded (formula : Formula) (quantity : UInt32) (source : σ) :
    (formula.withQuantity quantity).pool ({ source } : Recorded σ) =
      let rolled := formula.rollBlocks quantity.toNat formula.rerollLimit source
      (rolled.1.flatMap (·.chain),
        { source := rolled.2
          throws := (rolled.1.flatMap (·.shown)).map (.mk formula.sides) }) := by
  rw [pool_withQuantity, rollBlocks_recorded]
  rfl

/-- The first die that one of two formulas refuses a reroll, while the other has rerolls for all
that ask, is where their rolls part. -/
theorem SameDie.partAfter (same : formula.SameDie other)
    (enough : (formula.rollBlocks formula.quantity.toNat formula.rerollLimit source).1.countP
      (formula.rerolls ·.first) ≤ formula.rerollLimit)
    (few : other.rerollLimit < (formula.rollBlocks formula.quantity.toNat formula.rerollLimit
      source).1.countP (formula.rerolls ·.first)) :
    formula.PartAfter other source other.rerollLimit
      (formula.rollBlocks formula.quantity.toNat formula.rerollLimit source).1
      (other.rollBlocks formula.quantity.toNat other.rerollLimit source).1 := by
  obtain ⟨before, middle, after, after', short, asked, front, front', asks, split, split'⟩ :=
    exists_refused enough few
  have count : (UInt32.ofNat before.length).toNat = before.length :=
    UInt32.toNat_ofNat_of_lt' (Nat.lt_trans short formula.quantity.toNat_lt)
  have left : 0 < formula.rerollLimit - other.rerollLimit := by omega
  rw [← same.rollBlocks_eq, split, split']
  refine .refusal before _ _ after after' ?alike ?shows rfl asked asks ?granted ?refused
  case alike =>
    rw [pool_withQuantity_recorded, pool_withQuantity_recorded, count, same.sides_eq, front,
      ← same.rollBlocks_eq, front']
  case shows =>
    rw [pool_withQuantity, count, front]
    rfl
  case granted =>
    rw [isSome_replacement, decide_eq_true left, Bool.true_and]
    exact asks
  case refused =>
    have never : (formula.rollBlock 0 middle).1.replacement.isSome = false := by
      rw [isSome_replacement]
      exact Bool.false_and _
    exact Option.isNone_iff_eq_none.mp (Option.isSome_eq_false_iff.mp never)

/-- Where two rolls part, more dice ask for a reroll than were granted one before. -/
theorem PartAfter.lt_countP {spent : Nat} {blocks blocks' : List Block}
    (part : formula.PartAfter other source spent blocks blocks') :
    spent < blocks'.countP (formula.rerolls ·.first) := by
  cases part with
  | refusal before die die' after after' _ _ shows' asked asks =>
    simp only [List.countP_append, List.countP_cons, shows', asks, asked, ↓reduceIte]
    omega

/-- If there is a reroll for each die, a die is rerolled whenever it asks for it. -/
theorem Accounts.isSome_replacement_eq {shown : List UInt32} {blocks : List Block}
    (accounts : formula.Accounts shown blocks)
    (plenty : formula.quantity.toNat ≤ formula.rerollLimit) :
    ∀ block ∈ blocks, block.replacement.isSome = formula.rerolls block.first := by
  intro block there
  obtain ⟨before, after, split⟩ := List.append_of_mem there
  have granted := (accounts.lawful before block after split).isSome_iff
  have left : before.countP (·.replacement.isSome) < formula.rerollLimit := by
    have length_eq := accounts.length_eq
    rw [split, List.length_append, List.length_cons] at length_eq
    have spent : before.countP (·.replacement.isSome) ≤ before.length := List.countP_le_length
    omega
  rw [Bool.eq_iff_iff, granted, and_iff_left left]

section Rerolling

variable {on : Comparison}

theorem rerolls_rerolling (formula : Formula) (on : Comparison) (limit : UInt32) :
    (formula.rerolling on limit).rerolls = on.takes := by
  have there : (formula.rerolling on limit).reroll = some { on, limit } := rfl
  exact rerolls_of_some there

/-- The limit of the reroll makes no difference to a single die. -/
theorem sameDie_rerolling (formula : Formula) (on : Comparison) (limit limit' : UInt32) :
    (formula.rerolling on limit).SameDie (formula.rerolling on limit') :=
  ⟨rfl, rfl, rfl, rfl⟩

/-- A reroll that is never granted is as good as none. -/
theorem rollsLike_withoutReroll (formula : Formula) (on : Comparison) (source : σ) :
    (formula.rerolling on 0).RollsLike formula.withoutReroll source := by
  have explosions (limit : Nat) (face : UInt32) (source : σ) :
      (formula.rerolling on 0).explosionsFrom limit face source =
        formula.withoutReroll.explosionsFrom limit face source := by
    apply explosionsFrom_congr <;> rfl
  have each : ∀ rerolls ≤ 0, ∀ source : σ,
      (formula.rerolling on 0).rollBlock rerolls source =
        formula.withoutReroll.rollBlock rerolls source := by
    intro rerolls none_left source
    obtain rfl := Nat.le_zero.mp none_left
    simp only [rollBlock, replacementFor, Nat.lt_irrefl, decide_false, Bool.false_and,
      Bool.false_eq_true, ↓reduceIte, explosions]
    rfl
  exact .of_pool_eq rfl (pool_congr (rollBlocks_congr each formula.quantity.toNat source))

/-- Two limits that are both high enough for all dice that ask make no difference. -/
theorem rollsLike_of_enough {limit limit' : UInt32}
    (enough : ((formula.rerolling on limit).rollBlocks formula.quantity.toNat limit.toNat
      source).1.countP (on.takes ·.first) ≤ limit.toNat)
    (enough' : ((formula.rerolling on limit).rollBlocks formula.quantity.toNat limit.toNat
      source).1.countP (on.takes ·.first) ≤ limit'.toNat) :
    (formula.rerolling on limit').RollsLike (formula.rerolling on limit) source := by
  have same := (formula.sameDie_rerolling on limit' limit).rollBlocks_eq formula.quantity.toNat
    limit'.toNat source
  rw [← rerolls_rerolling formula on limit] at enough enough'
  exact .of_pool_eq rfl (pool_congr (same.trans (rollBlocks_of_enough enough enough')))

/-- **A limit on rerolls.** When each die may be rerolled, just those are that ask for it, and their
number is what counts: with any limit that is not below it the roll is the same, and with a lower
limit as many dice are rerolled as it allows, and the two rolls part at the first die that is
refused. A reroll that is never granted, or that no face asks for, is as good as none. -/
theorem reroll_limit_while_it_binds (formula : Formula) (on : Comparison) (source : σ) :
    let free := formula.rerolling on formula.quantity
    ∃ blocks, free.Accounts (free.pool ({ source } : Recorded σ)).2.shown blocks ∧
      blocks.countP (on.takes ·.first) ≤ formula.quantity.toNat ∧
      (∀ block ∈ blocks, block.replacement.isSome = on.takes block.first) ∧
      (∀ limit : UInt32, blocks.countP (on.takes ·.first) ≤ limit.toNat →
        (formula.rerolling on limit).RollsLike free source) ∧
      (∀ limit : UInt32, limit.toNat < blocks.countP (on.takes ·.first) →
        let bound := formula.rerolling on limit
        ∃ blocks', bound.Accounts (bound.pool ({ source } : Recorded σ)).2.shown blocks' ∧
          blocks'.countP (·.replacement.isSome) = limit.toNat ∧
          free.PartAfter bound source limit.toNat blocks blocks') ∧
      (formula.rerolling on 0).RollsLike formula.withoutReroll source ∧
      ∀ limit : UInt32,
        (∀ face ∈ ((formula.rerolling on limit).pool ({ source } : Recorded σ)).2.shown,
          on.takes face = false) →
        (formula.rerolling on limit).RollsLike formula.withoutReroll source := by
  intro free
  have accounts := free.accounts_pool source
  have few : (free.rollBlocks formula.quantity.toNat formula.quantity.toNat source).1.countP
      (on.takes ·.first) ≤ formula.quantity.toNat :=
    Nat.le_trans List.countP_le_length (Nat.le_of_eq (free.length_rollBlocks ..))
  have asks_eq := formula.rerolls_rerolling on
  refine ⟨_, accounts, few, ?granted, fun limit enough => rollsLike_of_enough few enough, ?refused,
    formula.rollsLike_withoutReroll on source, ?unasked⟩
  case granted =>
    have granted := accounts.isSome_replacement_eq (Nat.le_refl _)
    rwa [asks_eq] at granted
  case refused =>
    intro limit fewer bound
    have accounts' := bound.accounts_pool source
    have part : free.PartAfter bound source limit.toNat _ _ :=
      (formula.sameDie_rerolling on formula.quantity limit).partAfter few fewer
    have more : limit.toNat < _ := part.lt_countP
    refine ⟨_, accounts', ?_, part⟩
    rw [accounts'.countP_replaced]
    exact Nat.min_eq_left (Nat.le_of_lt more)
  case unasked =>
    intro limit unasked
    have none_asks : ((formula.rerolling on limit).rollBlocks formula.quantity.toNat limit.toNat
        source).1.countP (on.takes ·.first) = 0 := by
      rw [List.countP_eq_zero]
      intro block there
      rw [shown_pool] at unasked
      rw [unasked block.first (List.mem_flatMap_of_mem there List.mem_cons_self)]
      exact Bool.false_ne_true
    have same : (formula.rerolling on 0).RollsLike (formula.rerolling on limit) source := by
      apply rollsLike_of_enough <;> rw [none_asks] <;> exact Nat.zero_le _
    exact same.symm.trans (formula.rollsLike_withoutReroll on source)

/-- Three of the four dice ask for a reroll. With a limit of one the second of them is refused, and
there the roll parts from that with a reroll for each die. -/
theorem reroll_limit_while_it_binds_one :
    let formula : Formula :=
      { quantity := 4, sides := 6, reroll := none
        explosion := some { on := { comparator := .equal, target := 6 }, limit := 1 }
        selection := none, modifier := 0 }
    let low : Comparison := { comparator := .less, target := 3 }
    let source := Replay.ofFaces 6 [1, 6, 4, 2, 3, 5, 2, 1, 6]
    let shown (limit : UInt32) :=
      ((formula.rerolling low limit).pool ({ source } : Recorded Replay)).2.shown
    ∃ blocks blocks', (formula.rerolling low formula.quantity).Accounts (shown formula.quantity)
        blocks ∧
      (1 : UInt32).toNat < blocks.countP (low.takes ·.first) ∧
      (formula.rerolling low 1).Accounts (shown 1) blocks' ∧
      blocks'.countP (·.replacement.isSome) = 1 ∧
      (formula.rerolling low formula.quantity).PartAfter (formula.rerolling low 1) source 1 blocks
        blocks' := by
  intro formula low source shown
  obtain ⟨blocks, accounts, -, -, -, refused, -⟩ :=
    reroll_limit_while_it_binds formula low source
  have few : (1 : UInt32).toNat < blocks.countP (low.takes ·.first) := by
    rw [accounts.unique ((formula.rerolling low formula.quantity).accounts_pool source)]
    decide +kernel
  obtain ⟨blocks', accounts', replaced, part⟩ := refused 1 few
  exact ⟨blocks, blocks', accounts, few, accounts', replaced, part⟩

end Rerolling

end Formula
end TabletopDice
