import TabletopDice.Pool
import TabletopDice.Chance.Recorded

/-!
# Blocks of faces

The faces that a source shows while a formula is rolled fall into blocks, one for each die. A block
starts with the face that the die shows first; then comes the face that replaces it, if it is
rerolled, and then the faces that the die explodes into. The pool is made of the blocks, in order
and without the faces that were replaced.
-/

namespace TabletopDice

/-- The faces that are shown for one die. -/
structure Block where
  first : UInt32
  replacement : Option UInt32
  explosions : List UInt32
deriving DecidableEq

namespace Block

/-- All faces of the block, in the order in which they are shown. -/
def shown (block : Block) : List UInt32 :=
  block.first :: (block.replacement.toList ++ block.explosions)

/-- The faces of the block that get into the pool. -/
def chain (block : Block) : List UInt32 :=
  block.replacement.getD block.first :: block.explosions

/-- The face of the block that was replaced, if one was. -/
def discarded (block : Block) : List UInt32 :=
  if block.replacement.isSome then [block.first] else []

/-- What is shown for a die is what it has discarded and then what it adds to the pool. -/
theorem shown_eq_discarded_append (block : Block) :
    block.shown = block.discarded ++ block.chain := by
  cases found : block.replacement <;> simp [shown, discarded, chain, found]

/-- What is told of a die, if so many rerolls are left before it: whether it was rerolled, and each
of its explosions. -/
def records (rerolls : Nat) (block : Block) : List Record :=
  block.replacement.toList.map (Record.rerolled block.first · (rerolls - 1)) ++
    block.explosions.map Record.exploded

/-- What is told of dice, one after another. -/
def log : (rerolls : Nat) → List Block → List Record
  | _, [] => []
  | rerolls, block :: blocks =>
    block.records rerolls ++ log (rerolls - block.replacement.isSome.toNat) blocks

/-- Of single dice nothing is told that anyone but a tracer wants to know. -/
theorem level_of_mem_log {rerolls : Nat} {blocks : List Block} {record : Record}
    (member : record ∈ log rerolls blocks) : record.level = .trace := by
  induction blocks generalizing rerolls with
  | nil => cases member
  | cons block blocks ih =>
    rcases List.mem_append.mp member with here | later
    · rcases List.mem_append.mp here with rerolled | exploded
      · obtain ⟨face, -, rfl⟩ := List.mem_map.mp rerolled
        rfl
      · obtain ⟨face, -, rfl⟩ := List.mem_map.mp exploded
        rfl
    · exact ih later

end Block

/-- A chain of faces goes on as long as it may: every face but the last sets an explosion off, and
the last does not, or the limit is reached. -/
structure Exhausted (explodes : UInt32 → Bool) (limit : Nat) (chain : List UInt32) : Prop where
  passing : ∀ face ∈ chain.dropLast, explodes face
  length_le : chain.length ≤ 1 + limit
  stopped : ∃ last, chain.getLast? = some last ∧
    (explodes last = false ∨ chain.length = 1 + limit)

/-- Whether a block is that of a die of the formula, if so many dice before it were rerolled. -/
structure Block.Lawful (formula : Formula) (spent : Nat) (block : Block) : Prop where
  replaced_iff : block.replacement.isSome ↔
    ∃ reroll ∈ formula.reroll, reroll.on.takes block.first ∧ spent < reroll.limit.toNat
  exhausted : ∀ explosion ∈ formula.explosion,
    Exhausted explosion.on.takes explosion.limit.toNat block.chain
  single : formula.explosion = none → block.chain.length = 1

/-- The blocks account for the faces that were shown: there is one for each die, they make up the
faces in order, and each is lawful after those before it. -/
structure Formula.Accounts (formula : Formula) (shown : List UInt32) (blocks : List Block) :
    Prop where
  length_eq : blocks.length = formula.quantity.toNat
  faces_eq : blocks.flatMap (·.shown) = shown
  lawful : ∀ before block after, blocks = before ++ block :: after →
    block.Lawful formula (before.countP (·.replacement.isSome))

namespace Formula

variable {σ : Type} [FaceSource σ]

/-- The faces that a die goes on to, from the face that it shows. -/
def explosionsFrom (formula : Formula) : (limit : Nat) → (face : UInt32) → σ → List UInt32 × σ
  | 0, _, source => ([], source)
  | limit + 1, face, source =>
    if formula.explodes face then
      let (next, source) := FaceSource.face formula.sides source
      let (rest, source) := formula.explosionsFrom limit next source
      (next :: rest, source)
    else ([], source)

/-- The face that replaces another, if that is rerolled and rerolls are left. -/
def replacementFor (formula : Formula) (rerolls : Nat) (face : UInt32) (source : σ) :
    Option UInt32 × σ :=
  if 0 < rerolls && formula.rerolls face then
    (FaceSource.face formula.sides source).map some id
  else (none, source)

/-- The block of a die, with so many rerolls left. -/
def rollBlock (formula : Formula) (rerolls : Nat) (source : σ) : Block × σ :=
  let (first, source) := FaceSource.face formula.sides source
  let (replacement, source) := formula.replacementFor rerolls first source
  let (explosions, source) :=
    formula.explosionsFrom formula.explosionLimit (replacement.getD first) source
  ({ first, replacement, explosions }, source)

/-- The blocks of so many dice, one after another, with so many rerolls left for them. -/
def rollBlocks (formula : Formula) : (quantity rerolls : Nat) → σ → List Block × σ
  | 0, _, source => ([], source)
  | quantity + 1, rerolls, source =>
    let (block, source) := formula.rollBlock rerolls source
    let (blocks, source) :=
      formula.rollBlocks quantity (rerolls - block.replacement.isSome.toNat) source
    (block :: blocks, source)

section Congr

variable {formula other : Formula}

/-- A die explodes alike for two formulas with the same sides and the same faces that explode. -/
theorem explosionsFrom_congr (sides_eq : formula.sides = other.sides)
    (explodes_eq : formula.explodes = other.explodes) (limit : Nat) (face : UInt32)
    (source : σ) :
    formula.explosionsFrom limit face source = other.explosionsFrom limit face source := by
  induction limit generalizing face source with
  | zero => rfl
  | succ limit ih => simp only [explosionsFrom, explodes_eq, sides_eq, ih]

/-- Two formulas roll the same dice if they roll each die the same, with as many rerolls as may be
left. -/
theorem rollBlocks_congr {budget : Nat}
    (each : ∀ rerolls ≤ budget, ∀ source : σ,
      formula.rollBlock rerolls source = other.rollBlock rerolls source)
    (quantity : Nat) (source : σ) :
    formula.rollBlocks quantity budget source = other.rollBlocks quantity budget source := by
  induction quantity generalizing budget source with
  | zero => rfl
  | succ quantity ih =>
    have fewer (spent : Nat) : ∀ rerolls ≤ budget - spent, ∀ source : σ,
        formula.rollBlock rerolls source = other.rollBlock rerolls source :=
      fun rerolls some_left => each rerolls (Nat.le_trans some_left (Nat.sub_le ..))
    simp only [rollBlocks, each budget (Nat.le_refl _), ih (fewer _)]

end Congr

end Formula

namespace Tray

theorem appendList_append {α : Type} (values : Array α) (first second : List α) :
    values ++ first ++ second = values ++ (first ++ second) := by
  apply Array.ext'
  simp only [Array.toList_appendList, List.append_assoc]

variable {σ : Type} [FaceSource σ]

/-- On a tray, the faces that a die goes on to come behind the pool, and each is told of. -/
theorem explode_eq (formula : Formula) (limit : Nat) (face : UInt32) (tray : Tray σ) :
    explode formula limit face tray =
      { tray with
        faces := tray.faces ++ (formula.explosionsFrom limit face tray.source).1
        source := (formula.explosionsFrom limit face tray.source).2
        log := tray.log ++
          (formula.explosionsFrom limit face tray.source).1.map Record.exploded } := by
  induction limit generalizing face tray with
  | zero => simp [explode, Formula.explosionsFrom]
  | succ limit ih =>
    by_cases explodes : formula.explodes face
    · simp only [explode, Formula.explosionsFrom, explodes, ↓reduceIte, ih]
      simp [add, reveal, tell]
    · simp [explode, Formula.explosionsFrom, explodes]

/-- On a tray, a die starts with its first face or with the replacement, which costs a reroll and is
told of. -/
theorem start_eq (formula : Formula) (tray : Tray σ) :
    tray.start formula =
      let (first, source) := FaceSource.face formula.sides tray.source
      let (replacement, source) := formula.replacementFor tray.rerolls first source
      (replacement.getD first,
        { tray with
          rerolls := tray.rerolls - replacement.isSome.toNat
          source
          log := tray.log ++
            replacement.toList.map (Record.rerolled first · (tray.rerolls - 1)) }) := by
  cases replaced : 0 < tray.rerolls &&
      formula.rerolls (FaceSource.face formula.sides tray.source).1 with
  | true =>
    simp only [start, reveal, Formula.replacementFor, replaced, ↓reduceIte, Prod.map_fst,
      Prod.map_snd, Option.getD_some, Option.isSome_some, Bool.toNat_true, id_eq]
    refine (if_pos replaced).trans ?_
    simp [tell]
  | false =>
    simp only [start, reveal, Formula.replacementFor, replaced, Bool.false_eq_true, ↓reduceIte,
      Option.getD_none, Option.isSome_none, Bool.toNat_false, Nat.sub_zero]
    refine (if_neg (ne_true_of_eq_false replaced)).trans ?_
    simp

/-- On a tray, a die adds the chain of its block to the pool and its records to the log. -/
theorem rollDie_eq (formula : Formula) (tray : Tray σ) :
    tray.rollDie formula =
      { faces := tray.faces ++ (formula.rollBlock tray.rerolls tray.source).1.chain
        rerolls := tray.rerolls -
          (formula.rollBlock tray.rerolls tray.source).1.replacement.isSome.toNat
        source := (formula.rollBlock tray.rerolls tray.source).2
        log := tray.log ++
          (formula.rollBlock tray.rerolls tray.source).1.records tray.rerolls } := by
  simp [rollDie, start_eq, explode_eq, Formula.rollBlock, Block.chain, Block.records, add,
    appendList_append]

/-- On a tray, dice add the chains of their blocks to the pool and their records to the log. -/
theorem rollDice_eq (formula : Formula) (quantity : Nat) (tray : Tray σ) :
    ∃ rerolls, rollDice formula quantity tray =
      { faces := tray.faces ++
          (formula.rollBlocks quantity tray.rerolls tray.source).1.flatMap (·.chain)
        rerolls
        source := (formula.rollBlocks quantity tray.rerolls tray.source).2
        log := tray.log ++
          Block.log tray.rerolls (formula.rollBlocks quantity tray.rerolls tray.source).1 } := by
  induction quantity generalizing tray with
  | zero => exact ⟨tray.rerolls, by simp [rollDice, Formula.rollBlocks, Block.log]⟩
  | succ quantity ih =>
    obtain ⟨rerolls, rest⟩ := ih (tray.rollDie formula)
    refine ⟨rerolls, ?_⟩
    rw [rollDice, rest, rollDie_eq]
    simp only [Formula.rollBlocks, List.flatMap_cons, Block.log]
    simp only [appendList_append]

end Tray

namespace Formula

variable {σ : Type} [FaceSource σ]

/-- The pool is made of the chains of the blocks, and the blocks are all that is taken from the
source. -/
theorem pool_eq (formula : Formula) (source : σ) :
    formula.pool source =
      ((formula.rollBlocks formula.quantity.toNat formula.rerollLimit source).1.flatMap (·.chain),
        (formula.rollBlocks formula.quantity.toNat formula.rerollLimit source).2) := by
  obtain ⟨rerolls, rolled⟩ := Tray.rollDice_eq formula formula.quantity.toNat
    { faces := #[], rerolls := formula.rerollLimit, source, log := #[] }
  simp [pool, rollOut, rolled]

/-- While the formula is rolled, its dice are told of one after another. -/
theorem log_rollOut (formula : Formula) (source : σ) :
    (formula.rollOut source).log.toList = Block.log formula.rerollLimit
      (formula.rollBlocks formula.quantity.toNat formula.rerollLimit source).1 := by
  obtain ⟨rerolls, rolled⟩ := Tray.rollDice_eq formula formula.quantity.toNat
    { faces := #[], rerolls := formula.rerollLimit, source, log := #[] }
  simp [rollOut, rolled]

/-- Formulas with the same blocks have the same pool. -/
theorem pool_congr {formula other : Formula} {source : σ}
    (same : formula.rollBlocks formula.quantity.toNat formula.rerollLimit source =
      other.rollBlocks other.quantity.toNat other.rerollLimit source) :
    formula.pool source = other.pool source := by
  rw [pool_eq, pool_eq, same]

section Recorded

/-- The faces that a die goes on to are entered in the record. -/
theorem explosionsFrom_recorded (formula : Formula) (limit : Nat) (face : UInt32)
    (recorded : Recorded σ) :
    formula.explosionsFrom limit face recorded =
      ((formula.explosionsFrom limit face recorded.source).1,
        { source := (formula.explosionsFrom limit face recorded.source).2
          throws := recorded.throws ++
            (formula.explosionsFrom limit face recorded.source).1.map (.mk formula.sides) }) := by
  induction limit generalizing face recorded with
  | zero => simp [explosionsFrom]
  | succ limit ih =>
    by_cases explodes : formula.explodes face
    · simp only [explosionsFrom, explodes, ↓reduceIte, ih]
      simp [FaceSource.face]
    · simp [explosionsFrom, explodes]

/-- The face that replaces another is entered in the record. -/
theorem replacementFor_recorded (formula : Formula) (rerolls : Nat) (face : UInt32)
    (recorded : Recorded σ) :
    formula.replacementFor rerolls face recorded =
      ((formula.replacementFor rerolls face recorded.source).1,
        { source := (formula.replacementFor rerolls face recorded.source).2
          throws := recorded.throws ++
            (formula.replacementFor rerolls face recorded.source).1.toList.map
              (.mk formula.sides) }) := by
  cases replaced : 0 < rerolls && formula.rerolls face with
  | true =>
    simp only [replacementFor, replaced, ↓reduceIte]
    rfl
  | false => simp [replacementFor, replaced]

/-- All faces of a block are entered in the record. -/
theorem rollBlock_recorded (formula : Formula) (rerolls : Nat) (recorded : Recorded σ) :
    formula.rollBlock rerolls recorded =
      ((formula.rollBlock rerolls recorded.source).1,
        { source := (formula.rollBlock rerolls recorded.source).2
          throws := recorded.throws ++
            (formula.rollBlock rerolls recorded.source).1.shown.map (.mk formula.sides) }) := by
  simp only [rollBlock, replacementFor_recorded, explosionsFrom_recorded, Block.shown]
  simp [FaceSource.face]

/-- The record of a roll holds what was shown for each die, in order, and nothing else. -/
theorem rollBlocks_recorded (formula : Formula) (quantity rerolls : Nat)
    (recorded : Recorded σ) :
    formula.rollBlocks quantity rerolls recorded =
      ((formula.rollBlocks quantity rerolls recorded.source).1,
        { source := (formula.rollBlocks quantity rerolls recorded.source).2
          throws := recorded.throws ++
            ((formula.rollBlocks quantity rerolls recorded.source).1.flatMap (·.shown)).map
              (.mk formula.sides) }) := by
  induction quantity generalizing rerolls recorded with
  | zero => simp [rollBlocks]
  | succ quantity ih => simp [rollBlocks, rollBlock_recorded, ih]

/-- A recorded source rolls the same pool, and the faces it has shown are those of the blocks. -/
theorem pool_recorded (formula : Formula) (source : σ) :
    let rolled := formula.pool ({ source } : Recorded σ)
    rolled.1 = (formula.pool source).1 ∧ rolled.2.source = (formula.pool source).2 ∧
      rolled.2.shown =
        (formula.rollBlocks formula.quantity.toNat formula.rerollLimit source).1.flatMap
          (·.shown) := by
  simp only [pool_eq, rollBlocks_recorded, Recorded.shown, List.nil_append, List.map_map,
    true_and]
  exact List.map_id _

/-- The faces that are shown while a formula is rolled are those of its blocks. -/
theorem shown_pool (formula : Formula) (source : σ) :
    (formula.pool ({ source } : Recorded σ)).2.shown =
      (formula.rollBlocks formula.quantity.toNat formula.rerollLimit source).1.flatMap
        (·.shown) :=
  (formula.pool_recorded source).2.2

end Recorded

section Lawful

/-- From any face, a die explodes as often as it may. -/
theorem exhausted_explosionsFrom {formula : Formula} {explosion : Trigger}
    (there : formula.explosion = some explosion) (limit : Nat) (face : UInt32) (source : σ) :
    Exhausted explosion.on.takes limit
      (face :: (formula.explosionsFrom limit face source).1) := by
  have explodes_eq := explodes_of_some there
  induction limit generalizing face source with
  | zero =>
    refine ⟨?_, ?_, face, ?_⟩
    · simp [explosionsFrom]
    · simp [explosionsFrom]
    · simp [explosionsFrom]
  | succ limit ih =>
    cases takes : explosion.on.takes face with
    | true =>
      -- The next face starts a chain of its own, with one explosion less.
      have rest := ih (FaceSource.face formula.sides source).1
        (FaceSource.face formula.sides source).2
      obtain ⟨passing, length_le, last, lastIs, stopped⟩ := rest
      simp only [explosionsFrom, explodes_eq, takes, ↓reduceIte]
      refine ⟨?_, ?_, last, ?_, ?_⟩
      · intro other member
        rw [List.dropLast_cons_of_ne_nil (List.cons_ne_nil _ _)] at member
        rcases List.mem_cons.mp member with rfl | later
        · exact takes
        · exact passing other later
      · rw [List.length_cons]
        omega
      · rwa [List.getLast?_cons_cons]
      · rw [List.length_cons]
        exact stopped.imp_right fun full => by omega
    | false =>
      simp only [explosionsFrom, explodes_eq, takes, Bool.false_eq_true, ↓reduceIte]
      exact ⟨by simp, by simp, face, rfl, .inl takes⟩

/-- Without an explosion no die goes on to another face. -/
theorem explosionsFrom_of_none {formula : Formula} (absent : formula.explosion = none)
    (limit : Nat) (face : UInt32) (source : σ) :
    (formula.explosionsFrom limit face source).1 = [] := by
  have never : formula.explodes face = false := by
    simp only [explodes, absent, Option.any_none]
  cases limit with
  | zero => rfl
  | succ limit => simp only [explosionsFrom, never, Bool.false_eq_true, ↓reduceIte]

/-- A face is replaced exactly if it is rerolled and rerolls are left. -/
theorem isSome_replacementFor (formula : Formula) (rerolls : Nat) (face : UInt32) (source : σ) :
    (formula.replacementFor rerolls face source).1.isSome =
      (0 < rerolls && formula.rerolls face) := by
  cases asked : 0 < rerolls && formula.rerolls face with
  | true => simp only [replacementFor, asked, ↓reduceIte, Prod.map_fst, Option.isSome_some]
  | false => simp only [replacementFor, asked, Bool.false_eq_true, ↓reduceIte, Option.isSome_none]

/-- The face is rerolled by the formula's trigger, and some of its rerolls are left. -/
theorem exists_reroll_iff {formula : Formula} {spent : Nat} {face : UInt32} :
    (∃ reroll ∈ formula.reroll, reroll.on.takes face ∧ spent < reroll.limit.toNat) ↔
      formula.rerolls face ∧ spent < formula.rerollLimit := by
  cases found : formula.reroll with
  | none =>
    simp only [rerolls, found, Option.mem_def, reduceCtorEq, false_and, exists_false,
      Option.any_none, Bool.false_eq_true]
  | some reroll =>
    simp only [rerolls_of_some found, rerollLimit_of_some found, Option.mem_def,
      Option.some.injEq, exists_eq_left']

/-- The block of a die is lawful, with as many rerolls left as have not been spent before it. -/
theorem lawful_rollBlock (formula : Formula) (spent : Nat) (source : σ) :
    (formula.rollBlock (formula.rerollLimit - spent) source).1.Lawful formula spent where
  replaced_iff := by
    rw [exists_reroll_iff, and_comm, ← Nat.sub_pos_iff_lt]
    simp only [rollBlock, isSome_replacementFor, Bool.and_eq_true, decide_eq_true_eq]
  exhausted := by
    intro explosion there
    simp only [rollBlock, Block.chain, explosionLimit_of_some there]
    exact exhausted_explosionsFrom there _ _ _
  single := by
    intro absent
    simp only [rollBlock, Block.chain, explosionsFrom_of_none absent, List.length_cons,
      List.length_nil]

/-- The blocks are lawful one after another, if so many dice before them were rerolled. -/
def LawfulFrom (formula : Formula) (spent : Nat) (blocks : List Block) : Prop :=
  ∀ before block after, blocks = before ++ block :: after →
    block.Lawful formula (spent + before.countP (·.replacement.isSome))

/-- At the start no dice have been rerolled before. -/
theorem lawfulFrom_zero {formula : Formula} {blocks : List Block} :
    formula.LawfulFrom 0 blocks ↔ ∀ before block after, blocks = before ++ block :: after →
      block.Lawful formula (before.countP (·.replacement.isSome)) := by
  simp only [LawfulFrom, Nat.zero_add]

/-- Blocks are lawful if the first one is and those behind it are, with its reroll spent. -/
theorem lawfulFrom_cons {formula : Formula} {spent : Nat} {block : Block} {blocks : List Block} :
    formula.LawfulFrom spent (block :: blocks) ↔ block.Lawful formula spent ∧
      formula.LawfulFrom (spent + block.replacement.isSome.toNat) blocks := by
  have count (before : List Block) :
      (block :: before).countP (·.replacement.isSome) =
        block.replacement.isSome.toNat + before.countP (·.replacement.isSome) := by
    rw [List.countP_cons]
    cases block.replacement <;> simp [Nat.add_comm]
  constructor
  · intro lawful
    refine ⟨lawful [] block blocks rfl, ?_⟩
    rintro before next after rfl
    have step := lawful (block :: before) next after rfl
    rwa [count, ← Nat.add_assoc] at step
  · rintro ⟨head, tail⟩ before next after split
    cases before with
    | nil =>
      obtain ⟨rfl, rfl⟩ := List.cons.inj split
      exact head
    | cons _ before =>
      obtain ⟨rfl, rfl⟩ := List.cons.inj split
      rw [count, ← Nat.add_assoc]
      exact tail before next after rfl

/-- There is one block for each die. -/
theorem length_rollBlocks (formula : Formula) (quantity rerolls : Nat) (source : σ) :
    (formula.rollBlocks quantity rerolls source).1.length = quantity := by
  induction quantity generalizing rerolls source with
  | zero => rfl
  | succ quantity ih => simp only [rollBlocks, List.length_cons, ih]

/-- The blocks of the dice are lawful one after another. -/
theorem lawfulFrom_rollBlocks (formula : Formula) (quantity spent : Nat) (source : σ) :
    formula.LawfulFrom spent
      (formula.rollBlocks quantity (formula.rerollLimit - spent) source).1 := by
  induction quantity generalizing spent source with
  | zero =>
    intro before block after split
    simp [rollBlocks] at split
  | succ quantity ih =>
    simp only [rollBlocks]
    refine lawfulFrom_cons.mpr ⟨formula.lawful_rollBlock spent source, ?_⟩
    rw [Nat.sub_sub]
    exact ih _ _

end Lawful

end Formula

/-- An exhausted chain does not go on. -/
theorem Exhausted.eq_nil {explodes : UInt32 → Bool} {limit : Nat} {chain more : List UInt32}
    (exhausted : Exhausted explodes limit chain)
    (longer : Exhausted explodes limit (chain ++ more)) : more = [] := by
  cases more with
  | nil => rfl
  | cons next more =>
    obtain ⟨last, lastIs, stopped⟩ := exhausted.stopped
    have inner : last ∈ (chain ++ next :: more).dropLast := by
      rw [List.dropLast_append_of_ne_nil (List.cons_ne_nil _ _)]
      exact List.mem_append_left _ (List.mem_of_getLast? lastIs)
    have passes := longer.passing last inner
    have bound := longer.length_le
    rw [List.length_append, List.length_cons] at bound
    rcases stopped with fails | full
    · rw [passes] at fails
      cases fails
    · omega

/-- Two exhausted chains at the front of the same faces are the same. -/
theorem Exhausted.eq_of_append {explodes : UInt32 → Bool} {limit : Nat}
    {first second rest rest' : List UInt32} (exhausted : Exhausted explodes limit first)
    (exhausted' : Exhausted explodes limit second)
    (same : first ++ rest = second ++ rest') : first = second := by
  rcases List.append_eq_append_iff.mp same with ⟨more, rfl, -⟩ | ⟨more, rfl, -⟩
  · rw [exhausted.eq_nil exhausted', List.append_nil]
  · rw [exhausted'.eq_nil exhausted, List.append_nil]

/-- The chain of a die goes on as long as it may, also if there are no explosions at all. -/
theorem Block.Lawful.exhausted_chain {formula : Formula} {spent : Nat} {block : Block}
    (lawful : block.Lawful formula spent) :
    Exhausted formula.explodes formula.explosionLimit block.chain := by
  cases found : formula.explosion with
  | none =>
    obtain ⟨face, alone⟩ := List.length_eq_one_iff.mp (lawful.single found)
    rw [Formula.explosionLimit_of_none found, alone]
    exact ⟨List.forall_mem_nil _, Nat.le_refl _, face, rfl, .inr rfl⟩
  | some explosion =>
    rw [Formula.explodes_of_some found, Formula.explosionLimit_of_some found]
    exact lawful.exhausted explosion found

/-- Two lawful blocks at the front of the same faces are the same. -/
theorem Block.Lawful.eq_of_append {formula : Formula} {spent : Nat} {first second : Block}
    {rest rest' : List UInt32} (lawful : first.Lawful formula spent)
    (lawful' : second.Lawful formula spent)
    (same : first.shown ++ rest = second.shown ++ rest') : first = second := by
  obtain ⟨face, replacement, explosions⟩ := first
  obtain ⟨face', replacement', explosions'⟩ := second
  simp only [shown, List.cons_append, List.append_assoc, List.cons.injEq] at same
  obtain ⟨rfl, behind⟩ := same
  have replaced : replacement.isSome = replacement'.isSome :=
    Bool.eq_iff_iff.mpr (lawful.replaced_iff.trans lawful'.replaced_iff.symm)
  have start : replacement = replacement' ∧ explosions ++ rest = explosions' ++ rest' := by
    cases replacement with
    | none =>
      obtain rfl : replacement' = none :=
        Option.isNone_iff_eq_none.mp (Option.isSome_eq_false_iff.mp replaced.symm)
      exact ⟨rfl, behind⟩
    | some new =>
      obtain ⟨new', rfl⟩ := Option.isSome_iff_exists.mp replaced.symm
      obtain ⟨rfl, later⟩ := List.cons.inj behind
      exact ⟨rfl, later⟩
  obtain ⟨rfl, later⟩ := start
  have chains : (replacement.getD face :: explosions) = replacement.getD face :: explosions' :=
    lawful.exhausted_chain.eq_of_append lawful'.exhausted_chain
      (congrArg (replacement.getD face :: ·) later)
  rw [(List.cons.inj chains).2]

namespace Formula

/-- As many lawful blocks at the front of the same faces are the same. -/
theorem LawfulFrom.eq_of_append {formula : Formula} {spent : Nat} {first second : List Block}
    {rest rest' : List UInt32} (lawful : formula.LawfulFrom spent first)
    (lawful' : formula.LawfulFrom spent second) (length_eq : first.length = second.length)
    (same : first.flatMap (·.shown) ++ rest = second.flatMap (·.shown) ++ rest') :
    first = second := by
  induction first generalizing spent second with
  | nil => exact (List.length_eq_zero_iff.mp length_eq.symm).symm
  | cons block first ih =>
    cases second with
    | nil => cases length_eq
    | cons block' second =>
      simp only [List.flatMap_cons, List.append_assoc] at same
      obtain ⟨head, tail⟩ := lawfulFrom_cons.mp lawful
      obtain ⟨head', tail'⟩ := lawfulFrom_cons.mp lawful'
      obtain rfl := head.eq_of_append head' same
      rw [ih tail tail' (Nat.succ.inj length_eq) (List.append_cancel_left same)]

/-- Blocks account for faces in one way only. -/
theorem Accounts.unique {formula : Formula} {shown : List UInt32} {first second : List Block}
    (accounts : formula.Accounts shown first) (accounts' : formula.Accounts shown second) :
    first = second :=
  (lawfulFrom_zero.mpr accounts.lawful).eq_of_append (lawfulFrom_zero.mpr accounts'.lawful)
    (accounts.length_eq.trans accounts'.length_eq.symm)
    (congrArg (· ++ []) (accounts.faces_eq.trans accounts'.faces_eq.symm))

/-- The blocks of a roll account for the faces that they are made of. -/
theorem accounts_rollBlocks {σ : Type} [FaceSource σ] (formula : Formula) (source : σ) :
    let blocks := (formula.rollBlocks formula.quantity.toNat formula.rerollLimit source).1
    formula.Accounts (blocks.flatMap (·.shown)) blocks where
  length_eq := formula.length_rollBlocks formula.quantity.toNat formula.rerollLimit source
  faces_eq := rfl
  lawful := lawfulFrom_zero.mp (formula.lawfulFrom_rollBlocks formula.quantity.toNat 0 source)

/-- The blocks of a roll account for the faces that the source has shown. -/
theorem accounts_pool {σ : Type} [FaceSource σ] (formula : Formula) (source : σ) :
    formula.Accounts (formula.pool ({ source } : Recorded σ)).2.shown
      (formula.rollBlocks formula.quantity.toNat formula.rerollLimit source).1 := by
  rw [shown_pool]
  exact formula.accounts_rollBlocks source

/-- **The account of a roll.** The faces that a source shows while a formula is rolled fall into
the lawful blocks of its dice, in one way only, and the pool is what is left of them without the
faces that were replaced. A record of the faces changes neither the pool nor the source. -/
theorem pool_accounts {σ : Type} [FaceSource σ] (formula : Formula) (source : σ) :
    let rolled := formula.pool ({ source } : Recorded σ)
    rolled.1 = (formula.pool source).1 ∧ rolled.2.source = (formula.pool source).2 ∧
      ∃ blocks : List Block, formula.Accounts rolled.2.shown blocks ∧
        (formula.pool source).1 = blocks.flatMap (·.chain) ∧
        rolled.2.shown = blocks.flatMap (fun block => block.discarded ++ block.chain) ∧
        ∀ other, formula.Accounts rolled.2.shown other → other = blocks := by
  intro rolled
  obtain ⟨pool, left, shown⟩ := formula.pool_recorded source
  have accounts := formula.accounts_pool source
  refine ⟨pool, left, _, accounts, congrArg Prod.fst (formula.pool_eq source), shown.trans ?_,
    fun _ otherAccounts => otherAccounts.unique accounts⟩
  exact congrArg (List.flatMap · _) (funext Block.shown_eq_discarded_append)

end Formula
end TabletopDice
