import Mathlib.Algebra.Order.Ring.Nat
import TabletopDice.Chance.Replay
import TabletopDice.Proofs.Accepted
import TabletopDice.Proofs.Accounting

/-!
# The draws that are taken

How many draws a formula takes is decided by the draws themselves, but a draw that has not been
taken decides nothing. The blocks of the dice end where they end by the faces in them alone, so a
source that goes on to show the faces which another one has shown comes to the same blocks, and is
left just behind them (`Formula.rollBlocks_of_shows`). A call that has taken some draws from one
replay therefore comes to the same with every replay that starts with the same draws.
-/

namespace TabletopDice

section Shows

variable {σ τ : Type} [FaceSource σ] [FaceSource τ] {sides : UInt32}

/-- Asked for dice with so many sides, the one source shows these faces in order and is left as the
other. -/
inductive Shows (sides : UInt32) : σ → List UInt32 → σ → Prop where
  | nil (source : σ) : Shows sides source [] source
  | cons {source left : σ} {faces : List UInt32}
      (rest : Shows sides (FaceSource.face sides source).2 faces left) :
      Shows sides source ((FaceSource.face sides source).1 :: faces) left

namespace Shows

variable {source middle left left' : σ} {faces faces' : List UInt32}

theorem append (first : Shows sides source faces middle) (second : Shows sides middle faces' left) :
    Shows sides source (faces ++ faces') left := by
  induction first with
  | nil => exact second
  | cons _ ih => exact .cons (ih second)

/-- Of the faces that a source shows, those that it shows first are always the same. -/
theorem exists_append_eq (first : Shows sides source faces left)
    (second : Shows sides source faces' left') :
    ∃ rest rest', faces ++ rest = faces' ++ rest' := by
  induction first generalizing faces' with
  | nil => exact ⟨faces', [], (List.append_nil faces').symm⟩
  | @cons source left faces _ ih =>
    cases second with
    | nil => exact ⟨[], _, List.append_nil _⟩
    | cons later =>
      obtain ⟨rest, rest', same⟩ := ih later
      exact ⟨rest, rest', congrArg (_ :: ·) same⟩

/-- The faces that are shown tell how the source is left. -/
theorem left_eq (first : Shows sides source faces left) (second : Shows sides source faces left') :
    left = left' := by
  induction first with
  | nil =>
    cases second
    rfl
  | cons _ ih =>
    cases second with
    | cons later => exact ih later

end Shows

namespace Formula

variable (formula : Formula)

theorem shows_explosionsFrom (limit : Nat) (face : UInt32) (source : σ) :
    Shows formula.sides source (formula.explosionsFrom limit face source).1
      (formula.explosionsFrom limit face source).2 := by
  induction limit generalizing face source with
  | zero => exact .nil source
  | succ limit ih =>
    by_cases explodes : formula.explodes face
    · simp only [explosionsFrom, explodes, ↓reduceIte]
      exact .cons (ih _ _)
    · simp only [explosionsFrom, explodes, Bool.false_eq_true, ↓reduceIte]
      exact .nil source

theorem shows_replacementFor (rerolls : Nat) (face : UInt32) (source : σ) :
    Shows formula.sides source (formula.replacementFor rerolls face source).1.toList
      (formula.replacementFor rerolls face source).2 := by
  unfold replacementFor
  split
  · exact .cons (.nil _)
  · exact .nil source

theorem shows_rollBlock (rerolls : Nat) (source : σ) :
    Shows formula.sides source (formula.rollBlock rerolls source).1.shown
      (formula.rollBlock rerolls source).2 :=
  .cons ((formula.shows_replacementFor rerolls _ _).append (formula.shows_explosionsFrom _ _ _))

/-- What a source shows while dice are rolled is what it shows next. -/
theorem shows_rollBlocks (quantity rerolls : Nat) (source : σ) :
    Shows formula.sides source
      ((formula.rollBlocks quantity rerolls source).1.flatMap (·.shown))
      (formula.rollBlocks quantity rerolls source).2 := by
  induction quantity generalizing rerolls source with
  | zero => exact .nil source
  | succ quantity ih =>
    simp only [rollBlocks, List.flatMap_cons]
    exact (formula.shows_rollBlock rerolls source).append (ih _ _)

/-- A source that shows the faces of some blocks next comes to these blocks itself. -/
theorem rollBlocks_of_shows {quantity : Nat} {source : σ} {source' left' : τ}
    (shows : Shows formula.sides source'
      ((formula.rollBlocks quantity formula.rerollLimit source).1.flatMap (·.shown)) left') :
    formula.rollBlocks quantity formula.rerollLimit source' =
      ((formula.rollBlocks quantity formula.rerollLimit source).1, left') := by
  have own := formula.shows_rollBlocks quantity formula.rerollLimit source'
  obtain ⟨rest, rest', same⟩ := own.exists_append_eq shows
  have blocks := (formula.lawfulFrom_rollBlocks quantity 0 source').eq_of_append
    (formula.lawfulFrom_rollBlocks quantity 0 source)
    ((formula.length_rollBlocks ..).trans (formula.length_rollBlocks ..).symm) same
  rw [Nat.sub_zero] at blocks
  rw [blocks] at own
  exact Prod.ext blocks (own.left_eq shows)

end Formula

end Shows

namespace Formula

/-- The most draws that a formula may take: one for each die and for each of its explosions, and one
for each reroll that may be granted. -/
def mostDraws (formula : Formula) : Nat :=
  formula.quantity.toNat * (1 + formula.explosionLimit) +
    min formula.rerollLimit formula.quantity.toNat

/-- Each die takes a draw at least. -/
theorem draws_bounds {σ : Type} [FaceSource σ] (formula : Formula) (source : σ) :
    formula.quantity.toNat ≤ formula.draws source ∧ formula.draws source ≤ formula.mostDraws := by
  obtain ⟨least, most⟩ := formula.length_pool source
  have balance := (formula.accounts_pool source).balance
  have rerolled := balance.rerolled_le
  have draws := balance.draws_eq
  rw [pool_eq] at least most
  rw [Formula.draws, mostDraws]
  dsimp only at least most
  omega

/-- The formulas of the texts before the first one that is none. -/
def leading (limits : Limits) : (texts : List String) → List Formula
  | [] => []
  | text :: texts =>
    match parse limits text with
    | .error _ => []
    | .ok formula => formula :: leading limits texts

variable {limits : Limits} {text : String} {texts : List String} {formula : Formula}

theorem leading_cons_of_ok (accepted : parse limits text = .ok formula) :
    leading limits (text :: texts) = formula :: leading limits texts := by
  rw [leading, accepted]

theorem leading_cons_of_error {fault : Fault} (rejected : parse limits text = .error fault) :
    leading limits (text :: texts) = [] := by
  rw [leading, rejected]

end Formula

namespace Cup.Rolls

variable {limits : Limits} {texts : List String} {rolls : List Roll}

/-- Of texts that are all formulas the first that is none comes behind them. -/
theorem leading_append_cons {σ : Type} [FaceSource σ] {source left : σ} {bad : String}
    {fault : Fault} (rolled : Rolls limits texts source rolls left)
    (rejected : Formula.parse limits bad = .error fault) (after : List String) :
    Formula.leading limits (texts ++ bad :: after) = Formula.leading limits texts := by
  induction rolled with
  | nil => exact Formula.leading_cons_of_error rejected
  | cons accepted _ ih =>
    rw [List.cons_append, Formula.leading_cons_of_ok accepted, Formula.leading_cons_of_ok accepted,
      ih]

end Cup.Rolls

/-- What a call comes to in the end was settled by its leading parts. -/
theorem Cup.exists_rolls_of_roll {σ : Type} [FaceSource σ] (text : String) (limits : Limits)
    (source : σ) :
    ∃ texts rolls left, Rolls limits texts source rolls left ∧
      Formula.leading limits texts = Formula.leading limits (Formula.parts text) ∧
      ∃ result, ∀ source' left' : σ, Rolls limits texts source' rolls left' →
        roll text { source := source', limits } = (result, { source := left', limits }) := by
  rcases rolls_or_rejected limits (Formula.parts text) source with ⟨rolls, left, rolled⟩ |
    ⟨before, bad, after, rolls, left, fault, split, rolled, rejected⟩
  · exact ⟨_, rolls, left, rolled, rfl, .ok rolls, fun _ _ again => again.rollAll_eq⟩
  · refine ⟨before, rolls, left, rolled, ?_, .error fault, fun source' left' again => ?_⟩
    · rw [split, rolled.leading_append_cons rejected]
    · have failed := again.rollAll_append_cons rejected after
      rwa [← split] at failed

namespace Replay

/-- The draw at a place of the endless repetition of some draws, counted from zero. -/
def drawAt (draws : Array Float) (place : Nat) : Float :=
  draws[place % draws.size]?.getD 0

theorem drawAt_of_lt {draws : Array Float} {place : Nat} (within : place < draws.size) :
    drawAt draws place = draws[place]?.getD 0 := by
  rw [drawAt, Nat.mod_eq_of_lt within]

/-- Two repetitions have the same draws from the first of these places on, before the second. -/
def AgreeFrom (first last : Nat) (draws draws' : Array Float) : Prop :=
  ∀ place, first ≤ place → place < last → drawAt draws place = drawAt draws' place

/-- Draws that start with those of a repetition agree with it as far as those go. -/
theorem agreeFrom_take_append (draws : Array Float) (count : Nat) (more : List Float) :
    AgreeFrom 0 count draws ((List.range count).map (drawAt draws) ++ more).toArray := by
  intro place _ within
  have length : place < ((List.range count).map (drawAt draws)).length := by
    rwa [List.length_map, List.length_range]
  have whole : place < ((List.range count).map (drawAt draws) ++ more).toArray.size := by
    rw [List.size_toArray, List.length_append]
    exact Nat.lt_add_right _ length
  rw [drawAt_of_lt whole, List.getElem?_toArray, List.getElem?_append_left length,
    List.getElem?_map, List.getElem?_range within]
  rfl

variable {draws draws' : Array Float} {sides : UInt32} {source left : Replay} {faces : List UInt32}

/-- A replay has moved on by as many draws as faces were shown. -/
theorem left_of_shows (shows : Shows sides source faces left) :
    left = { source with taken := source.taken + faces.length } := by
  induction shows with
  | nil => rfl
  | @cons source left faces _ ih =>
    rw [ih, List.length_cons, Nat.add_comm faces.length, ← Nat.add_assoc]
    rfl

/-- A replay shows the same faces with other draws if it takes the same. -/
theorem shows_of_agree (shows : Shows sides source faces left)
    (agree : AgreeFrom source.taken left.taken source.draws draws') :
    Shows sides { source with draws := draws' } faces { left with draws := draws' } := by
  induction shows with
  | nil source => exact .nil _
  | @cons source left faces rest ih =>
    have moved : (FaceSource.face sides source).2.taken = source.taken + 1 := rfl
    have taken := congrArg Replay.taken (left_of_shows rest)
    dsimp only at taken
    have drawn : drawAt source.draws source.taken = drawAt draws' source.taken :=
      agree source.taken (Nat.le_refl _) (by omega)
    have face : (FaceSource.face sides source).1 =
        (FaceSource.face sides { source with draws := draws' }).1 :=
      congrArg (faceOfDraw · sides) drawn
    rw [face]
    exact .cons (ih fun place first last => agree place (by omega) last)

/-- A formula moves a replay on by as many draws as it takes. -/
theorem faces_eq (formula : Formula) (source : Replay) :
    (formula.faces source).2 = { source with taken := source.taken + formula.draws source } := by
  have shows := formula.shows_rollBlocks formula.quantity.toNat formula.rerollLimit source
  have left := left_of_shows shows
  rw [← Formula.shown_pool] at left
  rw [Formula.faces, Formula.pool_eq]
  exact left

/-- A formula comes to the same with other draws if those that it takes are the same. -/
theorem faces_of_agree {formula : Formula}
    (agree : AgreeFrom source.taken (formula.faces source).2.taken source.draws draws') :
    formula.faces { source with draws := draws' } =
      ((formula.faces source).1, { (formula.faces source).2 with draws := draws' }) := by
  simp only [Formula.faces, Formula.pool_eq] at agree ⊢
  have shows := formula.shows_rollBlocks formula.quantity.toNat formula.rerollLimit source
  rw [formula.rollBlocks_of_shows (shows_of_agree shows agree)]

end Replay

namespace Cup.Rolls

variable {limits : Limits} {texts : List String} {rolls : List Roll} {source left : Replay}
  {draws' : Array Float}

/-- Each part of a text takes as many draws as its formula may take. -/
theorem taken_bounds (rolled : Rolls limits texts source rolls left) :
    source.taken + ((Formula.leading limits texts).map (·.quantity.toNat)).sum ≤ left.taken ∧
      left.taken ≤ source.taken + ((Formula.leading limits texts).map (·.mostDraws)).sum := by
  induction rolled with
  | nil source => exact ⟨Nat.le_refl _, Nat.le_refl _⟩
  | @cons text texts formula source left rolls accepted _ ih =>
    obtain ⟨least, most⟩ := ih
    have bounds := formula.draws_bounds source
    rw [Replay.faces_eq] at least most
    rw [Formula.leading_cons_of_ok accepted, List.map_cons, List.map_cons, List.sum_cons,
      List.sum_cons]
    dsimp only at least most
    omega

/-- The parts of a text come to the same with other draws if those that they take are the same. -/
theorem of_agree (rolled : Rolls limits texts source rolls left)
    (agree : Replay.AgreeFrom source.taken left.taken source.draws draws') :
    Rolls limits texts { source with draws := draws' } rolls { left with draws := draws' } := by
  induction rolled with
  | nil source => exact .nil _
  | @cons text texts formula source left rolls accepted rest ih =>
    have onward := rest.taken_bounds.1
    have moved := Replay.faces_eq formula source
    have taken : (formula.faces source).2.taken = source.taken + formula.draws source :=
      congrArg Replay.taken moved
    have same : formula.faces { source with draws := draws' } =
        ((formula.faces source).1, { (formula.faces source).2 with draws := draws' }) :=
      Replay.faces_of_agree fun place first last => agree place first (by omega)
    have later : Replay.AgreeFrom (formula.faces source).2.taken left.taken
        (formula.faces source).2.draws draws' := by
      rw [congrArg Replay.draws moved]
      exact fun place first last => agree place (by omega) last
    have again := ih later
    have faces : (formula.faces { source with draws := draws' }).1 = (formula.faces source).1 := by
      rw [same]
    have behind : (formula.faces { source with draws := draws' }).2 =
        { (formula.faces source).2 with draws := draws' } := by
      rw [same]
    rw [← faces]
    exact .cons accepted (behind ▸ again)

end Cup.Rolls

namespace Cup

/-- A cup with a replay of which nothing has been taken yet. -/
def replaying (draws : Array Float) (limits : Limits) : Cup Replay where
  source := { draws }
  limits

/-- How many draws the call takes from a fresh replay. -/
def takenBy {α : Type} (call : Play Replay α) (limits : Limits) (draws : Array Float) : Nat :=
  (call (replaying draws limits)).2.source.taken

/-- The call sees no draw that it does not take. It comes to the same, with as many draws, whenever
the draws that it takes are the same, so these draws alone are enough and nothing behind them
matters; and how many there may be depends on the formulas that are rolled in it. -/
structure SeesTakenOnly {α : Type} (call : Play Replay α) (limits : Limits)
    (rolled : List Formula) : Prop where
  same : ∀ draws draws', Replay.AgreeFrom 0 (takenBy call limits draws) draws draws' →
    takenBy call limits draws' = takenBy call limits draws ∧
      (call (replaying draws' limits)).1 = (call (replaying draws limits)).1
  /-- The draws that are taken need not be repeated, and more may stand behind them. -/
  enough : ∀ draws (more : List Float),
    let taken := (List.range (takenBy call limits draws)).map (Replay.drawAt draws)
    let longer := (taken ++ more).toArray
    takenBy call limits longer = takenBy call limits draws ∧
      (call (replaying longer limits)).1 = (call (replaying draws limits)).1
  least : ∀ draws, (rolled.map (·.quantity.toNat)).sum ≤ takenBy call limits draws
  most : ∀ draws, takenBy call limits draws ≤ (rolled.map (·.mostDraws)).sum

variable {α : Type} {call : Play Replay α} {limits : Limits} {rolled : List Formula}

/-- It is enough that a call which takes its draws in some way does so with other draws that are the
same where it takes them. -/
theorem seesTakenOnly_of_runs (runs : ∀ draws, ∃ taken result,
      (rolled.map (·.quantity.toNat)).sum ≤ taken ∧ taken ≤ (rolled.map (·.mostDraws)).sum ∧
      ∀ draws', Replay.AgreeFrom 0 taken draws draws' →
        call (replaying draws' limits) =
          (result, { source := { draws := draws', taken }, limits })) :
    SeesTakenOnly call limits rolled := by
  have same : ∀ draws draws', Replay.AgreeFrom 0 (takenBy call limits draws) draws draws' →
      takenBy call limits draws' = takenBy call limits draws ∧
        (call (replaying draws' limits)).1 = (call (replaying draws limits)).1 := by
    intro draws draws' agree
    obtain ⟨taken, result, -, -, run⟩ := runs draws
    have own := run draws fun _ _ _ => rfl
    rw [takenBy, own] at agree
    rw [takenBy, takenBy, own, run draws' agree]
    exact ⟨rfl, rfl⟩
  have bounds : ∀ draws, (rolled.map (·.quantity.toNat)).sum ≤ takenBy call limits draws ∧
      takenBy call limits draws ≤ (rolled.map (·.mostDraws)).sum := by
    intro draws
    obtain ⟨taken, result, least, most, run⟩ := runs draws
    rw [takenBy, run draws fun _ _ _ => rfl]
    exact ⟨least, most⟩
  exact {
    same
    enough := fun draws more => same draws _ (Replay.agreeFrom_take_append draws _ more)
    least := fun draws => (bounds draws).1
    most := fun draws => (bounds draws).2 }

/-- A roll depends on the draws that it has taken, which are those of its leading parts. -/
theorem seesTakenOnly_roll (text : String) (limits : Limits) :
    SeesTakenOnly (roll text) limits (Formula.leading limits (Formula.parts text)) := by
  apply seesTakenOnly_of_runs
  intro draws
  obtain ⟨texts, rolls, left, rolled, leading, result, settled⟩ :=
    exists_rolls_of_roll text limits ({ draws } : Replay)
  obtain ⟨least, most⟩ := rolled.taken_bounds
  rw [leading, Nat.zero_add] at least most
  refine ⟨left.taken, result, least, most, fun draws' agree => ?_⟩
  exact settled _ _ (rolled.of_agree agree)

/-- What is made of the outcome afterwards takes no draws. -/
theorem SeesTakenOnly.map {β : Type} {made : Play Replay β}
    (sees : SeesTakenOnly call limits rolled) (f : Except Fault α → Except Fault β)
    (making : ∀ cup, made cup = (call cup).map f id) :
    SeesTakenOnly made limits rolled := by
  have taken (draws : Array Float) : takenBy made limits draws = takenBy call limits draws := by
    rw [takenBy, making, Prod.map_snd, id_eq, takenBy]
  have result (draws : Array Float) : (made (replaying draws limits)).1 =
      f (call (replaying draws limits)).1 := by
    rw [making, Prod.map_fst]
  constructor
  · intro draws draws' agree
    simp only [taken, result] at agree ⊢
    obtain ⟨same, outcome⟩ := sees.same draws draws' agree
    exact ⟨same, congrArg f outcome⟩
  · intro draws more
    simp only [taken, result]
    obtain ⟨same, outcome⟩ := sees.enough draws more
    exact ⟨same, congrArg f outcome⟩
  · simpa only [taken] using sees.least
  · simpa only [taken] using sees.most

/-- A tally depends on the draws that its roll has taken. -/
theorem seesTakenOnly_tally {condition : String} {comparison : Comparison}
    (accepted : Comparison.parse condition = .ok comparison) (text : String) (limits : Limits) :
    SeesTakenOnly (tally text condition) limits
      (Formula.leading limits (Formula.parts text)) :=
  (seesTakenOnly_roll text limits).map _ (tally_of_ok accepted text)

/-- With a condition that is none, a tally depends on no draws at all. -/
theorem seesTakenOnly_tally_of_error {condition : String} {fault : Fault}
    (rejected : Comparison.parse condition = .error fault) (text : String) (limits : Limits) :
    SeesTakenOnly (tally text condition) limits [] := by
  apply seesTakenOnly_of_runs
  intro draws
  exact ⟨0, .error fault, Nat.le_refl _, Nat.le_refl _, fun draws' _ => tally_of_error rejected ..⟩

/-- **Draws that are not taken.** A roll sees no draw that it does not take, and it takes as many as
the formulas of its parts may take before the first part that is none. So does a tally, unless its
condition is none; then it takes no draw at all. -/
theorem sees_taken_draws_only (limits : Limits) (text condition : String) :
    SeesTakenOnly (roll text) limits (Formula.leading limits (Formula.parts text)) ∧
      (∀ comparison, Comparison.parse condition = .ok comparison →
        SeesTakenOnly (tally text condition) limits
          (Formula.leading limits (Formula.parts text))) ∧
      ∀ fault, Comparison.parse condition = .error fault →
        SeesTakenOnly (tally text condition) limits [] :=
  ⟨seesTakenOnly_roll text limits,
    fun _ accepted => seesTakenOnly_tally accepted text limits,
    fun _ rejected => seesTakenOnly_tally_of_error rejected text limits⟩

/-- The die shows a six and explodes once, and then the second part is found to have no dice:
nothing behind the two draws is seen, and a condition that is none takes no draw. -/
theorem sees_taken_draws_only_two_draws :
    let text := "1d6!,0d6"
    let draws : Array Float := #[0.99, 0.2, 0.5]
    let draws' : Array Float := #[0.99, 0.2]
    Replay.AgreeFrom 0 (takenBy (roll text) {} draws) draws draws' ∧
      takenBy (roll text) {} draws' = 2 ∧
      (roll text (replaying draws' {})).1 = (roll text (replaying draws {})).1 ∧
      takenBy (roll text) {} draws ≤ 101 ∧
      Comparison.parse ">=5" = .ok { comparator := .atLeast, target := 5 } ∧
      1 ≤ takenBy (tally text ">=5") {} draws ∧
      Comparison.parse "5>" = .error (.malformed .condition "5>") ∧
      takenBy (tally text "5>") {} draws ≤ 0 := by
  intro text draws draws'
  let explosion : Trigger := { on := { comparator := .equal, target := 6 }, limit := 100 }
  let formula : Formula :=
    { quantity := 1, sides := 6, reroll := none, explosion := some explosion
      selection := none, modifier := 0 }
  have parts : Formula.parts "1d6!,0d6" = ["1d6!", "0d6"] := rfl
  have accepted : Formula.parse {} "1d6!" = .ok formula := rfl
  have rejected : Formula.parse {} "0d6" = .error (.unrollable .nonPositive) := rfl
  have run : Rolls {} ["1d6!"] ({ draws } : Replay) _ _ := .cons accepted (.nil _)
  have leading : Formula.leading {} (Formula.parts text) = [formula] := by
    rw [parts, Formula.leading_cons_of_ok accepted, Formula.leading_cons_of_error rejected]
  have rolled : (roll text : Play Replay (List Roll)) = rollAll (["1d6!"] ++ "0d6" :: []) :=
    congrArg rollAll parts
  have two : takenBy (roll text) {} draws = 2 := by
    rw [takenBy, rolled, replaying, run.rollAll_append_cons rejected]
    decide
  have agree : Replay.AgreeFrom 0 (takenBy (roll text) {} draws) draws draws' := by
    rw [two]
    intro place _ within
    match place with
    | 0 | 1 => rfl
  obtain ⟨rolls, tallies, failures⟩ := sees_taken_draws_only {} text ">=5"
  obtain ⟨-, -, none⟩ := sees_taken_draws_only {} text "5>"
  obtain ⟨taken, outcome⟩ := rolls.same draws draws' agree
  have condition : Comparison.parse ">=5" = .ok { comparator := .atLeast, target := 5 } := rfl
  have malformed : Comparison.parse "5>" = .error (.malformed .condition "5>") := rfl
  have most := rolls.most draws
  have least := (tallies _ condition).least draws
  rw [leading] at most least
  exact ⟨agree, taken.trans two, outcome, most, condition, least, malformed,
    (none _ malformed).most draws⟩

end Cup
end TabletopDice
