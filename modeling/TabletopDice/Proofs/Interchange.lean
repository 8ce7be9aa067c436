import Mathlib.Data.Nat.SuccPred
import Mathlib.Logic.Function.Iterate
import TabletopDice.Proofs.Lockstep

/-!
# Sources that cannot be told apart

Sources that are built quite differently may be in lockstep: one that keeps a record and one that
does not, draws that are repeated and the same draws written out several times, words of a generator
and the draws that they make.
-/

namespace TabletopDice

variable {σ τ : Type} [FaceSource σ] [FaceSource τ]

/-- The source as it is left when these dice have been thrown with it. -/
def FaceSource.after (source : σ) (dice : List UInt32) : σ :=
  dice.foldl (fun source sides => (FaceSource.face sides source).2) source

/-- A record changes nothing, and the dice in it are all that has changed the source. -/
theorem lockstep_recorded (start : σ) :
    Lockstep fun (recorded : Recorded σ) (source : σ) =>
      recorded.source = source ∧ source = FaceSource.after start recorded.thrown := by
  intro recorded source related sides
  obtain ⟨rfl, left⟩ := related
  refine ⟨rfl, rfl, ?_⟩
  have thrown : (FaceSource.face sides recorded).2.thrown = recorded.thrown ++ [sides] :=
    List.map_append
  rw [thrown, FaceSource.after, List.foldl_concat]
  exact congrArg (fun source => (FaceSource.face sides source).2) left

/-- Sources in lockstep show the same faces of the same dice, and so they are recorded. -/
theorem Lockstep.recorded {related : σ → τ → Prop} (lockstep : Lockstep related) :
    Lockstep fun (recorded : Recorded σ) (recorded' : Recorded τ) =>
      related recorded.source recorded'.source ∧ recorded.throws = recorded'.throws := by
  rintro recorded recorded' ⟨start, throws⟩ sides
  obtain ⟨face, left⟩ := lockstep _ _ start sides
  exact ⟨face, left, congrArg₂ (fun throws face => throws ++ [{ sides, face }]) throws face⟩

/-- Sources that are interchangeable up to a relation are so up to any wider one. -/
theorem Interchangeable.mono {related wider : σ → τ → Prop} {source : σ} {source' : τ}
    (sessions : Interchangeable related source source')
    (implies : ∀ source source', related source source' → wider source source') :
    Interchangeable wider source source' :=
  fun limits steps => (sessions limits steps).imp fun _ _ agree =>
    agree.mono fun _ _ cups => ⟨cups.limits_eq, implies _ _ cups.source⟩

/-- In sessions of any length nothing shows whether a record is kept. -/
theorem interchangeable_recorded (source : σ) :
    Interchangeable (fun recorded source => recorded.source = source)
      ({ source } : Recorded σ) source :=
  ((lockstep_recorded source).interchangeable { source } source ⟨rfl, rfl⟩).mono
    fun _ _ related => related.1

/-- The source as it is left when so many draws have been taken from it. -/
def DrawSource.after {σ : Type} [DrawSource σ] (source : σ) (taken : Nat) : σ :=
  (fun source => (DrawSource.draw source).2)^[taken] source

theorem DrawSource.after_succ {σ : Type} [DrawSource σ] (source : σ) (taken : Nat) :
    DrawSource.after source (taken + 1) = (DrawSource.draw (DrawSource.after source taken)).2 :=
  Function.iterate_succ_apply' _ taken source

/-- Each die takes one draw, however many sides it has. -/
theorem DrawSource.after_length {σ : Type} [DrawSource σ] (source : σ) (dice : List UInt32) :
    DrawSource.after source dice.length = FaceSource.after source dice :=
  (List.foldl_const (fun source => (DrawSource.draw source).2) source dice).symm

namespace Replay

/-- Replays with the same draw at every place are in lockstep. -/
theorem lockstep_of_next_eq {draws draws' : Array Float} (same : ∀ taken,
    ({ draws, taken } : Replay).next = ({ draws := draws', taken } : Replay).next) :
    Lockstep fun replay replay' : Replay =>
      replay.draws = draws ∧ replay'.draws = draws' ∧ replay.taken = replay'.taken := by
  rintro ⟨_, taken⟩ ⟨_, _⟩ ⟨rfl, rfl, rfl⟩ sides
  exact ⟨congrArg (faceOfDraw · sides) (same taken), rfl, rfl, rfl⟩

/-- Replays with the same draw at every place are interchangeable. -/
theorem interchangeable_of_next_eq {draws draws' : Array Float} (same : ∀ taken,
    ({ draws, taken } : Replay).next = ({ draws := draws', taken } : Replay).next) (taken : Nat) :
    Interchangeable (fun replay replay' => replay.taken = replay'.taken)
      ({ draws, taken } : Replay) ({ draws := draws', taken } : Replay) :=
  ((lockstep_of_next_eq same).interchangeable { draws, taken } { draws := draws', taken }
    ⟨rfl, rfl, rfl⟩).mono fun _ _ related => related.2.2

/-- What is written out several times is found at every place modulo its length. -/
theorem getElem?_flatten_replicate {α : Type} (values : List α) {times index : Nat}
    (within : index < times * values.length) :
    (List.replicate times values).flatten[index]? = values[index % values.length]? := by
  induction times generalizing index with
  | zero =>
    rw [Nat.zero_mul] at within
    exact absurd within (Nat.not_lt_zero index)
  | succ times ih =>
    rw [List.replicate_succ, List.flatten_cons]
    by_cases first : index < values.length
    · rw [List.getElem?_append_left first, Nat.mod_eq_of_lt first]
    · have later : values.length ≤ index := Nat.le_of_not_lt first
      have rest : index - values.length < times * values.length := by
        rw [Nat.succ_mul] at within
        omega
      rw [List.getElem?_append_right later, ih rest, Nat.mod_eq_sub_mod later]

/-- Draws that are written out several times are the same at every place. -/
theorem next_flatten_replicate (draws : List Float) {times : Nat} (positive : 1 ≤ times)
    (taken : Nat) :
    ({ draws := (List.replicate times draws).flatten.toArray, taken } : Replay).next =
      ({ draws := draws.toArray, taken } : Replay).next := by
  have length_eq : (List.replicate times draws).flatten.length = times * draws.length := by
    rw [List.length_flatten, List.map_replicate, List.sum_replicate_nat]
  simp only [next, List.getElem?_toArray, List.size_toArray, length_eq]
  rcases Nat.eq_zero_or_pos draws.length with empty | some_draw
  · obtain rfl := List.length_eq_zero_iff.mp empty
    simp only [List.flatten_replicate_nil, List.getElem?_nil]
  · have within : taken % (times * draws.length) < times * draws.length :=
      Nat.mod_lt _ (Nat.mul_pos positive some_draw)
    rw [getElem?_flatten_replicate draws within, Nat.mod_mul_left_mod]

/-- Without any draws it is always zero that is drawn, as with a single zero. -/
theorem next_empty (taken : Nat) :
    ({ draws := #[], taken } : Replay).next = ({ draws := #[0.0], taken } : Replay).next := by
  unfold next
  change (0 : Float) = #[0.0][taken % 1]?.getD 0
  rw [Nat.mod_one]
  rfl

end Replay

namespace WordSource

variable {γ : Type} [WordSource γ]

/-- The words of the generator are these, over and over. -/
def Cycles (generator : γ) (words : Array UInt64) : Prop :=
  ∀ taken, words[taken % words.size]? = some (WordSource.word (DrawSource.after generator taken)).1

/-- A generator whose words go round is in lockstep with the draws that they make. -/
theorem lockstep_of_cycles {generator : γ} {words : Array UInt64}
    (cycles : Cycles generator words) :
    Lockstep fun (left : γ) (replay : Replay) =>
      replay.draws = words.map drawOfWord ∧ left = DrawSource.after generator replay.taken := by
  rintro _ ⟨_, taken⟩ ⟨rfl, rfl⟩ sides
  have same : ({ draws := words.map drawOfWord, taken } : Replay).next =
      drawOfWord (WordSource.word (DrawSource.after generator taken)).1 := by
    have word := cycles taken
    simp only [Replay.next, Array.size_map, Array.getElem?_map, word, Option.map_some,
      Option.getD_some]
  exact ⟨congrArg (faceOfDraw · sides) same.symm, rfl,
    (DrawSource.after_succ generator taken).symm⟩

end WordSource

/-- Taking a word moves a cycle on by one place. -/
theorem WordCycle.after_eq (words : Array UInt64) (taken : Nat) :
    DrawSource.after ({ words } : WordCycle) taken = { words, taken } := by
  have step : Function.Semiconj (fun taken => ({ words, taken } : WordCycle)) Nat.succ
      (fun cycle => (DrawSource.draw cycle).2) := fun _ => rfl
  have steps := step.iterate_right taken 0
  rw [Nat.succ_iterate, Nat.zero_add] at steps
  exact steps.symm

/-- A word cycle goes through its words over and over. -/
theorem WordCycle.cycles {words : Array UInt64} (some_word : 0 < words.size) :
    WordSource.Cycles ({ words } : WordCycle) words := by
  intro taken
  have within : taken % words.size < words.size := Nat.mod_lt _ some_word
  rw [WordCycle.after_eq]
  simp only [WordSource.word, WordCycle.next, Array.getElem?_eq_getElem within,
    Option.getD_some]

/-- **Only faces are seen.** With sources in lockstep two sessions of the same steps give the same
answers, faults included, and throw the same dice to the same faces, and the sources are left in
lockstep. So it does not matter how often a list of draws is written out, an empty list is a list of
one zero, and a generator whose words go round is as good as the draws that they make. -/
theorem interchangeable_sources :
    (∀ {σ τ : Type} [FaceSource σ] [FaceSource τ] (related : σ → τ → Prop), Lockstep related →
      ∀ source source', related source source' →
        Interchangeable related source source' ∧
        Interchangeable (fun recorded recorded' => related recorded.source recorded'.source ∧
            recorded.throws = recorded'.throws)
          ({ source } : Recorded σ) ({ source := source' } : Recorded τ) ∧
        Interchangeable (fun recorded source => recorded.source = source)
          ({ source } : Recorded σ) source ∧
        Interchangeable (fun recorded source => recorded.source = source)
          ({ source := source' } : Recorded τ) source') ∧
    (∀ (draws : List Float) (times : Nat), 1 ≤ times →
      Interchangeable (fun replay replay' => replay.taken = replay'.taken)
        ({ draws := (List.replicate times draws).flatten.toArray } : Replay)
        ({ draws := draws.toArray } : Replay)) ∧
    Interchangeable (fun replay replay' => replay.taken = replay'.taken)
      ({ draws := #[] } : Replay) ({ draws := #[0.0] } : Replay) ∧
    ∀ {γ : Type} [WordSource γ] (generator : γ) (words : Array UInt64),
      WordSource.Cycles generator words →
        Interchangeable (fun left replay => left = DrawSource.after generator replay.taken)
          generator ({ draws := words.map drawOfWord } : Replay) := by
  refine ⟨fun related lockstep source source' start => ⟨lockstep.interchangeable _ _ start,
    lockstep.recorded.interchangeable { source } { source := source' } ⟨start, rfl⟩,
    interchangeable_recorded source, interchangeable_recorded source'⟩, ?_, ?_, ?_⟩
  · intro draws times positive
    exact Replay.interchangeable_of_next_eq (Replay.next_flatten_replicate draws positive) 0
  · exact Replay.interchangeable_of_next_eq Replay.next_empty 0
  · intro γ _ generator words cycles
    exact ((WordSource.lockstep_of_cycles cycles).interchangeable generator
      { draws := words.map drawOfWord } ⟨rfl, rfl⟩).mono fun _ _ related => related.2

/-- Two words that go round are as good as the draws that they make, and two draws are as good as
the same draws written out three times. -/
theorem interchangeable_sources_two_words :
    let words : Array UInt64 := #[0, 0x8000000000000000]
    let cycle : WordCycle := { words }
    let replay : Replay := { draws := words.map drawOfWord }
    let related (left : WordCycle) (replay : Replay) : Prop :=
      replay.draws = words.map drawOfWord ∧ left = DrawSource.after cycle replay.taken
    Lockstep related ∧ related cycle replay ∧ Interchangeable related cycle replay ∧
      WordSource.Cycles cycle words ∧
      Interchangeable (fun left replay => left = DrawSource.after cycle replay.taken) cycle
        replay ∧
      1 ≤ 3 ∧ Interchangeable (fun replay replay' => replay.taken = replay'.taken)
        ({ draws := #[0.5, 0.99, 0.5, 0.99, 0.5, 0.99] } : Replay)
        ({ draws := #[0.5, 0.99] } : Replay) := by
  intro words cycle replay related
  have cycles : WordSource.Cycles cycle words := WordCycle.cycles (by decide)
  have lockstep : Lockstep related := WordSource.lockstep_of_cycles cycles
  exact ⟨lockstep, ⟨rfl, rfl⟩,
    (interchangeable_sources.1 related lockstep cycle replay ⟨rfl, rfl⟩).1, cycles,
    interchangeable_sources.2.2.2 cycle words cycles, by decide,
    interchangeable_sources.2.1 [0.5, 0.99] 3 (by decide)⟩

end TabletopDice
