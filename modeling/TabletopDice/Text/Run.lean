import TabletopDice.Text.Reader

/-!
# Runs of characters

A run is a stretch of text whose characters all pass one test, and a run is read as far as it goes.
-/

namespace TabletopDice

/-- A stretch of characters that all pass the test, possibly empty. -/
structure Run (test : Char → Bool) where
  chars : List Char
  all : ∀ c ∈ chars, test c
deriving DecidableEq

namespace Run

variable {test : Char → Bool}

/-- A run is given by its characters. -/
@[ext]
theorem ext {left right : Run test} (chars : left.chars = right.chars) : left = right := by
  cases left
  cases right
  cases chars
  rfl

/-- A character that fails the test is not in the run. -/
theorem notMem_chars (run : Run test) {c : Char} (fails : test c = false) : c ∉ run.chars :=
  fun member => Bool.false_ne_true (fails.symm.trans (run.all c member))

/-- The longest run at the front of a text. -/
def ofFront (test : Char → Bool) (text : List Char) : Run test :=
  ⟨text.takeWhile test, List.all_eq_true.mp List.all_takeWhile⟩

/-- Reads the longest run, which may be empty. -/
def reader (test : Char → Bool) : Reader (Run test) := fun text =>
  some (ofFront test text, text.dropWhile test)

/-- A run is read off the front of a text exactly if the rest of the text does not go on with it. -/
theorem reader_eq_some_iff {text rest : List Char} {run : Run test} :
    reader test text = some (run, rest) ↔ text = run.chars ++ rest ∧ Stops test rest := by
  simp only [reader, ofFront, Option.some.injEq, Prod.mk.injEq]
  constructor
  · rintro ⟨rfl, rfl⟩
    refine ⟨List.takeWhile_append_dropWhile.symm, fun c first => ?_⟩
    have := List.head?_dropWhile_not test text
    simp_all
  · rintro ⟨rfl, stops⟩
    have front : rest.takeWhile test = [] ∧ rest.dropWhile test = rest := by
      cases rest with
      | nil => exact ⟨rfl, rfl⟩
      | cons c rest =>
        have other : test c = false := stops c rfl
        simp [other]
    refine ⟨?_, by rw [List.dropWhile_append_of_pos run.all, front.2]⟩
    ext1
    simp only [List.takeWhile_append_of_pos run.all, front.1, List.append_nil]

end Run
end TabletopDice
