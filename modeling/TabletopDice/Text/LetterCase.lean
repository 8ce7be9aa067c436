import TabletopDice.Text.Reader

/-!
# Letters in either case

Every letter of a formula may be written small or capital. The letter itself is fixed by where it
stands, so of the written form only its case is kept.
-/

namespace TabletopDice

/-- The case in which a letter is written. -/
inductive LetterCase where
  | lower
  | upper
deriving DecidableEq

namespace LetterCase

/-- Writes a letter, given small, in this case. -/
def write : LetterCase → Char → Char
  | lower, letter => letter
  | upper, letter => letter.toUpper

/-- Reads a letter, given small, in either case. -/
def reader (letter : Char) : Reader LetterCase := fun text =>
  match text with
  | [] => none
  | c :: rest =>
    if c = letter then some (lower, rest)
    else if c = letter.toUpper then some (upper, rest)
    else none

/-- Reads the letter of one of two values, in either case. -/
def either {α : Type} (letter : α → Char) (first second : α) : Reader (α × LetterCase) :=
  (first, ·) <$> reader (letter first) <|> (second, ·) <$> reader (letter second)

/-- A small letter is read off the front of a text in the case in which it stands there. -/
theorem reader_eq_some_iff (letter : Char) (small : letter ≠ letter.toUpper)
    {text rest : List Char} {letterCase : LetterCase} :
    reader letter text = some (letterCase, rest) ↔ text = letterCase.write letter :: rest := by
  unfold reader
  cases text with
  | nil => simp only [reduceCtorEq]
  | cons c text => cases letterCase <;> grind [write]

/-- No letter is read exactly if the text does not start with it, in neither case. -/
theorem reader_eq_none_iff {letter : Char} {text : List Char} :
    reader letter text = none ↔ Stops (fun c => c = letter || c = letter.toUpper) text := by
  unfold reader Stops
  cases text with
  | nil => simp only [List.head?_nil, Option.mem_def, reduceCtorEq, false_implies, implies_true]
  | cons c text =>
    simp only [List.head?_cons, Option.mem_def, Option.some.injEq, forall_eq', Bool.or_eq_false_iff,
      decide_eq_false_iff_not]
    grind

/-- If their letters differ, of two values the one is read whose letter stands there. -/
theorem either_eq_some_iff {α : Type} {letter : α → Char} {first second value : α}
    (small : ∀ value, letter value ≠ (letter value).toUpper)
    (apart : ∀ letterCase : LetterCase, letterCase.write (letter second) ≠ letter first ∧
      letterCase.write (letter second) ≠ (letter first).toUpper)
    (known : value = first ∨ value = second) {text rest : List Char} {letterCase : LetterCase} :
    either letter first second text = some ((value, letterCase), rest) ↔
      text = letterCase.write (letter value) :: rest := by
  simp only [either, Reader.orElse_eq_some_iff, Reader.map_eq_some_iff, Reader.map_eq_none_iff,
    Prod.mk.injEq]
  constructor
  · rintro (⟨_, read, rfl, rfl⟩ | ⟨-, _, read, rfl, rfl⟩) <;>
    exact (reader_eq_some_iff _ (small _)).mp read
  · rintro rfl
    obtain rfl | rfl := known
    · exact .inl ⟨_, (reader_eq_some_iff _ (small _)).mpr rfl, rfl, rfl⟩
    · refine .inr ⟨reader_eq_none_iff.mpr ?_, _, (reader_eq_some_iff _ (small _)).mpr rfl, rfl, rfl⟩
      rintro _ ⟨⟩
      simp only [apart letterCase, decide_false, Bool.or_self]

end LetterCase
end TabletopDice
