import TabletopDice.Text.Reader

/-!
# Comparisons

A comparison sets a face against a target. Rerolls, explosions and success conditions all turn on
one.
-/

namespace TabletopDice

/-- How a face has to stand to the target. -/
inductive Comparator where
  | equal
  | less
  | greater
  | atMost
  | atLeast
deriving DecidableEq

namespace Comparator

/-- Whether the face stands to the target as the comparator says. -/
def holds (comparator : Comparator) (face target : UInt32) : Bool :=
  match comparator with
  | equal => face = target
  | less => face < target
  | greater => target < face
  | atMost => face ≤ target
  | atLeast => target ≤ face

/-- The signs that stand for the comparator. -/
def signs : Comparator → List Char
  | equal => ['=']
  | less => ['<']
  | greater => ['>']
  | atMost => ['<', '=']
  | atLeast => ['>', '=']

/-- Reads the longest comparator, so that `<=` is never taken for `<`. -/
def reader : Reader Comparator := fun text =>
  match text with
  | '<' :: '=' :: rest => some (atMost, rest)
  | '>' :: '=' :: rest => some (atLeast, rest)
  | '<' :: rest => some (less, rest)
  | '>' :: rest => some (greater, rest)
  | '=' :: rest => some (equal, rest)
  | _ => none

/-- A comparator is read off the front of a text, unless an equals sign behind it makes it another
one. -/
theorem reader_eq_some_iff {text rest : List Char} {comparator : Comparator} :
    reader text = some (comparator, rest) ↔
      text = comparator.signs ++ rest ∧
        (comparator = less ∨ comparator = greater → Stops (· = '=') rest) := by
  unfold reader
  cases comparator <;> split <;> simp_all [signs, Stops] <;> grind [List.head?_eq_some_iff]

/-- No comparator is read exactly if the text does not start with one of the three signs. -/
theorem reader_eq_none_iff {text : List Char} :
    reader text = none ↔ Stops (fun c => c = '<' || c = '>' || c = '=') text := by
  unfold reader
  split <;> simp_all [Stops]
  grind [List.head?_eq_some_iff]

end Comparator

/-- A comparator together with the number to which faces are compared. -/
structure Comparison where
  comparator : Comparator
  target : UInt32
deriving DecidableEq

namespace Comparison

/-- Whether the face stands to the target as the comparator says. -/
def takes (comparison : Comparison) (face : UInt32) : Bool :=
  comparison.comparator.holds face comparison.target

/-- The comparison's text: its signs, which are never left out, and its target. -/
def text (comparison : Comparison) : String :=
  String.ofList comparison.comparator.signs ++ toString comparison.target

instance : ToString Comparison := ⟨text⟩

end Comparison
end TabletopDice
