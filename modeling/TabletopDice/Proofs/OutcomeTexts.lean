import TabletopDice.Proofs.Conditions
import TabletopDice.Roll

/-!
# The texts of outcomes

The text of a roll or a tally starts with its formula as it was written, and that may be any text at
all, one that looks like an outcome itself included. Read from the right, nothing is in doubt: the
last brackets hold the faces, and neither what stands in them nor what stands behind them has a
bracket in it. So no two outcomes have the same text (`texts_unambiguous`).
-/

namespace TabletopDice

section Marks

variable {α : Type} {mark : α} {front front' gap rest rest' : List α}

/-- Nothing stands before the last mark if the text starts with it. -/
theorem eq_nil_of_last (last : mark ∉ rest) (same : mark :: rest = gap ++ mark :: rest') :
    gap = [] ∧ rest = rest' := by
  cases gap with
  | nil => exact ⟨rfl, (List.cons.inj same).2⟩
  | cons c gap =>
    rw [(List.cons.inj same).2] at last
    exact absurd (List.mem_append_right gap List.mem_cons_self) last

/-- Where a mark stands last in a text, the text falls into two parts in one way only. -/
theorem eq_of_append_last (last : mark ∉ rest) (last' : mark ∉ rest')
    (same : front ++ mark :: rest = front' ++ mark :: rest') : front = front' ∧ rest = rest' := by
  rcases List.append_eq_append_iff.mp same with ⟨gap, split, behind⟩ | ⟨gap, split, behind⟩
  · obtain ⟨rfl, rests⟩ := eq_nil_of_last last behind
    exact ⟨(List.append_nil front).symm.trans split.symm, rests⟩
  · obtain ⟨rfl, rests⟩ := eq_nil_of_last last' behind
    exact ⟨split.trans (List.append_nil front'), rests.symm⟩

end Marks

namespace Numeral

/-- A numeral ends where the first character stands that is no digit. -/
theorem eq_of_append {first second : Numeral} {rest rest' : List Char}
    (stops : Stops Char.isDigit rest) (stops' : Stops Char.isDigit rest')
    (same : first.chars ++ rest = second.chars ++ rest') :
    first.chars = second.chars ∧ rest = rest' := by
  have read : reader (first.chars ++ rest) = some (first, rest) :=
    reader_eq_some_iff.mpr ⟨rfl, stops⟩
  have read' : reader (first.chars ++ rest) = some (second, rest') :=
    reader_eq_some_iff.mpr ⟨same, stops'⟩
  obtain ⟨rfl, rfl⟩ := Prod.mk.inj (Option.some.inj (read.symm.trans read'))
  exact ⟨rfl, rfl⟩

/-- Different numbers have different digits. -/
theorem eq_of_chars_ofNat {number number' : Nat}
    (same : (ofNat number).chars = (ofNat number').chars) : number = number' := by
  rw [← value_ofNat number, value, same]
  exact value_ofNat number'

end Numeral

section Faces

/-- What is listed of faces behind another one: a comma, a blank and the digits of each. -/
def moreFaces (faces : List UInt32) : List Char :=
  faces.flatMap fun face => ',' :: ' ' :: (Numeral.ofNat face.toNat).chars

/-- What is listed of faces between the brackets. -/
def listedFaces : List UInt32 → List Char
  | [] => []
  | face :: faces => (Numeral.ofNat face.toNat).chars ++ moreFaces faces

/-- Faces with a comma and a blank between any two are listed. -/
theorem toList_intercalate_faces (faces : List UInt32) :
    (", ".intercalate (faces.map toString)).toList = listedFaces faces := by
  have comma : ", ".toList = [',', ' '] := rfl
  cases faces with
  | nil => rw [List.map_nil, String.intercalate_nil, listedFaces, String.toList_empty]
  | cons face faces =>
    induction faces generalizing face with
    | nil =>
      rw [List.map_singleton, String.intercalate_singleton, Numeral.toList_toString]
      exact (List.append_nil _).symm
    | cons next faces ih =>
      rw [List.map_cons, List.map_cons, String.intercalate_cons_cons, ← List.map_cons,
        String.toList_append, String.toList_append, ih, comma, Numeral.toList_toString]
      simp only [listedFaces, moreFaces, List.flatMap_cons, List.append_assoc, List.cons_append,
        List.nil_append]

/-- The text of faces is their list in brackets. -/
theorem toList_facesText (faces : List UInt32) :
    (facesText faces).toList = '[' :: (listedFaces faces ++ [']']) := by
  have opening : "[".toList = ['['] := rfl
  have closing : "]".toList = [']'] := rfl
  rw [facesText, String.toList_append, String.toList_append, toList_intercalate_faces, opening,
    closing, List.append_assoc, List.singleton_append]

/-- What stands behind a face in a list is no digit. -/
theorem stops_moreFaces (faces : List UInt32) : Stops Char.isDigit (moreFaces faces) := by
  cases faces with
  | nil => exact fun _ first => nomatch first
  | cons face faces =>
    rintro _ ⟨⟩
    decide

/-- The faces behind the first can be told from the list. -/
theorem moreFaces_injective : Function.Injective moreFaces := by
  intro first second same
  induction first generalizing second with
  | nil =>
    cases second with
    | nil => rfl
    | cons face faces => cases same
  | cons face faces ih =>
    cases second with
    | nil => cases same
    | cons face' faces' =>
      rw [moreFaces, moreFaces, List.flatMap_cons, List.flatMap_cons] at same
      obtain ⟨digits, more⟩ := Numeral.eq_of_append (stops_moreFaces faces)
        (stops_moreFaces faces') (List.cons.inj (List.cons.inj same).2).2
      rw [UInt32.toNat_inj.mp (Numeral.eq_of_chars_ofNat digits), ih more]

/-- The faces can be told from the list. -/
theorem listedFaces_injective : Function.Injective listedFaces := by
  intro first second same
  have someDigit (face : UInt32) (faces : List UInt32) : listedFaces (face :: faces) ≠ [] :=
    List.append_ne_nil_of_left_ne_nil (Numeral.ne_nil _) _
  cases first with
  | nil =>
    cases second with
    | nil => rfl
    | cons face faces => exact absurd same.symm (someDigit face faces)
  | cons face faces =>
    cases second with
    | nil => exact absurd same (someDigit face faces)
    | cons face' faces' =>
      obtain ⟨digits, more⟩ := Numeral.eq_of_append (stops_moreFaces faces)
        (stops_moreFaces faces') same
      rw [UInt32.toNat_inj.mp (Numeral.eq_of_chars_ofNat digits), moreFaces_injective more]

/-- No brackets stand between the brackets. -/
theorem notMem_listedFaces {mark : Char} (noDigit : mark.isDigit = false) (noComma : mark ≠ ',')
    (noBlank : mark ≠ ' ') (faces : List UInt32) : mark ∉ listedFaces faces := by
  have notMem (face : UInt32) : mark ∉ (Numeral.ofNat face.toNat).chars :=
    Run.notMem_chars _ noDigit
  have notMore (faces : List UInt32) : mark ∉ moreFaces faces := by
    rw [moreFaces, List.mem_flatMap]
    rintro ⟨face, -, member⟩
    exact List.not_mem_cons_of_ne_of_not_mem noComma
      (List.not_mem_cons_of_ne_of_not_mem noBlank (notMem face)) member
  cases faces with
  | nil => exact List.not_mem_nil
  | cons face faces => exact List.not_mem_append (notMem face) (notMore faces)

/-- From behind, the faces of an outcome are found in the first brackets that are met. -/
theorem eq_of_bracketed {front front' back back' : List Char} {faces faces' : List UInt32}
    (noBracket : ']' ∉ back) (noBracket' : ']' ∉ back')
    (same : front ++ (facesText faces).toList ++ back =
      front' ++ (facesText faces').toList ++ back') :
    front = front' ∧ faces = faces' ∧ back = back' := by
  have bracketed (front back : List Char) (faces : List UInt32) :
      front ++ (facesText faces).toList ++ back =
        (front ++ '[' :: listedFaces faces) ++ ']' :: back := by
    rw [toList_facesText]
    simp only [List.append_assoc, List.cons_append, List.nil_append]
  have opening : ∀ faces, '[' ∉ listedFaces faces :=
    notMem_listedFaces rfl (by decide) (by decide)
  rw [bracketed, bracketed] at same
  obtain ⟨fronts, rfl⟩ := eq_of_append_last noBracket noBracket' same
  obtain ⟨rfl, listed⟩ := eq_of_append_last (opening faces) (opening faces') fronts
  exact ⟨rfl, listedFaces_injective listed, rfl⟩

end Faces

section Total

/-- In the text of a number there are digits and a minus sign at most. -/
theorem notMem_toString_int64 {mark : Char} (noDigit : mark.isDigit = false) (noMinus : mark ≠ '-')
    (number : Int64) : mark ∉ (toString number).toList := by
  rw [toList_toString_int64]
  refine List.not_mem_append ?_ (Run.notMem_chars _ noDigit)
  by_cases below : number.toInt < 0
  · rw [if_pos below]
    exact List.not_mem_cons_of_ne_of_not_mem noMinus List.not_mem_nil
  · rw [if_neg below]
    exact List.not_mem_nil

/-- There is a minus sign in the text of a number exactly if it is below zero. -/
theorem minus_mem_toString_iff (number : Int64) :
    '-' ∈ (toString number).toList ↔ number.toInt < 0 := by
  have noDigit : '-' ∉ (Numeral.ofNat number.toInt.natAbs).chars :=
    Run.notMem_chars _ rfl
  rw [toList_toString_int64, List.mem_append, or_iff_left noDigit]
  by_cases below : number.toInt < 0
  · simp only [below, ↓reduceIte, List.mem_singleton]
  · simp only [below, ↓reduceIte, List.not_mem_nil]

/-- The digits in the text of a number are those of its magnitude. -/
theorem filter_isDigit_toString (number : Int64) :
    (toString number).toList.filter Char.isDigit = (Numeral.ofNat number.toInt.natAbs).chars := by
  rw [toList_toString_int64, List.filter_append, Numeral.filter_isDigit]
  by_cases below : number.toInt < 0
  · rw [if_pos below]
    rfl
  · rw [if_neg below]
    rfl

/-- A number is known by its digits and by whether there is a minus sign. -/
theorem toString_int64_injective : Function.Injective (toString : Int64 → String) := by
  intro first second same
  have sign : first.toInt < 0 ↔ second.toInt < 0 := by
    rw [← minus_mem_toString_iff, same, minus_mem_toString_iff]
  have magnitude : first.toInt.natAbs = second.toInt.natAbs := by
    apply Numeral.eq_of_chars_ofNat
    rw [← filter_isDigit_toString, same, filter_isDigit_toString]
  exact Int64.toInt_inj.mp (by omega)

end Total

namespace Roll

/-- What stands before the faces of a roll, and what stands behind them. -/
def frontChars (roll : Roll) : List Char :=
  roll.written.toList ++ ": ".toList

/-- What stands behind the faces in the text of a roll: the total. -/
def backChars (roll : Roll) : List Char :=
  " = ".toList ++ (toString roll.total).toList

/-- The text of a roll has the faces in brackets, with what stands before them and behind. -/
theorem toList_text (roll : Roll) : (toString roll).toList =
    roll.frontChars ++ (facesText roll.faces).toList ++ roll.backChars := by
  change roll.text.toList = _
  simp only [text, frontChars, backChars, String.toList_append, List.append_assoc]
  rfl

theorem bracket_notMem_backChars (roll : Roll) : ']' ∉ roll.backChars :=
  List.not_mem_append (by decide) (notMem_toString_int64 rfl (by decide) roll.total)

/-- A roll can be told from its text. -/
theorem eq_of_toString_eq {first second : Roll} (same : toString first = toString second) :
    first = second := by
  have chars := congrArg String.toList same
  rw [toList_text, toList_text] at chars
  obtain ⟨fronts, faces, backs⟩ := eq_of_bracketed first.bracket_notMem_backChars
    second.bracket_notMem_backChars chars
  have written := String.toList_inj.mp (List.append_cancel_right fronts)
  have total := toString_int64_injective (String.toList_inj.mp (List.append_cancel_left backs))
  obtain ⟨_, _, _⟩ := first
  obtain ⟨_, _, _⟩ := second
  rw [Roll.mk.injEq]
  exact ⟨written, faces, total⟩

end Roll

namespace Tally

/-- What stands before the faces in the text of a tally: what was written, and the condition. -/
def frontChars (tally : Tally) : List Char :=
  (tally.written.toList ++ [' ']) ++ '(' :: ((toString tally.condition).toList ++ "): ".toList)

/-- What stands behind the number of successes: a blank and the noun, in the singular just for
one. -/
def nounChars (tally : Tally) : List Char :=
  ' ' :: (if tally.successes = 1 then "success" else "successes").toList

/-- What stands behind the faces in the text of a tally: how many successes there are. -/
def backChars (tally : Tally) : List Char :=
  " = ".toList ++ ((Numeral.ofNat tally.successes).chars ++ tally.nounChars)

/-- The text of a tally has the faces in brackets, with what stands before them and behind. -/
theorem toList_text (tally : Tally) : (toString tally).toList =
    tally.frontChars ++ (facesText tally.faces).toList ++ tally.backChars := by
  have successes : (toString tally.successes).toList = (Numeral.ofNat tally.successes).chars :=
    Nat.toList_repr
  change tally.text.toList = _
  simp only [text, frontChars, nounChars, backChars, String.toList_append, List.append_assoc,
    List.cons_append, List.nil_append, ← successes]
  rfl

theorem bracket_notMem_backChars (tally : Tally) : ']' ∉ tally.backChars := by
  have noun : ']' ∉ tally.nounChars := by
    unfold nounChars
    split <;> decide
  exact List.not_mem_append (by decide)
    (List.not_mem_append (Run.notMem_chars _ rfl) noun)

/-- The number of successes can be told from what stands behind the faces. -/
theorem successes_eq {first second : Tally} (same : first.backChars = second.backChars) :
    first.successes = second.successes := by
  have stops (tally : Tally) : Stops Char.isDigit tally.nounChars := by
    rintro _ ⟨⟩
    decide
  obtain ⟨digits, -⟩ := Numeral.eq_of_append (stops first) (stops second)
    (List.append_cancel_left same)
  exact Numeral.eq_of_chars_ofNat digits

/-- No parenthesis stands in a condition, so the last one that is opened stands before it. -/
theorem written_and_condition_eq {first second : Tally}
    (same : first.frontChars = second.frontChars) :
    first.written = second.written ∧ first.condition = second.condition := by
  have notMem (comparison : Comparison) :
      '(' ∉ (toString comparison).toList ++ "): ".toList := by
    refine List.not_mem_append (fun member => ?_) (by decide)
    rw [comparison.toList_text] at member
    exact absurd (comparison.written.isTriggerChar_of_mem_chars _ member) (by decide)
  obtain ⟨written, condition⟩ := eq_of_append_last (notMem _) (notMem _) same
  have condition := String.toList_inj.mp (List.append_cancel_right condition)
  have parsed := first.condition.parse_text
  rw [condition, second.condition.parse_text] at parsed
  exact ⟨String.toList_inj.mp (List.append_cancel_right written),
    (Except.ok.inj parsed).symm⟩

/-- A tally can be told from its text. -/
theorem eq_of_toString_eq {first second : Tally} (same : toString first = toString second) :
    first = second := by
  have chars := congrArg String.toList same
  rw [toList_text, toList_text] at chars
  obtain ⟨fronts, faces, backs⟩ := eq_of_bracketed first.bracket_notMem_backChars
    second.bracket_notMem_backChars chars
  obtain ⟨written, condition⟩ := written_and_condition_eq fronts
  have successes := successes_eq backs
  obtain ⟨_, _, _, _⟩ := first
  obtain ⟨_, _, _, _⟩ := second
  rw [Tally.mk.injEq]
  exact ⟨written, faces, condition, successes⟩

/-- A tally ends in a blank and a noun, and no total has a blank in it. -/
theorem toString_ne_toString_roll (tally : Tally) (roll : Roll) :
    toString roll ≠ toString tally := by
  intro same
  have chars := congrArg String.toList same
  rw [toList_text, roll.toList_text] at chars
  obtain ⟨-, -, backs⟩ := eq_of_bracketed roll.bracket_notMem_backChars
    tally.bracket_notMem_backChars chars
  have noBlank : ' ' ∉ (toString roll.total).toList :=
    notMem_toString_int64 rfl (by decide) roll.total
  apply noBlank
  rw [List.append_cancel_left backs]
  exact List.mem_append_right _ List.mem_cons_self

end Tally

/-- **Outcomes are known by their texts.** Whatever formulas they keep as they were written, two
rolls have the same text only if all that they hold is the same, and so have two tallies; and no
roll has the text of a tally. -/
theorem texts_unambiguous :
    (∀ first second : Roll, toString first = toString second ↔ first = second) ∧
    (∀ first second : Tally, toString first = toString second ↔ first = second) ∧
    ∀ (roll : Roll) (tally : Tally), toString roll ≠ toString tally := by
  refine ⟨fun first second => ?_, fun first second => ?_, fun roll tally => ?_⟩
  · exact ⟨Roll.eq_of_toString_eq, congrArg toString⟩
  · exact ⟨Tally.eq_of_toString_eq, congrArg toString⟩
  · exact tally.toString_ne_toString_roll roll

-- What was written looks like an outcome here, but the last brackets are those of the faces.
example : toString ({ written := "1d6: [3] = 3", faces := [], total := -4 } : Roll) =
    "1d6: [3] = 3: [] = -4" := rfl

end TabletopDice
