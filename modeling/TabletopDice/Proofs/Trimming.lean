import TabletopDice.Chance.Replay
import TabletopDice.Proofs.CanonicalText
import TabletopDice.Proofs.Compound

/-!
# White space around texts

A text is trimmed of all Unicode white space, and a formula may end in a few kinds of it only, so a
formula is not changed by trimming. Hence it does not matter whether a formula is rolled as it
stands or as the one part of a compound text, but for the text that is recorded; and white space
around the parts of a compound text does not matter at all.
-/

namespace TabletopDice

namespace Run

variable {test : Char → Bool}

/-- The run without any characters. -/
def empty : Run test where
  chars := []
  all := List.forall_mem_nil _

/-- There is nothing in the empty run. -/
@[simp]
theorem chars_empty : (empty : Run test).chars = [] := rfl

/-- The same characters in reverse order. -/
def reverse (run : Run test) : Run test where
  chars := run.chars.reverse
  all c member := run.all c (List.mem_reverse.mp member)

/-- One run after another. -/
def append (first second : Run test) : Run test where
  chars := first.chars ++ second.chars
  all := List.forall_mem_append.mpr ⟨first.all, second.all⟩

/-- What is left when the run at the front of a text is dropped is what stands behind it. -/
theorem dropWhile_append (run : Run test) {rest : List Char} (stops : Stops test rest) :
    (run.chars ++ rest).dropWhile test = rest :=
  congrArg Prod.snd (Option.some.inj (reader_eq_some_iff.mpr ⟨rfl, stops⟩))

/-- What is left when all that passes a test is dropped stops the test. -/
theorem stops_dropWhile (test : Char → Bool) (chars : List Char) :
    Stops test (chars.dropWhile test) :=
  (reader_eq_some_iff.mp (rfl : reader test chars = some (ofFront test chars, _))).2

end Run

namespace Text

/-- Neither the first character of a text nor the last is white space. -/
structure Solid (chars : List Char) : Prop where
  first : Stops isSpace chars
  last : Stops isSpace chars.reverse

/-- White space around what is solid is all that is trimmed away. -/
theorem trim_of_solid (front back : Run isSpace) {core : List Char} (solid : Solid core) :
    trim (String.ofList (front.chars ++ core ++ back.chars)) = String.ofList core := by
  rw [trim, String.toList_ofList]
  cases core with
  | nil =>
    have gone : (front.chars ++ [] ++ back.chars).dropWhile isSpace = [] := by
      rw [List.append_nil, ← List.append_nil (_ ++ _)]
      exact (front.append back).dropWhile_append fun _ there => nomatch there
    rw [gone, List.reverse_nil, List.dropWhile_nil, List.reverse_nil]
  | cons c rest =>
    have solidFront : Stops isSpace (c :: rest ++ back.chars) := solid.first
    rw [List.append_assoc, front.dropWhile_append solidFront, List.reverse_append]
    have backGone := back.reverse.dropWhile_append solid.last
    rw [Run.reverse] at backGone
    rw [backGone, List.reverse_reverse]

/-- A text is something solid with white space around it. -/
theorem exists_solid (chars : List Char) :
    ∃ (front back : Run isSpace) (core : List Char),
      chars = front.chars ++ core ++ back.chars ∧ Solid core := by
  let rest := chars.dropWhile isSpace
  let back := Run.ofFront isSpace rest.reverse
  let core := (rest.reverse.dropWhile isSpace).reverse
  have split : rest = core ++ back.reverse.chars := by
    calc rest = rest.reverse.reverse := (List.reverse_reverse rest).symm
      _ = (back.chars ++ rest.reverse.dropWhile isSpace).reverse :=
        congrArg List.reverse List.takeWhile_append_dropWhile.symm
      _ = core ++ back.reverse.chars := List.reverse_append
  refine ⟨Run.ofFront isSpace chars, back.reverse, core, ?_, ?_, ?_⟩
  · rw [List.append_assoc, ← split]
    exact List.takeWhile_append_dropWhile.symm
  · intro c member
    apply Run.stops_dropWhile isSpace chars c
    change c ∈ rest.head?
    rw [split, List.head?_append, Option.mem_def.mp member, Option.some_or]
    rfl
  · rw [List.reverse_reverse]
    exact Run.stops_dropWhile isSpace rest.reverse

/-- White space that is added at the ends of a text is trimmed away. -/
theorem trim_append (front back : Run isSpace) (chars : List Char) :
    trim (String.ofList (front.chars ++ chars ++ back.chars)) = trim (String.ofList chars) := by
  obtain ⟨inner, outer, core, rfl, solid⟩ := exists_solid chars
  have wide := trim_of_solid (front.append inner) (outer.append back) solid
  rw [trim_of_solid inner outer solid, ← wide]
  simp only [Run.append, List.append_assoc]

/-- Without any white space, a text has none at its ends. -/
theorem solid_of_forall {chars : List Char} (plain : ∀ c ∈ chars, isSpace c = false) :
    Solid chars where
  first c member := plain c (List.mem_of_mem_head? member)
  last c member := plain c (List.mem_reverse.mp (List.mem_of_mem_head? member))

theorem isSpace_of_isDigit {c : Char} (digit : c.isDigit) : isSpace c = false := by
  have range : 48 ≤ c.toNat ∧ c.toNat ≤ 57 := by
    simp only [Char.isDigit, Bool.and_eq_true, decide_eq_true_eq, ge_iff_le,
      UInt32.le_iff_toNat_le] at digit
    exact digit
  simp only [isSpace, spaceRanges, List.any_cons, List.any_nil, Bool.or_eq_false_iff,
    Bool.and_eq_false_iff, decide_eq_false_iff_not, and_true]
  omega

/-- What may stand in front of a modifier is no white space. -/
theorem isSpace_of_isFrontChar {c : Char} (front : isFrontChar c) : isSpace c = false := by
  by_cases digit : c.isDigit
  · exact isSpace_of_isDigit digit
  · let marks := ['<', '>', '=', 'l', 'L', '!', 'd', 'D', 'r', 'R', 'k', 'K', 'h', 'H']
    have mark : c ∈ marks := by
      simpa [isFrontChar, isTriggerChar, digit, marks, or_assoc] using front
    have plain : marks.any isSpace = false := rfl
    exact Bool.eq_false_iff.mpr (List.any_eq_false.mp plain c mark)

/-- White space does not go on into a numeral. -/
theorem stops_digits_append (numeral : Numeral) (rest : List Char) :
    Stops isSpace (numeral.chars ++ rest) := by
  apply numeral.stops_append
  intro c space
  rw [← Bool.not_eq_true]
  intro digit
  exact Bool.false_ne_true ((isSpace_of_isDigit digit).symm.trans space)

end Text

namespace Outline

/-- The outline without the blanks behind it. -/
def trimmed (outline : Outline) : Outline :=
  { outline with trailing := .empty }

/-- Without its blanks at the end, an outline ends in its modifier or in what stands before. -/
theorem chars_trimmed (outline : Outline) :
    outline.trimmed.chars = outline.front ++ outline.modifier.elim [] (·.chars) := by
  simp only [chars, trimmed, front, Run.chars_empty, List.append_nil]

/-- The blanks at the end are all that an outline loses. -/
theorem chars_eq_trimmed_append (outline : Outline) :
    outline.chars = outline.trimmed.chars ++ outline.trailing.chars := by
  rw [chars_trimmed]
  rfl

/-- A formula starts with a digit, and a digit or what stands in a clause ends it. -/
theorem solid_trimmed (outline : Outline) : Text.Solid outline.trimmed.chars where
  first := by
    simp only [chars, trimmed, List.append_assoc]
    exact Text.stops_digits_append _ _
  last := by
    rw [chars_trimmed]
    cases outline.modifier with
    | none =>
      rw [Option.elim_none, List.append_nil]
      apply Text.Solid.last
      apply Text.solid_of_forall
      intro c member
      exact Text.isSpace_of_isFrontChar (outline.isFrontChar_of_mem c member)
    | some written =>
      let reversed : Numeral := {
        written.numeral.reverse with
        ne_nil := List.reverse_ne_nil_iff.mpr written.numeral.ne_nil }
      have digits : written.numeral.chars.reverse = reversed.chars := rfl
      simp only [Option.elim_some, WrittenModifier.chars, List.reverse_append, List.reverse_cons,
        List.append_assoc, digits]
      exact Text.stops_digits_append reversed _

/-- No comma belongs to a formula. -/
theorem comma_notMem_chars (outline : Outline) : ',' ∉ outline.chars := by
  have noBlank (blank : Run Char.isWhitespace) : ',' ∉ blank.chars := blank.notMem_chars rfl
  have noModifier : ',' ∉ outline.modifier.elim [] (·.chars) := by
    cases outline.modifier with
    | none => exact List.not_mem_nil
    | some written =>
      have noSign : ',' ≠ written.sign.char := by
        cases written.sign <;> decide
      have noDigit : ',' ∉ written.numeral.chars := written.numeral.notMem_chars rfl
      exact List.not_mem_append (noBlank written.before) (List.not_mem_cons_of_ne_of_not_mem noSign
        (List.not_mem_append (noBlank written.between) noDigit))
  have noFront : ',' ∉ outline.front := by
    intro member
    exact absurd (outline.isFrontChar_of_mem _ member) (by decide)
  rw [chars_eq_trimmed_append, chars_trimmed]
  exact List.not_mem_append (List.not_mem_append noFront noModifier) (noBlank outline.trailing)

end Outline

namespace Formula

variable {limits : Limits} {text : String} {formula : Formula}

/-- Of a text that is delimited like a formula just the blanks behind it are trimmed away. -/
theorem trim_of_delimited {outline : Outline} (delimited : text.toList = outline.chars) :
    Text.trim text = String.ofList outline.trimmed.chars := by
  let trailing : Run Text.isSpace := {
    chars := outline.trailing.chars
    all := fun c member => Text.isSpace_of_isWhitespace (outline.trailing.all c member) }
  have alone := Text.trim_of_solid .empty trailing outline.solid_trimmed
  rw [Run.chars_empty, List.nil_append, ← outline.chars_eq_trimmed_append, ← delimited,
    String.ofList_toList] at alone
  exact alone

/-- Trimming does not change what a text comes to that is delimited like a formula. -/
theorem parse_trim {outline : Outline} (delimited : text.toList = outline.chars) :
    parse limits (Text.trim text) = parse limits text := by
  have trimmed : (Text.trim text).toList = outline.trimmed.chars := by
    rw [trim_of_delimited delimited, String.toList_ofList]
  rw [parse_of_outline trimmed, parse_of_outline delimited]
  rfl

/-- What is read as a formula has an outline. -/
theorem exists_outline_of_parse (accepted : parse limits text = .ok formula) :
    ∃ outline : Outline, text.toList = outline.chars := by
  cases parse_eq_iff_reading.mp accepted with
  | @rollable written split clear => exact ⟨_, split.trans written.outline_chars.symm⟩

theorem comma_notMem_of_parse (accepted : parse limits text = .ok formula) :
    ',' ∉ text.toList := by
  obtain ⟨outline, delimited⟩ := exists_outline_of_parse accepted
  exact delimited ▸ outline.comma_notMem_chars

/-- Without a comma, the text is its only part. -/
theorem parts_of_comma_notMem (single : ',' ∉ text.toList) : parts text = [Text.trim text] := by
  rw [parts, List.splitOn_eq_singleton single, List.map_singleton, String.ofList_toList]

/-- There is no comma in the pieces between the commas. -/
theorem comma_notMem_of_mem_splitOn (chars : List Char) :
    ∀ part ∈ chars.splitOn ',', ',' ∉ part := by
  induction chars with
  | nil =>
    rw [List.splitOn_nil]
    exact List.forall_mem_singleton.mpr List.not_mem_nil
  | cons c chars ih =>
    rw [List.splitOn_cons_eq_if_modifyHead]
    by_cases comma : c = ','
    · simp only [comma, BEq.rfl, ↓reduceIte]
      exact List.forall_mem_cons.mpr ⟨List.not_mem_nil, ih⟩
    · simp only [beq_iff_eq, comma, ↓reduceIte]
      obtain ⟨part, parts, split⟩ := List.exists_cons_of_ne_nil (List.splitOn_ne_nil ',' chars)
      rw [split, List.forall_mem_cons] at ih
      rw [split, List.modifyHead_cons, List.forall_mem_cons]
      exact ⟨List.not_mem_cons_of_ne_of_not_mem (Ne.symm comma) ih.1, ih.2⟩

/-- The compound text with the given white space added before and after each of its parts, counted
from zero. -/
def pad (before after : Nat → Run Text.isSpace) (text : String) : String :=
  String.ofList ([','].intercalate ((text.toList.splitOn ',').mapIdx fun place part =>
    (before place).chars ++ part ++ (after place).chars))

example : pad (fun _ => .ofFront _ ['\u00a0'])
    (fun place => .ofFront _ (if place = 1 then ['\t'] else [])) "1d6,,2d8" =
      "\u00a01d6,\u00a0\t,\u00a02d8" := rfl

/-- White space around its parts does not get into the parts of a compound text. -/
theorem parts_pad (before after : Nat → Run Text.isSpace) (text : String) :
    parts (pad before after text) = parts text := by
  have noSpace (run : Run Text.isSpace) : ',' ∉ run.chars := run.notMem_chars rfl
  have noComma : ∀ part ∈ (text.toList.splitOn ',').mapIdx fun place part =>
      (before place).chars ++ part ++ (after place).chars, ',' ∉ part := by
    intro part member
    obtain ⟨place, within, rfl⟩ := List.mem_mapIdx.mp member
    have inner := comma_notMem_of_mem_splitOn text.toList _ (List.getElem_mem within)
    exact List.not_mem_append (List.not_mem_append (noSpace _) inner) (noSpace _)
  have someParts : (text.toList.splitOn ',').mapIdx (fun place part =>
      (before place).chars ++ part ++ (after place).chars) ≠ [] :=
    List.mapIdx_ne_nil_iff.mpr (List.splitOn_ne_nil ',' _)
  rw [parts, pad, String.toList_ofList, List.splitOn_intercalate ',' noComma someParts, parts]
  apply List.ext_getElem
  · simp only [List.length_map, List.length_mapIdx]
  · intro place _ _
    simp only [List.getElem_map, List.getElem_mapIdx, Text.trim_append]

end Formula

namespace Cup

variable {σ : Type} [FaceSource σ]

theorem roll_congr {text text' : String} (same : Formula.parts text = Formula.parts text') :
    (roll text : Play σ (List Roll)) = roll text' := by
  rw [roll, same, roll]

theorem tally_congr {text text' : String} (same : Formula.parts text = Formula.parts text')
    (condition : String) :
    (tally text condition : Play σ (List Tally)) = tally text' condition := by
  unfold tally
  rw [roll_congr same]

/-- A formula that is rolled as a compound text comes to the roll that it comes to as it stands, but
its text is recorded without the white space around it. -/
theorem roll_of_parse {limits : Limits} {text : String} {formula : Formula}
    (accepted : Formula.parse limits text = .ok formula) (source : σ) :
    ∃ roll left, rollFormula text { source, limits } = (.ok roll, left) ∧ roll.written = text ∧
      Cup.roll text { source, limits } =
        (.ok [{ roll with written := Text.trim text }], left) := by
  obtain ⟨outline, delimited⟩ := Formula.exists_outline_of_parse accepted
  have trimmed : Formula.parse limits (Text.trim text) = .ok formula :=
    (Formula.parse_trim delimited).trans accepted
  have single := Formula.parts_of_comma_notMem (Formula.comma_notMem_of_parse accepted)
  refine ⟨_, _, rollFormula_of_ok accepted source, rfl, ?_⟩
  have rolled := (Rolls.cons trimmed (.nil (formula.faces source).2)).rollAll_eq
  rw [← single] at rolled
  exact rolled

/-- **White space around formulas.** A text that is a formula has no comma in it and is the same
formula when it is trimmed, so rolled as a compound text it comes to one outcome, that of the
formula but for the text, which is recorded trimmed. And white space that is added to the parts of
any text, before them or behind, changes nothing about rolling or tallying it. -/
theorem white_space_around :
    (∀ (limits : Limits) (text : String) (formula : Formula),
      Formula.parse limits text = .ok formula →
        ',' ∉ text.toList ∧ Formula.parse limits (Text.trim text) = .ok formula ∧
        ∀ source : σ, ∃ roll left,
          rollFormula text { source, limits } = (.ok roll, left) ∧ roll.written = text ∧
          Cup.roll text { source, limits } =
            (.ok [{ roll with written := Text.trim text }], left)) ∧
    ∀ (before after : Nat → Run Text.isSpace) (text : String) (cup : Cup σ),
      roll (Formula.pad before after text) cup = roll text cup ∧
      ∀ condition, tally (Formula.pad before after text) condition cup =
        tally text condition cup := by
  refine ⟨?_, fun before after text cup => ?_⟩
  · intro limits text formula accepted
    obtain ⟨outline, delimited⟩ := Formula.exists_outline_of_parse accepted
    exact ⟨Formula.comma_notMem_of_parse accepted,
      (Formula.parse_trim delimited).trans accepted, roll_of_parse accepted⟩
  · have same := Formula.parts_pad before after text
    exact ⟨congrFun (roll_congr same) cup,
      fun condition => congrFun (tally_congr same condition) cup⟩

/-- The tab is a blank that may end a formula, and as white space it is trimmed away: the text reads
as the same formula with it and without it, and the rolls differ in the record only. -/
theorem white_space_around_trailing_tab :
    let formula : Formula :=
      { quantity := 2, sides := 6, reroll := none, explosion := none, selection := none
        modifier := -1 }
    Formula.parse {} "2d6 - 1 \t" = .ok formula ∧ ',' ∉ "2d6 - 1 \t".toList ∧
      Formula.parse {} (Text.trim "2d6 - 1 \t") = .ok formula ∧
      ∀ source : Replay, ∃ roll left,
        rollFormula "2d6 - 1 \t" { source, limits := {} } = (.ok roll, left) ∧
        roll.written = "2d6 - 1 \t" ∧
        Cup.roll "2d6 - 1 \t" { source, limits := {} } =
          (.ok [{ roll with written := Text.trim "2d6 - 1 \t" }], left) := by
  intro formula
  have accepted : Formula.parse {} "2d6 - 1 \t" = .ok formula := rfl
  exact ⟨accepted, white_space_around.1 {} _ formula accepted⟩

end Cup
end TabletopDice
