import Mathlib.Data.List.Forall2
import TabletopDice.Proofs.Trimming

/-!
# Rolling what was recorded

A roll records the parts of its text, and what is recorded is as good as the text: rolled again from
the same source it comes to the same outcomes. So are the canonical texts of the formulas that were
rolled, which differ in nothing but what is recorded.
-/

namespace TabletopDice

namespace Text

theorem trim_eq_self {text : String} (solid : Solid text.toList) : trim text = text := by
  have alone := trim_of_solid .empty .empty solid
  rwa [Run.chars_empty, List.nil_append, List.append_nil, String.ofList_toList] at alone

/-- What has been trimmed is a solid part of the text. -/
theorem exists_trim_eq (text : String) :
    ∃ core : List Char, trim text = String.ofList core ∧ Solid core ∧ core ⊆ text.toList := by
  obtain ⟨front, back, core, split, solid⟩ := exists_solid text.toList
  have trimmed := trim_of_solid front back solid
  rw [← split, String.ofList_toList] at trimmed
  refine ⟨core, trimmed, solid, ?_⟩
  rw [split]
  exact List.Subset.trans (List.subset_append_right _ _) (List.subset_append_left _ _)

/-- Trimming once is enough. -/
theorem trim_trim (text : String) : trim (trim text) = trim text := by
  obtain ⟨core, trimmed, solid, -⟩ := exists_trim_eq text
  apply trim_eq_self
  rwa [trimmed, String.toList_ofList]

end Text

namespace Formula

/-- Without commas and white space around it, a text may stand in a compound text as a part. -/
structure IsPart (text : String) : Prop where
  comma_notMem : ',' ∉ text.toList
  trim_eq : Text.trim text = text

/-- The parts of a text have no commas and no white space around them. -/
theorem isPart_of_mem_parts {text part : String} (member : part ∈ parts text) : IsPart part := by
  obtain ⟨chars, found, rfl⟩ := List.mem_map.mp member
  obtain ⟨core, trimmed, -, subset⟩ := Text.exists_trim_eq (String.ofList chars)
  refine ⟨?_, Text.trim_trim _⟩
  rw [trimmed, String.toList_ofList]
  rw [String.toList_ofList] at subset
  exact fun comma => comma_notMem_of_mem_splitOn text.toList chars found (subset comma)

/-- Parts that are put together with commas are found again. -/
theorem parts_intercalate {texts : List String} (some_text : texts ≠ [])
    (isPart : ∀ text ∈ texts, IsPart text) : parts (",".intercalate texts) = texts := by
  have comma : ",".toList = [','] := rfl
  have noComma : ∀ chars ∈ texts.map String.toList, ',' ∉ chars :=
    List.forall_mem_map.mpr fun text member => (isPart text member).comma_notMem
  have some_part : texts.map String.toList ≠ [] := mt List.map_eq_nil_iff.mp some_text
  rw [parts, String.toList_intercalate, comma, List.splitOn_intercalate ',' noComma some_part]
  rw [List.map_map, ← List.map_id texts, List.map_map]
  apply List.map_congr_left
  intro text member
  simp only [Function.comp_apply, id_eq, String.ofList_toList, (isPart text member).trim_eq]

theorem parts_ne_nil (text : String) : parts text ≠ [] :=
  mt List.map_eq_nil_iff.mp (List.splitOn_ne_nil ',' text.toList)

/-- The parts of a text, put together again, are the parts of what is put together. -/
theorem parts_intercalate_parts (text : String) :
    parts (",".intercalate (parts text)) = parts text :=
  parts_intercalate (parts_ne_nil text) fun _ => isPart_of_mem_parts

/-- There is no white space in a canonical text. -/
theorem isSpace_of_mem_text (formula : Formula) :
    ∀ c ∈ (toString formula).toList, Text.isSpace c = false := by
  have front : ∀ c ∈ (formula.written none).chars, Text.isSpace c = false := by
    rw [← front_outline_written]
    exact fun c member => Text.isSpace_of_isFrontChar (Outline.isFrontChar_of_mem _ c member)
  have modifier : ∀ c ∈ (modifierText formula.modifier).toList, Text.isSpace c = false := by
    by_cases zero : formula.modifier = 0
    · rw [zero]
      exact List.forall_mem_nil _
    · rw [toList_modifierText zero]
      refine List.forall_mem_cons.mpr ⟨?_, fun c member => ?_⟩
      · cases signOf formula.modifier <;> decide
      · exact Text.isSpace_of_isDigit (Run.all _ c member)
  rw [toList_text]
  exact List.forall_mem_append.mpr ⟨front, modifier⟩

/-- The canonical text of a formula that has been read may stand in a compound text as a part. -/
theorem isPart_text_of_parse {limits : Limits} {text : String} {formula : Formula}
    (accepted : parse limits text = .ok formula) : IsPart (toString formula) where
  comma_notMem :=
    comma_notMem_of_parse (parse_text_of_parse accepted (rollable_of_parse accepted).quantity_le)
  trim_eq := Text.trim_eq_self (Text.solid_of_forall formula.isSpace_of_mem_text)

end Formula

/-- The formula is the one that was read, within these limits, from the text that a roll records. -/
def Roll.RecordOf (limits : Limits) (roll : Roll) (formula : Formula) : Prop :=
  Formula.parse limits roll.written = .ok formula

/-- Two rolls came to the same, whatever was recorded. -/
def Roll.SameResult (first second : Roll) : Prop :=
  first.faces = second.faces ∧ first.total = second.total

namespace Cup

variable {σ : Type} [FaceSource σ] {limits : Limits} {texts : List String} {source left : σ}
  {rolls : List Roll}

/-- A text is rolled like its parts. -/
theorem Rolls.roll_eq {text : String}
    (rolled : Rolls limits (Formula.parts text) source rolls left) :
    roll text { source, limits } = (.ok rolls, { source := left, limits }) :=
  rolled.rollAll_eq

/-- What is recorded are the texts that were rolled. -/
theorem Rolls.written_eq (rolled : Rolls limits texts source rolls left) :
    rolls.map (·.written) = texts := by
  induction rolled with
  | nil => rfl
  | cons accepted _ ih => rw [List.map_cons, ih]; rfl

/-- The canonical texts of the formulas are rolled like the texts that they were read from. -/
theorem Rolls.exists_canonical (rolled : Rolls limits texts source rolls left) :
    ∃ (formulas : List Formula) (again : List Roll),
      List.Forall₂ (Roll.RecordOf limits) rolls formulas ∧
      (∀ text ∈ formulas.map toString, Formula.IsPart text) ∧
      Rolls limits (formulas.map toString) source again left ∧
      List.Forall₂ Roll.SameResult rolls again := by
  induction rolled with
  | nil source => exact ⟨[], [], .nil, List.forall_mem_nil _, .nil source, .nil⟩
  | @cons text texts formula source left rolls accepted _ ih =>
    obtain ⟨formulas, again, records, isPart, rolledAgain, same⟩ := ih
    have acceptedAgain : Formula.parse limits (toString formula) = .ok formula :=
      Formula.parse_text_of_parse accepted (Formula.rollable_of_parse accepted).quantity_le
    exact ⟨formula :: formulas, _, .cons accepted records,
      List.forall_mem_cons.mpr ⟨Formula.isPart_text_of_parse accepted, isPart⟩,
      .cons acceptedAgain rolledAgain, .cons ⟨rfl, rfl⟩ same⟩

/-- **Rolling what was recorded.** What a roll has recorded, put together with commas, is rolled
from the same source to the same outcomes, and the source is left the same. So it is with the
canonical texts of the formulas that were recorded, but for the texts that are recorded then. -/
theorem roll_of_records (text : String) (limits : Limits) (source : σ) (rolls : List Roll)
    (left : Cup σ) (rolled : roll text { source, limits } = (.ok rolls, left)) :
    roll (",".intercalate (rolls.map (·.written))) { source, limits } = (.ok rolls, left) ∧
    ∃ formulas : List Formula, List.Forall₂ (Roll.RecordOf limits) rolls formulas ∧
      ∃ again, roll (",".intercalate (formulas.map toString)) { source, limits } =
          (.ok again, left) ∧
        List.Forall₂ Roll.SameResult rolls again := by
  obtain ⟨left, _⟩ := left
  obtain ⟨rfl, run⟩ := roll_eq_ok rolled
  refine ⟨?_, ?_⟩
  · rw [run.written_eq, roll_congr (Formula.parts_intercalate_parts text)]
    exact rolled
  · obtain ⟨formulas, again, records, isPart, runAgain, same⟩ := run.exists_canonical
    refine ⟨formulas, records, again, ?_, same⟩
    have some_text : formulas.map toString ≠ [] := by
      intro none
      have lengths := records.length_eq.symm.trans run.length_eq
      rw [List.map_eq_nil_iff.mp none] at lengths
      exact Formula.parts_ne_nil text (List.length_eq_zero_iff.mp lengths.symm)
    rw [← Formula.parts_intercalate some_text isPart] at runAgain
    exact runAgain.roll_eq

/-- The canonical texts write out what the recorded texts leave to the limits, and the rolls are the
same, with the seven faces that they take from the source. -/
theorem roll_of_records_two_parts :
    let source := Replay.ofFaces 6 [2, 6, 4, 3, 1, 5, 2]
    let rolls : List Roll :=
      [{ written := "2d6! - 01", faces := [2, 6, 4], total := 11 },
        { written := "3D6R<2 + 4", faces := [3, 5, 2], total := 14 }]
    ∃ left : Cup Replay, left.source.taken = 7 ∧
      roll " 2d6! - 01,\t3D6R<2 + 4" { source, limits := {} } = (.ok rolls, left) ∧
      roll (",".intercalate (rolls.map (·.written))) { source, limits := {} } =
        (.ok rolls, left) ∧
      ∃ formulas : List Formula, List.Forall₂ (Roll.RecordOf {}) rolls formulas ∧
        ∃ again, roll (",".intercalate (formulas.map toString)) { source, limits := {} } =
            (.ok again, left) ∧
          List.Forall₂ Roll.SameResult rolls again := by
  intro source rolls
  let first : Formula :=
    { quantity := 2, sides := 6, reroll := none
      explosion := some { on := { comparator := .equal, target := 6 }, limit := 100 }
      selection := none, modifier := -1 }
  let second : Formula :=
    { quantity := 3, sides := 6
      reroll := some { on := { comparator := .less, target := 2 }, limit := 3 }
      explosion := none, selection := none, modifier := 4 }
  have parts : Formula.parts " 2d6! - 01,\t3D6R<2 + 4" = ["2d6! - 01", "3D6R<2 + 4"] := rfl
  have firstRead : Formula.parse {} "2d6! - 01" = .ok first := rfl
  have secondRead : Formula.parse {} "3D6R<2 + 4" = .ok second := rfl
  have run : Rolls {} ["2d6! - 01", "3D6R<2 + 4"] source _ _ :=
    .cons firstRead (.cons secondRead (.nil _))
  have shown : [Roll.ofFaces "2d6! - 01" (first.faces source).1 first.modifier,
      Roll.ofFaces "3D6R<2 + 4" (second.faces (first.faces source).2).1 second.modifier] =
        rolls := by
    decide +kernel
  let left : Cup Replay := { source := (second.faces (first.faces source).2).2, limits := {} }
  have taken : left.source.taken = 7 := by decide +kernel
  rw [← parts, shown] at run
  exact ⟨left, taken, run.roll_eq, roll_of_records _ _ _ _ _ run.roll_eq⟩

end Cup
end TabletopDice
