import TabletopDice.Proofs.Capping
import TabletopDice.Proofs.Failure
import TabletopDice.Proofs.Recording

/-!
# Conditions as they are written

A condition is a trigger without a limit, with white space around it if one likes. So the texts of
conditions make up a small grammar of their own (`parse_eq_ok_iff`), and the text of a comparison is
one of them. A target beyond the greatest word is read as that word, but only a face that shows the
greatest word itself could tell (`parse_as_it_stands`).
-/

namespace TabletopDice

namespace Comparator

/-- Whether a number stands to the target as the comparator says, however great they are. -/
def relates (comparator : Comparator) (number target : Nat) : Bool :=
  match comparator with
  | equal => number = target
  | less => number < target
  | greater => target < number
  | atMost => number ≤ target
  | atLeast => target ≤ number

/-- Faces are compared as the numbers that they show. -/
theorem holds_eq_relates (comparator : Comparator) (face target : UInt32) :
    comparator.holds face target = comparator.relates face.toNat target.toNat := by
  cases comparator with
  | equal => exact decide_eq_decide.mpr UInt32.toNat_inj.symm
  | less | greater => exact decide_eq_decide.mpr UInt32.lt_iff_toNat_lt
  | atMost | atLeast => exact decide_eq_decide.mpr UInt32.le_iff_toNat_le

/-- A number below the cap stands to a target as it stands to the capped target. -/
theorem relates_min (comparator : Comparator) {number cap : Nat} (below : number < cap)
    (target : Nat) : comparator.relates number (min target cap) =
      comparator.relates number target := by
  cases comparator <;> exact decide_eq_decide.mpr (by omega)

end Comparator

/-- A condition as it is written: the signs of a comparator, which may be left out, and a target. -/
structure WrittenCondition where
  comparator : Option Comparator
  target : Numeral
deriving DecidableEq

namespace WrittenCondition

/-- The condition as it stands in the text: its signs, if there are any, and its target. -/
def chars (written : WrittenCondition) : List Char :=
  written.comparator.elim [] (·.signs) ++ written.target.chars

/-- The comparison that is meant; a comparator left out stands for equality. -/
def meaning (written : WrittenCondition) : Comparison where
  comparator := written.comparator.getD .equal
  target := written.target.word

/-- The condition as a trigger: one that has a target and no limit. -/
def toTrigger (written : WrittenCondition) : WrittenTrigger where
  comparator := written.comparator
  target := some written.target
  limit := none

theorem chars_toTrigger (written : WrittenCondition) : written.toTrigger.chars = written.chars :=
  List.append_nil _

theorem condition?_toTrigger (written : WrittenCondition) :
    written.toTrigger.condition? = some written.meaning := by
  simp only [WrittenTrigger.condition?, toTrigger, WrittenTrigger.comparison, meaning,
    Numeral.amount_eq_word]

/-- A trigger is a condition only if it has a target and no limit. -/
theorem exists_toTrigger_eq {trigger : WrittenTrigger} {comparison : Comparison}
    (states : trigger.condition? = some comparison) :
    ∃ written : WrittenCondition, written.toTrigger = trigger ∧ written.meaning = comparison := by
  obtain ⟨comparator, target, limit⟩ := trigger
  cases target with
  | none => cases states
  | some target =>
    cases limit with
    | some limit => cases states
    | none =>
      refine ⟨⟨comparator, target⟩, rfl, ?_⟩
      rw [← Option.some.injEq, ← condition?_toTrigger]
      exact states

theorem isTriggerChar_of_mem_chars (written : WrittenCondition) :
    ∀ c ∈ written.chars, isTriggerChar c := by
  rw [← chars_toTrigger]
  exact fun _ => WrittenTrigger.isTriggerChar_of_mem

/-- There is no white space in a condition. -/
theorem isSpace_of_mem_chars (written : WrittenCondition) :
    ∀ c ∈ written.chars, Text.isSpace c = false := by
  intro c member
  apply Text.isSpace_of_isFrontChar
  rw [isFrontChar, written.isTriggerChar_of_mem_chars c member, Bool.true_or]

end WrittenCondition

namespace Comparison

variable {condition : String} {comparison : Comparison}

/-- A text is a condition exactly if it can be written in the grammar, white space around it
apart. -/
theorem parse_eq_ok_iff : parse condition = .ok comparison ↔
    ∃ written : WrittenCondition,
      (Text.trim condition).toList = written.chars ∧ written.meaning = comparison := by
  have decoded : parse condition = .ok comparison ↔ (WrittenTrigger.reader.whole?
      (Text.trim condition).toList).bind (·.condition?) = some comparison := by
    unfold parse
    cases (WrittenTrigger.reader.whole? (Text.trim condition).toList).bind (·.condition?) with
    | none => simp only [reduceCtorEq]
    | some found => simp only [Except.ok.injEq, Option.some.injEq]
  rw [decoded, Option.bind_eq_some_iff]
  constructor
  · intro ⟨trigger, read, states⟩
    obtain ⟨written, rfl, meant⟩ := WrittenCondition.exists_toTrigger_eq states
    have split := WrittenTrigger.whole?_reader_eq_some_iff.mp read
    exact ⟨written, split.trans written.chars_toTrigger, meant⟩
  · intro ⟨written, split, meant⟩
    have whole := split.trans written.chars_toTrigger.symm
    refine ⟨written.toTrigger, WrittenTrigger.whole?_reader_eq_some_iff.mpr whole, ?_⟩
    rw [written.condition?_toTrigger, meant]

/-- What is written as no condition is malformed, and shown untrimmed. -/
theorem parse_of_unwritten
    (unwritten : ∀ written : WrittenCondition, (Text.trim condition).toList ≠ written.chars) :
    parse condition = .error (.malformed .condition condition) := by
  rw [Cup.parse_condition_eq_error_iff]
  refine ⟨fun comparison accepted => ?_, rfl⟩
  obtain ⟨written, split, -⟩ := parse_eq_ok_iff.mp accepted
  exact unwritten written split

/-- The comparison with nothing left out. -/
def written (comparison : Comparison) : WrittenCondition where
  comparator := some comparison.comparator
  target := .ofNat comparison.target.toNat

/-- The canonical text of a comparison is one that a condition is written as. -/
theorem toList_text (comparison : Comparison) :
    (toString comparison).toList = comparison.written.chars := by
  change comparison.text.toList = _
  simp only [text, toString, String.toList_append, String.toList_ofList, Nat.toList_repr]
  rfl

theorem meaning_written (comparison : Comparison) : comparison.written.meaning = comparison := by
  simp only [WrittenCondition.meaning, written, Option.getD_some, Numeral.word_ofNat]

theorem solid_text (comparison : Comparison) : Text.Solid (toString comparison).toList := by
  rw [toList_text]
  exact Text.solid_of_forall comparison.written.isSpace_of_mem_chars

/-- The text of a comparison is read as that comparison. -/
theorem parse_text (comparison : Comparison) : parse (toString comparison) = .ok comparison := by
  rw [parse_eq_ok_iff, Text.trim_eq_self comparison.solid_text]
  exact ⟨comparison.written, comparison.toList_text, comparison.meaning_written⟩

/-- White space around the text of a comparison makes no difference. -/
theorem parse_spaced_text (comparison : Comparison) (before after : Run Text.isSpace) :
    parse (String.ofList before.chars ++ toString comparison ++ String.ofList after.chars) =
      .ok comparison := by
  have trimmed : Text.trim (String.ofList before.chars ++ toString comparison ++
      String.ofList after.chars) = Text.trim (toString comparison) := by
    rw [← String.ofList_toList (s := toString comparison), ← String.ofList_append,
      ← String.ofList_append, Text.trim_append]
  rw [parse_eq_ok_iff, trimmed, ← parse_eq_ok_iff]
  exact comparison.parse_text

/-- The target is the number that is written, or the cap if that is greater. -/
theorem toNat_target_meaning (written : WrittenCondition) :
    written.meaning.target.toNat = min written.target.value Numeral.cap :=
  written.target.toNat_word

/-- Below the cap, the condition that is meant takes the faces that stand to the target as it is
written. -/
theorem takes_meaning (written : WrittenCondition) {face : UInt32}
    (below : face.toNat < Numeral.cap) : written.meaning.takes face =
      (written.comparator.getD .equal).relates face.toNat written.target.value := by
  rw [takes, Comparator.holds_eq_relates, toNat_target_meaning, Comparator.relates_min _ below]
  rfl

/-- **The language of conditions.** A text is a condition exactly if, without the white space around
it, it can be written in the grammar; any other text is shown as it stands in the fault. What a
condition is read as has its target as it is written, or the cap; its own text reads as the same
again, whatever white space is around it; and below the cap it takes the faces that stand to the
written target, not to the cap, as the written comparator says. -/
theorem parse_as_it_stands (condition : String) :
    ((∃ comparison, parse condition = .ok comparison) ↔
      ∃ written : WrittenCondition, (Text.trim condition).toList = written.chars) ∧
    ((∀ written : WrittenCondition, (Text.trim condition).toList ≠ written.chars) →
      parse condition = .error (.malformed .condition condition)) ∧
    ∀ comparison, parse condition = .ok comparison →
      (∀ before after : Run Text.isSpace,
        parse (String.ofList before.chars ++ toString comparison ++ String.ofList after.chars) =
          .ok comparison) ∧
      ∀ written : WrittenCondition, (Text.trim condition).toList = written.chars →
        comparison.target.toNat = min written.target.value 4294967295 ∧
        ∀ face : UInt32, face.toNat < 4294967295 → comparison.takes face =
          (written.comparator.getD .equal).relates face.toNat written.target.value := by
  refine ⟨?_, parse_of_unwritten, fun comparison accepted => ?_⟩
  · constructor
    · intro ⟨comparison, accepted⟩
      obtain ⟨written, split, -⟩ := parse_eq_ok_iff.mp accepted
      exact ⟨written, split⟩
    · intro ⟨written, split⟩
      exact ⟨written.meaning, parse_eq_ok_iff.mpr ⟨written, split, rfl⟩⟩
  · refine ⟨comparison.parse_spaced_text, fun written split => ?_⟩
    have read : parse condition = .ok written.meaning := parse_eq_ok_iff.mpr ⟨written, split, rfl⟩
    obtain rfl := Except.ok.inj (accepted.symm.trans read)
    exact ⟨toNat_target_meaning written, fun face below => takes_meaning written below⟩

/-- A target beyond the cap is read as the cap, and every face below the cap meets the condition.
With a blank behind the sign the text is malformed, and it is shown untrimmed. -/
theorem parse_as_it_stands_above_cap :
    let written : WrittenCondition := { comparator := some .less, target := .ofNat 5000000000 }
    let comparison : Comparison := { comparator := .less, target := 4294967295 }
    let space : Run Text.isSpace := .ofFront _ ['\u3000', '\n']
    (Text.trim "\u2003<5000000000\t").toList = written.chars ∧
      parse "\u2003<5000000000\t" = .ok comparison ∧
      comparison.target.toNat = min 5000000000 4294967295 ∧
      parse (String.ofList space.chars ++ toString comparison ++ String.ofList space.chars) =
        .ok comparison ∧
      comparison.takes 4294967294 = Comparator.less.relates 4294967294 5000000000 ∧
      (∀ written : WrittenCondition, (Text.trim " < 5").toList ≠ written.chars) ∧
      parse " < 5" = .error (.malformed .condition " < 5") := by
  intro written comparison space
  have split : (Text.trim "\u2003<5000000000\t").toList = written.chars := rfl
  have accepted : parse "\u2003<5000000000\t" = .ok comparison := rfl
  obtain ⟨spaced, meant⟩ := (parse_as_it_stands _).2.2 comparison accepted
  obtain ⟨capped, taken⟩ := meant written split
  have unwritten : ∀ written : WrittenCondition, (Text.trim " < 5").toList ≠ written.chars := by
    intro written split
    have accepted := (parse_as_it_stands " < 5").1.mpr ⟨written, split⟩
    obtain ⟨comparison, accepted⟩ := accepted
    cases accepted
  exact ⟨split, accepted, capped, spaced space space, taken 4294967294 (by decide), unwritten,
    (parse_as_it_stands " < 5").2.1 unwritten⟩

end Comparison
end TabletopDice
