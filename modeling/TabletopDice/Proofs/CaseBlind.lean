import Mathlib.Data.List.Forall2
import TabletopDice.Formula.Outline

/-!
# Readers blind to case

Two texts may be the same but for the case of their letters. A reader that does not tell such texts
apart reads them in lockstep: it finds nothing in either, or finds related values in both and leaves
texts that are again the same but for case. What holds of readers one by one holds of the readers
that are combined of them.
-/

namespace TabletopDice

/-- Two texts, character by character the same but for the case of their letters. Only the letters
of ASCII have a case. -/
def SameButCase : List Char → List Char → Prop :=
  List.Forall₂ fun c c' => c.toLower = c'.toLower

section Codes

variable {c c' : Char}

/-- The capital letters stand in one row of codes. -/
theorem isUpper_iff : c.isUpper ↔ 65 ≤ c.toNat ∧ c.toNat ≤ 90 := by
  unfold Char.isUpper
  simp [UInt32.le_iff_toNat_le]

/-- The small letters stand in one row of codes. -/
theorem isLower_iff : c.isLower ↔ 97 ≤ c.toNat ∧ c.toNat ≤ 122 := by
  unfold Char.isLower
  simp [UInt32.le_iff_toNat_le]

/-- The letters stand in two rows of codes. -/
theorem isAlpha_iff :
    c.isAlpha ↔ (65 ≤ c.toNat ∧ c.toNat ≤ 90) ∨ (97 ≤ c.toNat ∧ c.toNat ≤ 122) := by
  unfold Char.isAlpha
  rw [Bool.or_eq_true, isUpper_iff, isLower_iff]

/-- The small letters stand 32 places behind the capital ones. -/
theorem toNat_toLower (c : Char) :
    c.toLower.toNat = if 65 ≤ c.toNat ∧ c.toNat ≤ 90 then c.toNat + 32 else c.toNat := by
  unfold Char.toLower
  simp only [ge_iff_le, UInt32.le_iff_toNat_le, Char.toNat_val, Char.reduceVal, UInt32.reduceToNat]
  split
  next capital =>
    have moved : (c.val + 32).toNat = c.toNat + 32 := by
      simp only [UInt32.toNat_add, Char.toNat_val, UInt32.reduceToNat]
      omega
    exact moved
  next => rfl

/-- The capital letters stand 32 places before the small ones. -/
theorem toNat_toUpper (c : Char) :
    c.toUpper.toNat = if 97 ≤ c.toNat ∧ c.toNat ≤ 122 then c.toNat - 32 else c.toNat := by
  unfold Char.toUpper
  simp only [UInt32.le_iff_toNat_le, Char.toNat_val, Char.reduceVal, UInt32.reduceToNat]
  split
  next small =>
    have distance : (65 - 97 : UInt32).toNat = 4294967264 := rfl
    have moved : (c.val + (65 - 97)).toNat = c.toNat - 32 := by
      rw [UInt32.toNat_add, Char.toNat_val, distance]
      omega
    exact moved
  next => rfl

/-- What is no letter has one case only. -/
theorem eq_of_toLower_eq (plain : c.isAlpha = false) (same : c.toLower = c'.toLower) :
    c' = c := by
  have codes := congrArg Char.toNat same
  rw [toNat_toLower, toNat_toLower] at codes
  rw [← Bool.not_eq_true, isAlpha_iff] at plain
  rw [← Char.toNat_inj]
  grind

theorem toLower_toLower (c : Char) : c.toLower.toLower = c.toLower := by
  rw [← Char.toNat_inj]
  grind [toNat_toLower]

theorem toLower_toUpper (c : Char) : c.toUpper.toLower = c.toLower := by
  rw [← Char.toNat_inj]
  grind [toNat_toLower, toNat_toUpper]

/-- A letter stays a letter in the other case, and nothing else becomes one. -/
theorem isAlpha_toLower (c : Char) : c.toLower.isAlpha = c.isAlpha := by
  rw [Bool.eq_iff_iff, isAlpha_iff, isAlpha_iff, toNat_toLower]
  grind

end Codes

/-- A test that no letter passes does not tell the two cases of a letter apart. -/
theorem test_toLower_of_plain {test : Char → Bool} (plain : ∀ c, test c → c.isAlpha = false)
    (c : Char) : test c.toLower = test c := by
  cases letter : c.isAlpha with
  | false => rw [eq_of_toLower_eq letter (toLower_toLower c).symm]
  | true =>
    have fails {c : Char} (letter : c.isAlpha = true) : test c = false := by
      rw [← Bool.not_eq_true]
      intro passes
      exact Bool.false_ne_true ((plain c passes).symm.trans letter)
    rw [fails letter, fails ((isAlpha_toLower c).trans letter)]

theorem isAlpha_eq_false_of_isDigit {c : Char} (digit : c.isDigit) : c.isAlpha = false := by
  rw [← Bool.not_eq_true, isAlpha_iff]
  simp only [Char.isDigit, Bool.and_eq_true, decide_eq_true_eq, ge_iff_le, UInt32.le_iff_toNat_le,
    Char.toNat_val, Char.reduceVal, UInt32.reduceToNat] at digit
  omega

theorem isAlpha_eq_false_of_isWhitespace {c : Char} (blank : c.isWhitespace) :
    c.isAlpha = false := by
  simp only [Char.isWhitespace, Bool.or_eq_true, decide_eq_true_eq] at blank
  obtain ((rfl | rfl) | rfl) | rfl := blank <;> rfl

namespace LetterCase

/-- In whatever case a letter is written, it is the same letter. -/
theorem toLower_write (letterCase : LetterCase) (letter : Char) :
    (letterCase.write letter).toLower = letter.toLower := by
  cases letterCase with
  | lower => rfl
  | upper => exact toLower_toUpper letter

theorem ne_toUpper {letter : Char} (small : letter.isLower) : letter ≠ letter.toUpper := by
  rw [isLower_iff] at small
  rw [ne_eq, ← Char.toNat_inj, toNat_toUpper, if_pos small]
  omega

/-- A character that is a small letter but for its case is that letter, written in some case. -/
theorem exists_write {letter c : Char} (small : letter.isLower)
    (same : letter.toLower = c.toLower) :
    ∃ letterCase : LetterCase, c = letterCase.write letter := by
  have codes := congrArg Char.toNat same
  rw [toNat_toLower, toNat_toLower] at codes
  rw [isLower_iff] at small
  by_cases capital : 65 ≤ c.toNat ∧ c.toNat ≤ 90
  · refine ⟨upper, ?_⟩
    rw [write, ← Char.toNat_inj, toNat_toUpper]
    grind
  · refine ⟨lower, ?_⟩
    rw [write, ← Char.toNat_inj]
    grind

end LetterCase

/-- The one letter of a trigger is that of its limit. -/
theorem isTriggerChar_iff_of_isAlpha {c : Char} (letter : c.isAlpha) :
    isTriggerChar c ↔ c.toLower = 'l' := by
  constructor
  · intro passes
    simp only [isTriggerChar, Bool.or_eq_true, decide_eq_true_eq] at passes
    obtain ((((digit | rfl) | rfl) | rfl) | rfl) | rfl := passes
    · cases letter.symm.trans (isAlpha_eq_false_of_isDigit digit)
    · cases letter
    · cases letter
    · cases letter
    · rfl
    · rfl
  · intro same
    obtain ⟨letterCase, rfl⟩ := LetterCase.exists_write (rfl : 'l'.isLower) same.symm
    cases letterCase <;> rfl

/-- Whether a character belongs to triggers does not depend on its case. -/
theorem isTriggerChar_toLower (c : Char) : isTriggerChar c.toLower = isTriggerChar c := by
  cases letter : c.isAlpha with
  | false => rw [eq_of_toLower_eq letter (toLower_toLower c).symm]
  | true =>
    rw [Bool.eq_iff_iff, isTriggerChar_iff_of_isAlpha letter, isTriggerChar_iff_of_isAlpha
      ((isAlpha_toLower c).trans letter), toLower_toLower]

namespace SameButCase

variable {text text' : List Char}

theorem symm (same : SameButCase text text') : SameButCase text' text :=
  List.Forall₂.flip (List.Forall₂.imp (fun _ _ => Eq.symm) same)

/-- Without letters, texts that are the same but for case are the same. -/
theorem eq_of_plain (plain : ∀ c ∈ text, c.isAlpha = false) (same : SameButCase text text') :
    text' = text := by
  induction same with
  | nil => rfl
  | cons first _ ih =>
    rw [List.forall_mem_cons] at plain
    rw [eq_of_toLower_eq plain.1 first, ih plain.2]

/-- What is the same as one text followed by another is a text followed by another as well. -/
theorem split {front rest : List Char} (same : SameButCase (front ++ rest) text) :
    ∃ front' rest', text = front' ++ rest' ∧ SameButCase front front' ∧ SameButCase rest rest' :=
  ⟨_, _, (List.take_append_drop front.length text).symm,
    symm (List.forall₂_take_append text front rest same.symm),
    symm (List.forall₂_drop_append text front rest same.symm)⟩

/-- A test that is blind to case is passed by all of a text if by all of the other. -/
theorem forall_mem {test : Char → Bool} (blind : ∀ c, test c.toLower = test c)
    (same : SameButCase text text') (all : ∀ c ∈ text, test c) : ∀ c ∈ text', test c := by
  induction same with
  | nil => exact all
  | cons first _ ih =>
    rw [List.forall_mem_cons] at all ⊢
    refine ⟨?_, ih all.2⟩
    rw [← blind, ← first, blind]
    exact all.1

/-- A test that is blind to case is stopped by a text if by the other. -/
theorem stops {test : Char → Bool} (blind : ∀ c, test c.toLower = test c)
    (same : SameButCase text text') (stops : Stops test text) : Stops test text' := by
  cases same with
  | nil => exact stops
  | cons first _ =>
    rintro _ ⟨⟩
    rw [← blind, ← first, blind]
    exact stops _ rfl

end SameButCase

namespace Reader

variable {α β : Type}

/-- On texts that are the same but for case, two readers both find nothing, or they find values that
are related and leave texts that are the same but for case. -/
def Alike (related : α → α → Prop) (reader reader' : Reader α) : Prop :=
  ∀ ⦃text text' : List Char⦄, SameButCase text text' →
    Option.Rel (fun found found' => related found.1 found'.1 ∧ SameButCase found.2 found'.2)
      (reader text) (reader' text')

namespace Alike

variable {related : α → α → Prop} {reader reader' : Reader α}

/-- A reader that reads nothing is blind to case. -/
theorem pure {value value' : α} (same : related value value') :
    Alike related (Pure.pure value) (Pure.pure value') :=
  fun _ _ texts => .some ⟨same, texts⟩

/-- Readers in a row are blind to case if each of them is. -/
theorem bind {further : β → β → Prop} {next next' : α → Reader β}
    (alike : Alike related reader reader')
    (onward : ∀ value value', related value value' → Alike further (next value) (next' value')) :
    Alike further (reader >>= next) (reader' >>= next') := by
  intro text text' texts
  change Option.Rel _ ((reader text).bind fun (first, middle) => next first middle)
    ((reader' text').bind fun (first, middle) => next' first middle)
  match reader text, reader' text', alike texts with
  | _, _, .none => exact .none
  | _, _, .some same => exact onward _ _ same.1 same.2

/-- A choice of two readers is blind to case if both of them are. -/
theorem orElse {second second' : Reader α} (alike : Alike related reader reader')
    (otherwise : Alike related second second') :
    Alike related (reader <|> second) (reader' <|> second') := by
  intro text text' texts
  change Option.Rel _ (reader text <|> second text) (reader' text' <|> second' text')
  match reader text, reader' text', alike texts with
  | _, _, .none => exact otherwise texts
  | _, _, .some same => exact .some same

/-- What is made of what is read is alike if what is read is. -/
theorem map {further : β → β → Prop} {f : α → β} (alike : Alike related reader reader')
    (onward : ∀ value value', related value value' → further (f value) (f value')) :
    Alike further (f <$> reader) (f <$> reader') := by
  rw [map_eq_pure_bind, map_eq_pure_bind]
  exact alike.bind fun value value' same => pure (onward value value' same)

/-- A reader that may find nothing is blind to case if the reader itself is. -/
theorem optional_rel (alike : Alike related reader reader') :
    Alike (Option.Rel related) (optional reader) (optional reader') :=
  (alike.map fun _ _ => Option.Rel.some).orElse (pure .none)

/-- If a reader finds the same in either case, it may as well find nothing. -/
theorem optional_eq (alike : Alike Eq reader reader') :
    Alike Eq (optional reader) (optional reader') :=
  (alike.map fun _ _ => congrArg some).orElse (pure rfl)

/-- Whole texts are read alike by readers that are blind to case. -/
theorem whole? {text text' : List Char} (alike : Alike related reader reader')
    (same : SameButCase text text') :
    Option.Rel related (reader.whole? text) (reader'.whole? text') := by
  unfold Reader.whole?
  match reader text, reader' text', alike same with
  | _, _, .none => exact .none
  | some (value, rest), some (value', rest'), .some ⟨values, rests⟩ =>
    cases rests with
    | nil => exact .some values
    | cons _ _ => exact .none

/-- It is enough to look at what is found, since no text is preferred to the other. -/
theorem of_found (found : ∀ {text text' rest : List Char} {value : α}, SameButCase text text' →
      reader text = some (value, rest) → ∃ value' rest', reader text' = some (value', rest') ∧
        related value value' ∧ SameButCase rest rest') :
    Alike related reader reader := by
  intro text text' texts
  cases read : reader text with
  | none =>
    cases read' : reader text' with
    | none => exact .none
    | some found' =>
      obtain ⟨_, _, read'', -⟩ := found texts.symm read'
      rw [read] at read''
      cases read''
  | some found' =>
    obtain ⟨value', rest', read', values, rests⟩ := found texts read
    rw [read']
    exact .some ⟨values, rests⟩

/-- What is written without letters is read from both texts, if case does not matter to the boundary
behind it either. -/
theorem of_plain (chars : α → List Char) (boundary : α → List Char → Prop)
    (exact : ∀ {text rest : List Char} {value : α},
      reader text = some (value, rest) ↔ text = chars value ++ rest ∧ boundary value rest)
    (plain : ∀ value, ∀ c ∈ chars value, c.isAlpha = false)
    (blind : ∀ {value : α} {rest rest' : List Char}, SameButCase rest rest' →
      boundary value rest → boundary value rest') :
    Alike Eq reader reader := by
  refine of_found fun {text text' rest value} texts read => ?_
  obtain ⟨rfl, behind⟩ := exact.mp read
  obtain ⟨front, rest', rfl, fronts, rests⟩ := texts.split
  obtain rfl := fronts.eq_of_plain (plain value)
  exact ⟨value, rest', exact.mpr ⟨rfl, blind rests behind⟩, rfl, rests⟩

end Alike

/-- A character that is no letter is read in either case. -/
theorem character_alike {wanted : Char} (plain : wanted.isAlpha = false) :
    Alike Eq (character wanted) (character wanted) := by
  refine .of_plain (fun _ => [wanted]) (fun _ _ => True) ?_ ?_ fun _ _ => trivial
  · intro text rest value
    rw [character_eq_some_iff, and_true, List.singleton_append]
  · intro _ c member
    rw [List.mem_singleton.mp member, plain]

end Reader

open Reader (Alike)

theorem isDigit_toLower : ∀ c : Char, c.toLower.isDigit = c.isDigit :=
  test_toLower_of_plain fun _ => isAlpha_eq_false_of_isDigit

theorem Numeral.reader_alike : Alike Eq Numeral.reader Numeral.reader :=
  .of_plain (·.chars) (fun _ => Stops Char.isDigit) reader_eq_some_iff
    (fun numeral c member => isAlpha_eq_false_of_isDigit (numeral.all c member))
    fun same => same.stops isDigit_toLower

/-- A run whose test takes both cases of a letter is read from both texts. -/
theorem Run.reader_alike {test : Char → Bool} (blind : ∀ c, test c.toLower = test c) :
    Alike (fun run run' => SameButCase run.chars run'.chars) (reader test) (reader test) := by
  refine .of_found fun {text text' rest run} texts read => ?_
  obtain ⟨rfl, behind⟩ := reader_eq_some_iff.mp read
  obtain ⟨front, rest', rfl, fronts, rests⟩ := texts.split
  let run' : Run test := ⟨front, fronts.forall_mem blind run.all⟩
  exact ⟨run', rest', reader_eq_some_iff.mpr ⟨rfl, rests.stops blind behind⟩, fronts, rests⟩

/-- A letter is read in either case. -/
theorem LetterCase.reader_alike {letter : Char} (small : letter.isLower) :
    Alike (fun _ _ => True) (reader letter) (reader letter) := by
  refine .of_found fun {text text' rest letterCase} texts read => ?_
  obtain rfl := (reader_eq_some_iff letter (ne_toUpper small)).mp read
  cases texts with
  | cons first rests =>
    rw [toLower_write] at first
    obtain ⟨letterCase', rfl⟩ := exists_write small first
    exact ⟨letterCase', _, (reader_eq_some_iff letter (ne_toUpper small)).mpr rfl, trivial, rests⟩

/-- The letter of one of two values is read in either case, and it is the same value. -/
theorem LetterCase.either_alike {α : Type} {letter : α → Char} {first second : α}
    (small : ∀ value, (letter value).isLower) :
    Alike (fun found found' => found.1 = found'.1) (either letter first second)
      (either letter first second) := by
  apply Alike.orElse
  · exact (reader_alike (small first)).map fun _ _ _ => rfl
  · exact (reader_alike (small second)).map fun _ _ _ => rfl

/-- The same comparator is read in either case. -/
theorem Comparator.reader_alike : Alike Eq Comparator.reader Comparator.reader := by
  refine .of_plain (·.signs) _ reader_eq_some_iff ?_ ?_
  · intro comparator
    cases comparator <;> simp [signs]
  · intro comparator rest rest' same behind short
    refine same.stops (@test_toLower_of_plain (fun c => c = '=') fun c equals => ?_) (behind short)
    rw [of_decide_eq_true equals]
    rfl

/-- The same modifier is read in either case. -/
theorem WrittenModifier.reader_alike : Alike Eq WrittenModifier.reader WrittenModifier.reader := by
  refine .of_plain (·.chars) (fun _ => Stops Char.isDigit) reader_eq_some_iff ?_
    fun same => same.stops isDigit_toLower
  intro written c member
  simp only [chars, List.mem_append, List.mem_cons] at member
  obtain blank | rfl | blank | digit := member
  · exact isAlpha_eq_false_of_isWhitespace (written.before.all c blank)
  · cases written.sign <;> rfl
  · exact isAlpha_eq_false_of_isWhitespace (written.between.all c blank)
  · exact isAlpha_eq_false_of_isDigit (written.numeral.all c digit)

end TabletopDice
