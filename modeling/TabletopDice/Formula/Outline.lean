import TabletopDice.Trigger.Written
import TabletopDice.Selection
import TabletopDice.Modifier

/-!
# Outlines

An outline is the text of a formula cut into its pieces: dice, reroll, explosion, selection,
modifier. Nothing of the text is lost in it, and the triggers of the reroll and the explosion are
only delimited, so that a trigger that is not well written can be told apart from a text that is no
formula at all.
-/

namespace TabletopDice

/-- Whether a character may stand in a trigger. -/
def isTriggerChar (c : Char) : Bool :=
  c.isDigit || c = '<' || c = '>' || c = '=' || c = 'l' || c = 'L'

/-- A reroll, delimited: its letter `r` in either case, and the characters behind it. -/
structure RerollSpan where
  letter : LetterCase
  body : Run isTriggerChar
deriving DecidableEq

namespace RerollSpan

/-- The clause as it stands in the text: its letter, and then all that may belong to it. -/
def chars (span : RerollSpan) : List Char :=
  span.letter.write 'r' :: span.body.chars

/-- Reads a reroll as far as characters of triggers go. -/
def reader : Reader RerollSpan := do
  let letter ← LetterCase.reader 'r'
  let body ← Run.reader isTriggerChar
  return { letter, body }

/-- A reroll is read off the front of a text exactly if no character of a trigger follows it. -/
theorem reader_eq_some_iff {text rest : List Char} {span : RerollSpan} :
    reader text = some (span, rest) ↔ text = span.chars ++ rest ∧ Stops isTriggerChar rest := by
  simp only [reader, Reader.bind_eq_some_iff, Reader.pure_eq_some_iff,
    LetterCase.reader_eq_some_iff 'r' (by decide), Run.reader_eq_some_iff]
  constructor
  · rintro ⟨_, _, rfl, _, _, ⟨rfl, stops⟩, rfl, rfl⟩
    exact ⟨rfl, stops⟩
  · rintro ⟨rfl, stops⟩
    exact ⟨_, _, rfl, _, _, ⟨rfl, stops⟩, rfl, rfl⟩

/-- There is no reroll where the front of the text has no letter for one. -/
theorem reader_eq_none {front text : List Char} (starts : Starts front text)
    (foreign : ['r', 'R'].any front.contains = false) : reader text = none := by
  rw [List.any_eq_false] at foreign
  simp only [List.contains_iff_mem] at foreign
  refine Reader.eq_none_of_starts (fun _ _ read => (reader_eq_some_iff.mp read).1) starts ?_
  rintro ⟨letter, _⟩
  refine ⟨letter.write 'r', foreign _ ?_, _, rfl⟩
  cases letter <;> decide

end RerollSpan

/-- An explosion, delimited: the characters behind its mark. -/
structure ExplosionSpan where
  body : Run isTriggerChar
deriving DecidableEq

namespace ExplosionSpan

/-- The clause as it stands in the text: its sign, and then all that may belong to it. -/
def chars (span : ExplosionSpan) : List Char :=
  '!' :: span.body.chars

/-- Reads the sign of an explosion and as many of the characters of a trigger as there are. -/
def reader : Reader ExplosionSpan := do
  Reader.character '!'
  let body ← Run.reader isTriggerChar
  return { body }

/-- An explosion is read exactly if it stands at the front of the text and goes on as far as it
may. -/
theorem reader_eq_some_iff {text rest : List Char} {span : ExplosionSpan} :
    reader text = some (span, rest) ↔ text = span.chars ++ rest ∧ Stops isTriggerChar rest := by
  simp only [reader, Reader.bind_eq_some_iff, Reader.pure_eq_some_iff,
    Reader.character_eq_some_iff, Run.reader_eq_some_iff]
  constructor
  · rintro ⟨_, _, rfl, _, _, ⟨rfl, stops⟩, rfl, rfl⟩
    exact ⟨rfl, stops⟩
  · rintro ⟨rfl, stops⟩
    exact ⟨(), _, rfl, _, _, ⟨rfl, stops⟩, rfl, rfl⟩

/-- There is no explosion where the front of the text has no sign for one. -/
theorem reader_eq_none {front text : List Char} (starts : Starts front text)
    (foreign : front.contains '!' = false) : reader text = none :=
  Reader.eq_none_of_starts (fun _ _ read => (reader_eq_some_iff.mp read).1) starts
    fun _ => ⟨'!', by simpa only [List.contains_eq_mem, decide_eq_false_iff_not] using foreign,
      _, rfl⟩

end ExplosionSpan

/-- The pieces of a formula's text. -/
structure Outline where
  quantity : Numeral
  letter : LetterCase
  sides : Numeral
  reroll : Option RerollSpan
  explosion : Option ExplosionSpan
  selection : Option WrittenSelection
  modifier : Option WrittenModifier
  trailing : Run Char.isWhitespace
deriving DecidableEq

namespace Outline

/-- The text of which these are the pieces. -/
def chars (outline : Outline) : List Char :=
  outline.quantity.chars ++ outline.letter.write 'd' :: outline.sides.chars ++
    outline.reroll.elim [] (·.chars) ++ outline.explosion.elim [] (·.chars) ++
    outline.selection.elim [] (·.chars) ++ outline.modifier.elim [] (·.chars) ++
    outline.trailing.chars

/-- Reads the pieces of a formula, each of the optional ones if it is there, and blanks behind. -/
def reader : Reader Outline := do
  let quantity ← Numeral.reader
  let letter ← LetterCase.reader 'd'
  let sides ← Numeral.reader
  let reroll ← optional RerollSpan.reader
  let explosion ← optional ExplosionSpan.reader
  let selection ← optional WrittenSelection.reader
  let modifier ← optional WrittenModifier.reader
  let trailing ← Run.reader Char.isWhitespace
  return { quantity, letter, sides, reroll, explosion, selection, modifier, trailing }

/-- The outline of a text that is delimited like a formula. -/
def read? (text : List Char) : Option Outline :=
  reader.whole? text

/-- The characters that blanks are made of. -/
def blanks : List Char :=
  [' ', '\t', '\r', '\n']

theorem starts_blank (blank : Run Char.isWhitespace) : Starts blanks blank.chars := by
  intro c first
  have := blank.all c (List.mem_of_mem_head? first)
  simpa [Char.isWhitespace, blanks, or_assoc] using this

/-- From the modifier on, an outline starts with a sign or a blank. -/
theorem starts_modifier (outline : Outline) : Starts ('+' :: '-' :: blanks)
    (outline.modifier.elim [] (·.chars) ++ outline.trailing.chars) := by
  apply ((starts_blank outline.trailing).mono (by decide)).optional
  rintro ⟨⟨before, allBlank⟩, sign, between, numeral, small⟩ -
  cases before with
  | nil =>
    refine ⟨sign.char, ?_, _, rfl⟩
    cases sign <;> decide
  | cons c before =>
    exact ⟨c, List.subset_cons_of_subset _ (List.subset_cons_self ..)
      (starts_blank ⟨c :: before, allBlank⟩ c rfl), _, rfl⟩

/-- What stands behind the explosion starts with a selection, a modifier or a blank. -/
theorem starts_selection (outline : Outline) :
    Starts ('k' :: 'K' :: 'd' :: 'D' :: '+' :: '-' :: blanks)
      (outline.selection.elim [] (·.chars) ++
        (outline.modifier.elim [] (·.chars) ++ outline.trailing.chars)) := by
  apply (outline.starts_modifier.mono (by decide)).optional
  rintro ⟨choice, choiceCase, _, _, _⟩ -
  refine ⟨choiceCase.write choice.letter, ?_, _, rfl⟩
  cases choice <;> cases choiceCase <;> decide

/-- What stands behind the reroll starts with an explosion or with what may stand behind one. -/
theorem starts_explosion (outline : Outline) :
    Starts ('!' :: 'k' :: 'K' :: 'd' :: 'D' :: '+' :: '-' :: blanks)
      (outline.explosion.elim [] (·.chars) ++ (outline.selection.elim [] (·.chars) ++
        (outline.modifier.elim [] (·.chars) ++ outline.trailing.chars))) := by
  apply (outline.starts_selection.mono (by decide)).optional
  exact fun _ _ => ⟨'!', by decide, _, rfl⟩

/-- What stands behind the sides starts with a reroll or with what may stand behind one. -/
theorem starts_reroll (outline : Outline) :
    Starts ('r' :: 'R' :: '!' :: 'k' :: 'K' :: 'd' :: 'D' :: '+' :: '-' :: blanks)
      (outline.reroll.elim [] (·.chars) ++ (outline.explosion.elim [] (·.chars) ++
        (outline.selection.elim [] (·.chars) ++
          (outline.modifier.elim [] (·.chars) ++ outline.trailing.chars)))) := by
  apply (outline.starts_explosion.mono (by decide)).optional
  rintro ⟨letter, _⟩ -
  refine ⟨letter.write 'r', ?_, _, rfl⟩
  cases letter <;> decide

/-- A text has an outline exactly if it is the outline's text, so no text has two. -/
theorem read?_eq_some_iff {text : List Char} {outline : Outline} :
    read? text = some outline ↔ text = outline.chars := by
  simp only [read?, reader, Reader.whole?_eq_some_iff, Reader.bind_eq_some_iff,
    Reader.pure_eq_some_iff, Numeral.reader_eq_some_iff,
    LetterCase.reader_eq_some_iff 'd' (by decide), Run.reader_eq_some_iff]
  constructor
  · rintro ⟨quantity, _, ⟨rfl, -⟩, letter, _, rfl, sides, _, ⟨rfl, -⟩, reroll, _, readReroll,
      explosion, _, readExplosion, selection, _, readSelection, modifier, _, readModifier,
      trailing, _, ⟨rfl, -⟩, rfl, rfl⟩
    rw [Reader.append_of_optional (fun _ read => (RerollSpan.reader_eq_some_iff.mp read).1)
        readReroll,
      Reader.append_of_optional (fun _ read => (ExplosionSpan.reader_eq_some_iff.mp read).1)
        readExplosion,
      Reader.append_of_optional (fun _ read => (WrittenSelection.reader_eq_some_iff.mp read).1)
        readSelection,
      Reader.append_of_optional (fun _ read => (WrittenModifier.reader_eq_some_iff.mp read).1)
        readModifier]
    simp only [chars, List.append_assoc, List.cons_append, List.append_nil]
  · rintro rfl
    have atModifier := outline.starts_modifier
    have atSelection := outline.starts_selection
    have atExplosion := outline.starts_explosion
    have atReroll := outline.starts_reroll
    have atEnd : Stops Char.isWhitespace [] := fun _ first => nomatch first
    refine ⟨outline.quantity, _, ⟨by simp only [chars, List.append_assoc, List.cons_append], ?_⟩,
      outline.letter, _, rfl, outline.sides, _, ⟨rfl, atReroll.stops (by decide)⟩,
      outline.reroll, _, Reader.optional_append
        (fun _ _ => RerollSpan.reader_eq_some_iff.mpr ⟨rfl, atExplosion.stops (by decide)⟩)
        (RerollSpan.reader_eq_none atExplosion (by decide)),
      outline.explosion, _, Reader.optional_append
        (fun _ _ => ExplosionSpan.reader_eq_some_iff.mpr ⟨rfl, atSelection.stops (by decide)⟩)
        (ExplosionSpan.reader_eq_none atSelection (by decide)),
      outline.selection, _, Reader.optional_append
        (fun _ _ => WrittenSelection.reader_eq_some_iff.mpr ⟨rfl, atModifier.stops (by decide)⟩)
        (WrittenSelection.reader_eq_none atModifier (by decide)),
      outline.modifier, _, Reader.optional_append
        (fun _ _ => WrittenModifier.reader_eq_some_iff.mpr
          ⟨rfl, (starts_blank outline.trailing).stops (by decide)⟩)
        (WrittenModifier.reader_blank outline.trailing),
      outline.trailing, [], ⟨(List.append_nil _).symm, atEnd⟩, rfl, rfl⟩
    rintro _ ⟨⟩
    cases outline.letter <;> decide

end Outline
end TabletopDice
