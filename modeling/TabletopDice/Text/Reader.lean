/-!
# Readers

A reader takes what it looks for off the front of a text and leaves the rest. Readers are combined
in the usual monadic way; `<|>` and `optional` try the next reading on the text as it was. The laws
below say what a combined reader finds in terms of what its parts find.
-/

namespace TabletopDice

/-- A reader finds a value at the front of a text and leaves the rest of it, or finds nothing. -/
abbrev Reader (α : Type) := StateT (List Char) Option α

/-- No character that passes the test stands at the front of the text. -/
def Stops (test : Char → Bool) (text : List Char) : Prop :=
  ∀ c ∈ text.head?, test c = false

/-- What stands at the front of the text, if it is not empty, is one of these characters. -/
def Starts (front : List Char) (text : List Char) : Prop :=
  ∀ c ∈ text.head?, c ∈ front

/-- A text stops a test that fails for all that it may start with. -/
theorem Starts.stops {front text : List Char} {test : Char → Bool} (starts : Starts front text)
    (fail : front.any test = false) : Stops test text :=
  fun c first => Bool.eq_false_iff.mpr (List.any_eq_false.mp fail c (starts c first))

theorem Starts.mono {front wider text : List Char} (starts : Starts front text)
    (subset : front ⊆ wider) : Starts wider text :=
  fun c first => subset (starts c first)

/-- What may be left out lets through to the front what stands behind it. -/
theorem Starts.optional {α : Type} {front text : List Char} {chars : α → List Char}
    {found : Option α} (starts : Starts front text)
    (own : ∀ value ∈ found, ∃ c ∈ front, ∃ rest, chars value = c :: rest) :
    Starts front (found.elim [] chars ++ text) := by
  cases found with
  | none => exact starts
  | some value =>
    obtain ⟨c, member, rest, split⟩ := own value rfl
    intro d first
    rw [Option.elim_some, split] at first
    cases first
    exact member

namespace Reader

variable {α β : Type}

/-- Reads one character, which has to be this one. -/
def character (wanted : Char) : Reader Unit := fun text =>
  match text with
  | [] => none
  | c :: rest => if c = wanted then some ((), rest) else none

/-- The value that the whole text reads as, with nothing left over. -/
def whole? (reader : Reader α) (text : List Char) : Option α :=
  match reader text with
  | some (value, []) => some value
  | _ => none

/-- A whole text is read exactly if nothing of it is left. -/
theorem whole?_eq_some_iff {reader : Reader α} {text : List Char} {value : α} :
    reader.whole? text = some value ↔ reader text = some (value, []) := by
  unfold whole?
  split <;> simp_all

/-- A character is read exactly if it stands at the front of the text. -/
theorem character_eq_some_iff {wanted : Char} {text rest : List Char} {found : Unit} :
    character wanted text = some (found, rest) ↔ text = wanted :: rest := by
  unfold character
  cases text with
  | nil => simp only [reduceCtorEq]
  | cons c text =>
    by_cases same : c = wanted
    · simp only [same, ↓reduceIte, Option.some.injEq, Prod.mk.injEq, true_and, List.cons.injEq]
    · simp only [same, ↓reduceIte, reduceCtorEq, List.cons.injEq, false_and]

theorem pure_eq_some_iff {value found : α} {text rest : List Char} :
    (pure value : Reader α) text = some (found, rest) ↔ value = found ∧ text = rest := by
  change some (value, text) = some (found, rest) ↔ _
  rw [Option.some.injEq, Prod.mk.injEq]

/-- Two readers in a row read the text in two pieces, the second from where the first has
stopped. -/
theorem bind_eq_some_iff {reader : Reader α} {next : α → Reader β} {text rest : List Char}
    {value : β} :
    (reader >>= next) text = some (value, rest) ↔
      ∃ first middle, reader text = some (first, middle) ∧
        next first middle = some (value, rest) := by
  change ((reader text).bind fun (first, middle) => next first middle) = some (value, rest) ↔ _
  simp only [Option.bind_eq_some_iff, Prod.exists]

/-- If one reader after another reads a whole text, the last one reads all of what is left to it. -/
theorem whole?_bind_eq_some_iff {reader : Reader α} {next : α → Reader β} {text : List Char}
    {value : β} :
    (reader >>= next).whole? text = some value ↔
      ∃ first rest, reader text = some (first, rest) ∧ (next first).whole? rest = some value := by
  simp only [whole?_eq_some_iff, bind_eq_some_iff]

/-- What is made of what is read does not change how much is read. -/
theorem map_eq_some_iff {f : α → β} {reader : Reader α} {text rest : List Char} {value : β} :
    (f <$> reader) text = some (value, rest) ↔
      ∃ found, reader text = some (found, rest) ∧ f found = value := by
  rw [map_eq_pure_bind, bind_eq_some_iff]
  simp only [pure_eq_some_iff]
  constructor
  · rintro ⟨found, _, read, same, rfl⟩
    exact ⟨found, read, same⟩
  · rintro ⟨found, read, same⟩
    exact ⟨found, _, read, same, rfl⟩

theorem map_eq_none_iff {f : α → β} {reader : Reader α} {text : List Char} :
    (f <$> reader) text = none ↔ reader text = none := by
  simp only [Option.eq_none_iff_forall_ne_some, Prod.forall, ne_eq, map_eq_some_iff]
  grind

/-- The second of two readers gets its turn only where the first one finds nothing. -/
theorem orElse_eq_some_iff {first second : Reader α} {text rest : List Char} {value : α} :
    (first <|> second) text = some (value, rest) ↔
      first text = some (value, rest) ∨
        first text = none ∧ second text = some (value, rest) := by
  change (first text <|> second text) = some (value, rest) ↔ _
  cases first text <;> simp

/-- An optional reading always succeeds, and leaves the text alone where there is nothing. -/
theorem optional_eq_some_iff {reader : Reader α} {text rest : List Char} {found : Option α} :
    (optional reader : Reader (Option α)) text = some (found, rest) ↔
      (∃ value, found = some value ∧ reader text = some (value, rest)) ∨
        found = none ∧ text = rest ∧ reader text = none := by
  simp only [optional, orElse_eq_some_iff, map_eq_some_iff, map_eq_none_iff, pure_eq_some_iff]
  grind

/-- A reader that loses nothing finds nothing in a text that starts with other characters. -/
theorem eq_none_of_starts {reader : Reader α} {chars : α → List Char} {front text : List Char}
    (lossless : ∀ value rest, reader text = some (value, rest) → text = chars value ++ rest)
    (starts : Starts front text)
    (foreign : ∀ value, ∃ c, c ∉ front ∧ ∃ rest, chars value = c :: rest) : reader text = none := by
  rw [Option.eq_none_iff_forall_ne_some]
  rintro ⟨value, rest⟩ read
  obtain ⟨c, outside, front, split⟩ := foreign value
  exact outside (starts c (by rw [lossless value rest read, split]; rfl))

/-- What is optional and there is read, and so is that it is not there. -/
theorem optional_append {reader : Reader α} {chars : α → List Char} {found : Option α}
    {rest : List Char}
    (present : ∀ value ∈ found, reader (chars value ++ rest) = some (value, rest))
    (absent : reader rest = none) :
    (optional reader : Reader (Option α)) (found.elim [] chars ++ rest) = some (found, rest) := by
  rw [optional_eq_some_iff]
  cases found with
  | none => exact .inr ⟨rfl, rfl, absent⟩
  | some value => exact .inl ⟨value, rfl, present value rfl⟩

/-- If a reader loses nothing of the text, nor does it when what it reads is optional. -/
theorem append_of_optional {reader : Reader α} {chars : α → List Char} {found : Option α}
    {text rest : List Char}
    (lossless : ∀ value, reader text = some (value, rest) → text = chars value ++ rest)
    (read : (optional reader : Reader (Option α)) text = some (found, rest)) :
    text = found.elim [] chars ++ rest := by
  obtain ⟨value, rfl, found⟩ | ⟨rfl, rfl, -⟩ := optional_eq_some_iff.mp read
  · exact lossless value found
  · rfl

end Reader
end TabletopDice
