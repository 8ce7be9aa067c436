/-!
# White space

Around a condition, and around each part of a compound text, every character of Unicode's
`White_Space` property is skipped. Inside a formula only the four characters of
`Char.isWhitespace` are allowed, and only around its modifier. Those four have the property too, so
a trimmed text neither starts nor ends with one of them.
-/

namespace TabletopDice.Text

/-- The ranges of code points, both ends included, that have the `White_Space` property. -/
def spaceRanges : List (Nat × Nat) :=
  [(0x9, 0xD), (0x20, 0x20), (0x85, 0x85), (0xA0, 0xA0), (0x1680, 0x1680), (0x2000, 0x200A),
    (0x2028, 0x2029), (0x202F, 0x202F), (0x205F, 0x205F), (0x3000, 0x3000)]

/-- Whether a character has the `White_Space` property. -/
def isSpace (c : Char) : Bool :=
  spaceRanges.any fun (first, last) => first ≤ c.toNat && c.toNat ≤ last

/-- The text without the white space at its two ends. -/
def trim (text : String) : String :=
  String.ofList ((text.toList.dropWhile isSpace).reverse.dropWhile isSpace).reverse

/-- The four characters allowed around a modifier have the `White_Space` property. -/
theorem isSpace_of_isWhitespace {c : Char} (blank : c.isWhitespace) : isSpace c := by
  simp only [Char.isWhitespace, Bool.or_eq_true, decide_eq_true_eq] at blank
  obtain ((rfl | rfl) | rfl) | rfl := blank <;> decide

end TabletopDice.Text
