/-! # Blank characters

A character is *blank* when it carries the Unicode property White_Space: the tab, line feed,
vertical tab, form feed, carriage return and space, the next-line control U+0085, the no-break
space U+00A0, the Ogham space mark, the spaces U+2000 to U+200A, the line and paragraph
separators, the narrow no-break space, the medium mathematical space and the ideographic space.
The zero width space U+200B and the byte order mark U+FEFF are not blank.

* `isBlank`: the property, 25 code points in ten ranges (Unicode 15.0);
* `trimBlank`: a text without its leading and trailing blanks.
-/

namespace TrafficShaper.Text

/-- The closed ranges of code points with the property White_Space, increasing. -/
def blankRanges : List (Nat × Nat) :=
  [(0x9, 0xD), (0x20, 0x20), (0x85, 0x85), (0xA0, 0xA0), (0x1680, 0x1680), (0x2000, 0x200A),
    (0x2028, 0x2029), (0x202F, 0x202F), (0x205F, 0x205F), (0x3000, 0x3000)]

/-- **Blank characters**: those in a range of `blankRanges`. -/
def isBlank (c : Char) : Bool :=
  blankRanges.any fun r => r.1 ≤ c.toNat && c.toNat ≤ r.2

/-- **Trimming**: the text without its leading and trailing blank characters. -/
def trimBlank (s : String) : String :=
  String.ofList ((s.toList.dropWhile isBlank).reverse.dropWhile isBlank).reverse

theorem isBlank_of_isWhitespace (c : Char) (h : c.isWhitespace = true) : isBlank c = true := by
  simp only [Char.isWhitespace, Bool.or_eq_true, decide_eq_true_eq] at h
  simp only [isBlank, blankRanges, List.any_cons, List.any_nil]
  rcases h with ((h | h) | h) | h <;> simp [h]

end TrafficShaper.Text
