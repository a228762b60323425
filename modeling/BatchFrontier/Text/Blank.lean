import BatchFrontier.Text.CharClass

/-!
# Blanks

The blank characters are those of the Unicode property `White_Space` together with the four
information separators U+001C to U+001F.
-/

namespace BatchFrontier.Text

/-- The ranges of the blank characters. -/
def blanks : CharClass :=
  ⟨[(0x09, 0x0D), (0x1C, 0x20), (0x85, 0x85), (0xA0, 0xA0), (0x1680, 0x1680), (0x2000, 0x200A),
    (0x2028, 0x2029), (0x202F, 0x202F), (0x205F, 0x205F), (0x3000, 0x3000)]⟩

/-- Whether a character is blank. -/
def isBlank (c : Char) : Bool := blanks.holds c

/-- The blanks of ASCII, without the information separators: tab to carriage return, and space. -/
def isPlainBlank (c : Char) : Bool := c == ' ' || (decide (9 ≤ c.toNat) && decide (c.toNat ≤ 13))

/-- A text without the blanks at its ends. -/
def trim (cs : List Char) : List Char := trimWhere isBlank cs

end BatchFrontier.Text
