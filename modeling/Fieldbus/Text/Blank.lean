import Fieldbus.Text.CodePoints

/-! # White space around a text -/
namespace Fieldbus.Text

/-- The code points with the property `White_Space`. -/
def blankRanges : CodePoints :=
  [
    (0x0009, 0x000D), (0x0020, 0x0020), (0x0085, 0x0085), (0x00A0, 0x00A0), (0x1680, 0x1680),
    (0x2000, 0x200A), (0x2028, 0x2029), (0x202F, 0x202F), (0x205F, 0x205F), (0x3000, 0x3000)
  ]

/-- A white-space character of any script. -/
def isBlank (c : Char) : Bool :=
  blankRanges.covers c

/-- Drops the white space in front. -/
def trimStart (s : List Char) : List Char :=
  s.dropWhile isBlank

/-- Drops the white space behind. -/
def trimEnd (s : List Char) : List Char :=
  (s.reverse.dropWhile isBlank).reverse

/-- Drops the white space on both sides and keeps what stands inside. -/
def trim (s : List Char) : List Char :=
  trimEnd (trimStart s)

end Fieldbus.Text
