import Retention.Text.Range

/-!
# White space

The characters with the property White_Space: the blanks and the line and page ends of
every script.
-/

namespace Retention.Text

def blankRanges : List (Nat × Nat) :=
  [
    (0x9, 0xD), (0x20, 0x20), (0x85, 0x85), (0xA0, 0xA0), (0x1680, 0x1680), (0x2000, 0x200A),
    (0x2028, 0x2029), (0x202F, 0x202F), (0x205F, 0x205F), (0x3000, 0x3000) ]

def isBlank (c : Char) : Bool :=
  inRanges blankRanges c

example : areAscending blankRanges = true := by decide

end Retention.Text
