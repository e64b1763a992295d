/-! # Blank text

    A text is blank when every character of it is white space in the sense of
    the Unicode property `White_Space`.  The property has twenty-five members
    and is closed to new ones, so it is written out here. -/

namespace Lineage.Text

/-- The Unicode property `White_Space`. -/
def isWhite (c : Char) : Bool :=
  let n := c.val
  (0x09 ≤ n && n ≤ 0x0D) || n == 0x20 || n == 0x85 || n == 0xA0 || n == 0x1680 ||
    (0x2000 ≤ n && n ≤ 0x200A) || n == 0x2028 || n == 0x2029 || n == 0x202F ||
    n == 0x205F || n == 0x3000

/-- Whether nothing is left of a text once white space is cut off its ends. -/
def isBlank (s : String) : Bool := s.toList.all isWhite

end Lineage.Text
