/-
Earley.Text.Blank — white space.

There are two notions. `isBlank` is the white space of patterns and of grammar files. A line of
input counts as empty under the wider `isBlankOrSeparator`, which adds the four information
separators U+001C to U+001F; the same wider notion says what a pattern with insignificant blanks
leaves out.
-/
namespace Earley.Text

/-- White space: the code points with the property White_Space. -/
def isBlank (c : Char) : Bool :=
  let n := c.toNat
  (0x09 ≤ n && n ≤ 0x0D) || n == 0x20 || n == 0x85 || n == 0xA0 || n == 0x1680 ||
    (0x2000 ≤ n && n ≤ 0x200A) || n == 0x2028 || n == 0x2029 || n == 0x202F || n == 0x205F ||
    n == 0x3000

/-- White space or an information separator. -/
def isBlankOrSeparator (c : Char) : Bool :=
  isBlank c || (0x1C ≤ c.toNat && c.toNat ≤ 0x1F)

/-- Blanks within a line: white space without the characters that end a line. -/
def isHorizontalBlank (c : Char) : Bool :=
  let n := c.toNat
  isBlank c && !((0x0A ≤ n && n ≤ 0x0D) || n == 0x85 || n == 0x2028 || n == 0x2029)

end Earley.Text
