/-
Earley.Text.Printable — which characters can be shown as they are.
-/
import Earley.Text.Category.Unprintable

namespace Earley.Text

/-- Every character is printable except the unprintable ones; of the spaces only U+0020 is
printable. -/
def isPrintable (c : Char) : Bool :=
  if c.toNat < 0x7F then decide (0x20 ≤ c.toNat) else !Run.covers unprintables c.toNat

end Earley.Text
