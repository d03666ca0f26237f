/-
Earley.Text.Quoted — a text as a quoted literal.

`quoted` writes a text between quotes so that the result is printable and shows where the text
ends: the quote in use and the backslash are escaped, and so is every character without a visible
form of its own. The quote is the apostrophe, unless the text contains an apostrophe and no double
quote.
-/
import Earley.Text.Digit
import Earley.Text.Printable

namespace Earley.Text

/-! ## Padding -/

/-- A number written with at least `width` characters, `pad` filling up on the left. -/
def padLeft (width : Nat) (pad : Char) (s : String) : String :=
  String.ofList (List.replicate (width - s.length) pad) ++ s

/-- A text followed by as many spaces as bring it to `width` characters. -/
def padRight (width : Nat) (s : String) : String :=
  s ++ String.ofList (List.replicate (width - s.length) ' ')

/-! ## Quoting -/

/-- The quote that a text is written between. -/
def quoteFor (s : List Char) : Char := if '\'' ∈ s ∧ '"' ∉ s then '"' else '\''

/-- A character between two quotes `q`. -/
def escape (q c : Char) : List Char :=
  if c = q ∨ c = '\\' then ['\\', c]
  else if c = '\n' then ['\\', 'n']
  else if c = '\r' then ['\\', 'r']
  else if c = '\t' then ['\\', 't']
  else if isPrintable c then [c]
  else if c.toNat < 0x100 then '\\' :: 'x' :: hexDigits 2 c.toNat
  else if c.toNat < 0x10000 then '\\' :: 'u' :: hexDigits 4 c.toNat
  else '\\' :: 'U' :: hexDigits 8 c.toNat

/-- The characters of a quoted text, quotes included. -/
def quotedChars (s : List Char) : List Char :=
  let q := quoteFor s
  q :: s.flatMap (escape q) ++ [q]

/-- A text as a quoted literal. -/
def quoted (s : String) : String := String.ofList (quotedChars s.toList)

/-- A single character as a quoted literal. -/
def quotedChar (c : Char) : String := String.ofList (quotedChars [c])

end Earley.Text
