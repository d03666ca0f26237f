/-
Earley.Text.Category — the classes of characters that patterns and words are made of.

Letters, marks, numbers and punctuation come from the tables beside this module; the composed
classes are their unions.

- `isWordPart` is what a pattern calls a word character.
- `isIdentifierPart` is a character that may continue an identifier. It differs from `isWordPart`
  in a few code points: circled letters and enclosing marks are parts of words only.
-/
import Earley.Text.Category.Letter
import Earley.Text.Category.Caseless
import Earley.Text.Category.Mark
import Earley.Text.Category.Number
import Earley.Text.Category.Punctuation

namespace Earley.Text

/-! ## General categories -/

/-- A capital letter (Lu). -/
def isUppercaseLetter (c : Char) : Bool := Run.covers uppercaseLetters c.toNat

/-- A small letter (Ll). -/
def isLowercaseLetter (c : Char) : Bool := Run.covers lowercaseLetters c.toNat

/-- A letter that has a case: Lu, Ll or Lt. -/
def isCasedLetter (c : Char) : Bool :=
  isLowercaseLetter c || isUppercaseLetter c || Run.covers titlecaseLetters c.toNat

/-- A letter of any kind (L). -/
def isLetter (c : Char) : Bool := isCasedLetter c || Run.covers caselessLetters c.toNat

/-- A decimal digit (Nd). -/
def isDecimalDigit (c : Char) : Bool := Run.covers decimalDigits c.toNat

/-- A numeral that is a letter (Nl). -/
def isLetterNumber (c : Char) : Bool := Run.covers letterNumbers c.toNat

/-- A number of any kind (N). -/
def isNumber (c : Char) : Bool :=
  isDecimalDigit c || isLetterNumber c || Run.covers otherNumbers c.toNat

/-- A connector such as the underscore (Pc). -/
def isConnector (c : Char) : Bool := Run.covers connectors c.toNat

/-- Punctuation of any kind (P). -/
def isPunctuation (c : Char) : Bool := isConnector c || Run.covers otherPunctuation c.toNat

/-! ## Words and identifiers -/

/-- Circled, squared and otherwise enclosed capitals and small letters, which are symbols by
category and letters by use. -/
def enclosedLetters : List Run := [
  ⟨0x24B6, 0x24E9, 1⟩, ⟨0x1F130, 0x1F149, 1⟩, ⟨0x1F150, 0x1F169, 1⟩, ⟨0x1F170, 0x1F189, 1⟩]

/-- A word character: letter, numeral that is a letter, mark, decimal digit or connector. -/
def isWordPart (c : Char) : Bool :=
  isLetter c || isDecimalDigit c || isConnector c || isLetterNumber c ||
    Run.covers combiningMarks c.toNat || Run.covers enclosingMarks c.toNat ||
    Run.covers enclosedLetters c.toNat

/-- Code points outside the identifier categories that may nevertheless continue an identifier:
the joiners, the middle dots, the Ethiopic digits and a few letter-like symbols. -/
def identifierAdditions : List Run := [
  ⟨0xB7, 0xB7, 1⟩, ⟨0x387, 0x387, 1⟩, ⟨0x1369, 0x1371, 1⟩, ⟨0x19DA, 0x19DA, 1⟩,
  ⟨0x200C, 0x200D, 1⟩, ⟨0x2118, 0x2118, 1⟩, ⟨0x212E, 0x212E, 1⟩, ⟨0x30FB, 0x30FB, 1⟩,
  ⟨0xFF65, 0xFF65, 1⟩]

/-- Letters that may not continue an identifier, because a compatibility decomposition of theirs
holds a space or a mark of its own, and one that serves as punctuation. -/
def identifierExclusions : List Run := [
  ⟨0x37A, 0x37A, 1⟩, ⟨0x2E2F, 0x2E2F, 1⟩, ⟨0xFC5E, 0xFC63, 1⟩, ⟨0xFDFA, 0xFDFB, 1⟩,
  ⟨0xFE70, 0xFE7E, 2⟩]

/-- A character that may stand in an identifier after its first character. -/
def isIdentifierPart (c : Char) : Bool :=
  ((isLetter c || isDecimalDigit c || isConnector c || isLetterNumber c ||
      Run.covers combiningMarks c.toNat) && !Run.covers identifierExclusions c.toNat) ||
    Run.covers identifierAdditions c.toNat

end Earley.Text
