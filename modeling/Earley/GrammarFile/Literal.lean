/-
Earley.GrammarFile.Literal — what a quoted literal stands for is for a decoder to say.

A grammar file is read with any decoder. It is handed a literal as it is written, with its quotes,
and answers with a text or with one of the faults below. A text consists of characters, so that half
of a surrogate pair stands for none in any decoder.
-/
namespace Earley.GrammarFile.Literal

/-! ## Faults -/

/-- What can be wrong with an escape. -/
inductive Problem where
  /-- Digits are missing after the letter. -/
  | truncated (letter : Char) (digits : Nat)
  /-- The number is greater than any code point. -/
  | illegal
  /-- The number is half of a surrogate pair, and no character has it. -/
  | surrogate
  /-- A character is asked for by name, and no name in braces follows. -/
  | malformedName
  | unknownName
  deriving DecidableEq, Repr

/-- What can be wrong with a literal. Lines are those of the literal, from 1. -/
inductive Fault where
  | nullCharacter
  /-- A carriage return ends the line before the quote that closes the literal. -/
  | unterminated (line : Nat)
  /-- An escape, from its first offset to the last one that was read. -/
  | escape (problem : Problem) (first last : Nat) (line : Nat)
  deriving DecidableEq, Repr

/-- The words for a problem. -/
def Problem.message : Problem → String
  | .truncated letter digits =>
    "truncated \\" ++ String.singleton letter ++ String.ofList (List.replicate digits 'X') ++
      " escape"
  | .illegal => "illegal Unicode character"
  | .surrogate => "surrogates not allowed"
  | .malformedName => "malformed \\N character escape"
  | .unknownName => "unknown Unicode character name"

/-- The message for a fault. -/
def Fault.message : Fault → String
  | .nullCharacter => "source code string cannot contain null bytes"
  | .unterminated line =>
    "unterminated string literal (detected at line " ++ toString line ++ ") (<unknown>, line 1)"
  | .escape problem first last line =>
    "(unicode error) 'unicodeescape' codec can't decode bytes in position " ++ toString first ++
      "-" ++ toString last ++ ": " ++ problem.message ++ " (<unknown>, line " ++ toString line ++
      ")"

/-! ## Decoders -/

/-- A decoder of literals. -/
class Decoder where
  /-- The text that a literal stands for, as it is written between its quotes and with them. -/
  decode : (written : List Char) → Except Fault (List Char)

end Earley.GrammarFile.Literal
