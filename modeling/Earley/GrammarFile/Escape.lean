/-
Earley.GrammarFile.Escape — a decoder of literals that replaces escapes.

A backslash introduces an escape: a control character, a code point in octal or hexadecimal digits,
a character by its name, or, before a line end, nothing at all. A backslash that introduces none of
these stands for itself. Which names characters have is left to a table.

- `Literal.decode` is the text between the quotes with its escapes replaced.
- A numeric escape that is cut short, or beyond the last code point, is a fault, and so is one for
  half of a surrogate pair, which no text has. A fault is reported with its offsets in the literal,
  for which a character outside ASCII counts as the ten characters that it takes to write it as an
  escape.
-/
import Earley.GrammarFile.Literal
import Earley.Text.Digit

namespace Earley.GrammarFile.Literal

open Text (isOctalDigit isHexDigit numberOf)

/-! ## Names of characters -/

/-- A table of the names that characters have. -/
class Names where
  character? : (name : List Char) → Option Char

/-- The table without names. -/
instance noNames : Names := ⟨fun _ => none⟩

/-! ## Line ends -/

/-- A character that ends a line. -/
def isLineEnd (c : Char) : Bool := c == '\n' || c == '\r'

/-- The number of line ends that follow a backslash. -/
def continuations : List Char → Nat
  | '\\' :: c :: cs => (if isLineEnd c then 1 else 0) + continuations cs
  | _ :: cs => continuations cs
  | [] => 0

/-- The line of the first line end that follows no backslash, counted from `line`. -/
def bareLineEnd? (line : Nat) : List Char → Option Nat
  | '\\' :: c :: cs => bareLineEnd? (if isLineEnd c then line + 1 else line) cs
  | c :: cs => if isLineEnd c then some line else bareLineEnd? line cs
  | [] => none

/-! ## Escapes -/

/-- The characters that a letter or mark stands for after a backslash. -/
def simpleEscape? : Char → Option Char
  | '\\' => some '\\'
  | '\'' => some '\''
  | '"' => some '"'
  | 'a' => some '\x07'
  | 'b' => some '\x08'
  | 'f' => some '\x0c'
  | 'n' => some '\n'
  | 'r' => some '\r'
  | 't' => some '\t'
  | 'v' => some '\x0b'
  | _ => none

/-- The number of hexadecimal digits that a letter asks for. -/
def hexLength? : Char → Option Nat
  | 'x' => some 2
  | 'u' => some 4
  | 'U' => some 8
  | _ => none

/-- How much a character counts for in the offsets of faults. -/
def width (c : Char) : Nat := if c.toNat < 0x80 then 1 else 10

/-- How much some characters count for together. -/
def widths (cs : List Char) : Nat := cs.foldr (fun c n => width c + n) 0

/-- A faulty escape: its problem and its offsets. -/
abbrev BadEscape := Problem × Nat × Nat

/-- Reads the name, in braces, of an escape at offset `pos` that asks for a character by name: the
character, and how many characters the name takes with its braces. -/
def readName [Names] (pos : Nat) (rest : List Char) : Except BadEscape (Char × Nat) :=
  match rest with
  | '{' :: cs =>
    let name := cs.takeWhile (· != '}')
    if name.length = cs.length then .error (.malformedName, pos, pos + 2 + widths name)
    else if name.isEmpty then .error (.malformedName, pos, pos + 2)
    else
      match Names.character? name with
      | some c => .ok (c, name.length + 2)
      | none => .error (.unknownName, pos, pos + 3 + widths name)
  | _ => .error (.malformedName, pos, pos + 1)

/-- The character with a number. -/
def charOf (n : Nat) : Except Problem Char :=
  if 0x110000 ≤ n then .error .illegal
  else if h : n.isValidChar then .ok (Char.ofNatAux n h)
  else .error .surrogate

/-- Reads the escape of a backslash at offset `pos` and the character `c` after it: the text it
stands for, and the number of characters of it that follow `c`. -/
def readEscape [Names] (pos : Nat) (c : Char) (rest : List Char) :
    Except BadEscape (List Char × Nat) :=
  match hexLength? c with
  | some count =>
    let digits := (rest.take count).takeWhile isHexDigit
    if digits.length < count then .error (.truncated c count, pos, pos + 1 + digits.length)
    else
      match charOf (numberOf 16 digits) with
      | .ok d => .ok ([d], count)
      | .error problem => .error (problem, pos, pos + 1 + count)
  | none =>
    if c = 'N' then (readName pos rest).map fun (d, n) => ([d], n)
    else if isLineEnd c then .ok ([], 0)
    else if isOctalDigit c then
      let digits := (rest.take 2).takeWhile isOctalDigit
      .ok ([Char.ofNat (numberOf 8 (c :: digits))], digits.length)
    else
      match simpleEscape? c with
      | some d => .ok ([d], 0)
      | none => .ok (['\\', c], 0)

/-- The offset behind a backslash, the character `c` and `n` more. A backslash before a character
outside ASCII counts as the six characters that it takes to write it as an escape. -/
def escapeEnd (pos : Nat) (c : Char) (n : Nat) : Nat :=
  if c.toNat < 0x80 then pos + 2 + n else pos + 6 + width c + n

/-- Replaces the escapes of a text that stands at offset `pos`. -/
def unescapeFrom [Names] (pos : Nat) (cs : List Char) : Except BadEscape (List Char) :=
  match cs with
  | [] => .ok []
  | ['\\'] => .ok ['\\']
  | '\\' :: c :: rest =>
    match readEscape pos c rest with
    | .error e => .error e
    | .ok (text, n) => (unescapeFrom (escapeEnd pos c n) (rest.drop n)).map (text ++ ·)
  | c :: rest => (unescapeFrom (pos + width c) rest).map (c :: ·)
  termination_by cs.length
  decreasing_by all_goals (simp [List.length_drop]; try omega)

/-- The text that the characters between two quotes stand for. -/
def decode [Names] (cs : List Char) : Except Fault (List Char) :=
  if '\x00' ∈ cs then .error .nullCharacter
  else
    match bareLineEnd? 1 cs with
    | some line => .error (.unterminated line)
    | none =>
      match unescapeFrom 0 cs with
      | .ok text => .ok text
      | .error (problem, first, last) =>
        .error (.escape problem first last (1 + continuations cs))

/-- The decoder that takes the quotes off and replaces the escapes. -/
instance escapes [Names] : Decoder := ⟨fun written => decode (written.drop 1).dropLast⟩

end Earley.GrammarFile.Literal
