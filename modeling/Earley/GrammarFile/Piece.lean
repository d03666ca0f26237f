/-
Earley.GrammarFile.Piece — the pieces of a grammar file.

A grammar file is a sequence of pieces: directives, patterns, quoted literals, names and
punctuation. Blanks and comments lie between them. What begins at a character is decided by trying
the classes in a fixed order, so that a slash begins a comment where it can, and otherwise a
pattern.

- `Piece.recognize?` says what begins with a character, and how long it is.
- `Piece.scan` cuts a whole text, or tells the offset where nothing begins.
-/
import Earley.Text.Blank

namespace Earley.GrammarFile

/-- The classes of pieces. -/
inductive PieceKind where
  /-- A percent sign and a name. -/
  | directive
  /-- A pattern between slashes, with its flags. -/
  | regex
  /-- A literal between quotes. -/
  | string
  | name
  | punctuation
  deriving DecidableEq, Repr

/-- A piece, and the offset where it begins. -/
structure Piece where
  kind : PieceKind
  chars : List Char
  start : Nat
  deriving DecidableEq, Repr

namespace Piece

/-- The offset behind a piece. -/
def stop (p : Piece) : Nat := p.start + p.chars.length

/-- The text of a piece. -/
def text (p : Piece) : String := String.ofList p.chars

/-! ## Characters -/

/-- A character that a name may begin with. -/
def isNameStart (c : Char) : Bool := c.isAlpha || c == '_'

/-- A character that a name may go on with. -/
def isNamePart (c : Char) : Bool := c.isAlphanum || c == '_'

/-- The flags of a pattern. -/
def isFlag (c : Char) : Bool := c == 'i' || c == 'm' || c == 's' || c == 'x' || c == 'A'

/-- The marks that are pieces by themselves. -/
def isPunctuation (c : Char) : Bool :=
  c == ':' || c == ';' || c == '|' || c == '(' || c == ')' || c == '?' || c == '*' || c == '+'

/-! ## Lengths -/

/-- The number of characters at the head of a text that satisfy `p`. -/
def runLength (p : Char → Bool) (cs : List Char) : Nat := (cs.takeWhile p).length

/-- The number of characters up to the end of a block comment, its end mark included. -/
def commentLength? : List Char → Option Nat
  | [] => none
  | '*' :: '/' :: _ => some 2
  | _ :: cs => (commentLength? cs).map (· + 1)

/-- The number of characters up to a delimiter on the same line, the delimiter included. A
backslash takes along whatever follows it, a line feed too. -/
def delimitedLength? (stop : Char) : List Char → Option Nat
  | [] => none
  | '\\' :: cs =>
    match cs with
    | [] => none
    | _ :: cs => (delimitedLength? stop cs).map (· + 2)
  | c :: cs =>
    if c = stop then some 1
    else if c = '\n' then none
    else (delimitedLength? stop cs).map (· + 1)

/-! ## Classes -/

/-- The number of characters, after the first one, of the blanks or the comment that begin with
`c`. -/
def skip? (c : Char) (rest : List Char) : Option Nat :=
  if Text.isBlank c then some (runLength Text.isBlank rest)
  else if c = '/' then
    match rest with
    | '/' :: cs => some (1 + runLength (· != '\n') cs)
    | '*' :: cs => (commentLength? cs).map (1 + ·)
    | _ => none
  else none

/-- The number of characters, after the percent sign, of a directive. -/
def directive? (c : Char) (rest : List Char) : Option Nat :=
  match rest with
  | d :: ds => if c = '%' ∧ isNameStart d then some (1 + runLength isNamePart ds) else none
  | [] => none

/-- The number of characters, after the opening slash, of a pattern with its flags. A pattern is
not empty. -/
def regex? (c : Char) (rest : List Char) : Option Nat :=
  if c = '/' then
    match delimitedLength? '/' rest with
    | some n => if 1 < n then some (n + runLength isFlag (rest.drop n)) else none
    | none => none
  else none

/-- The number of characters, after the opening quote, of a literal. -/
def string? (c : Char) (rest : List Char) : Option Nat :=
  if c = '"' ∨ c = '\'' then delimitedLength? c rest else none

/-- The number of characters, after the first one, of a name. -/
def name? (c : Char) (rest : List Char) : Option Nat :=
  if isNameStart c then some (runLength isNamePart rest) else none

/-- What begins with the character `c`: a piece of some kind, or a part to skip. The number is
that of the characters that belong to it after `c`. -/
def recognize? (c : Char) (rest : List Char) : Option (Option PieceKind × Nat) :=
  ((skip? c rest).map (none, ·)).or <|
  ((directive? c rest).map (some .directive, ·)).or <|
  ((regex? c rest).map (some .regex, ·)).or <|
  ((string? c rest).map (some .string, ·)).or <|
  ((name? c rest).map (some .name, ·)).or <|
  if isPunctuation c then some (some .punctuation, 0) else none

/-! ## Cutting a text -/

/-- The pieces of a text that stands at offset `pos`, or the first offset, and its character, where
nothing begins. -/
def scanFrom (pos : Nat) (cs : List Char) : Except (Nat × Char) (List Piece) :=
  match cs with
  | [] => .ok []
  | c :: rest =>
    match recognize? c rest with
    | none => .error (pos, c)
    | some (kind?, n) =>
      match scanFrom (pos + 1 + n) (rest.drop n), kind? with
      | .ok pieces, some kind => .ok (⟨kind, c :: rest.take n, pos⟩ :: pieces)
      | result, _ => result
  termination_by cs.length
  decreasing_by simp only [List.length_drop, List.length_cons]; omega

/-- The pieces of a text, or the first offset, and its character, where nothing begins. -/
def scan (cs : List Char) : Except (Nat × Char) (List Piece) := scanFrom 0 cs

end Piece

end Earley.GrammarFile
