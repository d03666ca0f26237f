/-
Earley.Lexer — cutting a text into lexemes.

A lexer has literals, token patterns and patterns of text to ignore. At a place it skips what is to
be ignored, and then takes the longest literal, unless a token pattern matches more than that; of
several patterns the one that matches most wins, and of those that match equally much the first.
A literal with word characters in it counts only between places where no word goes on.

Of a pattern a lexer knows only where its matches end, so that any way to match will do.

- `Lexer.next` takes one step, and `Lexer.take` several.
- `Lexer.tokenize` goes on to the end of the text, or to the first character that nothing matches.
-/
import Earley.GrammarFile.Basic
import Earley.Text.Category

namespace Earley

/-- A part of a text: what it is, its text, and the line and column where it begins. -/
structure Lexeme where
  kind : String
  text : String
  line : Int
  column : Nat
  deriving DecidableEq, Repr

/-- A pattern, as far as a lexer knows it: where its match at an offset of a text ends, if it has
one there. -/
abbrev Lexer.Pattern := (text : Array Char) → (pos : Nat) → Option Nat

/-- What lexemes there are in a text. -/
structure Lexer where
  /-- Distinct literals, longer ones first. -/
  literals : List String
  /-- The kinds of lexemes that have a pattern. -/
  tokens : List (String × Lexer.Pattern)
  ignores : List Lexer.Pattern

namespace Lexer

/-- A character that no lexeme begins with, and its place. -/
structure Fault where
  char : Char
  line : Int
  column : Nat
  deriving DecidableEq, Repr

/-- The message for a character that no lexeme begins with. -/
def Fault.message (f : Fault) : String :=
  "Lexing error: unexpected character " ++ Text.quotedChar f.char ++ " at " ++ toString f.line ++
    ":" ++ toString f.column

/-- The lexer of some literals, tokens and patterns to ignore. The order of literals of one length
is kept. -/
def ofPatterns (literals : List String) (tokens : List (String × Pattern))
    (ignores : List Pattern) : Lexer :=
  { literals := literals.eraseDups.mergeSort fun a b => decide (b.length ≤ a.length)
    tokens, ignores }

/-- The lexer of some literals, declared tokens and patterns to ignore, with the matches that an
engine finds. -/
def make [Regex.Engine] (literals : List String) (tokens : List TokenDeclaration)
    (ignores : List Regex) : Lexer :=
  ofPatterns literals (tokens.map fun t => (t.name, t.regex.matchEnd?))
    (ignores.map Regex.matchEnd?)

/-- The lexer for the declarations of a grammar file. -/
def ofFile [Regex.Engine] (f : GrammarFile) : Lexer := make f.literals f.tokens f.ignores

/-! ## What begins at an offset -/

/-- The characters of a text between two offsets. -/
def slice (text : Array Char) (start stop : Nat) : List Char := (text.extract start stop).toList

/-- The end of the first pattern to ignore that matches more than nothing at an offset. -/
def ignoredEnd? (ignores : List Pattern) (text : Array Char) (pos : Nat) : Option Nat :=
  ignores.findSome? fun p => (p text pos).filter fun e => decide (pos < e)

theorem lt_of_ignoredEnd? {ignores : List Pattern} {text : Array Char} {pos e : Nat}
    (h : ignoredEnd? ignores text pos = some e) : pos < e := by
  obtain ⟨p, -, hp⟩ := List.exists_of_findSome?_eq_some h
  exact of_decide_eq_true (Option.filter_eq_some_iff.1 hp).2

/-- The offset behind everything that is to be ignored. -/
def skip (ignores : List Pattern) (text : Array Char) (pos : Nat) : Nat :=
  if pos < text.size then
    match _h : ignoredEnd? ignores text pos with
    | some e => skip ignores text e
    | none => pos
  else pos
  termination_by text.size - pos
  decreasing_by
    have := lt_of_ignoredEnd? _h
    omega

/-- Whether a character of the text may be part of a word; outside the text there is none. -/
def isWordAt (text : Array Char) (pos : Nat) : Bool := text[pos]?.any Text.isIdentifierPart

/-- Whether a literal between two offsets is not cut out of a word. A literal without word
characters never is. -/
def isBounded (text : Array Char) (start stop : Nat) (literal : String) : Bool :=
  !literal.toList.any Text.isIdentifierPart ||
    !((start != 0 && isWordAt text (start - 1)) || isWordAt text stop)

/-- Whether a literal stands at an offset and may be taken there. -/
def isAdmissible (text : Array Char) (pos : Nat) (literal : String) : Bool :=
  let stop := pos + literal.length
  slice text pos stop == literal.toList && isBounded text pos stop literal

/-- The literal to take at an offset, and where it ends. -/
def literalAt? (literals : List String) (text : Array Char) (pos : Nat) : Option (String × Nat) :=
  (literals.find? (isAdmissible text pos)).map fun l => (l, pos + l.length)

/-- Lets a token pattern take over, if it matches more than what has been found so far. -/
def better (text : Array Char) (pos : Nat) (found : Option String × Nat) (t : String × Pattern) :
    Option String × Nat :=
  match t.2 text pos with
  | some e => if found.2 < e then (some t.1, e) else found
  | none => found

/-- The kind of the lexeme at an offset and its end; no kind if nothing begins there. -/
def longest (lx : Lexer) (text : Array Char) (pos : Nat) : Option String × Nat :=
  let found := match literalAt? lx.literals text pos with
    | some (l, e) => (some l, e)
    | none => (none, pos)
  lx.tokens.foldl (better text pos) found

/-! ## Places -/

/-- An offset, its line, and the offset where that line begins. -/
structure Place where
  pos : Nat
  line : Int
  lineStart : Nat
  deriving DecidableEq, Repr

namespace Place

/-- The column of a place, counted from 1. -/
def column (p : Place) : Nat := p.pos - p.lineStart + 1

/-- The place reached by passing over the text up to `stop`. -/
def advance (text : Array Char) (p : Place) (stop : Nat) : Place :=
  let passed := slice text p.pos stop
  if '\n' ∈ passed then
    ⟨stop, p.line + passed.count '\n', stop - (Text.lastLine passed).length⟩
  else { p with pos := stop }

end Place

/-! ## Lexing -/

/-- What comes at a place. -/
inductive Step where
  /-- The end of the text. -/
  | done
  /-- A lexeme, and the place behind it. -/
  | lexeme (l : Lexeme) (after : Place)
  | stuck (f : Fault)
  deriving DecidableEq, Repr

/-- What comes at a place, once what is to be ignored is skipped. -/
def next (lx : Lexer) (text : Array Char) (place : Place) : Step :=
  let here := place.advance text (skip lx.ignores text place.pos)
  match text[here.pos]? with
  | none => .done
  | some c =>
    match lx.longest text here.pos with
    | (none, _) => .stuck ⟨c, here.line, here.column⟩
    | (some kind, stop) =>
      .lexeme ⟨kind, String.ofList (slice text here.pos stop), here.line, here.column⟩
        (here.advance text stop)

/-- The lexemes of a text from a place on, at most `limit` of them, and the fault that stopped
before the limit was reached. -/
def takeFrom (lx : Lexer) (text : Array Char) :
    (limit : Nat) → (place : Place) → List Lexeme × Option Fault
  | 0, _ => ([], none)
  | limit + 1, place =>
    match lx.next text place with
    | .done => ([], none)
    | .stuck f => ([], some f)
    | .lexeme l after =>
      let (ls, fault) := takeFrom lx text limit after
      (l :: ls, fault)

/-- The first lexemes of a text, at most `limit` of them, and the fault that stopped before that.
Lines count from `line`. -/
def take (lx : Lexer) (limit : Nat) (text : String) (line : Int) : List Lexeme × Option Fault :=
  lx.takeFrom text.toList.toArray limit ⟨0, line, 0⟩

/-- All lexemes of a text, up to a fault. Every lexeme has a character of its own, if no literal is
empty; so one step more than there are characters reaches the end. -/
def lexemes (lx : Lexer) (text : String) (line : Int) : List Lexeme × Option Fault :=
  lx.take (text.length + 1) text line

/-- The lexemes of a text that has no fault. -/
def tokenize (lx : Lexer) (text : String) (line : Int) : Except Fault (List Lexeme) :=
  match lx.lexemes text line with
  | (ls, none) => .ok ls
  | (_, some f) => .error f

end Lexer

end Earley
