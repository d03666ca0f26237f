/-
Earley.Token — tokens, and what it means that a terminal matches one.

A token is a plain value or a lexeme, which has a kind and a place. A terminal has only its
pattern, and there are three ways to read that: as the token itself, as the kind of a lexeme, or
as a regular expression for the whole text of the token.
-/
import Earley.Regex.Basic
import Earley.Text.Quoted

namespace Earley

/-- A plain value. -/
inductive Value where
  | text (s : String)
  | int (n : Int)
  | bool (b : Bool)
  | none
  deriving DecidableEq, Repr

/-- A token. The kind of a lexeme may be missing, and its text may be any value. -/
inductive Token where
  | value (v : Value)
  | lexeme (kind : Option String) (text : Value) (line column : Int)
  deriving DecidableEq, Repr

/-- A value as a literal. -/
def Value.toText : Value → String
  | .text s => Text.quoted s
  | .int n => toString n
  | .bool true => "True"
  | .bool false => "False"
  | .none => "None"

namespace Token

/-- What a token reads: itself, or the text of a lexeme. -/
def content : Token → Value
  | .value v => v
  | .lexeme _ text _ _ => text

/-- A token as charts show it. -/
def toText (t : Token) : String := t.content.toText

/-- Whether a token is the plain text `s`. -/
def isText (s : String) : Token → Bool
  | .value (.text t) => t == s
  | _ => false

end Token

/-- How the pattern of a terminal is read. -/
inductive Matching where
  /-- The token is the pattern. -/
  | literal
  /-- The kind of a lexeme is the pattern; a token without a kind is taken literally. -/
  | kind
  /-- The text of the token, whole, matches the pattern as a regular expression. -/
  | pattern
  deriving DecidableEq, Repr

namespace Matching

/-- Whether a terminal matches a token. Only a pattern that is no regular expression goes wrong,
and only where a text is to be matched with it. -/
def accepts [Regex.Engine] (m : Matching) (pattern : String) (t : Token) :
    Except Regex.Invalid Bool :=
  match m, t with
  | .literal, t => .ok (t.isText pattern)
  | .kind, .lexeme (some name) _ _ _ => .ok (name == pattern)
  | .kind, t => .ok (t.isText pattern)
  | .pattern, t =>
    match t.content with
    | .text s => do
      let r ← Regex.compile pattern {}
      return r.matchesWhole s.toList.toArray
    | _ => .ok false

end Matching

end Earley
