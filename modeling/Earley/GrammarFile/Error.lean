/-
Earley.GrammarFile.Error — what can be wrong with a grammar file.

Every fault but one is told with its place: line, column, the line itself, and a caret. The
exception is a literal that stands for no text, whose fault counts from the literal.
-/
import Earley.GrammarFile.Literal
import Earley.Regex.Basic
import Earley.Text.Location
import Earley.Text.Quoted

namespace Earley.GrammarFile

/-- What had to come next. -/
inductive Expectation where
  | tokenName
  | tokenRegex (name : String)
  | ignoreRegex
  | startName
  | colon
  | literal
  | closingParenthesis
  deriving DecidableEq, Repr

/-- What a missing semicolon had to follow. -/
inductive StatementKind where
  | token
  | ignore
  | start
  | keyword (text : String)
  | rule (name : String)
  deriving DecidableEq, Repr

/-- What can be wrong at a place. -/
inductive Cause where
  | unexpectedChar (c : Char)
  /-- A piece that no statement begins with. -/
  | unexpectedPiece (text : String)
  /-- Something else, or the end of the file, where one thing had to come. -/
  | expected (what : Expectation) (got : Option String)
  | missingSemicolon (after : StatementKind)
  | unknownDirective (text : String)
  | duplicateToken (name : String)
  | invalidRegex (written : String) (reason : Regex.Invalid)
  | emptyLiteral
  | keywordMismatch (left right : String)
  /-- A name that has rules and is declared as a token. -/
  | clash (name : String)
  | startWithoutRules (name : String)
  deriving DecidableEq, Repr

/-- A fault of a grammar file. -/
inductive Error where
  | located (cause : Cause) (pos : Nat)
  | literal (fault : Literal.Fault)
  deriving DecidableEq, Repr

/-! ## Words -/

def Expectation.message : Expectation → String
  | .tokenName => "token name"
  | .tokenRegex name => "/regex/ after %token " ++ name
  | .ignoreRegex => "/regex/ after %ignore"
  | .startName => "start symbol name"
  | .colon => "':'"
  | .literal => "string literal"
  | .closingParenthesis => "')'"

def StatementKind.message : StatementKind → String
  | .token => "%token declaration"
  | .ignore => "%ignore declaration"
  | .start => "%start declaration"
  | .keyword text => "keyword " ++ Text.quoted text
  | .rule name => "rule " ++ Text.quoted name

def Cause.message : Cause → String
  | .unexpectedChar c => "Unexpected char " ++ Text.quotedChar c
  | .unexpectedPiece text => "Unexpected " ++ Text.quoted text ++ " at statement start"
  | .expected what (some got) => "Expected " ++ what.message ++ ", got " ++ Text.quoted got
  | .expected what none => "Expected " ++ what.message ++ ", got end of file"
  | .missingSemicolon after => "Missing ';' after " ++ after.message
  | .unknownDirective text => "Unknown directive " ++ text
  | .duplicateToken name => "Duplicate %token " ++ name
  | .invalidRegex written reason =>
    "Invalid regex " ++ written ++ " (" ++ reason.message ++ ")"
  | .emptyLiteral => "Empty literal (use an empty alternative for ε)"
  | .keywordMismatch left right =>
    "Keyword mapping must be identical on both sides: " ++ Text.quoted left ++ " : " ++
      Text.quoted right
  | .clash name => "Rule " ++ Text.quoted name ++ " clashes with %token " ++ name
  | .startWithoutRules name => "%start " ++ name ++ " has no rules"

/-- The message for a fault of the grammar file `src`. -/
def Error.message (src : List Char) : Error → String
  | .located cause pos => Text.located src pos cause.message
  | .literal fault => fault.message

end Earley.GrammarFile
