/-
Earley.Language — a grammar file put to use.

A language has the grammar and the lexer of a grammar file. A text is in the language if it can be
cut into lexemes and these derive from the start symbol.
-/
import Earley.Chart.Build
import Earley.Lexer
import Earley.Token

namespace Earley

/-- The token that a lexeme is. -/
def Lexeme.toToken (l : Lexeme) : Token := .lexeme (some l.kind) (.text l.text) l.line l.column

/-- A grammar file with its grammar and lexer. -/
structure Language where
  file : GrammarFile
  grammar : Grammar
  lexer : Lexer

/-- Why a text cannot be judged. -/
inductive JudgeFault where
  | lexing (f : Lexer.Fault)
  | chart (f : StepFault Regex.Invalid)
  deriving DecidableEq, Repr

namespace Language

variable [Regex.Engine]

/-- The language of a grammar file. -/
def ofFile (f : GrammarFile) : Language := ⟨f, f.toGrammar, .ofFile f⟩

/-- The language that the text of a grammar file describes. -/
def read [GrammarFile.Literal.Decoder] (src : List Char) : Except GrammarFile.Error Language :=
  (GrammarFile.read src).map ofFile

/-- Whether a text, which begins on the given line, is in the language. -/
def judge (l : Language) (matching : Matching) (text : String) (line : Int) :
    Except JudgeFault Bool :=
  match l.lexer.tokenize text line with
  | .error f => .error (.lexing f)
  | .ok lexemes =>
    match recognize matching.accepts l.grammar (lexemes.map Lexeme.toToken) with
    | .ok verdict => .ok verdict
    | .error f => .error (.chart f)

end Language

end Earley
