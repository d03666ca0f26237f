/-
Earley.GrammarFile.Basic — grammar files.

A grammar file declares tokens, text to ignore, keywords, a start symbol and rules. Reading it gives
these declarations with the rules flat, from which a grammar and a lexer can be made.

- `GrammarFile.read` reads a text, or says what is wrong with it.
- `GrammarFile.toGrammar` puts the rules of the start symbol first.
-/
import Earley.GrammarFile.Lowering
import Earley.GrammarFile.Statement

namespace Earley

/-- A token that a file declares. -/
structure TokenDeclaration where
  name : String
  regex : Regex
  deriving DecidableEq, Repr

/-- The declarations of a grammar file. -/
structure GrammarFile where
  /-- The tokens, in order of declaration. -/
  tokens : List TokenDeclaration
  /-- The patterns of text to ignore, in order of declaration. -/
  ignores : List Regex
  /-- The literals of keywords and rules, each once, in order of first appearance. -/
  literals : List String
  /-- The flat rules. -/
  rules : List Rule
  /-- The start symbol, unless there are no rules. -/
  start : Option String
  deriving DecidableEq, Repr

namespace GrammarFile

/-! ## Collecting statements -/

/-- The tokens that statements declare. -/
def tokensOf (statements : List Statement) : List TokenDeclaration :=
  statements.filterMap fun
    | .token name regex => some ⟨name, regex⟩
    | _ => none

/-- The patterns of text to ignore. -/
def ignoresOf (statements : List Statement) : List Regex :=
  statements.filterMap fun
    | .ignore regex => some regex
    | _ => none

/-- The literals of a statement, in order. -/
def literalsOf : Statement → List String
  | .keyword text => [text]
  | .rule _ _ branches => branchesLiterals branches
  | _ => []

/-- The names of rules, with their offsets. -/
def headsOf (statements : List Statement) : List (String × Nat) :=
  statements.filterMap fun
    | .rule name pos _ => some (name, pos)
    | _ => none

/-- The rules as they are written. -/
def bodiesOf (statements : List Statement) : List (String × List (List Term)) :=
  statements.filterMap fun
    | .rule name _ branches => some (name, branches)
    | _ => none

/-- The choices of a start symbol, with their offsets. -/
def startsOf (statements : List Statement) : List (String × Nat) :=
  statements.filterMap fun
    | .start name pos => some (name, pos)
    | _ => none

/-- The start symbol: the last one that was chosen, which must have rules, or else the name of the
first rule. -/
def startOf (statements : List Statement) : Except Error (Option String) :=
  let heads := headsOf statements
  match (startsOf statements).getLast? with
  | none => .ok (heads.head?.map (·.1))
  | some (name, pos) =>
    if name ∈ heads.map (·.1) then .ok (some name)
    else .error (.located (.startWithoutRules name) pos)

/-- The declarations that statements make. No name may be both a token and the name of a rule. -/
def ofStatements (statements : List Statement) : Except Error GrammarFile :=
  let tokens := tokensOf statements
  let names := tokens.map (·.name)
  match (headsOf statements).find? (·.1 ∈ names) with
  | some (name, pos) => .error (.located (.clash name) pos)
  | none =>
    (startOf statements).map fun start =>
      { tokens, start
        ignores := ignoresOf statements
        literals := (statements.flatMap literalsOf).eraseDups
        rules := lowerRules names 0 (bodiesOf statements) }

/-! ## Reading -/

/-- The pieces of a text. -/
def scan (src : List Char) : Except Error (List Piece) :=
  match Piece.scan src with
  | .ok pieces => .ok pieces
  | .error (pos, c) => .error (.located (.unexpectedChar c) pos)

/-- Reads a grammar file. -/
def read [Regex.Engine] [Literal.Decoder] (src : List Char) : Except Error GrammarFile :=
  match scan src with
  | .error e => .error e
  | .ok pieces =>
    match Statement.readAll [] ⟨pieces, 0, src.length⟩ with
    | .error e => .error e
    | .ok statements => ofStatements statements

/-! ## Grammars -/

/-- The grammar of the rules, those of the start symbol first. -/
def toGrammar (f : GrammarFile) : Grammar :=
  ⟨f.rules.filter (f.start == some ·.name) ++ f.rules.filter (f.start != some ·.name)⟩

/-! ## Vocabulary -/

/-- Distinct texts in ascending order. -/
def sorted (xs : List String) : List String := xs.eraseDups.mergeSort fun a b => decide (a ≤ b)

/-- The terminals of a rule. -/
def terminalsOf (r : Rule) : List String :=
  r.components.filterMap fun
    | .terminal pattern => some pattern
    | .nonterminal _ => none

/-- The nonterminals of a rule, its name apart. -/
def nonterminalsOf (r : Rule) : List String :=
  r.components.filterMap fun
    | .terminal _ => none
    | .nonterminal name => some name

/-- The names that have rules. -/
def defined (f : GrammarFile) : List String := sorted (f.rules.map (·.name))

/-- The tokens, and the terminals of the rules. -/
def terminals (f : GrammarFile) : List String :=
  sorted (f.tokens.map (·.name) ++ f.rules.flatMap terminalsOf)

/-- The names that have rules or are referred to. -/
def nonterminals (f : GrammarFile) : List String :=
  sorted (f.rules.map (·.name) ++ f.rules.flatMap nonterminalsOf)

/-- The names that are referred to and have no rules. -/
def undefined (f : GrammarFile) : List String :=
  f.nonterminals.filter fun name => decide (name ∉ f.defined)

end GrammarFile

end Earley
