/-
Earley.CommandLine.Loading — from the path of a grammar file to its language.

What is wrong with the file or its text ends a command with code 2 and a message; a text that cannot
be decoded is a breakdown.
-/
import Earley.CommandLine.Files
import Earley.CommandLine.Report
import Earley.Language

namespace Earley.CommandLine

/-- Why there is no language. -/
inductive LoadFault where
  | file (problem : FileProblem) (path : String)
  /-- The message for the fault of a grammar file. -/
  | grammar (message : String)
  | breakdown (b : Breakdown)
  deriving DecidableEq, Repr

/-- The report of a command that has no language to work on. -/
def LoadFault.report : LoadFault → Report
  | .file problem path =>
    (Report.silent (.code 2)).afterError ("[ERROR] " ++ problem.message path)
  | .grammar message => (Report.silent (.code 2)).afterErrors ["[SYNTAX ERROR]", message]
  | .breakdown b => .silent (.breakdown b)

/-- The bytes of a file. -/
def readFile (files : Files) (path : String) : Except LoadFault (List UInt8) :=
  if '\x00' ∈ path.toList then .error (.breakdown .nullInPath)
  else
    match files path with
    | .ok bytes => .ok bytes
    | .error problem => .error (.file problem path)

/-- The text of a file, with line feeds for line ends. -/
def readText (files : Files) (path : String) : Except LoadFault (List Char) := do
  match Text.Utf8.decode (← readFile files path) with
  | (cs, none) => return Text.unifyNewlines cs
  | (_, some f) => throw (.breakdown (.undecodable f))

/-- The language of the grammar file at a path. -/
def load [Regex.Engine] [GrammarFile.Literal.Decoder] (files : Files) (path : String) :
    Except LoadFault Language := do
  let src ← readText files (normalizePath path)
  match Language.read src with
  | .ok l => return l
  | .error (.literal .nullCharacter) => throw (.breakdown .nullInLiteral)
  | .error e => throw (.grammar (e.message src))

/-- Text for a name that may be missing. -/
def nameOrNone : Option String → String
  | some name => name
  | none => "None"

/-- The line that debugging shows for a language. -/
def loadedLine (l : Language) : String :=
  "[DEBUG] grammar loaded | rules=" ++ toString l.grammar.rules.length ++
    " tokens=" ++ toString l.file.tokens.length ++
    " literals=" ++ toString l.file.literals.length ++
    " start=" ++ nameOrNone l.grammar.start?

/-- Loads a language and goes on with it; debugging shows that it has been loaded. -/
def withLanguage [Regex.Engine] [GrammarFile.Literal.Decoder] (files : Files) (path : String)
    (debug : Bool) (run : Language → Report) : Report :=
  match load files path with
  | .error f => f.report
  | .ok l => if debug then (run l).afterError (loadedLine l) else run l

end Earley.CommandLine
