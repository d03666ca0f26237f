/-
Earley.CommandLine.Run — what the commands do.

- `check` sums up a grammar, `lex` lists the lexemes of a text, and `recognize` judges lines.
- A command ends with code 2 if it cannot do its work, and then it has printed no results.
- `recognize` ends with code 1 if some line is rejected. Blank lines are not judged, and a line that
  cannot be cut into lexemes is rejected.
- `run` carries out a whole command line.
-/
import Earley.CommandLine.Loading
import Earley.GrammarFile.Escape
import Earley.Regex.Backtracking

namespace Earley.CommandLine

/-! ## check -/

/-- The lines that debugging shows for the rules of a grammar. -/
def ruleLines (g : Grammar) : List String :=
  "" :: "[RULES]" :: g.rules.zipIdx.map fun (r, i) =>
    "  #" ++ Text.padRight 3 (toString i) ++ " " ++ r.toText

/-- The warning about names without rules, if there are any. -/
def undefinedLines (f : GrammarFile) : List String :=
  if f.undefined.isEmpty then []
  else ["[WARN] Nonterminals without rules: " ++ ", ".intercalate f.undefined]

/-- The line that sums up a grammar. -/
def summaryLine (l : Language) : String :=
  "[CHECK OK] rules=" ++ toString l.grammar.rules.length ++
    " terms=" ++ toString l.file.terminals.length ++
    " nonterms=" ++ toString l.file.nonterminals.length ++
    " start=" ++ nameOrNone l.grammar.start? ++
    " nullable=" ++ toString l.grammar.nullable.length

/-- Sums up a language. -/
def summarize (debug : Bool) (l : Language) : Report :=
  let rules := if debug then ruleLines l.grammar else []
  ((Report.silent (.code 0)).afterOutput (summaryLine l)).afterErrors
    (rules ++ undefinedLines l.file)

/-! ## lex -/

/-- The line for a lexeme: its number, kind, text and place. -/
def lexemeLine (i : Nat) (l : Lexeme) : String :=
  Text.padLeft 3 '0' (toString i) ++ ": " ++ Text.padRight 12 l.kind ++ " " ++
    Text.quoted l.text ++ "  @" ++ toString l.line ++ ":" ++ toString l.column

/-- The line for a fault in a text. -/
def lexFaultLine (f : Lexer.Fault) : String := "[LEX ERROR] " ++ f.message

/-- Lists the lexemes of a text. -/
def listLexemes (l : Language) (text : String) : Report :=
  match l.lexer.tokenize text 1 with
  | .error f => (Report.silent (.code 2)).afterError (lexFaultLine f)
  | .ok lexemes =>
    (Report.silent (.code 0)).afterOutputs (lexemes.zipIdx.map fun (x, i) => lexemeLine i x)

/-- Lists the lexemes of a text or of a file. -/
def listSource (files : Files) (source : Source) (l : Language) : Report :=
  match source with
  | .text s => listLexemes l s
  | .file path =>
    match readText files path with
    | .ok cs => listLexemes l (String.ofList cs)
    | .error f => f.report

/-! ## recognize -/

/-- How many lines have been accepted and rejected. -/
structure Tally where
  accepted : Nat
  rejected : Nat
  deriving DecidableEq, Repr

/-- Counts a verdict. -/
def Tally.add (t : Tally) (verdict : Bool) : Tally :=
  if verdict then { t with accepted := t.accepted + 1 } else { t with rejected := t.rejected + 1 }

/-- The line that sums up the verdicts. -/
def Tally.line (t : Tally) : String :=
  "[SUMMARY] accepted=" ++ toString t.accepted ++ " rejected=" ++ toString t.rejected

/-- The exit code: 1 if a line was rejected. -/
def Tally.code (t : Tally) : Nat := if t.rejected = 0 then 0 else 1

/-- The line for a verdict. -/
def verdictLine (verdict : Bool) (line : List Char) : String :=
  (if verdict then "[ACCEPT] " else "[REJECT] ") ++ String.ofList line

/-- A line that is not judged. -/
def isBlankLine (line : List Char) : Bool := line.all Text.isBlankOrSeparator

/-- Judges the line with a number. The verdict comes with the lines to show on the error channel;
debugging shows the chart. -/
def judgeLine [Regex.Engine] (l : Language) (debug : Bool) (number : Nat) (line : List Char) :
    Except Breakdown (Bool × List String) :=
  match l.lexer.tokenize (String.ofList line) number with
  | .error f => .ok (false, [lexFaultLine f])
  | .ok lexemes =>
    match Chart.build Matching.kind.accepts l.grammar (lexemes.map Lexeme.toToken) with
    | .error ⟨.untestable reason, _⟩ => .error (.unmatchable reason)
    | .error _ => .error .brokenChart
    | .ok c =>
      match c.accepted? l.grammar, c.toText? Token.toText l.grammar with
      | some verdict, some shown =>
        let counts := "[DEBUG] line " ++ toString number ++ ": tokens=" ++
          toString lexemes.length ++ " positions=" ++ toString c.length
        .ok (verdict, if debug then [counts, shown] else [])
      | _, _ => .error .brokenChart

/-- Judges lines, the first of which has the given number, and ends as `finish` says. -/
def judgeLines [Regex.Engine] (l : Language) (quiet debug : Bool) (finish : Tally → Report) :
    (number : Nat) → Tally → List (List Char) → Report
  | _, tally, [] => finish tally
  | number, tally, line :: rest =>
    if isBlankLine line then judgeLines l quiet debug finish (number + 1) tally rest
    else
      match judgeLine l debug number line with
      | .error b => .silent (.breakdown b)
      | .ok (verdict, shown) =>
        let after := judgeLines l quiet debug finish (number + 1) (tally.add verdict) rest
        let after := if quiet then after else after.afterOutput (verdictLine verdict line)
        after.afterErrors shown

/-- How judging ends when the lines are used up: with the summary, or in the fault that ended the
stream. -/
def finishJudging (fault : Option Text.Utf8.Fault) (tally : Tally) : Report :=
  match fault with
  | none => (Report.silent (.code tally.code)).afterError tally.line
  | some f => .silent (.breakdown (.undecodable f))

/-- Judges the lines of a stream of bytes. Universal newlines are meant, for the standard input as
for a file: a carriage return ends a line, alone or before a line feed. A standard input that ends
its lines at line feeds only is not modelled. -/
def recognizeStream [Regex.Engine] (quiet debug : Bool) (bytes : List UInt8) (l : Language) :
    Report :=
  let (lines, fault) := Text.Stream.lines bytes
  judgeLines l quiet debug (finishJudging fault) 1 ⟨0, 0⟩ lines

/-- Judges the lines of a file or of the standard input. -/
def recognizeLines [Regex.Engine] (files : Files) (stdin : List UInt8) (input : Option String)
    (quiet debug : Bool) (l : Language) : Report :=
  match input with
  | none => recognizeStream quiet debug stdin l
  | some path =>
    match readFile files path with
    | .ok bytes => recognizeStream quiet debug bytes l
    | .error f => f.report

/-! ## Whole runs -/

/-- The paths that a command may read. -/
def Command.paths : Command → List String
  | .check path _ => [normalizePath path]
  | .lex path (.text _) => [normalizePath path]
  | .lex path (.file input) => [normalizePath path, input]
  | .recognize path input _ _ => normalizePath path :: input.toList

/-- Whether a command may read the standard input. -/
def Command.readsInput : Command → Bool
  | .recognize _ none _ _ => true
  | _ => false

section

variable [Regex.Engine] [GrammarFile.Literal.Decoder]

/-- Carries out a command. -/
def Command.run (files : Files) (stdin : List UInt8) : Command → Report
  | .check path debug => withLanguage files path debug (summarize debug)
  | .lex path source => withLanguage files path false (listSource files source)
  | .recognize path input quiet debug =>
    withLanguage files path debug (recognizeLines files stdin input quiet debug)

/-- Carries out a command line. -/
def run (files : Files) (stdin : List UInt8) (arguments : List String) : Report :=
  match Command.ofArguments arguments with
  | .error e => .silent (.exit e)
  | .ok command => command.run files stdin

end

end Earley.CommandLine
