/-
Earley.CommandLine.Report — what a run of the program leaves behind.

A run prints to two channels and ends: with an exit code, at once because of its arguments, or in a
breakdown, which is a fault that no message of the program covers. What was printed before a
breakdown stays printed.
-/
import Earley.CommandLine.Arguments
import Earley.GrammarFile.Literal
import Earley.Regex.Basic
import Earley.Text.Stream

namespace Earley.CommandLine

/-- A fault that ends the program without an exit code of its own. -/
inductive Breakdown where
  /-- Bytes that should be a text are none. -/
  | undecodable (f : Text.Utf8.Fault)
  /-- A path with a null character in it. -/
  | nullInPath
  /-- A grammar file with a null character in a literal. -/
  | nullInLiteral
  /-- A terminal that cannot be matched. -/
  | unmatchable (reason : Regex.Invalid)
  /-- A chart that lacks a position or a rule. -/
  | brokenChart
  deriving DecidableEq, Repr

/-- The words for a breakdown. -/
def Breakdown.message : Breakdown → String
  | .undecodable f => f.message
  | .nullInPath => "embedded null byte"
  | .nullInLiteral => GrammarFile.Literal.Fault.message .nullCharacter
  | .unmatchable reason => reason.message
  | .brokenChart => "list index out of range"

/-- How a run ends. -/
inductive Ending where
  | code (n : Nat)
  | exit (e : Exit)
  | breakdown (b : Breakdown)
  deriving DecidableEq, Repr

/-- What a run prints, and how it ends. -/
structure Report where
  output : String
  errors : String
  ending : Ending
  deriving DecidableEq, Repr

namespace Report

/-- A run that prints nothing. -/
def silent (ending : Ending) : Report := ⟨"", "", ending⟩

/-- Puts a line on the error channel before all else. -/
def afterError (line : String) (r : Report) : Report :=
  { r with errors := line ++ "\n" ++ r.errors }

/-- Puts several lines on the error channel before all else. -/
def afterErrors (lines : List String) (r : Report) : Report := lines.foldr afterError r

/-- Puts a line on the output channel before all else. -/
def afterOutput (line : String) (r : Report) : Report :=
  { r with output := line ++ "\n" ++ r.output }

/-- Puts several lines on the output channel before all else. -/
def afterOutputs (lines : List String) (r : Report) : Report := lines.foldr afterOutput r

end Report

end Earley.CommandLine
