/-
Earley.Regex.Fault — what can be wrong with a pattern, and where.
-/
import Earley.Text.Location

namespace Earley.Regex

/-- What is wrong with a pattern. -/
inductive Cause where
  /-- A quantifier with nothing before it. -/
  | nothingToRepeat
  /-- A quantifier right after another one. -/
  | multipleRepeat
  /-- `{m,n}` with `m` greater than `n`. -/
  | countsReversed
  | countTooBig
  /-- A character that had to follow does not. -/
  | missing (c : Char)
  | unbalancedParenthesis
  | unterminatedSet
  | badRange
  | badEscape (c : Char)
  | escapeAtEnd
  /-- A numeric escape, as far as it goes. -/
  | incompleteEscape (written : List Char)
  /-- A numeric escape beyond the last code point. -/
  | escapeTooBig (written : List Char)
  | unknownProperty
  | unknownPropertyValue
  /-- A character that is asked for by name. -/
  | unknownCharacter
  | unknownExtension
  | unknownVerb
  | missingGroupName
  | badGroupName
  /-- A reference to a group from within that group. -/
  | openGroup
  | unknownGroup
  | invalidGroup
  deriving DecidableEq, Repr

/-- A cause, and the offset in the pattern that shows it. -/
structure Fault where
  cause : Cause
  position : Nat
  deriving DecidableEq, Repr

/-- The words for a cause. -/
def Cause.message : Cause → String
  | .nothingToRepeat => "nothing to repeat"
  | .multipleRepeat => "multiple repeat"
  | .countsReversed => "min repeat greater than max repeat"
  | .countTooBig => "repeat count too big"
  | .missing c => "missing " ++ String.singleton c
  | .unbalancedParenthesis => "unbalanced parenthesis"
  | .unterminatedSet => "unterminated character set"
  | .badRange => "bad character range"
  | .badEscape c => "bad escape \\" ++ String.singleton c
  | .escapeAtEnd => "bad escape (end of pattern)"
  | .incompleteEscape written => "incomplete escape \\" ++ String.ofList written
  | .escapeTooBig written => "bad hex escape \\" ++ String.ofList written
  | .unknownProperty => "unknown property"
  | .unknownPropertyValue => "unknown property value"
  | .unknownCharacter => "undefined character name"
  | .unknownExtension => "unknown extension"
  | .unknownVerb => "unknown verb"
  | .missingGroupName => "missing group name"
  | .badGroupName => "bad character in group name"
  | .openGroup => "cannot refer to an open group"
  | .unknownGroup => "unknown group"
  | .invalidGroup => "invalid group reference"

/-- The message for a fault in a pattern. Line and column are told only where the pattern has
several lines. -/
def Fault.message (f : Fault) (pattern : List Char) : String :=
  let place := Text.Location.ofOffset pattern f.position
  f.cause.message ++ " at position " ++ toString f.position ++
    if '\n' ∈ pattern then
      " (line " ++ toString place.line ++ ", column " ++ toString place.column ++ ")"
    else ""

end Earley.Regex
