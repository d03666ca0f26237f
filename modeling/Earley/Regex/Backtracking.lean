/-
Earley.Regex.Backtracking — an engine that searches by backtracking.

A pattern is read into its tree, and the ways to match the tree are tried in order of preference. A
text that has no tree is no pattern.
-/
import Earley.Regex.Bounds
import Earley.Regex.Parser

namespace Earley.Regex

/-- The end of the match that begins at an offset, for a pattern that has been read. -/
def searchEnd? (r : Regex) (text : Array Char) (pos : Nat) : Option Nat :=
  match parse r.flags r.source.toList with
  | .ok tree => tree.matchEnd? r.flags text pos
  | .error _ => none

/-- The engine that searches by backtracking. -/
instance backtracking : Engine where
  invalid? r :=
    match parse r.flags r.source.toList with
    | .ok _ => none
    | .error fault => some ⟨fault.message r.source.toList⟩
  matchEnd? := searchEnd?
  matchesWhole r text :=
    match parse r.flags r.source.toList with
    | .ok tree => tree.matchesWhole r.flags text
    | .error _ => false
  matchEnd?_bounds := by
    intro r text pos e hp h
    unfold searchEnd? at h
    split at h
    · exact Node.matchEnd?_bounds hp h
    · cases h

end Earley.Regex
