/-
Earley.Grammar.Nullable — the names that derive the empty sequence.

`Grammar.nullable` goes over the rules again and again, and adds the name of a rule as soon as all
its components are known to be nullable. Every pass but the last adds a name, so there are at most
as many passes as rules.
-/
import Earley.Grammar.Basic

namespace Earley

/-- Whether a symbol is known to derive the empty sequence. A terminal never does. -/
def Symbol.isNullable (known : List String) : Symbol → Bool
  | .terminal _ => false
  | .nonterminal name => decide (name ∈ known)

namespace Grammar

/-- Adds the name of a rule if all its components are known to be nullable. -/
def addNullable (known : List String) (r : Rule) : List String :=
  if r.name ∈ known then known
  else if r.components.all (·.isNullable known) then known ++ [r.name]
  else known

/-- One pass over the rules; what it finds counts for the rules after it. -/
def nullablePass (g : Grammar) (known : List String) : List String :=
  g.rules.foldl addNullable known

/-- Repeats the pass until it finds nothing, at most `fuel` times. -/
def nullableFrom (g : Grammar) : (fuel : Nat) → (known : List String) → List String
  | 0, known => known
  | fuel + 1, known =>
    let known' := g.nullablePass known
    if known'.length = known.length then known else g.nullableFrom fuel known'

/-- The names that derive the empty sequence, each once. -/
def nullable (g : Grammar) : List String := g.nullableFrom g.rules.length []

end Grammar

end Earley
