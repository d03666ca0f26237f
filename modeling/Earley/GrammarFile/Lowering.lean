/-
Earley.GrammarFile.Lowering — from right-hand sides with groups and suffixes to flat rules.

A group becomes a helper nonterminal with one rule per branch, and a suffix becomes a helper
nonterminal with two rules. Helpers are numbered from left to right over the whole file, those
inside a group before the group itself, and their rules come before the rules that use them.

- `X?` becomes `H : ε | X`, `X*` becomes `H : ε | H X`, and `X+` becomes `H : X | H X`.
- `lowerBranches` gives the right-hand sides of the branches and the rules of the helpers in them.
-/
import Earley.Grammar.Basic
import Earley.GrammarFile.Term

namespace Earley.GrammarFile

/-- The outcome of lowering some part of a right-hand side: what it has become, the number of
helpers so far, and the rules of the helpers that were made for it. -/
structure Lowered (α : Type) where
  value : α
  helpers : Nat
  rules : List Rule
  deriving DecidableEq, Repr

/-- The name of the helper with a number, for a group. -/
def groupName (n : Nat) : String := "__grp" ++ toString n

namespace Suffix

/-- The name of the helper with a number, for a suffix. -/
def helperName (s : Suffix) (n : Nat) : String :=
  match s with
  | .optional => "__opt" ++ toString n
  | .star | .plus => "__rep" ++ toString n

/-- The right-hand sides of the helper of a name that puts a suffix on a symbol. -/
def bodies (s : Suffix) (helper : String) (x : Symbol) : List (List Symbol) :=
  match s with
  | .optional => [[], [x]]
  | .star => [[], [.nonterminal helper, x]]
  | .plus => [[x], [.nonterminal helper, x]]

end Suffix

/-- What a name stands for, given the names of the tokens. -/
def resolve (tokens : List String) (name : String) : Symbol :=
  if name ∈ tokens then .terminal name else .nonterminal name

mutual

/-- Lowers a term to one symbol. -/
def lowerTerm (tokens : List String) (helpers : Nat) : Term → Lowered Symbol
  | .name s => ⟨resolve tokens s, helpers, []⟩
  | .literal text => ⟨.terminal text, helpers, []⟩
  | .group branches =>
    let inner := lowerBranches tokens helpers branches
    let helper := groupName (inner.helpers + 1)
    ⟨.nonterminal helper, inner.helpers + 1, inner.rules ++ inner.value.map (⟨helper, ·⟩)⟩
  | .suffixed suffix t =>
    let inner := lowerTerm tokens helpers t
    let helper := suffix.helperName (inner.helpers + 1)
    ⟨.nonterminal helper, inner.helpers + 1,
      inner.rules ++ (suffix.bodies helper inner.value).map (⟨helper, ·⟩)⟩

/-- Lowers a branch to a right-hand side. -/
def lowerSequence (tokens : List String) (helpers : Nat) : List Term → Lowered (List Symbol)
  | [] => ⟨[], helpers, []⟩
  | t :: ts =>
    let head := lowerTerm tokens helpers t
    let tail := lowerSequence tokens head.helpers ts
    ⟨head.value :: tail.value, tail.helpers, head.rules ++ tail.rules⟩

/-- Lowers branches to right-hand sides. -/
def lowerBranches (tokens : List String) (helpers : Nat) :
    List (List Term) → Lowered (List (List Symbol))
  | [] => ⟨[], helpers, []⟩
  | b :: bs =>
    let head := lowerSequence tokens helpers b
    let tail := lowerBranches tokens head.helpers bs
    ⟨head.value :: tail.value, tail.helpers, head.rules ++ tail.rules⟩

end

/-- The flat rules of named right-hand sides, in order, each after the rules of its helpers. -/
def lowerRules (tokens : List String) (helpers : Nat) :
    List (String × List (List Term)) → List Rule
  | [] => []
  | (name, branches) :: rest =>
    let body := lowerBranches tokens helpers branches
    body.rules ++ body.value.map (⟨name, ·⟩) ++ lowerRules tokens body.helpers rest

end Earley.GrammarFile
