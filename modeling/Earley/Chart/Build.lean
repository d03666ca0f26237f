/-
Earley.Chart.Build — filling a chart from left to right.

A position is filled by processing its items in the order in which they were added, those that are
added meanwhile included, until none is left; then the next position has its turn.

- `Chart.build` is the chart of a sequence of tokens.
- `recognize` is the verdict of that chart.
-/
import Earley.Chart.Step
import Earley.Grammar.Nullable

namespace Earley

variable {τ ε : Type}

namespace Chart

/-- The number of places in the rules of a grammar where a dot can stand. -/
def dotPlaces (g : Grammar) : Nat := g.rules.foldr (fun r n => r.components.length + 1 + n) 0

/-- The most items that position `i` can hold: a dot in a rule, and a start that is not after
`i`. -/
def capacity (g : Grammar) (i : Nat) : Nat := (i + 1) * dotPlaces g

/-- Processes the items of position `i` from the `j`-th on, at most `fuel` of them. -/
def saturateFrom (test : TokenTest τ ε) (g : Grammar) (nullable : List String) (i : Nat) :
    (fuel j : Nat) → Chart τ → Except (Failure τ ε) (Chart τ)
  | 0, _, c => .ok c
  | fuel + 1, j, c =>
    match (c.at? i).bind (·.items.get? j) with
    | none => .ok c
    | some x => do saturateFrom test g nullable i fuel (j + 1) (← c.process test g nullable i x)

/-- Processes every item of position `i`. -/
def saturate (test : TokenTest τ ε) (g : Grammar) (nullable : List String) (c : Chart τ) (i : Nat) :
    Except (Failure τ ε) (Chart τ) :=
  saturateFrom test g nullable i (capacity g i) 0 c

/-- Fills the positions from `i` on; the position after `i` is made before `i` is filled.
`upcoming` are the tokens of the positions after `i`. -/
def sweep (test : TokenTest τ ε) (g : Grammar) (nullable : List String) :
    (upcoming : List (Option τ)) → (i : Nat) → Chart τ → Except (Failure τ ε) (Chart τ)
  | [], i, c => c.saturate test g nullable i
  | t :: upcoming, i, c => do
    sweep test g nullable upcoming (i + 1) (← (c.push t).saturate test g nullable i)

/-- The items that a chart begins with: the rules of the start symbol, at position 0. -/
def seeds (g : Grammar) : List Item :=
  match g.start? with
  | some name => predictions g 0 name
  | none => []

/-- The chart of a sequence of tokens. It is empty if there are no tokens or no rules. -/
def build (test : TokenTest τ ε) (g : Grammar) (tokens : List τ) :
    Except (Failure τ ε) (Chart τ) :=
  match tokens, g.rules with
  | t :: ts, _ :: _ =>
    sweep test g g.nullable (ts.map some ++ [none]) 0
      ⟨#[⟨some t, StateSet.ofList (seeds g)⟩]⟩
  | _, _ => .ok empty

end Chart

/-- Whether a sequence of tokens derives from the start symbol of a grammar. The sequence without
tokens never does. -/
def recognize (test : TokenTest τ ε) (g : Grammar) (tokens : List τ) :
    Except (StepFault ε) Bool :=
  match Chart.build test g tokens with
  | .error failure => .error failure.fault
  | .ok c =>
    match c.accepted? g with
    | some verdict => .ok verdict
    | none => .error .noRule

end Earley
