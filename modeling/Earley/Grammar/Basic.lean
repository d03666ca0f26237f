/-
Earley.Grammar.Basic — context-free grammars as ordered lists of rules.

Rules are named by their place in the list, and the first of them fixes the start symbol. What a
terminal matches is not part of a grammar: the recogniser takes that as an argument.
-/
import Earley.Text.Quoted

namespace Earley

/-- A terminal stands for one token; a nonterminal for whatever the rules of its name derive. -/
inductive Symbol where
  | terminal (pattern : String)
  | nonterminal (name : String)
  deriving DecidableEq, Repr

/-- A rule: its name derives its components in sequence. -/
structure Rule where
  name : String
  components : List Symbol
  deriving DecidableEq, Repr

/-- An ordered list of rules. -/
structure Grammar where
  rules : List Rule
  deriving DecidableEq, Repr

/-! ## Making rules -/

namespace Rule

/-- A component given as a text is a nonterminal if it is one of the given names; a component
given as a symbol stays what it is. -/
def component (nonterminals : List String) : String ⊕ Symbol → Symbol
  | .inl s => if s ∈ nonterminals then .nonterminal s else .terminal s
  | .inr s => s

/-- The rule whose components are given as texts or symbols. -/
def ofComponents (name : String) (components : List (String ⊕ Symbol))
    (nonterminals : List String) : Rule :=
  ⟨name, components.map (component nonterminals)⟩

end Rule

namespace Grammar

/-- The grammar of named lists of texts: a text that is the name of some rule is a nonterminal. -/
def ofPairs (pairs : List (String × List String)) : Grammar :=
  ⟨pairs.map fun (name, words) => .ofComponents name (words.map .inl) (pairs.map (·.1))⟩

/-! ## Looking things up -/

/-- The start symbol: the name of the first rule. -/
def start? (g : Grammar) : Option String := g.rules.head?.map (·.name)

/-- The places of the rules with a name, in order. -/
def rulesNamed (g : Grammar) (name : String) : List Nat :=
  (List.range g.rules.length).filter fun r => (g.rules[r]?.map (·.name)) == some name

/-- The rule at a place; a negative place counts from the end of the list. -/
def rule? (g : Grammar) : Int → Option Rule
  | .ofNat i => g.rules[i]?
  | .negSucc i => g.rules.reverse[i]?

/-- The first rule that equals the given one. -/
def indexOf? (g : Grammar) (r : Rule) : Option Nat := g.rules.findIdx? (· == r)

@[simp] theorem mem_rulesNamed {g : Grammar} {name : String} {r : Nat} :
    r ∈ g.rulesNamed name ↔ ∃ h : r < g.rules.length, g.rules[r].name = name := by
  simp only [rulesNamed, List.mem_filter, List.mem_range]
  constructor
  · rintro ⟨h, he⟩
    exact ⟨h, by simpa [h] using he⟩
  · rintro ⟨h, he⟩
    exact ⟨h, by simpa [h] using he⟩

end Grammar

/-! ## Printing -/

/-- A terminal is shown quoted, a nonterminal by its name. -/
def Symbol.toText : Symbol → String
  | .terminal pattern => Text.quoted pattern
  | .nonterminal name => name

/-- A rule on one line; `ε` stands for an empty right-hand side. -/
def Rule.toText (r : Rule) : String :=
  r.name ++ " -> " ++
    if r.components.isEmpty then "ε" else " ".intercalate (r.components.map Symbol.toText)

end Earley
