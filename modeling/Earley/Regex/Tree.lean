/-
Earley.Regex.Tree — what the notation of patterns means.

The tree of a pattern is over a type `ρ` of group references: the notation refers to groups by
number or name, and a finished pattern by number only.

- `CharSet.contains` says which characters a class accepts under given flags.
- `Node.isEmpty` recognises the parts that never consume anything.
-/
import Earley.Regex.Basic
import Earley.Text.Blank
import Earley.Text.Case
import Earley.Text.Category

namespace Earley.Regex

/-! ## Character classes -/

/-- The properties of characters that a pattern can name. -/
inductive Property where
  | letter | uppercase | lowercase | number | punctuation | digit | word | blank | horizontalBlank
  deriving DecidableEq, Repr

/-- Whether a character has a property. -/
def Property.holds (p : Property) (c : Char) : Bool :=
  match p with
  | .letter => Text.isLetter c
  | .uppercase => Text.isUppercaseLetter c
  | .lowercase => Text.isLowercaseLetter c
  | .number => Text.isNumber c
  | .punctuation => Text.isPunctuation c
  | .digit => Text.isDecimalDigit c
  | .word => Text.isWordPart c
  | .blank => Text.isBlank c
  | .horizontalBlank => Text.isHorizontalBlank c

/-- Whether a character has a property under the flags: with `A` no character outside ASCII has
any. -/
def Property.holdsUnder (flags : Flags) (p : Property) (c : Char) : Bool :=
  if flags.ascii && decide (0x80 ≤ c.toNat) then false else p.holds c

/-- The property that stands in for `p` when case is ignored and `p` is the whole class: being a
capital or a small letter becomes having a case. -/
def Property.holdsInAnyCase (flags : Flags) (p : Property) (c : Char) : Bool :=
  match p with
  | .uppercase | .lowercase =>
    if flags.ascii && decide (0x80 ≤ c.toNat) then false else Text.isCasedLetter c
  | _ => p.holdsUnder flags c

/-- A member of a class: the code points of a range, or a property or its opposite. -/
inductive Member where
  | range (first last : Nat)
  | property (p : Property) (negated : Bool)
  deriving DecidableEq, Repr

/-- A member for a single code point. -/
def Member.single (n : Nat) : Member := .range n n

/-- Whether a character, taken as it is, belongs to a member. -/
def Member.contains (flags : Flags) (m : Member) (c : Char) : Bool :=
  match m with
  | .range first last => decide (first ≤ c.toNat) && decide (c.toNat ≤ last)
  | .property p negated => p.holdsUnder flags c != negated

/-- The characters that count as `c` under the flags. -/
def Flags.variants (flags : Flags) (c : Char) : List Char :=
  if flags.ignoreCase then
    if flags.ascii then Text.asciiCaseVariants c else Text.caseVariants c
  else [c]

/-- A class of characters: those in some member or, if negated, those in none. -/
structure CharSet where
  negated : Bool
  members : List Member
  deriving DecidableEq, Repr

namespace CharSet

/-- The class of one code point. -/
def single (n : Nat) : CharSet := ⟨false, [.single n]⟩

/-- Every character. -/
def all : CharSet := ⟨true, []⟩

/-- Every character but the line feed. -/
def withinLine : CharSet := ⟨true, [.single 0x0A]⟩

/-- Whether the class accepts a character. Ignoring case, a character belongs to a member when any
of its variants does. -/
def contains (flags : Flags) (s : CharSet) (c : Char) : Bool :=
  match s.members with
  | [.property p negated] =>
    let holds := if flags.ignoreCase then p.holdsInAnyCase flags c else p.holdsUnder flags c
    (holds != negated) != s.negated
  | members => (members.any fun m => (flags.variants c).any (m.contains flags)) != s.negated

end CharSet

/-! ## Trees -/

/-- A condition on a place in the text. -/
inductive Anchor where
  | textStart | lineStart | textEnd | lineEnd
  /-- The end of the text, or just before a line feed that ends it. -/
  | finalLineEnd
  | wordBoundary | noWordBoundary | wordStart | wordEnd
  deriving DecidableEq, Repr

/-- In which order a repetition tries its counts. -/
inductive Preference where
  /-- The most repetitions first. -/
  | greedy
  /-- The fewest repetitions first. -/
  | lazy
  /-- The most repetitions, and then no others. -/
  | possessive
  deriving DecidableEq, Repr

/-- The tree of a pattern, with references to groups of type `ρ`. -/
inductive Node (ρ : Type) where
  | empty
  | chars (s : CharSet)
  | anchor (a : Anchor)
  | seq (first second : Node ρ)
  /-- Tries `first`, and `second` if that comes to nothing. -/
  | alt (first second : Node ρ)
  | repeated (body : Node ρ) (least : Nat) (most : Option Nat) (preference : Preference)
  | group (index : Nat) (body : Node ρ)
  | backreference (target : ρ)
  /-- Matches `body` ahead of the place or behind it, and consumes nothing. -/
  | look (behind negated : Bool) (body : Node ρ)
  /-- The first match of `body`, and no other. -/
  | atomic (body : Node ρ)
  deriving DecidableEq, Repr

namespace Node

variable {ρ σ : Type}

/-- The nodes of a list, one after the other. -/
def ofSequence : List (Node ρ) → Node ρ
  | [] => .empty
  | [n] => n
  | n :: ns => .seq n (ofSequence ns)

/-- A choice between a node and further ones. -/
def ofBranches : Node ρ → List (Node ρ) → Node ρ
  | n, [] => n
  | n, m :: ms => .alt n (ofBranches m ms)

/-- Whether nothing in the node can consume a character or fail on one: a repetition of such a
node is the node itself. -/
def isEmpty : Node ρ → Bool
  | .empty => true
  | .chars _ | .anchor _ | .backreference _ => false
  | .seq a b | .alt a b => a.isEmpty && b.isEmpty
  | .repeated a _ _ _ | .group _ a | .look _ _ a | .atomic a => a.isEmpty

/-- Resolves the references from left to right, up to the first one that fails. -/
def resolve {ε : Type} (f : ρ → Except ε σ) : Node ρ → Except ε (Node σ)
  | .empty => .ok .empty
  | .chars s => .ok (.chars s)
  | .anchor a => .ok (.anchor a)
  | .seq a b => do return .seq (← a.resolve f) (← b.resolve f)
  | .alt a b => do return .alt (← a.resolve f) (← b.resolve f)
  | .repeated a least most p => do return .repeated (← a.resolve f) least most p
  | .group n a => do return .group n (← a.resolve f)
  | .backreference r => do return .backreference (← f r)
  | .look behind negated a => do return .look behind negated (← a.resolve f)
  | .atomic a => do return .atomic (← a.resolve f)

end Node

end Earley.Regex
