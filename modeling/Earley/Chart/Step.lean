/-
Earley.Chart.Step — the three steps that fill a chart.

Scanning carries an item over a token to the next position; prediction starts the rules of a
nonterminal; completion advances the items that waited for a finished rule. Each step takes one
item of one position, and adds items at the end of one position.

- `Chart.scan`, `Chart.predict` and `Chart.complete` are the steps, on any chart and any item.
- `Chart.process` is the step that fits the next symbol of an item.
- A step that fails tells the chart it leaves behind.
-/
import Earley.Chart.Basic

namespace Earley

variable {τ ε : Type}

/-- Whether a terminal, given by its pattern, matches a token. The question itself may fail. -/
abbrev TokenTest (τ ε : Type) := (pattern : String) → (token : τ) → Except ε Bool

/-- What can go wrong in a step. -/
inductive StepFault (ε : Type) where
  /-- The chart has no such position. -/
  | noPosition
  /-- The grammar has no such rule. -/
  | noRule
  /-- The token cannot be tested. -/
  | untestable (e : ε)
  deriving DecidableEq, Repr

/-- A step that failed, and the chart it leaves behind. -/
structure Failure (τ ε : Type) where
  fault : StepFault ε
  chart : Chart τ
  deriving Repr

namespace Chart

/-! ## Scanning -/

/-- If the token at position `i` matches the terminal, the item advances to position `i + 1`. -/
def scan (test : TokenTest τ ε) (c : Chart τ) (i : Nat) (x : Item) (pattern : String) :
    Except (Failure τ ε) (Chart τ) :=
  match c.at? i with
  | none => .error ⟨.noPosition, c⟩
  | some e =>
    match e.token with
    | none => .ok c
    | some t =>
      match test pattern t with
      | .error f => .error ⟨.untestable f, c⟩
      | .ok false => .ok c
      | .ok true =>
        if i + 1 < c.length then .ok (c.insert (i + 1) x.advanced) else .error ⟨.noPosition, c⟩

/-! ## Prediction -/

/-- The items that begin the rules of a name at position `i`. -/
def predictions (g : Grammar) (i : Nat) (name : String) : List Item :=
  (g.rulesNamed name).map fun r => ⟨r, i, 0⟩

/-- Begins the rules of a nonterminal at position `i`. If the nonterminal is among the nullable
names, the item advances over it as well: its rules may have been completed here before the item
came to wait for them. -/
def predict (g : Grammar) (nullable : List String) (c : Chart τ) (i : Nat) (x : Item)
    (name : String) : Except (Failure τ ε) (Chart τ) :=
  match c.at? i with
  | none => .error ⟨.noPosition, c⟩
  | some _ =>
    let skipped := if name ∈ nullable then [x.advanced] else []
    .ok (c.modify i fun s => (predictions g i name ++ skipped).foldl StateSet.insert s)

/-! ## Completion -/

/-- Whether an item waits for a nonterminal; no answer if its rule is not in the grammar. -/
def waitsFor? (g : Grammar) (name : String) (x : Item) : Option Bool :=
  (g.rules[x.rule]?).map fun r => x.next? r == some (.nonterminal name)

/-- A bound for the steps that go through some waiting items and what comes of them. -/
def stepsLeft (g : Grammar) (waiting : List Item) : Nat :=
  waiting.foldr (fun x n => x.remaining g + 1 + n) 0

theorem stepsLeft_append (g : Grammar) (xs ys : List Item) :
    stepsLeft g (xs ++ ys) = stepsLeft g xs + stepsLeft g ys := by
  induction xs with
  | nil => simp [stepsLeft]
  | cons x xs ih =>
    simp only [stepsLeft, List.cons_append, List.foldr_cons] at ih ⊢
    omega

/-- Advances those of the waiting items that wait for `name`, in order. If the items are those of
the set they are added to, each new item has its turn after the others. Stops at an item whose
rule is not in the grammar, with what has been added so far. -/
def advanceWaiting (g : Grammar) (name : String) (live : Bool) :
    (waiting : List Item) → (target : StateSet) → Except StateSet StateSet
  | [], target => .ok target
  | x :: waiting, target =>
    match _h : waitsFor? g name x with
    | none => .error target
    | some false => advanceWaiting g name live waiting target
    | some true =>
      let fresh := if live && !target.contains x.advanced then [x.advanced] else []
      advanceWaiting g name live (waiting ++ fresh) (target.insert x.advanced)
  termination_by waiting => stepsLeft g waiting
  decreasing_by
    · simp only [stepsLeft, List.foldr_cons]
      omega
    · obtain ⟨r, hr, hn⟩ := Option.map_eq_some_iff.1 _h
      have := Item.remaining_advanced hr (beq_iff_eq.1 hn)
      rw [stepsLeft_append]
      split
      · simp only [stepsLeft, List.foldr_cons, List.foldr_nil]
        omega
      · simp only [stepsLeft, List.foldr_cons, List.foldr_nil]
        omega

/-- Advances the items of position `x.start` that wait for the name of the rule of `x`, and adds
them at position `i`. Both positions may be the same one: then items that are made here take part
as well. -/
def complete (g : Grammar) (c : Chart τ) (i : Nat) (x : Item) : Except (Failure τ ε) (Chart τ) :=
  match g.rules[x.rule]?, c.at? x.start, c.at? i with
  | none, _, _ => .error ⟨.noRule, c⟩
  | some r, some origin, some here =>
    match advanceWaiting g r.name (x.start == i) origin.items.toList here.items with
    | .ok s => .ok (c.modify i fun _ => s)
    | .error s => .error ⟨.noRule, c.modify i fun _ => s⟩
  | some _, _, _ => .error ⟨.noPosition, c⟩

/-! ## The fitting step -/

/-- Does for an item what its next symbol asks for. -/
def process (test : TokenTest τ ε) (g : Grammar) (nullable : List String) (c : Chart τ) (i : Nat)
    (x : Item) : Except (Failure τ ε) (Chart τ) :=
  match g.rules[x.rule]? with
  | none => .error ⟨.noRule, c⟩
  | some r =>
    match x.next? r with
    | some (.terminal pattern) => c.scan test i x pattern
    | some (.nonterminal name) => c.predict g nullable i x name
    | none => c.complete g i x

end Chart

end Earley
