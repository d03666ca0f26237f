/-
Earley.Chart.Basic — charts.

A chart has a position before each token and one after the last. A position holds the token that
has to be scanned to leave it, or no token at the end of the input, and a set of items.
-/
import Earley.Chart.Item

namespace Earley

variable {τ : Type}

/-- A position of a chart. -/
structure Entry (τ : Type) where
  /-- The token to scan from here; none at the end of the input. -/
  token : Option τ
  items : StateSet
  deriving Repr

/-- The positions of a chart, from left to right. -/
structure Chart (τ : Type) where
  entries : Array (Entry τ)
  deriving Repr

namespace Chart

/-- The chart without positions. -/
def empty : Chart τ := ⟨#[]⟩

/-- The number of positions. -/
def length (c : Chart τ) : Nat := c.entries.size

/-- The position at an index. -/
def at? (c : Chart τ) (i : Nat) : Option (Entry τ) := c.entries[i]?

/-- The items at an index; none where the chart has no position. -/
def itemsAt (c : Chart τ) (i : Nat) : List Item :=
  match c.at? i with
  | some e => e.items.toList
  | none => []

/-- Appends a position without items. -/
def push (c : Chart τ) (token : Option τ) : Chart τ := ⟨c.entries.push ⟨token, .empty⟩⟩

/-- Replaces the items at an index. -/
def modify (c : Chart τ) (i : Nat) (f : StateSet → StateSet) : Chart τ :=
  ⟨c.entries.modify i fun e => { e with items := f e.items }⟩

/-- Adds an item at an index, unless it is there. -/
def insert (c : Chart τ) (i : Nat) (x : Item) : Chart τ := c.modify i (·.insert x)

@[simp] theorem length_push (c : Chart τ) (token : Option τ) :
    (c.push token).length = c.length + 1 := by
  simp [push, length]

@[simp] theorem length_modify (c : Chart τ) (i : Nat) (f : StateSet → StateSet) :
    (c.modify i f).length = c.length := by
  simp [modify, length]

theorem at?_modify (c : Chart τ) (i j : Nat) (f : StateSet → StateSet) :
    (c.modify i f).at? j =
      (c.at? j).map fun e => if i = j then { e with items := f e.items } else e := by
  simp only [modify, at?, Array.getElem?_modify]
  split <;> simp

/-! ## The verdict -/

/-- Whether an item derives the whole input from the start symbol. -/
def accepting (g : Grammar) (x : Item) (r : Rule) : Bool :=
  g.start? == some r.name && x.isComplete r

/-- Whether some item accepts. Only items that began at position 0 are looked at, in order, and the
answer is missing if one of them has a rule that is not in the grammar. -/
def someAccepting? (g : Grammar) : List Item → Option Bool
  | [] => some false
  | x :: xs =>
    if x.start = 0 then
      match g.rules[x.rule]? with
      | none => none
      | some r => if accepting g x r then some true else someAccepting? g xs
    else someAccepting? g xs

/-- Whether the last position holds an item that accepts. An empty chart and an empty grammar
accept nothing. -/
def accepted? (g : Grammar) (c : Chart τ) : Option Bool :=
  match c.entries.back?, g.rules with
  | some e, _ :: _ => someAccepting? g e.items.toList
  | _, _ => some false

/-! ## Printing -/

/-- The lines for the items of a position, if all their rules are in the grammar. -/
def itemLines? (g : Grammar) (items : List Item) : Option (List String) :=
  items.mapM fun x => (g.rules[x.rule]?).map fun r => "    " ++ x.toText r

/-- The lines for a position: the token to scan and the number of items, then the items. -/
def entryLines? (showToken : τ → String) (g : Grammar) (e : Entry τ) (i : Nat) :
    Option (List String) := do
  let token := match e.token with
    | some t => showToken t
    | none => "<end>"
  let head := "[" ++ toString i ++ "] next=" ++ token ++ " items=" ++ toString e.items.size
  return head :: (← itemLines? g e.items.toList)

/-- The whole chart, position by position. -/
def toText? (showToken : τ → String) (g : Grammar) (c : Chart τ) : Option String := do
  let blocks ← c.entries.toList.zipIdx.mapM fun (e, i) => entryLines? showToken g e i
  return "\n".intercalate blocks.flatten

end Chart

end Earley
