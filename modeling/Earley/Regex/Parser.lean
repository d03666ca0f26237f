/-
Earley.Regex.Parser — from the notation of a pattern to its tree.

The elements of the notation drive a machine that holds the open groups, the innermost first. A
quantifier applies to the element before it, a bar divides the group it stands in, and a closing
parenthesis turns its group into one element of the group outside. References are looked up when
the whole pattern is known, so that a reference may stand before its group.

- `parse` is the tree that a text means under flags, or what is wrong with the text.
-/
import Earley.Regex.Element

namespace Earley.Regex

/-- An open group: what opened it, its finished branches and the nodes of its last branch, the
latest first, and whether a quantifier may follow. -/
structure Frame where
  opening : Opening
  /-- The number of the group, if it captures. -/
  index : Nat
  branches : List (Node Reference)
  nodes : List (Node Reference)
  repeatable : Bool
  deriving DecidableEq, Repr

namespace Frame

/-- A group that has just been opened. -/
def start (opening : Opening) (index : Nat) : Frame := ⟨opening, index, [], [], false⟩

/-- Adds a node that a quantifier may follow. -/
def push (f : Frame) (n : Node Reference) : Frame :=
  { f with nodes := n :: f.nodes, repeatable := true }

/-- Ends the last branch. -/
def divide (f : Frame) : Frame :=
  { f with
    branches := .ofSequence f.nodes.reverse :: f.branches, nodes := [], repeatable := false }

/-- What stands between the parentheses. -/
def body (f : Frame) : Node Reference :=
  match f.divide.branches.reverse with
  | [] => .empty
  | n :: ns => .ofBranches n ns

/-- The group as a node. -/
def close (f : Frame) : Node Reference :=
  match f.opening with
  | .capture _ => .group f.index f.body
  | .plain => f.body
  | .atomic => .atomic f.body
  | .look behind negated => .look behind negated f.body

/-- Applies a quantifier to the last node. Repeating what cannot consume anything, or exactly once,
changes nothing. -/
def quantify (f : Frame) (pos least : Nat) (most : Option Nat) (preference : Preference) :
    Except Fault Frame :=
  match f.nodes, f.repeatable with
  | [], _ => .error ⟨.nothingToRepeat, pos⟩
  | _ :: _, false => .error ⟨.multipleRepeat, pos⟩
  | n :: ns, true =>
    let n' := if n.isEmpty ∨ (least = 1 ∧ most = some 1) then n
      else .repeated n least most preference
    .ok { f with nodes := n' :: ns, repeatable := false }

end Frame

/-- A pattern that has been read in part. -/
structure Machine where
  /-- The innermost open group; the outermost one is the pattern itself. -/
  frame : Frame
  outer : List Frame
  /-- The number of groups that capture, so far. -/
  groups : Nat
  /-- The groups with a name. -/
  names : List (String × Nat)
  deriving DecidableEq, Repr

namespace Machine

/-- Before the first element. -/
def start : Machine := ⟨.start .plain 0, [], 0, []⟩

/-- Adds a node to the innermost group. -/
def push (m : Machine) (n : Node Reference) : Machine := { m with frame := m.frame.push n }

/-- The number that a reference means at this point. -/
def index? (m : Machine) : GroupName → Option Nat
  | .index n => some n
  | .name s => m.names.lookup s

/-- The open groups that capture. -/
def openGroups (m : Machine) : List Nat :=
  (m.frame :: m.outer).filterMap fun f =>
    match f.opening with
    | .capture _ => some f.index
    | _ => none

/-- Opens a group inside the innermost one. Groups of one name share a number. -/
def openGroup (m : Machine) (o : Opening) : Machine :=
  let outer := m.frame :: m.outer
  match o with
  | .capture (some s) =>
    match m.names.lookup s with
    | some n => { m with frame := .start o n, outer }
    | none =>
      let n := m.groups + 1
      { frame := .start o n, outer, groups := n, names := (s, n) :: m.names }
  | .capture none => { m with frame := .start o (m.groups + 1), outer, groups := m.groups + 1 }
  | _ => { m with frame := .start o 0, outer }

/-- Takes in one element, which begins at `pos`. -/
def step (m : Machine) (pos : Nat) : Element → Except Fault Machine
  | .atom n => .ok (m.push n)
  | .reference r =>
    if (m.index? r.target).any (· ∈ m.openGroups) then .error ⟨.openGroup, r.position⟩
    else .ok (m.push (.backreference r))
  | .quantifier least most preference => do
    return { m with frame := ← m.frame.quantify pos least most preference }
  | .opening o => .ok (m.openGroup o)
  | .bar => .ok { m with frame := m.frame.divide }
  | .closing =>
    match m.outer with
    | [] => .error ⟨.unbalancedParenthesis, pos⟩
    | f :: fs => .ok { m with frame := f.push m.frame.close, outer := fs }
  | .comment => .ok m

/-- Takes in the elements of `cs`, which stands at offset `pos` of the pattern. The result has the
offset where the elements end. -/
def run (flags : Flags) (m : Machine) (pos : Nat) (cs : List Char) : Except Fault (Machine × Nat) :=
  match _h : significant flags.verbose cs with
  | [] => .ok (m, pos)
  | (c, k) :: _ =>
    match Element.read flags (pos + k) c (cs.drop k) with
    | .error f => .error f
    | .ok (e, n) =>
      match m.step pos e with
      | .error f => .error f
      | .ok m => run flags m (pos + k + n) (cs.drop (k + n))
  termination_by cs.length
  decreasing_by
    have hk : 0 < k := pos_of_mem_significant (p := (c, k)) (_h ▸ List.mem_cons_self)
    have hcs : cs.length ≠ 0 := by
      intro h0
      rw [List.eq_nil_of_length_eq_zero h0] at _h
      simp [significant, significantFrom] at _h
    simp only [List.length_drop]
    omega

/-- The group that a reference means, once all groups are known. -/
def resolve (m : Machine) (r : Reference) : Except Fault Nat :=
  match m.index? r.target with
  | none => .error ⟨.unknownGroup, r.position⟩
  | some n => if 1 ≤ n ∧ n ≤ m.groups then .ok n else .error ⟨.invalidGroup, r.position⟩

end Machine

/-- The tree that a text means under flags. -/
def parse (flags : Flags) (pattern : List Char) : Except Fault (Node Nat) := do
  let (m, stop) ← Machine.run flags .start 0 pattern
  if !m.outer.isEmpty then throw ⟨.missing ')', stop⟩
  m.frame.body.resolve m.resolve

end Earley.Regex
