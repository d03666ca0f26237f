/-
Earley.Chart.Item — items, and ordered sets of them.

An item is a rule of the grammar, the position where its derivation began, and the number of its
components that are matched already. A set of items keeps them twice, in the order of insertion and
as a set in which they are looked up. That the two agree, and that no item is there twice, belongs
to its type.

- `StateSet.contains_iff` says that an item that can be looked up is one that was inserted.
- `StateSet.mem_insert` and `StateSet.toList_insert` say what insertion does.
-/
import Earley.Grammar.Basic
import Std.Data.ExtTreeSet.Lemmas

namespace Earley

/-! ## Items -/

/-- A rule, given by its place in the grammar, that has been matched in part. -/
structure Item where
  rule : Nat
  /-- The position where the derivation of the rule began. -/
  start : Nat
  /-- The number of components that are matched. -/
  cursor : Nat
  deriving DecidableEq, Repr

namespace Item

/-- The item with one more component matched. -/
def advanced (x : Item) : Item := { x with cursor := x.cursor + 1 }

/-- The next component to match, under the rule of the item. -/
def next? (x : Item) (r : Rule) : Option Symbol := r.components[x.cursor]?

/-- Whether every component is matched, under the rule of the item. -/
def isComplete (x : Item) (r : Rule) : Bool := x.cursor == r.components.length

/-- The components that are still to match, under the rules of a grammar. -/
def remaining (g : Grammar) (x : Item) : Nat :=
  match g.rules[x.rule]? with
  | some r => r.components.length - x.cursor
  | none => 0

/-- The item on one line, a dot marking what is matched. -/
def toText (x : Item) (r : Rule) : String :=
  let shown := r.components.map Symbol.toText
  r.name ++ " -> " ++
    " ".intercalate (shown.take x.cursor ++ ["•"] ++ shown.drop x.cursor) ++
    "  (" ++ toString x.start ++ ")"

/-- Advancing leaves less to match. -/
theorem remaining_advanced {g : Grammar} {x : Item} {r : Rule} (hr : g.rules[x.rule]? = some r)
    {s : Symbol} (hs : x.next? r = some s) :
    x.advanced.remaining g < x.remaining g := by
  have : x.cursor < r.components.length := (List.getElem?_eq_some_iff.1 hs).1
  simp only [remaining, advanced, hr]
  omega

end Item

/-! ## Sets of items -/

namespace Item

/-- Items are ordered by their rules, those of one rule by their starts, and then by their
cursors. -/
instance : Ord Item :=
  ⟨compareLex (compareOn rule) (compareLex (compareOn start) (compareOn cursor))⟩

instance : Std.TransOrd Item :=
  inferInstanceAs (Std.TransCmp
    (compareLex (compareOn rule) (compareLex (compareOn start) (compareOn cursor))))

instance : Std.LawfulEqOrd Item where
  eq_of_compare {x y} h := by
    obtain ⟨hrule, hothers⟩ := compareLex_eq_eq.1 h
    obtain ⟨hstart, hcursor⟩ := compareLex_eq_eq.1 hothers
    obtain ⟨rule, start, cursor⟩ := x
    obtain ⟨rule', start', cursor'⟩ := y
    cases Nat.compare_eq_eq.1 hrule
    cases Nat.compare_eq_eq.1 hstart
    cases Nat.compare_eq_eq.1 hcursor
    rfl

end Item

/-- Distinct items in the order of insertion, and the same items again as a set, in which they are
looked up. -/
structure StateSet where
  items : Array Item
  seen : Std.ExtTreeSet Item
  mem_seen_iff (x : Item) : x ∈ seen ↔ x ∈ items
  nodup : items.toList.Nodup

namespace StateSet

/-- The items, in the order of insertion. -/
def toList (s : StateSet) : List Item := s.items.toList

/-- The number of items. -/
def size (s : StateSet) : Nat := s.items.size

/-- The item inserted after `i` others. -/
def get? (s : StateSet) (i : Nat) : Option Item := s.items[i]?

/-- Whether the set has an item. -/
def contains (s : StateSet) (x : Item) : Bool := s.seen.contains x

/-- The set without items. -/
def empty : StateSet := ⟨#[], ∅, by simp, by simp⟩

/-- The items determine the set in which they are looked up. -/
@[ext] theorem ext {s t : StateSet} (h : s.toList = t.toList) : s = t := by
  obtain ⟨items, seen, hseen, _⟩ := s
  obtain ⟨items', seen', hseen', _⟩ := t
  obtain rfl : items = items' := Array.toList_inj.1 h
  obtain rfl : seen = seen' :=
    Std.ExtTreeSet.ext_mem fun x => (hseen x).trans (hseen' x).symm
  rfl

theorem contains_iff {s : StateSet} {x : Item} : s.contains x = true ↔ x ∈ s.toList := by
  rw [contains, Std.ExtTreeSet.contains_iff_mem, s.mem_seen_iff, toList, Array.mem_toList_iff]

/-- Adds an item at the end, unless the set has it. -/
def insert (s : StateSet) (x : Item) : StateSet :=
  if h : s.contains x then s
  else
    { items := s.items.push x
      seen := s.seen.insert x
      mem_seen_iff := by
        intro y
        rw [Std.ExtTreeSet.mem_insert, Std.LawfulEqCmp.compare_eq_iff_eq, s.mem_seen_iff,
          Array.mem_push, or_comm, eq_comm]
      nodup := by
        rw [Array.toList_push, List.nodup_append]
        refine ⟨s.nodup, by simp, ?_⟩
        rintro a ha b hb rfl
        exact h (contains_iff.2 (List.mem_singleton.1 hb ▸ ha)) }

/-- The set of the items of a list, in the order of their first occurrence. -/
def ofList (xs : List Item) : StateSet := xs.foldl insert empty

theorem toList_insert (s : StateSet) (x : Item) :
    (s.insert x).toList = if x ∈ s.toList then s.toList else s.toList ++ [x] := by
  unfold insert
  by_cases h : s.contains x = true
  · rw [dif_pos h, if_pos (contains_iff.1 h)]
  · rw [dif_neg h, if_neg (mt contains_iff.2 h)]
    exact Array.toList_push

@[simp] theorem mem_insert {s : StateSet} {x y : Item} :
    y ∈ (s.insert x).toList ↔ y ∈ s.toList ∨ y = x := by
  rw [toList_insert]
  split
  · constructor
    · exact Or.inl
    · rintro (h | rfl) <;> assumption
  · simp

theorem nodup_toList (s : StateSet) : s.toList.Nodup := s.nodup

/-- A set as a literal. -/
def toText (s : StateSet) : String :=
  let shown (x : Item) : String :=
    "Item(rule=" ++ toString x.rule ++ ", start=" ++ toString x.start ++ ", cursor=" ++
      toString x.cursor ++ ")"
  "StateSet([" ++ ", ".intercalate (s.toList.map shown) ++ "])"

instance : Repr StateSet := ⟨fun s _ => s.toText⟩

end StateSet

end Earley
