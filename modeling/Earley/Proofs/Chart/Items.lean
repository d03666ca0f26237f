/-
Earley.Proofs.Chart.Items — what the positions of a chart hold, and how that can grow.

Two operations change a chart: a position is appended, or the items of one position are replaced.
Their laws are stated on the view `Chart.itemsAt`, so that proofs about the steps need neither
arrays nor entries.

- `Chart.Extends` is what every step does to a chart: positions and tokens stay, and the items of
  each position are only added to, at the end.
-/
import Earley.Chart.Basic
import Mathlib.Data.List.Perm.Subperm

namespace Earley

variable {τ : Type}

/-! ## Sets of items -/

namespace StateSet

theorem prefix_insert (s : StateSet) (x : Item) : s.toList <+: (s.insert x).toList := by
  rw [toList_insert]
  split
  · exact List.prefix_rfl
  · exact List.prefix_append ..

theorem mem_foldl_insert {xs : List Item} {s : StateSet} {y : Item} :
    y ∈ (xs.foldl insert s).toList ↔ y ∈ s.toList ∨ y ∈ xs := by
  induction xs generalizing s with
  | nil => simp
  | cons x xs ih => rw [List.foldl_cons, ih, mem_insert, List.mem_cons, or_assoc]

theorem prefix_foldl_insert (xs : List Item) (s : StateSet) :
    s.toList <+: (xs.foldl insert s).toList := by
  induction xs generalizing s with
  | nil => exact List.prefix_rfl
  | cons x xs ih => exact (prefix_insert s x).trans (ih _)

@[simp] theorem mem_ofList {xs : List Item} {y : Item} : y ∈ (ofList xs).toList ↔ y ∈ xs := by
  rw [ofList, mem_foldl_insert]
  simp [empty, toList]

end StateSet

namespace Chart

variable {c c' : Chart τ} {i j : Nat} {e : Entry τ} {x : Item}

/-! ## Positions -/

theorem ext_at? (h : ∀ i, c'.at? i = c.at? i) : c' = c := by
  cases c
  cases c'
  exact congrArg Chart.mk (Array.ext_getElem? h)

theorem lt_length_iff : i < c.length ↔ ∃ e, c.at? i = some e := by
  constructor
  · intro h
    exact ⟨c.entries[i], Array.getElem?_eq_getElem h⟩
  · rintro ⟨e, he⟩
    exact (Array.getElem?_eq_some_iff.1 he).1

theorem itemsAt_of_at? (h : c.at? i = some e) : c.itemsAt i = e.items.toList := by
  simp [itemsAt, h]

theorem itemsAt_of_none (h : c.at? i = none) : c.itemsAt i = [] := by
  simp [itemsAt, h]

theorem itemsAt_of_length_le (h : c.length ≤ i) : c.itemsAt i = [] :=
  itemsAt_of_none (Array.getElem?_eq_none h)

theorem itemsAt_congr (h : c'.at? i = c.at? i) : c'.itemsAt i = c.itemsAt i := by
  rw [itemsAt, h, itemsAt]

theorem exists_at?_of_mem (h : x ∈ c.itemsAt i) : ∃ e, c.at? i = some e := by
  cases he : c.at? i with
  | some e => exact ⟨e, rfl⟩
  | none =>
    rw [itemsAt_of_none he] at h
    cases h

theorem nodup_itemsAt (c : Chart τ) (i : Nat) : (c.itemsAt i).Nodup := by
  cases he : c.at? i with
  | some e => exact itemsAt_of_at? he ▸ e.items.nodup
  | none => exact itemsAt_of_none he ▸ List.nodup_nil

/-- The item with a number at a position, as the loop over that position looks it up. -/
theorem bind_get? (c : Chart τ) (i j : Nat) :
    ((c.at? i).bind fun e => e.items.get? j) = (c.itemsAt i)[j]? := by
  cases he : c.at? i with
  | some e => simp [itemsAt_of_at? he, StateSet.get?, StateSet.toList]
  | none => simp [itemsAt_of_none he]

/-! ## Appending a position -/

theorem at?_push (c : Chart τ) (t : Option τ) (i : Nat) :
    (c.push t).at? i = if i = c.length then some ⟨t, .empty⟩ else c.at? i := by
  simp only [push, at?, Array.getElem?_push]
  rfl

@[simp] theorem itemsAt_push (c : Chart τ) (t : Option τ) (i : Nat) :
    (c.push t).itemsAt i = c.itemsAt i := by
  by_cases hi : i = c.length
  · have hnew : (c.push t).at? i = some ⟨t, .empty⟩ := by rw [at?_push, if_pos hi]
    have hnone : c.at? i = none := by simp [at?, hi, length]
    rw [itemsAt_of_at? hnew, itemsAt_of_none hnone]
    rfl
  · have hold : (c.push t).at? i = c.at? i := by rw [at?_push, if_neg hi]
    rw [itemsAt, hold, itemsAt]

/-! ## Replacing the items of a position -/

theorem itemsAt_modify (h : c.at? i = some e) (f : StateSet → StateSet) (j : Nat) :
    (c.modify i f).itemsAt j = if i = j then (f e.items).toList else c.itemsAt j := by
  by_cases hij : i = j
  · subst hij
    have hnew : (c.modify i f).at? i = some { e with items := f e.items } := by
      simp [at?_modify, h]
    rw [itemsAt_of_at? hnew, if_pos rfl]
  · have hold : (c.modify i f).at? j = c.at? j := by simp [at?_modify, hij]
    rw [if_neg hij, itemsAt, hold, itemsAt]

theorem itemsAt_insert (h : c.at? i = some e) (x : Item) (j : Nat) :
    (c.insert i x).itemsAt j =
      c.itemsAt j ++ if j = i ∧ x ∉ e.items.toList then [x] else [] := by
  rw [insert, itemsAt_modify h, StateSet.toList_insert]
  by_cases hij : i = j
  · subst hij
    rw [itemsAt_of_at? h, if_pos rfl]
    by_cases hx : x ∈ e.items.toList <;> simp [hx]
  · rw [if_neg hij, if_neg (by simp [Ne.symm hij]), List.append_nil]

/-- Two replacements at one position are one. -/
theorem modify_modify (c : Chart τ) (i : Nat) (f f' : StateSet → StateSet) :
    (c.modify i f).modify i f' = c.modify i fun s => f' (f s) := by
  refine ext_at? fun j => ?_
  simp only [at?_modify, Option.map_map]
  congr 1
  funext e
  simp only [Function.comp_apply]
  split <;> rfl

/-- A replacement by what is there is none. -/
theorem modify_eq_self (h : c.at? i = some e) {f : StateSet → StateSet} (hf : f e.items = e.items) :
    c.modify i f = c := by
  refine ext_at? fun j => ?_
  rw [at?_modify]
  by_cases hij : i = j
  · subst hij
    simp [h, hf]
  · simp [hij]

theorem token_modify (c : Chart τ) (i : Nat) (f : StateSet → StateSet) (j : Nat) :
    ((c.modify i f).at? j).map (·.token) = (c.at? j).map (·.token) := by
  rw [at?_modify, Option.map_map]
  congr 1
  funext e
  simp only [Function.comp_apply]
  split <;> rfl

/-! ## Growth -/

/-- The positions and tokens of a chart are those of another one, and each position holds the items
that it holds there, in the same places, and perhaps more behind them. -/
structure Extends (c c' : Chart τ) : Prop where
  token : ∀ i, (c'.at? i).map (·.token) = (c.at? i).map (·.token)
  items : ∀ i, c.itemsAt i <+: c'.itemsAt i

theorem Extends.refl (c : Chart τ) : c.Extends c := ⟨fun _ => rfl, fun _ => List.prefix_rfl⟩

theorem Extends.trans {c'' : Chart τ} (h : c.Extends c') (h' : c'.Extends c'') :
    c.Extends c'' :=
  ⟨fun i => (h'.token i).trans (h.token i), fun i => (h.items i).trans (h'.items i)⟩

theorem Extends.mem (h : c.Extends c') (hx : x ∈ c.itemsAt i) : x ∈ c'.itemsAt i :=
  (h.items i).subset hx

theorem Extends.length_eq (h : c.Extends c') : c'.length = c.length := by
  have hiff : ∀ i, i < c'.length ↔ i < c.length := by
    intro i
    rw [lt_length_iff, lt_length_iff, ← Option.isSome_iff_exists, ← Option.isSome_iff_exists,
      ← Option.isSome_map, h.token i, Option.isSome_map]
  have h₁ := hiff c.length
  have h₂ := hiff c'.length
  omega

/-- A chart is its tokens and its items. -/
theorem ext_token_items (htoken : ∀ i, (c'.at? i).map (·.token) = (c.at? i).map (·.token))
    (hitems : ∀ i, c'.itemsAt i = c.itemsAt i) : c' = c := by
  refine ext_at? fun i => ?_
  have htoken := htoken i
  have hitems := hitems i
  cases he : c.at? i with
  | none =>
    rw [he] at htoken
    exact Option.map_eq_none_iff.1 htoken
  | some e =>
    rw [he] at htoken
    obtain ⟨e', he', ht⟩ := Option.map_eq_some_iff.1 htoken
    rw [itemsAt_of_at? he, itemsAt_of_at? he'] at hitems
    obtain ⟨t, s⟩ := e
    obtain ⟨t', s'⟩ := e'
    have hs : s' = s := StateSet.ext hitems
    have ht : t' = t := ht
    rw [he', hs, ht]

/-- A chart that has grown by no item has not changed. -/
theorem Extends.eq_of_subset (h : c.Extends c') (hsub : ∀ i, c'.itemsAt i ⊆ c.itemsAt i) :
    c' = c := by
  refine ext_token_items h.token fun i => ?_
  have hlength := ((nodup_itemsAt c' i).subperm (hsub i)).length_le
  exact ((h.items i).sublist.eq_of_length_le hlength).symm

theorem extends_modify (h : c.at? i = some e) {f : StateSet → StateSet}
    (hf : e.items.toList <+: (f e.items).toList) : c.Extends (c.modify i f) := by
  refine ⟨token_modify c i f, fun j => ?_⟩
  rw [itemsAt_modify h]
  split
  next hij =>
    rw [← hij, itemsAt_of_at? h]
    exact hf
  · exact List.prefix_rfl

end Chart

end Earley
