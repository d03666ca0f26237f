/-
Earley.Proofs.Chart.Fill — filling a chart from left to right comes to an end, and leaves no demand
open but those that lie within one position.

`Filled` is the invariant of both loops: the chart has the items to begin with, has nothing that a
closed family would lack, and at the positions that were filled every item is done. Done means that
what the item demands of earlier positions and of itself is in the chart; a position that is being
filled still grows, so that what an item completes there is not settled by its own turn.

- `length_itemsAt_le`: the bound on the turns at a position is a bound on its items.
- `exists_build`: for an input and a grammar that are not empty the chart exists and is filled.
-/
import Earley.Proofs.Chart.Step

namespace Earley.Chart

variable {τ ε : Type} {test : TokenTest τ ε} {g : Grammar} {accepts : String → τ → Prop}
  {tokens : List τ} {c c' : Chart τ} {i k : Nat} {x : Item}

/-! ## The size of a position -/

/-- All items that fit at a position. -/
def fitting (g : Grammar) (i : Nat) : List Item :=
  (List.range (i + 1)).flatMap fun start => g.rules.zipIdx.flatMap fun (r, k) =>
    (List.range (r.components.length + 1)).map fun cursor => ⟨k, start, cursor⟩

theorem length_flatMap_dotPlaces (rules : List Rule) (k start : Nat) :
    ((rules.zipIdx k).flatMap fun (r, k) =>
        (List.range (r.components.length + 1)).map fun cursor => Item.mk k start cursor).length =
      rules.foldr (fun r n => r.components.length + 1 + n) 0 := by
  induction rules generalizing k with
  | nil => rfl
  | cons r rules ih =>
    rw [List.zipIdx_cons, List.flatMap_cons, List.length_append, ih]
    simp

theorem length_fitting (g : Grammar) (i : Nat) : (fitting g i).length = capacity g i := by
  have hrules := length_flatMap_dotPlaces g.rules 0
  rw [fitting, List.length_flatMap]
  simp only [hrules]
  simp [capacity, dotPlaces]

theorem mem_fitting (h : x.Fits g i) : x ∈ fitting g i := by
  obtain ⟨hstart, r, hr, hcursor⟩ := h
  refine List.mem_flatMap.2 ⟨x.start, List.mem_range.2 (Nat.lt_succ_of_le hstart), ?_⟩
  refine List.mem_flatMap.2 ⟨(r, x.rule), List.mem_zipIdx_iff_getElem?.2 hr, ?_⟩
  exact List.mem_map.2 ⟨x.cursor, List.mem_range.2 (Nat.lt_succ_of_le hcursor), rfl⟩

/-- No position holds more items than there are turns for it. -/
theorem length_itemsAt_le (hc : c.Over g tokens) (i : Nat) :
    (c.itemsAt i).length ≤ capacity g i := by
  rw [← length_fitting]
  exact ((nodup_itemsAt c i).subperm fun _ hx => mem_fitting (hc.fits hx)).length_le

/-! ## Items that are done -/

/-- What the item `x` at position `i` demands, of itself and of the positions before `i`, is in the
chart. -/
def Done (g : Grammar) (accepts : String → τ → Prop) (tokens : List τ) (c : Chart τ) (i : Nat)
    (x : Item) : Prop :=
  ∀ j y, Demands g accepts tokens (fun k z => k < i ∧ z ∈ c.itemsAt k) i x j y →
    y ∈ c.itemsAt j

theorem Done.mono (h : Done g accepts tokens c i x) (hext : c.Extends c')
    (hframe : ∀ k < i, c'.itemsAt k = c.itemsAt k) : Done g accepts tokens c' i x := by
  intro j y hd
  refine hext.mem (h j y (hd.mono ?_))
  rintro z ⟨hk, hz⟩
  exact ⟨hk, hframe _ hk ▸ hz⟩

/-- An item is done once it has had its turn. -/
theorem Outcome.done (h : Outcome g accepts tokens i x c c') : Done g accepts tokens c' i x := by
  intro j y hd
  refine h.demands (hd.mono ?_)
  rintro z ⟨hk, hz⟩
  rw [h.frame _ (by omega) (by omega)] at hz
  exact hz

theorem Outcome.overInput (h : Outcome g accepts tokens i x c c') (hc : c.Over g tokens)
    (hx : x ∈ c.itemsAt i) : c'.Over g tokens := by
  have hfits := Item.fits_closed g accepts tokens
  refine hc.of_extends h.extends_ ?_
  exact h.least (F := fun k z => z.Fits g k) (fun _ _ hz => hc.fits hz)
    fun _ _ hd => hfits.step (hc.le_length hx) (hc.fits hx) hd

/-- The chart is over the input, and goes on behind position `i` if the input does. -/
structure Ready (g : Grammar) (tokens : List τ) (i : Nat) (c : Chart τ) : Prop where
  overInput : c.Over g tokens
  opened : i < tokens.length → i + 1 < c.length

theorem Ready.process (hc : Ready g tokens i c) (hx : x ∈ c.itemsAt i)
    (h : c.process test g g.nullable i x = .ok c') : Ready g tokens i c' := by
  have ho := outcome_of_process hc.overInput hx h
  refine ⟨ho.overInput hc.overInput hx, ?_⟩
  rw [ho.extends_.length_eq]
  exact hc.opened

/-! ## The invariant -/

/-- The positions before `k` are filled. -/
structure Filled (g : Grammar) (accepts : String → τ → Prop) (tokens : List τ) (k : Nat)
    (c : Chart τ) : Prop where
  overInput : c.Over g tokens
  seed : ∀ x ∈ seeds g, x ∈ c.itemsAt 0
  least : ∀ {F : Family}, F.Closed g accepts tokens → ∀ i x, x ∈ c.itemsAt i → F i x
  done : ∀ i < k, ∀ x ∈ c.itemsAt i, Done g accepts tokens c i x

/-- A turn at a position that is not filled keeps the invariant. -/
theorem Filled.outcome (hc : Filled g accepts tokens k c) (hk : k ≤ i) (hx : x ∈ c.itemsAt i)
    (h : Outcome g accepts tokens i x c c') : Filled g accepts tokens k c' where
  overInput := h.overInput hc.overInput hx
  seed := fun y hy => h.extends_.mem (hc.seed y hy)
  least := by
    intro F hF
    refine h.least (hc.least hF) fun j y hd => ?_
    exact hF.step (hc.overInput.le_length hx) (hc.least hF i x hx) hd
  done := by
    intro j hj y hy
    rw [h.frame j (by omega) (by omega)] at hy
    exact (hc.done j hj y hy).mono h.extends_ fun l hl => h.frame l (by omega) (by omega)

/-- A new position at the end changes nothing before it. -/
theorem Filled.push (hc : Filled g accepts tokens k c) (hlength : c.length ≤ tokens.length) :
    Filled g accepts tokens k (c.push tokens[c.length]?) where
  overInput := hc.overInput.push hlength
  seed := by simpa using hc.seed
  least := by
    intro F hF i x hx
    rw [itemsAt_push] at hx
    exact hc.least hF i x hx
  done := by simpa [Done] using hc.done

/-- A position is filled when its items are done. -/
theorem Filled.succ (hc : Filled g accepts tokens i c)
    (hdone : ∀ x ∈ c.itemsAt i, Done g accepts tokens c i x) :
    Filled g accepts tokens (i + 1) c where
  overInput := hc.overInput
  seed := hc.seed
  least := hc.least
  done := by
    intro k hk x hx
    rcases Nat.lt_succ_iff_lt_or_eq.1 hk with hk | rfl
    · exact hc.done k hk x hx
    · exact hdone x hx

/-! ## One position -/

/-- Turn by turn: if the first `j` items of position `i` are done, and there are turns left for all
the others that fit there, the position gets filled. -/
theorem exists_saturateFrom (htest : test.TotalOn g tokens) {fuel j : Nat}
    (hc : Filled g test.Accepts tokens i c) (hopen : i < tokens.length → i + 1 < c.length)
    (hdone : ∀ y ∈ (c.itemsAt i).take j, Done g test.Accepts tokens c i y)
    (hfuel : capacity g i ≤ fuel + j) :
    ∃ c', saturateFrom test g g.nullable i fuel j c = .ok c' ∧
      Filled g test.Accepts tokens (i + 1) c' ∧ c'.length = c.length := by
  induction fuel generalizing j c with
  | zero =>
    have hj := length_itemsAt_le hc.overInput i
    rw [List.take_of_length_le (by omega)] at hdone
    exact ⟨c, rfl, hc.succ hdone, rfl⟩
  | succ fuel ih =>
    unfold saturateFrom
    rw [bind_get?]
    cases hx : (c.itemsAt i)[j]? with
    | none =>
      rw [List.take_of_length_le (List.getElem?_eq_none_iff.1 hx)] at hdone
      exact ⟨c, rfl, hc.succ hdone, rfl⟩
    | some x =>
      have hmem := List.mem_of_getElem? hx
      obtain ⟨c₁, hprocess, ho⟩ := process_outcome hc.overInput htest hopen hmem
      have hlength := ho.extends_.length_eq
      have hframe : ∀ k < i, c₁.itemsAt k = c.itemsAt k :=
        fun k hk => ho.frame k (by omega) (by omega)
      -- the items that have had their turn stand where they stood
      have htake : (c₁.itemsAt i).take (j + 1) = (c.itemsAt i).take j ++ [x] := by
        have hlt := (List.getElem?_eq_some_iff.1 hx).1
        obtain ⟨new, hnew⟩ := ho.extends_.items i
        rw [← hnew, List.take_append_of_le_length hlt, List.take_add_one, hx]
        rfl
      have hdone₁ : ∀ y ∈ (c₁.itemsAt i).take (j + 1), Done g test.Accepts tokens c₁ i y := by
        intro y hy
        rw [htake] at hy
        rcases List.mem_append.1 hy with hy | hy
        · exact (hdone y hy).mono ho.extends_ hframe
        · rw [List.mem_singleton.1 hy]
          exact ho.done
      obtain ⟨c', hc', hfilled, hsame⟩ :=
        ih (hc.outcome (Nat.le_refl i) hmem ho) (by omega) hdone₁ (by omega)
      refine ⟨c', ?_, hfilled, by omega⟩
      simp only [hprocess]
      exact hc'

theorem exists_saturate (htest : test.TotalOn g tokens) (hc : Filled g test.Accepts tokens i c)
    (hopen : i < tokens.length → i + 1 < c.length) :
    ∃ c', c.saturate test g g.nullable i = .ok c' ∧
      Filled g test.Accepts tokens (i + 1) c' ∧ c'.length = c.length :=
  exists_saturateFrom htest hc hopen (by simp) (Nat.le_refl _)

/-! ## All positions -/

/-- The tokens of the positions after `i`, the end of the input included. -/
def upcoming (tokens : List τ) (i : Nat) : List (Option τ) :=
  (tokens.map some ++ [none]).drop (i + 1)

theorem upcoming_eq_nil (h : tokens.length ≤ i) : upcoming tokens i = [] := by
  simp only [upcoming, List.drop_eq_nil_iff, List.length_append, List.length_map,
    List.length_singleton]
  omega

theorem upcoming_eq_cons (h : i < tokens.length) :
    upcoming tokens i = tokens[i + 1]? :: upcoming tokens (i + 1) := by
  have hlt : i + 1 < (tokens.map some ++ [none]).length := by simp [h]
  rw [upcoming, List.drop_eq_getElem_cons hlt, upcoming]
  congr 1
  rcases Nat.lt_or_ge (i + 1) tokens.length with hi | hi
  · simp [List.getElem_append_left, hi]
  · simp [List.getElem_append_right, hi]

/-- Position by position: the invariant reaches the end of the input. -/
theorem exists_sweep (htest : test.TotalOn g tokens) {n : Nat}
    (hc : Filled g test.Accepts tokens i c) (hlength : c.length = i + 1)
    (hn : i + n = tokens.length) :
    ∃ c', sweep test g g.nullable (upcoming tokens i) i c = .ok c' ∧
      Filled g test.Accepts tokens (tokens.length + 1) c' ∧ c'.length = tokens.length + 1 := by
  induction n generalizing i c with
  | zero =>
    obtain ⟨c', hc', hfilled, hsame⟩ := exists_saturate htest hc (by omega)
    have hi : i = tokens.length := hn
    rw [upcoming_eq_nil (by omega), ← hi]
    exact ⟨c', hc', hfilled, by omega⟩
  | succ n ih =>
    have hpush := hc.push (by omega)
    rw [hlength] at hpush
    obtain ⟨c₁, hc₁, hfilled₁, hsame₁⟩ :=
      exists_saturate htest hpush (by rw [length_push]; omega)
    rw [length_push] at hsame₁
    obtain ⟨c', hc', hfilled, hsame⟩ := ih hfilled₁ (by omega) (by omega)
    refine ⟨c', ?_, hfilled, hsame⟩
    rw [upcoming_eq_cons (by omega), sweep, hc₁]
    exact hc'

/-- The chart of one position that holds the items to begin with. -/
theorem filled_start (t : τ) (ts : List τ) :
    Filled g accepts (t :: ts) 0 ⟨#[⟨some t, StateSet.ofList (seeds g)⟩]⟩ := by
  have hitems : ∀ i x, x ∈ itemsAt (τ := τ) ⟨#[⟨some t, StateSet.ofList (seeds g)⟩]⟩ i ↔
      i = 0 ∧ x ∈ seeds g := by
    intro i x
    cases i with
    | zero => simp [itemsAt, at?]
    | succ i => simp [itemsAt, at?]
  refine ⟨⟨by simp [length], ?_, ?_⟩, ?_, ?_, by simp⟩
  · intro i e he
    cases i with
    | zero =>
      cases he
      rfl
    | succ i => simp [at?] at he
  · intro i x hx
    obtain ⟨rfl, hseed⟩ := (hitems i x).1 hx
    exact (Item.fits_closed g accepts (t :: ts)).seed x hseed
  · intro x hx
    exact (hitems 0 x).2 ⟨rfl, hx⟩
  · intro F hF i x hx
    obtain ⟨rfl, hseed⟩ := (hitems i x).1 hx
    exact hF.seed x hseed

/-- Without tokens or without rules there is nothing to fill. -/
theorem build_of_eq_nil (h : tokens = [] ∨ g.rules = []) : build test g tokens = .ok empty := by
  rcases h with rfl | h
  · rfl
  · cases tokens <;> simp [build, h]

/-- The chart of an input and a grammar that are not empty has a position for each token and one
for the end, and all of them are filled. -/
theorem exists_build (htest : test.TotalOn g tokens) (htokens : tokens ≠ [])
    (hrules : g.rules ≠ []) :
    ∃ c, build test g tokens = .ok c ∧ c.length = tokens.length + 1 ∧
      Filled g test.Accepts tokens (tokens.length + 1) c := by
  obtain ⟨t, ts, rfl⟩ := List.exists_cons_of_ne_nil htokens
  obtain ⟨r, rs, hr⟩ := List.exists_cons_of_ne_nil hrules
  obtain ⟨c, hc, hfilled, hlength⟩ :=
    exists_sweep htest (filled_start t ts) rfl (Nat.zero_add _)
  refine ⟨c, ?_, hlength, hfilled⟩
  unfold build
  simp only [hr]
  exact hc

end Earley.Chart
