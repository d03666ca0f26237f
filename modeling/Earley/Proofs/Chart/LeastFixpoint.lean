/-
Earley.Proofs.Chart.LeastFixpoint — the order of the turns does not matter.

`Turn` gives any item of any position its step, at any time. Where a run of turns comes to rest, the
items of each position are those that the pass from left to right finds, because both charts are
families that are closed and within every closed family.

- `Whole.exists_settled`: every run of turns can be brought to rest.
- `build_least_fixpoint`: the chart of an input is settled, within every closed family, and the only
  outcome of runs that come to rest.
-/
import Earley.Proofs.Chart.Exactness
import Mathlib.Algebra.Order.BigOperators.Group.Finset
import Mathlib.Logic.Relation

namespace Earley.Chart

variable {τ ε : Type} {test : TokenTest τ ε} {g : Grammar} {accepts : String → τ → Prop}
  {tokens : List τ} {c c' : Chart τ} {i k : Nat}

/-! ## Turns in any order -/

/-- The chart before any turn: all positions of the input, and the items to begin with at the first
one. -/
def begun (g : Grammar) : List τ → Chart τ
  | [] => empty
  | t :: ts => (ts.map some ++ [none]).foldl push ⟨#[⟨some t, StateSet.ofList (seeds g)⟩]⟩

/-- Some item of some position has its step. -/
def Turn (test : TokenTest τ ε) (g : Grammar) (c c' : Chart τ) : Prop :=
  ∃ i, ∃ x ∈ c.itemsAt i, c.process test g g.nullable i x = .ok c'

/-- No step of an item adds anything. -/
def Settled (test : TokenTest τ ε) (g : Grammar) (c : Chart τ) : Prop :=
  ∀ i, ∀ x ∈ c.itemsAt i, c.process test g g.nullable i x = .ok c

/-- The chart has all positions of the input; none of them need be filled. -/
structure Whole (g : Grammar) (accepts : String → τ → Prop) (tokens : List τ) (c : Chart τ) :
    Prop where
  filled : Filled g accepts tokens 0 c
  length_eq : c.length = tokens.length + 1

theorem filled_foldl_push {n : Nat} (hc : Filled g accepts tokens k c) (hlength : c.length = i + 1)
    (hn : i + n = tokens.length) :
    Filled g accepts tokens k ((upcoming tokens i).foldl push c) ∧
      ((upcoming tokens i).foldl push c).length = tokens.length + 1 := by
  induction n generalizing i c with
  | zero =>
    rw [upcoming_eq_nil (by omega)]
    exact ⟨hc, by rw [List.foldl_nil]; omega⟩
  | succ n ih =>
    have hpush := hc.push (by omega)
    rw [hlength] at hpush
    rw [upcoming_eq_cons (by omega)]
    exact ih hpush (by rw [length_push]; omega) (by omega)

theorem whole_begun (h : tokens ≠ []) : Whole g accepts tokens (begun g tokens) := by
  obtain ⟨t, ts, rfl⟩ := List.exists_cons_of_ne_nil h
  obtain ⟨hfilled, hlength⟩ := filled_foldl_push (filled_start t ts) rfl (Nat.zero_add _)
  exact ⟨hfilled, hlength⟩

theorem Whole.outcome (hc : Whole g test.Accepts tokens c) (htest : test.TotalOn g tokens)
    {x : Item} (hx : x ∈ c.itemsAt i) :
    ∃ c', c.process test g g.nullable i x = .ok c' ∧ Outcome g test.Accepts tokens i x c c' :=
  process_outcome hc.filled.overInput htest (fun hi => by rw [hc.length_eq]; omega) hx

theorem Whole.turn (hc : Whole g test.Accepts tokens c) (htest : test.TotalOn g tokens)
    (h : Turn test g c c') : Whole g test.Accepts tokens c' ∧ c.Extends c' := by
  obtain ⟨i, x, hx, hprocess⟩ := h
  obtain ⟨c₁, hc₁, ho⟩ := hc.outcome htest hx
  cases hprocess.symm.trans hc₁
  refine ⟨⟨hc.filled.outcome (Nat.zero_le i) hx ho, ?_⟩, ho.extends_⟩
  rw [ho.extends_.length_eq, hc.length_eq]

theorem Whole.run (hc : Whole g test.Accepts tokens c) (htest : test.TotalOn g tokens)
    (h : Relation.ReflTransGen (Turn test g) c c') : Whole g test.Accepts tokens c' := by
  induction h with
  | refl => exact hc
  | tail _ hturn ih => exact (ih.turn htest hturn).1

/-! ## Charts at rest -/

/-- A chart is at rest when its items form a closed family. -/
theorem Whole.settled_iff (hc : Whole g test.Accepts tokens c) (htest : test.TotalOn g tokens) :
    Settled test g c ↔ c.family.Closed g test.Accepts tokens := by
  constructor
  · intro h
    refine ⟨hc.filled.seed, fun {i j x y} _ hx hd => ?_⟩
    obtain ⟨c', hc', ho⟩ := hc.outcome htest hx
    cases (h i x hx).symm.trans hc'
    exact ho.demands hd
  · intro h i x hx
    obtain ⟨c', hc', ho⟩ := hc.outcome htest hx
    have hsame := ho.eq_self fun j y hd => h.step (hc.filled.overInput.le_length hx) hx hd
    exact hsame ▸ hc'

/-- The room that is left at the positions of the input. -/
def room (g : Grammar) (tokens : List τ) (c : Chart τ) : Nat :=
  ∑ i ∈ Finset.range (tokens.length + 1), (capacity g i - (c.itemsAt i).length)

/-- A turn that changes the chart takes some of the room. -/
theorem room_lt (hc' : c'.Over g tokens) (h : c.Extends c') (hne : c' ≠ c) :
    room g tokens c' < room g tokens c := by
  have hgrows : ∃ i, (c.itemsAt i).length < (c'.itemsAt i).length := by
    by_contra hnone
    push Not at hnone
    refine hne (ext_token_items h.token fun i => ?_)
    exact ((h.items i).eq_of_length_le (hnone i)).symm
  obtain ⟨i, hi⟩ := hgrows
  obtain ⟨x, hx⟩ := List.exists_mem_of_length_pos (Nat.zero_lt_of_lt hi)
  refine Finset.sum_lt_sum (fun j _ => ?_) ⟨i, ?_, ?_⟩
  · have hj := (h.items j).length_le
    omega
  · exact Finset.mem_range.2 (Nat.lt_succ_of_le (hc'.le_length hx))
  · have hroom := length_itemsAt_le hc' i
    omega

theorem Whole.exists_settled (hc : Whole g test.Accepts tokens c)
    (htest : test.TotalOn g tokens) :
    ∃ c', Relation.ReflTransGen (Turn test g) c c' ∧ Settled test g c' := by
  induction hn : room g tokens c using Nat.strong_induction_on generalizing c with
  | _ n ih =>
    by_cases hsettled : Settled test g c
    · exact ⟨c, .refl, hsettled⟩
    · simp only [Settled, not_forall] at hsettled
      obtain ⟨i, x, hx, hnew⟩ := hsettled
      obtain ⟨c₁, hc₁, -⟩ := hc.outcome htest hx
      have hturn : Turn test g c c₁ := ⟨i, x, hx, hc₁⟩
      obtain ⟨hwhole, hext⟩ := hc.turn htest hturn
      have hne : c₁ ≠ c := fun h => hnew (h ▸ hc₁)
      have hlt := room_lt hwhole.filled.overInput hext hne
      obtain ⟨c', hrun, hend⟩ := ih _ (hn ▸ hlt) hwhole rfl
      exact ⟨c', hrun.head hturn, hend⟩

/-! ## One outcome -/

/-- Charts at rest have the same items: each is a closed family, and within every closed family. -/
theorem Whole.itemsAt_iff (hc : Whole g test.Accepts tokens c)
    (hc' : Whole g test.Accepts tokens c') (htest : test.TotalOn g tokens)
    (h : Settled test g c) (h' : Settled test g c') {x : Item} :
    x ∈ c'.itemsAt i ↔ x ∈ c.itemsAt i := by
  have hclosed := (hc.settled_iff htest).1 h
  have hclosed' := (hc'.settled_iff htest).1 h'
  exact ⟨hc'.filled.least hclosed i x, hc.filled.least hclosed' i x⟩

theorem Filled.whole (hc : Filled g accepts tokens k c) (hlength : c.length = tokens.length + 1) :
    Whole g accepts tokens c where
  filled := ⟨hc.overInput, hc.seed, hc.least, fun i hi => absurd hi (Nat.not_lt_zero i)⟩
  length_eq := hlength

/-- The chart of an input and a grammar that are not empty is settled, and lies within every family
that has the items to begin with and is closed under the steps. From where a chart begins, whatever
turns are taken, in any order, they can be continued until nothing is new, and then each position
has the items that it has in the chart of the input. -/
theorem build_least_fixpoint (htest : test.TotalOn g tokens) (htokens : tokens ≠ [])
    (hrules : g.rules ≠ []) :
    ∃ c, build test g tokens = .ok c ∧ c.length = tokens.length + 1 ∧ Settled test g c ∧
      (∀ F : Family, F.Closed g test.Accepts tokens → ∀ i, ∀ x ∈ c.itemsAt i, F i x) ∧
      ∀ c', Relation.ReflTransGen (Turn test g) (begun g tokens) c' →
        (∃ c'', Relation.ReflTransGen (Turn test g) c' c'' ∧ Settled test g c'') ∧
        (Settled test g c' → ∀ i x, x ∈ c'.itemsAt i ↔ x ∈ c.itemsAt i) := by
  obtain ⟨c, hbuild, hlength, hfilled⟩ := exists_build htest htokens hrules
  have hwhole := hfilled.whole hlength
  have hsettled := (hwhole.settled_iff htest).2 hfilled.closed
  refine ⟨c, hbuild, hlength, hsettled, fun F hF i x hx => hfilled.least hF i x hx, ?_⟩
  intro c' hrun
  have hwhole' := (whole_begun htokens).run htest hrun
  refine ⟨hwhole'.exists_settled htest, fun hsettled' i x => ?_⟩
  exact hwhole.itemsAt_iff hwhole' htest hsettled hsettled'

theorem build_least_fixpoint_hiddenRecursion :
    ∃ c c', build Matching.literal.accepts .hiddenRecursion [.value (.text "x")] = .ok c ∧
      Relation.ReflTransGen (Turn Matching.literal.accepts .hiddenRecursion)
        (begun .hiddenRecursion [.value (.text "x")]) c' ∧
      Settled Matching.literal.accepts .hiddenRecursion c' ∧
      ∀ i x, x ∈ c'.itemsAt i ↔ x ∈ c.itemsAt i := by
  have htest :=
    Matching.totalOn (m := .literal) (by decide) Grammar.hiddenRecursion [.value (.text "x")]
  obtain ⟨c, hc, -, -, -, hruns⟩ := build_least_fixpoint htest (by decide) (by decide)
  obtain ⟨⟨c', hrun, hsettled⟩, -⟩ := hruns _ .refl
  exact ⟨c, c', hc, hrun, hsettled, (hruns c' hrun).2 hsettled⟩

end Earley.Chart
