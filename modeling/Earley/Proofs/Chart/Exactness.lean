/-
Earley.Proofs.Chart.Exactness — which items a chart holds, said by derivations alone.

An item belongs at a position if its rule can begin where the item began (`Predictable`) and the
components before its dot derive the tokens in between (`Exact`). Both halves of the comparison are
facts about closed families:

- `exact_closed`: the exact items form a closed family, so that a chart holds no others;
- `Family.Closed.of_exact`: every closed family has all exact items, by induction on derivations;
- `Filled.closed`: the items of a filled chart form a closed family.

The last one is where the loop that gives each item one turn needs an argument. An item can begin to
wait at a position after the rules it waits for were completed there; but they were completed over
an empty span, so that their name is nullable, and the item has skipped it in its own turn.
-/
import Earley.Proofs.Chart.Fill
import Earley.Proofs.Nullable
import Earley.Regex.Backtracking

namespace Earley

variable {τ ε : Type} {g : Grammar} {accepts : String → τ → Prop} {tokens : List τ}

/-! ## Items by derivations -/

/-- The names whose rules can begin at a position: the start symbol at the first one, and each
nonterminal that a rule has behind components that derive the tokens up to there. -/
inductive Predictable (g : Grammar) (accepts : String → τ → Prop) (tokens : List τ) :
    String → Nat → Prop where
  | start {name : String} (h : g.start? = some name) : Predictable g accepts tokens name 0
  | behind {r : Rule} {k j d : Nat} {name : String} (hr : r ∈ g.rules)
      (hk : Predictable g accepts tokens r.name k)
      (hd : r.components[d]? = some (.nonterminal name))
      (hspan : g.DerivesSpan accepts tokens (r.components.take d) k j) :
      Predictable g accepts tokens name j

/-- The items whose rules can begin where they began, and whose matched components derive the
tokens from there. -/
def Exact (g : Grammar) (accepts : String → τ → Prop) (tokens : List τ) : Family := fun i x =>
  ∃ r, g.rules[x.rule]? = some r ∧ x.cursor ≤ r.components.length ∧
    Predictable g accepts tokens r.name x.start ∧
    g.DerivesSpan accepts tokens (r.components.take x.cursor) x.start i

variable {F : Family} {i j k : Nat} {x : Item} {name : String}

theorem exact_prediction {r : Nat} (hr : r ∈ g.rulesNamed name)
    (h : Predictable g accepts tokens name i) (hi : i ≤ tokens.length) :
    Exact g accepts tokens i ⟨r, i, 0⟩ := by
  obtain ⟨hlt, rfl⟩ := Grammar.mem_rulesNamed.1 hr
  exact ⟨_, List.getElem?_eq_getElem hlt, Nat.zero_le _, h, Grammar.derivesSpan_nil hi⟩

/-- An exact item stays exact when it advances over a span that its next symbol derives. -/
theorem Exact.advanced {s : Symbol} (hx : Exact g accepts tokens k x) (hw : x.Awaits g s)
    (hs : g.DerivesSpan accepts tokens [s] k i) : Exact g accepts tokens i x.advanced := by
  obtain ⟨r, hr, -, hbegin, hspan⟩ := hx
  obtain ⟨r', hr', hnext⟩ := hw
  cases hr.symm.trans hr'
  obtain ⟨hcursor, -⟩ := List.getElem?_eq_some_iff.1 hnext
  refine ⟨r, hr, hcursor, hbegin, ?_⟩
  have htake : r.components.take (x.cursor + 1) = r.components.take x.cursor ++ [s] := by
    rw [List.take_add_one]
    exact congrArg _ (congrArg Option.toList hnext)
  exact htake ▸ hspan.append hs

/-- A name can begin where an exact item awaits it. -/
theorem Exact.predictable (hx : Exact g accepts tokens i x)
    (hw : x.Awaits g (.nonterminal name)) : Predictable g accepts tokens name i := by
  obtain ⟨r, hr, -, hbegin, hspan⟩ := hx
  obtain ⟨r', hr', hnext⟩ := hw
  cases hr.symm.trans hr'
  exact .behind (List.mem_of_getElem? hr) hbegin hnext hspan

/-- A finished exact item has derived a span from the name of its rule. -/
theorem Exact.derivesSpan (hx : Exact g accepts tokens i x) (hf : x.Finishes g name) :
    g.DerivesSpan accepts tokens [.nonterminal name] x.start i := by
  obtain ⟨r, hr, -, -, hspan⟩ := hx
  obtain ⟨r', hr', hnone, rfl⟩ := hf
  cases hr.symm.trans hr'
  rw [List.take_of_length_le (List.getElem?_eq_none_iff.1 hnone)] at hspan
  exact Grammar.derivesSpan_nonterminal (List.mem_of_getElem? hr) hspan

/-! ## Nothing but exact items -/

theorem derivesSpan_nullable (hn : name ∈ g.nullable) (hi : i ≤ tokens.length) :
    g.DerivesSpan accepts tokens [.nonterminal name] i i := by
  refine ⟨Nat.le_refl i, hi, ?_⟩
  simpa [List.extract_eq_take_drop] using Grammar.derives_nil_of_mem_nullable hn

theorem mem_nullable_of_derivesSpan
    (h : g.DerivesSpan accepts tokens [.nonterminal name] i i) : name ∈ g.nullable := by
  obtain ⟨-, -, hw⟩ := h
  have hempty : g.Derives accepts [.nonterminal name] [] := by
    simpa [List.extract_eq_take_drop] using hw
  exact Grammar.mem_nullable_iff.2 hempty

theorem exact_closed (g : Grammar) (accepts : String → τ → Prop) (tokens : List τ) :
    (Exact g accepts tokens).Closed g accepts tokens where
  seed := by
    intro x hx
    obtain ⟨name, hstart, r, hr, rfl⟩ := Chart.mem_seeds.1 hx
    exact exact_prediction hr (.start hstart) (Nat.zero_le _)
  step := by
    intro i j x y hi hx hd
    cases hd with
    | scan hw ht ha => exact hx.advanced hw (Grammar.derivesSpan_terminal ht ha)
    | predict hw hr => exact exact_prediction hr (hx.predictable hw) hi
    | skip hw hn => exact hx.advanced hw (derivesSpan_nullable hn hi)
    | complete hf hy hw => exact hy.advanced hw (hx.derivesSpan hf)

/-! ## All exact items -/

section

variable {ss : List Symbol} {u w v : List τ}

/-- What a rule has at the dot and behind it. -/
theorem cons_prefix_drop_iff {l : List Symbol} {s : Symbol} {n : Nat} :
    s :: ss <+: l.drop n ↔ l[n]? = some s ∧ ss <+: l.drop (n + 1) := by
  rcases Nat.lt_or_ge n l.length with hn | hn
  · rw [List.drop_eq_getElem_cons hn, List.cons_prefix_cons, List.getElem?_eq_getElem hn,
      Option.some.injEq, eq_comm]
  · simp [List.drop_of_length_le hn, List.getElem?_eq_none hn]

/-- In a closed family, an item advances over all symbols behind its dot that derive the tokens
that come next. -/
theorem Family.Closed.advance (hF : F.Closed g accepts tokens) (hw : g.Derives accepts ss w)
    (htokens : tokens = u ++ w ++ v) {r : Rule} (hr : g.rules[x.rule]? = some r)
    (hss : ss <+: r.components.drop x.cursor) (hx : F u.length x) :
    F (u.length + w.length) { x with cursor := x.cursor + ss.length } := by
  induction hw generalizing u v x r with
  | nil => exact hx
  | @terminal p t ss w ht hw ih =>
    obtain ⟨hnext, hss⟩ := cons_prefix_drop_iff.1 hss
    have htoken : tokens[u.length]? = some t := by simp [htokens]
    have hstep := hF.step (by simp [htokens]) hx (.scan ⟨r, hr, hnext⟩ htoken ht)
    have hrest := ih (u := u ++ [t]) (v := v) (x := x.advanced) (by simp [htokens]) hr hss
      (by simpa using hstep)
    simpa [Item.advanced, Nat.add_assoc, Nat.add_comm 1] using hrest
  | @rule r' ss w₁ w₂ hr' hw₁ hw₂ ih₁ ih₂ =>
    obtain ⟨hnext, hss⟩ := cons_prefix_drop_iff.1 hss
    obtain ⟨q, hq⟩ := List.getElem?_of_mem hr'
    have hbegin := hF.step (by simp [htokens]) hx
      (.predict ⟨r, hr, hnext⟩ (Grammar.mem_rulesNamed_of_getElem? hq))
    have hend := ih₁ (u := u) (v := w₂ ++ v) (x := ⟨q, u.length, 0⟩) (by simp [htokens]) hq
      (by simp) hbegin
    have hdone : (Item.mk q u.length (0 + r'.components.length)).Finishes g r'.name :=
      ⟨r', hq, by simp [Item.next?], rfl⟩
    have hstep := hF.step (by simp [htokens]) hend (.complete hdone hx ⟨r, hr, hnext⟩)
    have hrest := ih₂ (u := u ++ w₁) (v := v) (x := x.advanced) (by simp [htokens]) hr hss
      (by simpa using hstep)
    simpa [Item.advanced, Nat.add_assoc, Nat.add_comm 1] using hrest

/-- The same from the beginning of a rule, over a span of the input. -/
theorem Family.Closed.advance_take (hF : F.Closed g accepts tokens) {q d : Nat} {r : Rule}
    (hr : g.rules[q]? = some r) (hd : d ≤ r.components.length)
    (hspan : g.DerivesSpan accepts tokens (r.components.take d) k j) (hx : F k ⟨q, k, 0⟩) :
    F j ⟨q, k, d⟩ := by
  obtain ⟨u, w, v, htokens, rfl, rfl, hw⟩ := Grammar.exists_of_derivesSpan hspan
  have hend := hF.advance hw htokens hr (by simp [List.take_prefix]) hx
  rw [List.length_take, Nat.min_eq_left hd, Nat.zero_add] at hend
  exact hend

/-- In a closed family, the rules of a name that can begin at a position do begin there. -/
theorem Family.Closed.of_predictable (hF : F.Closed g accepts tokens)
    (h : Predictable g accepts tokens name j) (hj : j ≤ tokens.length) :
    ∀ q ∈ g.rulesNamed name, F j ⟨q, j, 0⟩ := by
  induction h with
  | start hstart =>
    intro q hq
    exact hF.seed _ (Chart.mem_seeds.2 ⟨_, hstart, q, hq, rfl⟩)
  | @behind r k j d name hr _ hd hspan ih =>
    intro q hq
    obtain ⟨q', hq'⟩ := List.getElem?_of_mem hr
    obtain ⟨hlt, -⟩ := List.getElem?_eq_some_iff.1 hd
    have hbegin := ih (Nat.le_trans hspan.1 hspan.2.1) q' (Grammar.mem_rulesNamed_of_getElem? hq')
    have hx := hF.advance_take hq' (Nat.le_of_lt hlt) hspan hbegin
    exact hF.step hj hx (.predict ⟨r, hq', hd⟩ hq)

theorem Family.Closed.of_exact (hF : F.Closed g accepts tokens)
    (hx : Exact g accepts tokens i x) : F i x := by
  obtain ⟨r, hr, hcursor, hbegin, hspan⟩ := hx
  have hfirst := hF.of_predictable hbegin (Nat.le_trans hspan.1 hspan.2.1) x.rule
    (Grammar.mem_rulesNamed_of_getElem? hr)
  exact hF.advance_take hr hcursor hspan hfirst

end

/-! ## Filled charts -/

namespace Chart

variable {test : TokenTest τ ε} {c : Chart τ}

theorem Filled.exact (hc : Filled g accepts tokens k c) (hx : x ∈ c.itemsAt i) :
    Exact g accepts tokens i x :=
  hc.least (exact_closed g accepts tokens) i x hx

theorem Filled.closed (hc : Filled g accepts tokens (tokens.length + 1) c) :
    c.family.Closed g accepts tokens where
  seed := hc.seed
  step := by
    intro i j x y hi hx hd
    have hdone := hc.done i (Nat.lt_succ_of_le hi) x hx
    cases hd with
    | scan hw ht ha => exact hdone _ _ (.scan hw ht ha)
    | predict hw hr => exact hdone _ _ (.predict hw hr)
    | skip hw hn => exact hdone _ _ (.skip hw hn)
    | @complete name y hf hy hw =>
      rcases Nat.lt_or_eq_of_le (hc.overInput.fits hx).start_le with hstart | hstart
      · exact hdone _ _ (.complete hf ⟨hstart, hy⟩ hw)
      · -- the span is empty: not `x` but the turn of `y` has seen to this
        have hspan := (hc.exact hx).derivesSpan hf
        rw [hstart] at hspan hy
        have hskip := hc.done i (Nat.lt_succ_of_le hi) y hy
        exact hskip _ _ (.skip hw (mem_nullable_of_derivesSpan hspan))

theorem Filled.mem_iff (hc : Filled g accepts tokens (tokens.length + 1) c) :
    x ∈ c.itemsAt i ↔ Exact g accepts tokens i x :=
  ⟨hc.exact, hc.closed.of_exact⟩

/-- The chart of an input and a grammar that are not empty has a position before each token and one
behind the last, and each position holds exactly the items whose rule can begin where they began,
and whose matched components derive the tokens from there to the position. -/
theorem build_exact (htest : test.TotalOn g tokens) (htokens : tokens ≠ [])
    (hrules : g.rules ≠ []) :
    ∃ c, build test g tokens = .ok c ∧ c.length = tokens.length + 1 ∧
      ∀ i ≤ tokens.length, ∀ x : Item, x ∈ c.itemsAt i ↔
        ∃ r, g.rules[x.rule]? = some r ∧ x.cursor ≤ r.components.length ∧ x.start ≤ i ∧
          Predictable g test.Accepts tokens r.name x.start ∧
          g.Derives test.Accepts (r.components.take x.cursor) (tokens.extract x.start i) := by
  obtain ⟨c, hc, hlength, hfilled⟩ := exists_build htest htokens hrules
  refine ⟨c, hc, hlength, fun i hi x => ?_⟩
  rw [hfilled.mem_iff]
  constructor
  · rintro ⟨r, hr, hcursor, hbegin, hstart, -, hw⟩
    exact ⟨r, hr, hcursor, hstart, hbegin, hw⟩
  · rintro ⟨r, hr, hcursor, hstart, hbegin, hw⟩
    exact ⟨r, hr, hcursor, hbegin, hstart, hi, hw⟩

theorem build_exact_hiddenRecursion :
    ∃ c, build Matching.literal.accepts .hiddenRecursion [.value (.text "x")] = .ok c ∧
      ⟨0, 0, 3⟩ ∈ c.itemsAt 1 ∧ ⟨1, 0, 0⟩ ∉ c.itemsAt 1 := by
  have htest :=
    Matching.totalOn (m := .literal) (by decide) Grammar.hiddenRecursion [.value (.text "x")]
  obtain ⟨c, hc, -, hitems⟩ := build_exact htest (by decide) (by decide)
  refine ⟨c, hc, ?_, ?_⟩
  · refine (hitems 1 (by decide) _).2 ⟨_, rfl, by decide, by decide, .start rfl, ?_⟩
    exact Grammar.hiddenRecursion_derives rfl
  · intro h
    obtain ⟨r, hr, -, -, -, hw⟩ := (hitems 1 (by decide) _).1 h
    cases hr
    cases hw

end Chart

end Earley
