/-
Earley.Proofs.Chart.Completion — what completion makes of any chart.

All that is asked of the chart is that the rules of its items are in the grammar. Completion
advances the items that wait where the finished rule began. If that is the position that is added
to, what is added may wait in turn, and then it is advanced as well. So there is a least set that
has to be added (`Forced`), and one call adds this set and no more.

- `exists_complete_iff`: the items after a completion are the old ones and those that are forced.
- `complete_closed_least`: completion ends with a closed position, it is the least one, and to
  complete again adds nothing.
-/
import Earley.Proofs.Chart.Course

namespace Earley.Chart

variable {τ ε : Type} {g : Grammar} {c c' : Chart τ} {name : String} {start i : Nat} {x y : Item}
  {r : Rule}

/-! ## What has to be added -/

/-- What the completion of a rule of that name, begun at position `start`, has to add to position
`i`: the items of `start` that wait for the name, advanced, and if both positions are one, also
those that wait among the items to be added. -/
inductive Forced (g : Grammar) (c : Chart τ) (name : String) (start i : Nat) : Item → Prop where
  | waiting {y : Item} (hy : y ∈ c.itemsAt start) (hw : y.Awaits g (.nonterminal name)) :
      Forced g c name start i y.advanced
  | chain {y : Item} (hsame : start = i) (hy : Forced g c name start i y)
      (hw : y.Awaits g (.nonterminal name)) : Forced g c name start i y.advanced

theorem Forced.known (h : Forced g c name start i y) : ∃ r, g.rules[y.rule]? = some r := by
  cases h with
  | waiting _ hw | chain _ _ hw =>
    obtain ⟨r, hr, -⟩ := hw
    exact ⟨r, hr⟩

/-- Whatever waits at the origin of the completion is advanced at its target. -/
def Completed (g : Grammar) (c : Chart τ) (name : String) (start i : Nat) : Prop :=
  ∀ y ∈ c.itemsAt start, y.Awaits g (.nonterminal name) → y.advanced ∈ c.itemsAt i

/-- A chart that has grown to a completed one has all that had to be added. -/
theorem Forced.mem (hext : c.Extends c') (hc' : Completed g c' name start i)
    (h : Forced g c name start i y) : y ∈ c'.itemsAt i := by
  induction h with
  | waiting hy hw => exact hc' _ (hext.mem hy) hw
  | chain hsame _ hw ih => exact hc' _ (hsame ▸ ih) hw

/-! ## One call -/

theorem completed_of_complete (hr : g.rules[x.rule]? = some r)
    (h : c.complete (ε := ε) g i x = .ok c') : Completed g c' r.name x.start i := by
  obtain ⟨r', o, e, s, hr', ho, he, hs, rfl⟩ := eq_of_complete h
  cases hr.symm.trans hr'
  intro y hy hw
  rw [itemsAt_modify he, if_pos rfl]
  rw [itemsAt_modify he] at hy
  split at hy
  next hsame =>
    -- one position is read and written
    rw [← hsame, he] at ho
    cases ho
    rw [beq_iff_eq.2 hsame.symm] at hs
    exact advanced_mem_of_live hs (fun z hz _ => .inl hz) hy hw
  next =>
    exact advanced_mem_advanceWaiting hs (itemsAt_of_at? ho ▸ hy) hw

theorem forced_of_complete (hr : g.rules[x.rule]? = some r)
    (h : c.complete (ε := ε) g i x = .ok c') :
    ∀ y ∈ c'.itemsAt i, y ∈ c.itemsAt i ∨ Forced g c r.name x.start i y := by
  obtain ⟨r', o, e, s, hr', ho, he, hs, rfl⟩ := eq_of_complete h
  cases hr.symm.trans hr'
  rw [itemsAt_modify he, if_pos rfl]
  refine advanceWaiting_induction hs
    (Q := fun z => z ∈ c.itemsAt x.start ∨ x.start = i ∧ Forced g c r.name x.start i z) ?_ ?_ ?_ ?_
  · intro z hz
    exact .inl (itemsAt_of_at? he ▸ hz)
  · intro z hz
    exact .inl (itemsAt_of_at? ho ▸ hz)
  · rintro z (hz | ⟨hsame, hz⟩) hw
    · exact .inr (.waiting hz hw)
    · exact .inr (.chain hsame hz hw)
  · rintro hlive z (hz | hz)
    · exact .inl (beq_iff_eq.1 hlive ▸ hz)
    · exact .inr ⟨beq_iff_eq.1 hlive, hz⟩

/-- A call succeeds, changes no position but its own, and leaves there what was there before and
what had to be added. -/
theorem exists_complete_iff (hc : c.Known g) (hr : g.rules[x.rule]? = some r) (hi : i < c.length)
    (hstart : x.start < c.length) :
    ∃ c', c.complete (ε := ε) g i x = .ok c' ∧ c.Extends c' ∧
      (∀ j, j ≠ i → c'.at? j = c.at? j) ∧ Completed g c' r.name x.start i ∧
      ∀ y, y ∈ c'.itemsAt i ↔ y ∈ c.itemsAt i ∨ Forced g c r.name x.start i y := by
  obtain ⟨c', hcomplete⟩ := exists_complete_of_rule (ε := ε) hc hr hi hstart
  have hcompleted := completed_of_complete hr hcomplete
  have hforced := forced_of_complete hr hcomplete
  obtain ⟨_, _, e, s, -, -, he, hs, rfl⟩ := eq_of_complete hcomplete
  have hext : c.Extends (c.modify i fun _ => s) := extends_modify he (prefix_advanceWaiting hs)
  refine ⟨_, hcomplete, hext, fun j hj => by simp [at?_modify, hj.symm], hcompleted, fun y => ?_⟩
  exact ⟨hforced y, fun h => h.elim hext.mem (Forced.mem hext hcompleted)⟩

/-- The rules stay known. -/
theorem Known.of_complete (hc : c.Known g) (hr : g.rules[x.rule]? = some r)
    (h : c.complete (ε := ε) g i x = .ok c') : c'.Known g := by
  have hforced := forced_of_complete hr h
  obtain ⟨-, -, e, s, -, -, he, -, rfl⟩ := eq_of_complete h
  intro j y hy
  by_cases hj : i = j
  · subst hj
    exact (hforced y hy).elim (hc i y) Forced.known
  · rw [itemsAt_modify he, if_neg hj] at hy
    exact hc j y hy

/-- On every chart whose items have known rules, and for every item with a known rule that began at
a position of the chart, completing ends: the machine that asks the items of that position one by
one, those that are added meanwhile included, comes to the end of them. Then every item there that
waits for the name of the rule has been advanced; the position that is added to has what it had, in
the same places, and what had to be added, and the others are as they were. Completing once more
adds nothing. -/
theorem complete_closed_least (hc : c.Known g) (hr : g.rules[x.rule]? = some r) (hi : i < c.length)
    (hstart : x.start < c.length) :
    ∃ c', c.complete (ε := ε) g i x = .ok c' ∧
      (∀ (test : TokenTest τ ε) j source n turns,
        Reaches test g ⟨.asking i j r.name x.start 0, source, c, n, turns⟩
          ⟨.turn i (j + 1), source, c', n, turns⟩) ∧
      c.Extends c' ∧ (∀ j, j ≠ i → c'.at? j = c.at? j) ∧
      (∀ y ∈ c'.itemsAt x.start, y.Awaits g (.nonterminal r.name) →
        y.advanced ∈ c'.itemsAt i) ∧
      (∀ y, y ∈ c'.itemsAt i ↔ y ∈ c.itemsAt i ∨ Forced g c r.name x.start i y) ∧
      c'.complete (ε := ε) g i x = .ok c' := by
  obtain ⟨c', hcomplete, hext, hframe, hcompleted, hiff⟩ :=
    exists_complete_iff (ε := ε) hc hr hi hstart
  refine ⟨c', hcomplete, fun test j source n turns => reaches_of_complete_of_rule hr hcomplete,
    hext, hframe, hcompleted, hiff, ?_⟩
  have hlength := hext.length_eq
  obtain ⟨c'', hcomplete', hext', hframe', -, hiff'⟩ :=
    exists_complete_iff (ε := ε) (hc.of_complete hr hcomplete) hr (hlength ▸ hi) (hlength ▸ hstart)
  -- what the second call would have to add is there
  have hsame : c'' = c' := hext'.eq_of_subset fun j y hy => by
    by_cases hj : j = i
    · subst hj
      exact ((hiff' y).1 hy).elim id (Forced.mem (.refl c') hcompleted)
    · rwa [itemsAt_congr (hframe' j hj)] at hy
  rwa [hsame] at hcomplete'

/-- A rule with the same nonterminal twice, and a rule that derives nothing. -/
def twice : Grammar := ⟨[⟨"S", [.nonterminal "A", .nonterminal "A"]⟩, ⟨"A", []⟩]⟩

/-- The item that waits twice is advanced twice by one call, and by no later one. -/
theorem complete_closed_least_twice :
    ∃ c', complete (τ := Char) (ε := Empty) twice ⟨#[⟨none, .ofList [⟨0, 0, 0⟩, ⟨1, 0, 0⟩]⟩]⟩ 0
        ⟨1, 0, 0⟩ = .ok c' ∧
      ⟨0, 0, 1⟩ ∈ c'.itemsAt 0 ∧ ⟨0, 0, 2⟩ ∈ c'.itemsAt 0 ∧
      c'.complete (ε := Empty) twice 0 ⟨1, 0, 0⟩ = .ok c' := by
  obtain ⟨c', hcomplete, -, hext, -, hclosed, -, hagain⟩ :=
    complete_closed_least (τ := Char) (ε := Empty) (g := twice)
      (c := ⟨#[⟨none, .ofList [⟨0, 0, 0⟩, ⟨1, 0, 0⟩]⟩]⟩) (i := 0) (x := ⟨1, 0, 0⟩)
      (by decide +kernel) rfl (by decide +kernel) (by decide +kernel)
  have hfirst : ⟨0, 0, 1⟩ ∈ c'.itemsAt 0 :=
    hclosed ⟨0, 0, 0⟩ (hext.mem (by decide +kernel)) ⟨_, rfl, rfl⟩
  have hsecond : ⟨0, 0, 2⟩ ∈ c'.itemsAt 0 := hclosed ⟨0, 0, 1⟩ hfirst ⟨_, rfl, rfl⟩
  exact ⟨c', hcomplete, hfirst, hsecond, hagain⟩

end Earley.Chart
