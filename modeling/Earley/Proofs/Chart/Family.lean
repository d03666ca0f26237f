/-
Earley.Proofs.Chart.Family — what the three steps ask of the item sets of a chart.

The steps are stated here without charts, orders or loops: `Demands` relates an item at a position
to the items that its step puts at that position or the next one. A family of item sets, one set
for each position, is closed if it has the items that a chart begins with and all that its own items
demand. Fillings of charts are compared with such families.

- `Item.fits_closed`: the items that can occur at a position at all form a closed family.
-/
import Earley.Chart.Build

namespace Earley

variable {τ : Type}

theorem Grammar.mem_rulesNamed_of_getElem? {g : Grammar} {q : Nat} {r : Rule}
    (h : g.rules[q]? = some r) : q ∈ g.rulesNamed r.name := by
  obtain ⟨hlt, rfl⟩ := List.getElem?_eq_some_iff.1 h
  exact mem_rulesNamed.2 ⟨hlt, rfl⟩

/-! ## Items -/

namespace Item

/-- The next symbol of the item is `s`. -/
def Awaits (g : Grammar) (x : Item) (s : Symbol) : Prop :=
  ∃ r, g.rules[x.rule]? = some r ∧ x.next? r = some s

/-- The rule of the item has the name, and all its components are matched. -/
def Finishes (g : Grammar) (x : Item) (name : String) : Prop :=
  ∃ r, g.rules[x.rule]? = some r ∧ x.next? r = none ∧ r.name = name

/-- The item can occur at position `i`: its rule is in the grammar, it did not begin later, and its
dot stands in the rule. -/
structure Fits (g : Grammar) (i : Nat) (x : Item) : Prop where
  start_le : x.start ≤ i
  rule : ∃ r, g.rules[x.rule]? = some r ∧ x.cursor ≤ r.components.length

variable {g : Grammar} {i : Nat} {x : Item}

/-- The next symbol is all that an item awaits. -/
theorem Awaits.unique {s s' : Symbol} (h : x.Awaits g s) (h' : x.Awaits g s') : s = s' := by
  obtain ⟨r, hr, hs⟩ := h
  obtain ⟨r', hr', hs'⟩ := h'
  cases hr.symm.trans hr'
  exact Option.some.inj (hs.symm.trans hs')

theorem Finishes.unique {name name' : String} (h : x.Finishes g name)
    (h' : x.Finishes g name') : name = name' := by
  obtain ⟨r, hr, -, rfl⟩ := h
  obtain ⟨r', hr', -, rfl⟩ := h'
  cases hr.symm.trans hr'
  rfl

theorem Awaits.not_finishes {s : Symbol} (h : x.Awaits g s) (name : String) :
    ¬ x.Finishes g name := by
  rintro ⟨r', hr', hnone, -⟩
  obtain ⟨r, hr, hs⟩ := h
  cases hr.symm.trans hr'
  cases hs.symm.trans hnone

theorem Fits.advanced {s : Symbol} {j : Nat} (hx : x.Awaits g s) (hj : x.start ≤ j) :
    x.advanced.Fits g j := by
  obtain ⟨r, hr, hs⟩ := hx
  obtain ⟨hcursor, -⟩ := List.getElem?_eq_some_iff.1 hs
  exact ⟨hj, r, hr, hcursor⟩

theorem fits_prediction {name : String} {r : Nat} (hr : r ∈ g.rulesNamed name) :
    Fits g i ⟨r, i, 0⟩ := by
  obtain ⟨hlt, -⟩ := Grammar.mem_rulesNamed.1 hr
  exact ⟨Nat.le_refl i, _, List.getElem?_eq_getElem hlt, Nat.zero_le _⟩

end Item

/-! ## Families of item sets -/

/-- One set of items for each position. -/
abbrev Family := Nat → Item → Prop

/-- The items of a chart. -/
def Chart.family (c : Chart τ) : Family := fun i x => x ∈ c.itemsAt i

/-- The step for the item `x` at position `i` of the family `F` puts the item `y` at position `j`:
it scans the token at `i`, begins the rules of a nonterminal, skips a nullable nonterminal, or
completes what waited for a finished rule. -/
inductive Demands (g : Grammar) (accepts : String → τ → Prop) (tokens : List τ) (F : Family)
    (i : Nat) (x : Item) : Nat → Item → Prop where
  | scan {p : String} {t : τ} (hx : x.Awaits g (.terminal p)) (ht : tokens[i]? = some t)
      (ha : accepts p t) : Demands g accepts tokens F i x (i + 1) x.advanced
  | predict {name : String} {r : Nat} (hx : x.Awaits g (.nonterminal name))
      (hr : r ∈ g.rulesNamed name) : Demands g accepts tokens F i x i ⟨r, i, 0⟩
  | skip {name : String} (hx : x.Awaits g (.nonterminal name)) (hn : name ∈ g.nullable) :
      Demands g accepts tokens F i x i x.advanced
  | complete {name : String} {y : Item} (hx : x.Finishes g name) (hy : F x.start y)
      (hw : y.Awaits g (.nonterminal name)) : Demands g accepts tokens F i x i y.advanced

section

variable {g : Grammar} {accepts : String → τ → Prop} {tokens : List τ} {F F' : Family}
  {i j : Nat} {x y : Item}

theorem Demands.mono (hF : ∀ z, F x.start z → F' x.start z)
    (h : Demands g accepts tokens F i x j y) : Demands g accepts tokens F' i x j y := by
  cases h with
  | scan hx ht ha => exact .scan hx ht ha
  | predict hx hr => exact .predict hx hr
  | skip hx hn => exact .skip hx hn
  | complete hx hy hw => exact .complete hx (hF _ hy) hw

/-! What an item demands, by its next symbol. -/

theorem demands_iff_of_terminal {p : String} (hx : x.Awaits g (.terminal p)) :
    Demands g accepts tokens F i x j y ↔
      ∃ t, tokens[i]? = some t ∧ accepts p t ∧ j = i + 1 ∧ y = x.advanced := by
  constructor
  · intro h
    cases h with
    | scan hx' ht ha =>
      cases hx.unique hx'
      exact ⟨_, ht, ha, rfl, rfl⟩
    | predict hx' _ | skip hx' _ => cases hx.unique hx'
    | complete hx' _ _ => exact absurd hx' (hx.not_finishes _)
  · rintro ⟨t, ht, ha, rfl, rfl⟩
    exact .scan hx ht ha

theorem demands_iff_of_nonterminal {name : String} (hx : x.Awaits g (.nonterminal name)) :
    Demands g accepts tokens F i x j y ↔
      j = i ∧ ((∃ r ∈ g.rulesNamed name, y = ⟨r, i, 0⟩) ∨
        name ∈ g.nullable ∧ y = x.advanced) := by
  constructor
  · intro h
    cases h with
    | scan hx' _ _ => cases hx.unique hx'
    | predict hx' hr =>
      cases hx.unique hx'
      exact ⟨rfl, .inl ⟨_, hr, rfl⟩⟩
    | skip hx' hn =>
      cases hx.unique hx'
      exact ⟨rfl, .inr ⟨hn, rfl⟩⟩
    | complete hx' _ _ => exact absurd hx' (hx.not_finishes _)
  · rintro ⟨rfl, ⟨r, hr, rfl⟩ | ⟨hn, rfl⟩⟩
    · exact .predict hx hr
    · exact .skip hx hn

theorem demands_iff_of_finishes {name : String} (hx : x.Finishes g name) :
    Demands g accepts tokens F i x j y ↔
      j = i ∧ ∃ z, F x.start z ∧ z.Awaits g (.nonterminal name) ∧ y = z.advanced := by
  constructor
  · intro h
    cases h with
    | scan hx' _ _ | predict hx' _ | skip hx' _ => exact absurd hx (hx'.not_finishes _)
    | complete hx' hy hw =>
      cases hx.unique hx'
      exact ⟨rfl, _, hy, hw, rfl⟩
  · rintro ⟨rfl, z, hz, hw, rfl⟩
    exact .complete hx hz hw

end

/-- The family has the items that a chart begins with, and whatever its items at the positions of
the input demand. -/
structure Family.Closed (g : Grammar) (accepts : String → τ → Prop) (tokens : List τ)
    (F : Family) : Prop where
  seed : ∀ x ∈ Chart.seeds g, F 0 x
  step : ∀ {i j : Nat} {x y : Item}, i ≤ tokens.length → F i x →
    Demands g accepts tokens F i x j y → F j y

theorem Chart.mem_predictions {g : Grammar} {i : Nat} {name : String} {x : Item} :
    x ∈ predictions g i name ↔ ∃ r ∈ g.rulesNamed name, x = ⟨r, i, 0⟩ := by
  simp [predictions, eq_comm]

theorem Chart.mem_seeds {g : Grammar} {x : Item} :
    x ∈ seeds g ↔ ∃ name, g.start? = some name ∧ ∃ r ∈ g.rulesNamed name, x = ⟨r, 0, 0⟩ := by
  unfold seeds
  split
  next name hs => simp [hs, mem_predictions]
  next hs => simp [hs]

/-- Every item of the least closed family fits where it stands. -/
theorem Item.fits_closed (g : Grammar) (accepts : String → τ → Prop) (tokens : List τ) :
    Family.Closed g accepts tokens fun i x => x.Fits g i where
  seed := by
    intro x hx
    obtain ⟨name, -, r, hr, rfl⟩ := Chart.mem_seeds.1 hx
    exact fits_prediction hr
  step := by
    intro i j x y _ hx hd
    cases hd with
    | scan hw _ _ => exact .advanced hw (Nat.le_succ_of_le hx.start_le)
    | predict _ hr => exact fits_prediction hr
    | skip hw _ => exact .advanced hw hx.start_le
    | complete _ hy hw => exact .advanced hw (Nat.le_trans hy.start_le hx.start_le)

end Earley
