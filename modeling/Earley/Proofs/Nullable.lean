/-
Earley.Proofs.Nullable — the computed nullable names are the names that derive the empty sequence.

A pass over the rules only appends names, each at most once and each the name of a rule, so that
the passes come to an end within their bound (`exists_iterate_nullableFrom`). Whatever is appended
derives the empty sequence (`derives_nil_of_mem_nullable`), and a set of names that no pass enlarges
has every name that does (`isNullable_of_derives_nil`).

- `mem_nullable_iff` is the two directions as one statement.
- `nullable_exact`: the passes end with the names that have a finite derivation of the empty
  sequence (`Vanishes`), in whatever order the rules are.
-/
import Earley.Grammar.Nullable
import Earley.Proofs.Derivation
import Mathlib.Data.List.Perm.Subperm
import Mathlib.Logic.Function.Iterate

namespace Earley.Grammar

variable {τ : Type} {g : Grammar} {accepts : String → τ → Prop}

/-! ## Passes -/

/-- The names that a pass has found so far: each once, each the name of a rule. -/
structure Found (g : Grammar) (known : List String) : Prop where
  nodup : known.Nodup
  subset : known ⊆ g.rules.map (·.name)

/-- No rule has components that are all nullable and a name that is not. -/
def NullableClosed (g : Grammar) (known : List String) : Prop :=
  ∀ r ∈ g.rules, r.components.all (·.isNullable known) = true → r.name ∈ known

theorem isNullable_mono {known known' : List String} (h : known ⊆ known') {s : Symbol}
    (hs : s.isNullable known = true) : s.isNullable known' = true := by
  cases s with
  | terminal => cases hs
  | nonterminal name =>
    simp only [Symbol.isNullable, decide_eq_true_eq] at hs ⊢
    exact h hs

theorem addNullable_extends (known : List String) (r : Rule) : known <+: addNullable known r := by
  unfold addNullable
  split
  · exact List.prefix_rfl
  · split
    · exact List.prefix_append ..
    · exact List.prefix_rfl

/-- The name of a rule is known once the rule has had its turn, if its components were nullable
before. -/
theorem name_mem_addNullable {known : List String} {r : Rule}
    (h : r.components.all (·.isNullable known) = true) : r.name ∈ addNullable known r := by
  unfold addNullable
  split
  · assumption
  · simp

theorem Found.addNullable {known : List String} {r : Rule} (h : g.Found known)
    (hr : r ∈ g.rules) : g.Found (addNullable known r) := by
  unfold Grammar.addNullable
  split
  · exact h
  next hnew =>
    split
    · refine ⟨?_, ?_⟩
      · rw [List.nodup_append]
        refine ⟨h.nodup, by simp, ?_⟩
        rintro a ha b hb rfl
        exact hnew (List.mem_singleton.1 hb ▸ ha)
      · intro name hname
        rcases List.mem_append.1 hname with hname | hname
        · exact h.subset hname
        · exact List.mem_map.2 ⟨r, hr, (List.mem_singleton.1 hname).symm⟩
    · exact h

/-- The same for a part of the rules, gone over one after the other. -/
theorem foldl_addNullable_extends (rules : List Rule) (known : List String) :
    known <+: rules.foldl addNullable known := by
  induction rules generalizing known with
  | nil => exact List.prefix_rfl
  | cons r rules ih => exact (addNullable_extends known r).trans (ih _)

theorem Found.foldl_addNullable {rules : List Rule} (hrules : rules ⊆ g.rules)
    {known : List String} (h : g.Found known) :
    g.Found (rules.foldl Grammar.addNullable known) := by
  induction rules generalizing known with
  | nil => exact h
  | cons r rules ih =>
    obtain ⟨hr, hrules⟩ := List.cons_subset.1 hrules
    exact ih hrules (h.addNullable hr)

theorem name_mem_foldl_addNullable {rules : List Rule} {r : Rule} (hr : r ∈ rules)
    {known : List String} (h : r.components.all (·.isNullable known) = true) :
    r.name ∈ rules.foldl addNullable known := by
  induction rules generalizing known with
  | nil => cases hr
  | cons r' rules ih =>
    rcases List.mem_cons.1 hr with rfl | hr
    · exact (foldl_addNullable_extends rules _).subset (name_mem_addNullable h)
    · refine ih hr (List.all_eq_true.2 fun s hs => ?_)
      exact isNullable_mono (addNullable_extends known r').subset (List.all_eq_true.1 h s hs)

/-! ## The end of the passes -/

theorem Found.length_le {known : List String} (h : g.Found known) :
    known.length ≤ g.rules.length := by
  simpa using (h.nodup.subperm h.subset).length_le

theorem Found.nullablePass {known : List String} (h : g.Found known) :
    g.Found (g.nullablePass known) :=
  h.foldl_addNullable (List.Subset.refl _)

theorem Found.iterate {known : List String} (h : g.Found known) (n : Nat) :
    g.Found (g.nullablePass^[n] known) :=
  Function.Iterate.rec g.Found h (fun _ hk => hk.nullablePass) n

theorem found_nil (g : Grammar) : g.Found [] := ⟨List.nodup_nil, List.nil_subset _⟩

/-- A pass that finds nothing leaves nothing to find. -/
theorem nullableClosed_of_eq {known : List String} (h : g.nullablePass known = known) :
    g.NullableClosed known := by
  intro r hr hall
  rw [← h]
  exact name_mem_foldl_addNullable hr hall

/-- The passes are repeated up to the first one that finds nothing. Every pass before it finds a
name, so there are no more of them than rules whose name is still to be found. -/
theorem exists_iterate_nullableFrom {fuel : Nat} {known : List String} (h : g.Found known)
    (hfuel : g.rules.length ≤ fuel + known.length) :
    ∃ n, n + known.length ≤ g.rules.length ∧
      g.nullableFrom fuel known = g.nullablePass^[n] known ∧
      g.nullablePass (g.nullablePass^[n] known) = g.nullablePass^[n] known ∧
      ∀ m < n, g.nullablePass (g.nullablePass^[m] known) ≠ g.nullablePass^[m] known := by
  induction fuel generalizing known with
  | zero =>
    have hfull : (g.nullablePass known).length ≤ known.length := by
      have hle := h.nullablePass.length_le
      omega
    have hsame := (foldl_addNullable_extends g.rules known).eq_of_length_le hfull
    exact ⟨0, by simpa using h.length_le, rfl, hsame.symm, fun m hm => absurd hm m.not_lt_zero⟩
  | succ fuel ih =>
    simp only [nullableFrom]
    split
    next hlength =>
      have hsame := (foldl_addNullable_extends g.rules known).eq_of_length hlength.symm
      exact ⟨0, by simpa using h.length_le, rfl, hsame.symm, fun m hm => absurd hm m.not_lt_zero⟩
    next hlength =>
      have hle : known.length ≤ (g.nullablePass known).length :=
        (foldl_addNullable_extends g.rules known).length_le
      obtain ⟨n, hn, hend, hstable, hgrows⟩ := ih h.nullablePass (by omega)
      refine ⟨n + 1, by omega, hend, hstable, fun m hm => ?_⟩
      cases m with
      | zero => exact fun hsame => hlength (congrArg List.length hsame)
      | succ m => exact hgrows m (by omega)

/-- From nothing on, the passes end with what `nullable` gives. -/
theorem exists_iterate_nullable (g : Grammar) :
    ∃ n ≤ g.rules.length, g.nullable = g.nullablePass^[n] [] ∧
      g.nullablePass g.nullable = g.nullable ∧
      ∀ m < n, g.nullablePass (g.nullablePass^[m] []) ≠ g.nullablePass^[m] [] := by
  have hfuel : g.rules.length ≤ g.rules.length + ([] : List String).length := Nat.le_refl _
  obtain ⟨n, hn, hend, hstable, hgrows⟩ := exists_iterate_nullableFrom (found_nil g) hfuel
  have hend : g.nullable = g.nullablePass^[n] [] := hend
  exact ⟨n, hn, hend, by rw [hend, hstable], hgrows⟩

theorem nullable_closed (g : Grammar) : g.NullableClosed g.nullable := by
  obtain ⟨-, -, -, hstable, -⟩ := exists_iterate_nullable g
  exact nullableClosed_of_eq hstable

theorem nodup_nullable (g : Grammar) : g.nullable.Nodup := by
  obtain ⟨n, -, hend, -, -⟩ := exists_iterate_nullable g
  exact hend ▸ ((found_nil g).iterate n).nodup

/-! ## The empty sequence -/

/-- Every known name derives the empty sequence. -/
def KnownDerives (g : Grammar) (accepts : String → τ → Prop) (known : List String) : Prop :=
  ∀ name ∈ known, g.Derives accepts [.nonterminal name] []

theorem KnownDerives.of_all_isNullable {known : List String} (h : g.KnownDerives accepts known)
    {ss : List Symbol} (hall : ∀ s ∈ ss, s.isNullable known = true) :
    g.Derives accepts ss [] := by
  induction ss with
  | nil => exact .nil
  | cons s ss ih =>
    have hs := hall s (by simp)
    have hss := ih fun t ht => hall t (by simp [ht])
    cases s with
    | terminal => cases hs
    | nonterminal name => exact (h name (by simpa [Symbol.isNullable] using hs)).append hss

theorem KnownDerives.addNullable {known : List String} (h : g.KnownDerives accepts known)
    {r : Rule} (hr : r ∈ g.rules) : g.KnownDerives accepts (addNullable known r) := by
  unfold Grammar.addNullable
  split
  · exact h
  · split
    next hall =>
      intro name hname
      rcases List.mem_append.1 hname with hname | hname
      · exact h name hname
      · rw [List.mem_singleton.1 hname]
        exact derives_nonterminal_iff.2
          ⟨r, hr, rfl, h.of_all_isNullable (List.all_eq_true.1 hall)⟩
    · exact h

theorem KnownDerives.nullableFrom {fuel : Nat} {known : List String}
    (h : g.KnownDerives accepts known) : g.KnownDerives accepts (g.nullableFrom fuel known) := by
  induction fuel generalizing known with
  | zero => exact h
  | succ fuel ih =>
    simp only [Grammar.nullableFrom]
    split
    · exact h
    · refine ih ?_
      exact List.foldlRecOn g.rules Grammar.addNullable h fun _ hk _ hr => hk.addNullable hr

theorem derives_nil_of_mem_nullable {name : String} (h : name ∈ g.nullable) :
    g.Derives accepts [.nonterminal name] [] :=
  KnownDerives.nullableFrom (fun _ hmem => absurd hmem List.not_mem_nil) name h

theorem isNullable_of_derives_nil {ss : List Symbol} (h : g.Derives accepts ss []) :
    ∀ s ∈ ss, s.isNullable g.nullable = true := by
  generalize hw : ([] : List τ) = w at h
  induction h with
  | nil => simp
  | terminal => cases hw
  | rule hr _ _ ihu ihv =>
    obtain ⟨rfl, rfl⟩ := List.append_eq_nil_iff.1 hw.symm
    intro s hs
    rcases List.mem_cons.1 hs with rfl | hs
    · exact decide_eq_true (nullable_closed g _ hr (List.all_eq_true.2 (ihu rfl)))
    · exact ihv rfl s hs

/-- The computed names are exactly those that derive the empty sequence, whatever the terminals
accept. -/
theorem mem_nullable_iff {name : String} :
    name ∈ g.nullable ↔ g.Derives accepts [.nonterminal name] [] := by
  constructor
  · exact derives_nil_of_mem_nullable
  · intro h
    exact of_decide_eq_true (isNullable_of_derives_nil h (.nonterminal name) (by simp))

/-! ## Finite derivations -/

/-- A name has a finite derivation of the empty sequence: some rule of the name has only
nonterminals as components, and each of these has such a derivation. -/
inductive Vanishes (g : Grammar) : String → Prop where
  | rule {r : Rule} {names : List String} (hr : r ∈ g.rules)
      (hcomponents : r.components = names.map .nonterminal)
      (hnames : ∀ name ∈ names, Vanishes g name) : Vanishes g r.name

/-- What vanishes still does when there are more rules, in whatever order. -/
theorem Vanishes.mono {g' : Grammar} {name : String} (hrules : g.rules ⊆ g'.rules)
    (h : g.Vanishes name) : g'.Vanishes name := by
  induction h with
  | rule hr hcomponents _ ih => exact .rule (hrules hr) hcomponents ih

theorem Vanishes.derives_nil {name : String} (h : g.Vanishes name) :
    g.Derives accepts [.nonterminal name] [] := by
  induction h with
  | @rule r names hr hcomponents _ ih =>
    have hknown : g.KnownDerives accepts names := ih
    have hnil : g.Derives accepts r.components [] :=
      hknown.of_all_isNullable (by simp [hcomponents, Symbol.isNullable])
    exact derives_nonterminal_iff.2 ⟨r, hr, rfl, hnil⟩

/-- Symbols that derive the empty sequence together are nonterminals, and each of them vanishes. -/
theorem exists_vanishes_of_derives_nil {ss : List Symbol} (h : g.Derives accepts ss []) :
    ∃ names : List String, ss = names.map .nonterminal ∧ ∀ name ∈ names, g.Vanishes name := by
  generalize hw : ([] : List τ) = w at h
  induction h with
  | nil => exact ⟨[], rfl, by simp⟩
  | terminal => cases hw
  | @rule r ss u v hr _ _ ihu ihv =>
    obtain ⟨rfl, rfl⟩ := List.append_eq_nil_iff.1 hw.symm
    obtain ⟨inner, hinner, hvanish⟩ := ihu rfl
    obtain ⟨names, rfl, hnames⟩ := ihv rfl
    exact ⟨r.name :: names, rfl, List.forall_mem_cons.2 ⟨.rule hr hinner hvanish, hnames⟩⟩

theorem vanishes_iff_derives_nil {name : String} :
    g.Vanishes name ↔ g.Derives accepts [.nonterminal name] [] := by
  refine ⟨Vanishes.derives_nil, fun h => ?_⟩
  obtain ⟨names, heq, hnames⟩ := exists_vanishes_of_derives_nil h
  obtain ⟨name', rfl, hname⟩ := List.map_eq_singleton_iff.1 heq.symm
  cases hname
  exact hnames _ (by simp)

theorem mem_nullable_iff_vanishes {name : String} : name ∈ g.nullable ↔ g.Vanishes name := by
  -- derivations of the empty sequence ask nothing of the terminals
  have hderives : name ∈ g.nullable ↔
      g.Derives (fun _ (_ : Unit) => False) [.nonterminal name] [] := mem_nullable_iff
  exact hderives.trans vanishes_iff_derives_nil.symm

/-- The passes over the rules come to an end, with the first that finds nothing; before it there are
at most as many as there are rules. What has been found then, each once, are the names with a finite
derivation of the empty sequence, which are those that derive it whatever the terminals accept. So
neither the order of the rules nor their repetition makes a difference. -/
theorem nullable_exact (g : Grammar) :
    (∃ n ≤ g.rules.length, g.nullable = g.nullablePass^[n] [] ∧
      g.nullablePass g.nullable = g.nullable ∧
      ∀ m < n, g.nullablePass (g.nullablePass^[m] []) ≠ g.nullablePass^[m] []) ∧
    g.nullable.Nodup ∧
    (∀ name, name ∈ g.nullable ↔ g.Vanishes name) ∧
    (∀ (τ : Type) (accepts : String → τ → Prop) (name : String),
      name ∈ g.nullable ↔ g.Derives accepts [.nonterminal name] []) ∧
    ∀ g' : Grammar, (∀ r, r ∈ g'.rules ↔ r ∈ g.rules) → g'.nullable.Perm g.nullable := by
  refine ⟨exists_iterate_nullable g, nodup_nullable g, fun name => mem_nullable_iff_vanishes,
    fun τ accepts name => mem_nullable_iff, fun g' hrules => ?_⟩
  refine (List.perm_ext_iff_of_nodup (nodup_nullable g') (nodup_nullable g)).2 fun name => ?_
  rw [mem_nullable_iff_vanishes, mem_nullable_iff_vanishes]
  exact ⟨.mono fun r hr => (hrules r).1 hr, .mono fun r hr => (hrules r).2 hr⟩

/-- With its rules the other way round, the same names are found in another order. -/
theorem nullable_exact_reversed :
    hiddenRecursion.nullable = ["S", "A"] ∧
      (Grammar.mk hiddenRecursion.rules.reverse).nullable = ["A", "S"] ∧
      (Grammar.mk hiddenRecursion.rules.reverse).nullable.Perm hiddenRecursion.nullable := by
  obtain ⟨-, -, -, -, hperm⟩ := nullable_exact hiddenRecursion
  exact ⟨by decide, by decide, hperm _ fun r => List.mem_reverse⟩

end Earley.Grammar
