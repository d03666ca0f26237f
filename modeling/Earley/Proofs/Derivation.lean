/-
Earley.Proofs.Derivation — the token sequences that a grammar derives.

`Grammar.Derives` is the reference that recognition is measured against. It takes what a terminal
accepts as an argument, so that one relation serves tokens of every type, and also sequences of
terminals themselves.

- A terminal derives one token (`derives_terminal_iff`), a name whatever the components of one of
  its rules derive (`derives_nonterminal_iff`), and a sequence of symbols the concatenations
  (`Derives.append`).
- `Grammar.DerivesSpan` says the same of the part of an input between two positions.
-/
import Earley.Grammar.Basic

namespace Earley

variable {τ : Type}

/-- A sequence of symbols derives a sequence of tokens: each terminal one token that it accepts,
each nonterminal what the components of some rule of its name derive, in sequence. -/
inductive Grammar.Derives (g : Grammar) (accepts : String → τ → Prop) :
    List Symbol → List τ → Prop where
  | nil : Derives g accepts [] []
  | terminal {p : String} {t : τ} {ss : List Symbol} {w : List τ} (ht : accepts p t)
      (hw : Derives g accepts ss w) : Derives g accepts (.terminal p :: ss) (t :: w)
  | rule {r : Rule} {ss : List Symbol} {u v : List τ} (hr : r ∈ g.rules)
      (hu : Derives g accepts r.components u) (hv : Derives g accepts ss v) :
      Derives g accepts (.nonterminal r.name :: ss) (u ++ v)

namespace Grammar

variable {g : Grammar} {accepts : String → τ → Prop}

/-! ## Single symbols and concatenation -/

@[simp] theorem derives_nil_iff {w : List τ} : g.Derives accepts [] w ↔ w = [] := by
  constructor
  · intro h
    cases h
    rfl
  · rintro rfl
    exact .nil

@[simp] theorem derives_terminal_iff {p : String} {w : List τ} :
    g.Derives accepts [.terminal p] w ↔ ∃ t, accepts p t ∧ w = [t] := by
  constructor
  · intro h
    cases h with
    | terminal ht hw =>
      cases hw
      exact ⟨_, ht, rfl⟩
  · rintro ⟨t, ht, rfl⟩
    exact .terminal ht .nil

theorem derives_nonterminal_iff {name : String} {w : List τ} :
    g.Derives accepts [.nonterminal name] w ↔
      ∃ r ∈ g.rules, r.name = name ∧ g.Derives accepts r.components w := by
  constructor
  · intro h
    generalize hss : [Symbol.nonterminal name] = ss at h
    cases h with
    | nil => simp at hss
    | terminal => simp at hss
    | rule hr hu hv =>
      cases hss
      cases hv
      exact ⟨_, hr, rfl, by simpa using hu⟩
  · rintro ⟨r, hr, rfl, hw⟩
    simpa using Derives.rule hr hw .nil

theorem Derives.append {xs ys : List Symbol} {u v : List τ} (hu : g.Derives accepts xs u)
    (hv : g.Derives accepts ys v) : g.Derives accepts (xs ++ ys) (u ++ v) := by
  induction hu with
  | nil => exact hv
  | terminal ht _ ih => exact .terminal ht ih
  | rule hr hu _ _ ih =>
    rw [List.append_assoc]
    exact .rule hr hu ih

/-! ## Spans of an input -/

/-- The symbols derive the part of the input from position `k` up to position `j`. -/
def DerivesSpan (g : Grammar) (accepts : String → τ → Prop) (tokens : List τ) (ss : List Symbol)
    (k j : Nat) : Prop :=
  k ≤ j ∧ j ≤ tokens.length ∧ g.Derives accepts ss (tokens.extract k j)

variable {tokens : List τ} {ss : List Symbol}

/-- A span stands in the input between what comes before it and what comes after it. -/
theorem exists_of_derivesSpan {k j : Nat} (h : g.DerivesSpan accepts tokens ss k j) :
    ∃ u w v, tokens = u ++ w ++ v ∧ u.length = k ∧ k + w.length = j ∧
      g.Derives accepts ss w := by
  obtain ⟨hkj, hj, hw⟩ := h
  refine ⟨tokens.take k, tokens.extract k j, tokens.drop j, ?_, ?_, ?_, hw⟩
  · have htake : tokens.take j = tokens.take k ++ tokens.extract k j := by
      rw [List.extract_eq_take_drop, ← List.take_add, Nat.add_sub_cancel' hkj]
    rw [← htake, List.take_append_drop]
  · rw [List.length_take]
    omega
  · rw [List.extract_eq_take_drop, List.length_take, List.length_drop]
    omega

theorem derivesSpan_of_eq_append {u w v : List τ} (h : tokens = u ++ w ++ v)
    (hw : g.Derives accepts ss w) :
    g.DerivesSpan accepts tokens ss u.length (u.length + w.length) := by
  subst h
  refine ⟨by omega, by simp, ?_⟩
  simpa [List.extract_eq_take_drop] using hw

/-- The whole input is the span from its first position to its last. -/
theorem derivesSpan_whole_iff :
    g.DerivesSpan accepts tokens ss 0 tokens.length ↔ g.Derives accepts ss tokens := by
  simp [DerivesSpan, List.extract_eq_take_drop]

theorem derivesSpan_nil {k : Nat} (hk : k ≤ tokens.length) :
    g.DerivesSpan accepts tokens [] k k :=
  ⟨Nat.le_refl k, hk, by simp [List.extract_eq_take_drop]⟩

/-- Spans that meet derive together what their symbols do in sequence. -/
theorem DerivesSpan.append {ss' : List Symbol} {k j i : Nat}
    (h : g.DerivesSpan accepts tokens ss k j) (h' : g.DerivesSpan accepts tokens ss' j i) :
    g.DerivesSpan accepts tokens (ss ++ ss') k i := by
  obtain ⟨u, w, v, rfl, rfl, rfl, hw⟩ := exists_of_derivesSpan h
  obtain ⟨u', w', v', he, hu', rfl, hw'⟩ := exists_of_derivesSpan h'
  rw [← List.length_append] at hu'
  have hu : u' = u ++ w := (List.append_inj_left (by simpa using he) hu'.symm).symm
  have hv : v = w' ++ v' := List.append_inj_right (by simpa using he) hu'.symm
  subst hu hv
  have hwhole : u ++ w ++ (w' ++ v') = u ++ (w ++ w') ++ v' := by simp
  rw [Nat.add_assoc, ← List.length_append]
  exact derivesSpan_of_eq_append hwhole (hw.append hw')

/-- A terminal derives the span of a token that it accepts. -/
theorem derivesSpan_terminal {p : String} {t : τ} {k : Nat} (ht : tokens[k]? = some t)
    (ha : accepts p t) : g.DerivesSpan accepts tokens [.terminal p] k (k + 1) := by
  obtain ⟨hk, rfl⟩ := List.getElem?_eq_some_iff.1 ht
  refine ⟨by omega, hk, derives_terminal_iff.2 ⟨_, ha, ?_⟩⟩
  simp [List.extract_eq_take_drop, List.take_one, List.head?_drop, hk]

/-- A name derives the spans that the components of its rules derive. -/
theorem derivesSpan_nonterminal {r : Rule} {k j : Nat} (hr : r ∈ g.rules)
    (h : g.DerivesSpan accepts tokens r.components k j) :
    g.DerivesSpan accepts tokens [.nonterminal r.name] k j :=
  ⟨h.1, h.2.1, derives_nonterminal_iff.2 ⟨r, hr, rfl, h.2.2⟩⟩

/-! ## A grammar with hidden recursion -/

/-- The start symbol begins with a name that derives nothing, and then with itself. -/
def hiddenRecursion : Grammar :=
  ⟨[⟨"S", [.nonterminal "A", .nonterminal "S", .terminal "x"]⟩, ⟨"S", []⟩, ⟨"A", []⟩,
    ⟨"A", [.nonterminal "S"]⟩]⟩

theorem hiddenRecursion_derives {t : τ} (ht : accepts "x" t) :
    hiddenRecursion.Derives accepts [.nonterminal "A", .nonterminal "S", .terminal "x"] [t] := by
  have hA : hiddenRecursion.Derives accepts [.nonterminal "A"] [] :=
    derives_nonterminal_iff.2 ⟨⟨"A", []⟩, by simp [hiddenRecursion], rfl, .nil⟩
  have hS : hiddenRecursion.Derives accepts [.nonterminal "S"] [] :=
    derives_nonterminal_iff.2 ⟨⟨"S", []⟩, by simp [hiddenRecursion], rfl, .nil⟩
  exact (hA.append hS).append (derives_terminal_iff.2 ⟨t, ht, rfl⟩)

end Grammar

end Earley
