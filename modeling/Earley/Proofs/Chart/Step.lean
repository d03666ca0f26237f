/-
Earley.Proofs.Chart.Step — what one step does to a chart.

Each step has one law (`scan_outcome`, `predict_outcome`, `complete_outcome`), and
`process_outcome` is their sum: on a chart over the input, the step for an item that the chart holds
succeeds, extends the chart at the end of one position, adds all that the item demands, and adds
nothing that a closed family would lack. On any chart, `eq_of_scan`, `eq_of_predict` and
`eq_of_complete` say all that a step can do, and `chart_of_complete_eq_error` and its like what a
step leaves that fails. After this module no proof opens a step.

- `exists_process_iff`: on such a chart a step fails only where the test has no answer.
- `Outcome.eq_self`: a step that has nothing to add leaves the chart as it is.
-/
import Earley.Proofs.Chart.Family
import Earley.Proofs.Chart.Items
import Earley.Token

namespace Earley

variable {τ ε : Type}

/-! ## Tests of tokens -/

namespace TokenTest

/-- The terminal matches the token. -/
def Accepts (test : TokenTest τ ε) (pattern : String) (token : τ) : Prop :=
  test pattern token = .ok true

/-- The test has an answer for every terminal of the grammar and every token of the input. -/
def TotalOn (test : TokenTest τ ε) (g : Grammar) (tokens : List τ) : Prop :=
  ∀ t ∈ tokens, ∀ r ∈ g.rules, ∀ p, Symbol.terminal p ∈ r.components → ∃ b, test p t = .ok b

/-- The test has an answer for the terminal at a position. At the end of the input it is not
asked. -/
def AnswersAt (test : TokenTest τ ε) (tokens : List τ) (i : Nat) (pattern : String) : Prop :=
  ∀ t, tokens[i]? = some t → ∃ b, test pattern t = .ok b

/-- The next symbol of an item is a symbol of the grammar, so the test can answer for it. -/
theorem TotalOn.answersAt {test : TokenTest τ ε} {g : Grammar} {tokens : List τ}
    (h : test.TotalOn g tokens) {x : Item} {p : String} (hx : x.Awaits g (.terminal p)) (i : Nat) :
    test.AnswersAt tokens i p := by
  intro t ht
  obtain ⟨r, hr, hp⟩ := hx
  exact h t (List.mem_of_getElem? ht) r (List.mem_of_getElem? hr) p (List.mem_of_getElem? hp)

end TokenTest

/-- A matcher that takes no pattern for a regular expression always has an answer. -/
theorem Matching.totalOn [Regex.Engine] {m : Matching} (hm : m ≠ .pattern) (g : Grammar)
    (tokens : List Token) :
    TokenTest.TotalOn m.accepts g tokens := by
  intro t _ _ _ p _
  unfold accepts
  split
  · exact ⟨_, rfl⟩
  · exact ⟨_, rfl⟩
  · exact ⟨_, rfl⟩
  · exact absurd rfl hm

namespace Chart

variable {test : TokenTest τ ε} {g : Grammar} {tokens : List τ} {c c' : Chart τ} {i : Nat}
  {x : Item}

/-! ## Charts over an input -/

/-- The positions of the chart are positions of the input, with its tokens, and each item fits
where it stands. -/
structure Over (g : Grammar) (tokens : List τ) (c : Chart τ) : Prop where
  length_le : c.length ≤ tokens.length + 1
  token : ∀ {i e}, c.at? i = some e → e.token = tokens[i]?
  fits : ∀ {i x}, x ∈ c.itemsAt i → x.Fits g i

/-- What the step for the item `x` at position `i` makes of the chart `c`. -/
structure Outcome (g : Grammar) (accepts : String → τ → Prop) (tokens : List τ) (i : Nat)
    (x : Item) (c c' : Chart τ) : Prop where
  extends_ : c.Extends c'
  frame : ∀ j, j ≠ i → j ≠ i + 1 → c'.itemsAt j = c.itemsAt j
  demands : ∀ {j y}, Demands g accepts tokens c.family i x j y → y ∈ c'.itemsAt j
  least : ∀ {F : Family}, (∀ j y, y ∈ c.itemsAt j → F j y) →
    (∀ j y, Demands g accepts tokens F i x j y → F j y) → ∀ j y, y ∈ c'.itemsAt j → F j y

/-- The rules of all items of the chart are in the grammar. -/
def Known (g : Grammar) (c : Chart τ) : Prop :=
  ∀ i, ∀ x ∈ c.itemsAt i, ∃ r, g.rules[x.rule]? = some r

theorem known_iff :
    c.Known g ↔ ∀ e ∈ c.entries.toList, ∀ x ∈ e.items.toList, x.rule < g.rules.length := by
  constructor
  · intro h e he x hx
    obtain ⟨i, hi⟩ := List.getElem?_of_mem he
    have hat : c.at? i = some e := by rwa [Array.getElem?_toList] at hi
    obtain ⟨r, hr⟩ := h i x (itemsAt_of_at? hat ▸ hx)
    exact (List.getElem?_eq_some_iff.1 hr).1
  · intro h i x hx
    obtain ⟨e, he⟩ := exists_at?_of_mem hx
    rw [itemsAt_of_at? he] at hx
    have hmem : e ∈ c.entries.toList := Array.mem_toList_iff.2 (Array.mem_of_getElem? he)
    exact ⟨_, List.getElem?_eq_getElem (h e hmem x hx)⟩

instance : Decidable (c.Known g) := decidable_of_iff _ known_iff.symm

theorem known_empty : (empty : Chart τ).Known g := by
  intro i x hx
  simp [itemsAt, at?, empty] at hx

theorem Over.known (hc : c.Over g tokens) : c.Known g :=
  fun _ _ hx => (hc.fits hx).rule.imp fun _ h => h.1

theorem Over.le_length (hc : c.Over g tokens) (hx : x ∈ c.itemsAt i) : i ≤ tokens.length := by
  have hlt := lt_length_iff.2 (exists_at?_of_mem hx)
  have hle := hc.length_le
  omega

/-- A chart over the input stays one when the next position of the input is appended. -/
theorem Over.push (hc : c.Over g tokens) (hlength : c.length ≤ tokens.length) :
    (c.push tokens[c.length]?).Over g tokens where
  length_le := by
    rw [length_push]
    omega
  token := by
    intro j e he
    rw [at?_push] at he
    split at he
    next hj =>
      cases he
      exact hj ▸ rfl
    · exact hc.token he
  fits := by
    intro j y hy
    rw [itemsAt_push] at hy
    exact hc.fits hy

/-- A chart over the input stays one as long as what it takes up fits. -/
theorem Over.of_extends (hc : c.Over g tokens) (h : c.Extends c')
    (hfits : ∀ j y, y ∈ c'.itemsAt j → y.Fits g j) : c'.Over g tokens where
  length_le := h.length_eq ▸ hc.length_le
  token := by
    intro j e he
    have htoken := h.token j
    rw [he] at htoken
    obtain ⟨e', he', ht⟩ := Option.map_eq_some_iff.1 htoken.symm
    exact ht.symm.trans (hc.token he')
  fits := hfits _ _

theorem Over.insert (hc : c.Over g tokens) (hi : i < c.length) (hx : x.Fits g i) :
    (c.insert i x).Over g tokens := by
  obtain ⟨e, he⟩ := lt_length_iff.1 hi
  refine hc.of_extends (extends_modify he (StateSet.prefix_insert ..)) fun j y hy => ?_
  rw [Chart.insert, itemsAt_modify he] at hy
  split at hy
  next hij =>
    subst hij
    rcases StateSet.mem_insert.1 hy with hy | rfl
    · exact hc.fits (itemsAt_of_at? he ▸ hy)
    · exact hx
  · exact hc.fits hy

/-! ## Waiting items -/

theorem waitsFor?_eq_true_iff {name : String} :
    waitsFor? g name x = some true ↔ x.Awaits g (.nonterminal name) := by
  simp [waitsFor?, Item.Awaits]

theorem waitsFor?_eq_none_iff {name : String} :
    waitsFor? g name x = none ↔ g.rules[x.rule]? = none := by
  simp [waitsFor?]

section

variable {name : String} {live : Bool} {waiting : List Item} {target s : StateSet}

/-- Advancing the waiting items stops early only at an item without a rule. -/
theorem exists_advanceWaiting (h : ∀ y ∈ waiting, ∃ r, g.rules[y.rule]? = some r) :
    ∃ s, advanceWaiting g name live waiting target = .ok s := by
  fun_induction advanceWaiting g name live waiting target with
  | case1 => exact ⟨_, rfl⟩
  | case2 y _ _ hnone =>
    obtain ⟨r, hr⟩ := h y (by simp)
    rw [waitsFor?_eq_none_iff.1 hnone] at hr
    cases hr
  | case3 _ _ _ _ ih => exact ih fun z hz => h z (by simp [hz])
  | case4 y _ _ _ fresh ih =>
    -- a fresh item has the rule of the item that it comes from
    refine ih fun z hz => ?_
    rcases List.mem_append.1 hz with hz | hz
    · exact h z (by simp [hz])
    · have hzy : z = y.advanced := by
        simp only [fresh] at hz
        split at hz
        · exact List.mem_singleton.1 hz
        · cases hz
      rw [hzy]
      exact h y (by simp)

/-- Whether it comes to its end or stops early, advancing only adds to the target. -/
theorem prefix_of_advanceWaiting
    (h : advanceWaiting g name live waiting target = .ok s ∨
      advanceWaiting g name live waiting target = .error s) : target.toList <+: s.toList := by
  fun_induction advanceWaiting g name live waiting target with
  | case1 =>
    rcases h with h | h
    · cases h
      exact List.prefix_rfl
    · cases h
  | case2 =>
    rcases h with h | h
    · cases h
    · cases h
      exact List.prefix_rfl
  | case3 _ _ _ _ ih => exact ih h
  | case4 _ _ _ _ _ ih => exact (StateSet.prefix_insert ..).trans (ih h)

theorem prefix_advanceWaiting (h : advanceWaiting g name live waiting target = .ok s) :
    target.toList <+: s.toList :=
  prefix_of_advanceWaiting (.inl h)

theorem advanced_mem_advanceWaiting (h : advanceWaiting g name live waiting target = .ok s)
    {y : Item} (hy : y ∈ waiting) (hw : y.Awaits g (.nonterminal name)) :
    y.advanced ∈ s.toList := by
  fun_induction advanceWaiting g name live waiting target with
  | case1 => cases hy
  | case2 => cases h
  | case3 _ _ _ hno ih =>
    rcases List.mem_cons.1 hy with rfl | hy
    · rw [waitsFor?_eq_true_iff.2 hw] at hno
      cases hno
    · exact ih h hy
  | case4 _ _ _ _ _ ih =>
    rcases List.mem_cons.1 hy with rfl | hy
    · exact (prefix_advanceWaiting h).subset (StateSet.mem_insert.2 (.inr rfl))
    · exact ih h (List.mem_append_left _ hy)

/-- Where items that are added wait as well, every waiting item of the result has been advanced, if
each one that is not asked any more has been. -/
theorem advanced_mem_of_live (h : advanceWaiting g name true waiting target = .ok s)
    (htarget : ∀ y ∈ target.toList, y.Awaits g (.nonterminal name) →
      y ∈ waiting ∨ y.advanced ∈ target.toList) {y : Item} (hy : y ∈ s.toList)
    (hw : y.Awaits g (.nonterminal name)) : y.advanced ∈ s.toList := by
  generalize hlive : true = live at h
  fun_induction advanceWaiting g name live waiting target with
  | case1 =>
    cases h
    exact (htarget y hy hw).resolve_left List.not_mem_nil
  | case2 => cases h
  | case3 z _ _ hno ih =>
    refine ih (fun u hu hawaits => ?_) h
    refine (htarget u hu hawaits).imp_left fun hmem => ?_
    rcases List.mem_cons.1 hmem with rfl | hmem
    · rw [waitsFor?_eq_true_iff.2 hawaits] at hno
      cases hno
    · exact hmem
  | case4 z waiting target _ fresh ih =>
    refine ih (fun u hu hawaits => ?_) h
    by_cases hold : u ∈ target.toList
    · rcases htarget u hold hawaits with hmem | hmem
      · rcases List.mem_cons.1 hmem with rfl | hmem
        · exact .inr (StateSet.mem_insert.2 (.inr rfl))
        · exact .inl (List.mem_append_left _ hmem)
      · exact .inr (StateSet.mem_insert.2 (.inl hmem))
    · -- the item is new, so it has joined those that wait
      obtain rfl := (StateSet.mem_insert.1 hu).resolve_left hold
      have hnew : target.contains z.advanced = false :=
        Bool.eq_false_iff.2 fun h => hold (StateSet.contains_iff.1 h)
      exact .inl (List.mem_append_right _ (by simp [fresh, ← hlive, hnew]))

/-- A property of the target that goes over from waiting items to advanced ones is a property of
the result. Where the two sets are one, the new items wait as well. -/
theorem advanceWaiting_induction (h : advanceWaiting g name live waiting target = .ok s)
    {P Q : Item → Prop} (hP : ∀ y ∈ target.toList, P y) (hQ : ∀ y ∈ waiting, Q y)
    (hstep : ∀ y, Q y → y.Awaits g (.nonterminal name) → P y.advanced)
    (hlive : live = true → ∀ y, P y → Q y) : ∀ y ∈ s.toList, P y := by
  fun_induction advanceWaiting g name live waiting target with
  | case1 =>
    cases h
    exact hP
  | case2 => cases h
  | case3 _ _ _ _ ih => exact ih h hP fun z hz => hQ z (by simp [hz])
  | case4 y _ _ hyes fresh ih =>
    have hy : P y.advanced := hstep y (hQ y (by simp)) (waitsFor?_eq_true_iff.1 hyes)
    refine ih h (fun z hz => ?_) fun z hz => ?_
    · rcases StateSet.mem_insert.1 hz with hz | rfl
      · exact hP z hz
      · exact hy
    · rcases List.mem_append.1 hz with hz | hz
      · exact hQ z (by simp [hz])
      · simp only [fresh] at hz
        split at hz
        next hfresh =>
          rw [List.mem_singleton.1 hz]
          exact hlive (Bool.and_eq_true_iff.1 hfresh).1 _ hy
        · cases hz

end

/-! ## What steps can do -/

section

variable {nullable : List String}

theorem eq_of_scan {p : String} (h : c.scan test i x p = .ok c') :
    ∃ e, c.at? i = some e ∧
      (((∀ t, e.token = some t → ¬ test.Accepts p t) ∧ c' = c) ∨
        (∃ t, e.token = some t ∧ test.Accepts p t) ∧ i + 1 < c.length ∧
          c' = c.insert (i + 1) x.advanced) := by
  unfold scan at h
  split at h
  · cases h
  next e he =>
    refine ⟨e, he, ?_⟩
    split at h
    next hnone =>
      cases h
      exact .inl ⟨by simp [hnone], rfl⟩
    next t ht =>
      split at h
      · cases h
      next hno =>
        cases h
        refine .inl ⟨fun t' ht' hyes => ?_, rfl⟩
        cases ht.symm.trans ht'
        cases hno.symm.trans hyes
      next hyes =>
        split at h
        next hlt =>
          cases h
          exact .inr ⟨⟨t, ht, hyes⟩, hlt, rfl⟩
        · cases h

theorem eq_of_predict {name : String}
    (h : c.predict (ε := ε) g nullable i x name = .ok c') :
    ∃ e, c.at? i = some e ∧ c' = c.modify i fun s =>
      (predictions g i name ++ if name ∈ nullable then [x.advanced] else []).foldl
        StateSet.insert s := by
  unfold predict at h
  split at h
  · cases h
  next e he =>
    cases h
    exact ⟨e, he, rfl⟩

theorem eq_of_complete (h : c.complete (ε := ε) g i x = .ok c') :
    ∃ r origin e s, g.rules[x.rule]? = some r ∧ c.at? x.start = some origin ∧
      c.at? i = some e ∧
      advanceWaiting g r.name (x.start == i) origin.items.toList e.items = .ok s ∧
      c' = c.modify i fun _ => s := by
  unfold complete at h
  split at h
  · cases h
  next r origin e hr horigin he =>
    split at h
    next s hs =>
      cases h
      exact ⟨r, origin, e, s, hr, horigin, he, hs, rfl⟩
    · cases h
  · cases h

/-- The step that fits an item is the one that its next symbol asks for. -/
theorem process_cases (h : c.process test g nullable i x = .ok c') :
    (∃ p, x.Awaits g (.terminal p) ∧ c.scan test i x p = .ok c') ∨
      (∃ name, x.Awaits g (.nonterminal name) ∧ c.predict (ε := ε) g nullable i x name = .ok c') ∨
      ∃ name, x.Finishes g name ∧ c.complete (ε := ε) g i x = .ok c' := by
  unfold process at h
  split at h
  · cases h
  next r hr =>
    split at h
    next p hp => exact .inl ⟨p, ⟨r, hr, hp⟩, h⟩
    next name hname => exact .inr (.inl ⟨name, ⟨r, hr, hname⟩, h⟩)
    next hnone => exact .inr (.inr ⟨r.name, ⟨r, hr, hnone, rfl⟩, h⟩)

/-- A step replaces the items of its own position or of the next one. -/
theorem eq_of_process (h : c.process test g nullable i x = .ok c') :
    c' = c ∨ ∃ j f, (j = i ∨ j = i + 1) ∧ c' = c.modify j f := by
  obtain ⟨p, -, hscan⟩ | ⟨name, -, hpredict⟩ | ⟨name, -, hcomplete⟩ := process_cases h
  · obtain ⟨e, -, ⟨-, rfl⟩ | ⟨-, -, rfl⟩⟩ := eq_of_scan hscan
    · exact .inl rfl
    · exact .inr ⟨i + 1, _, .inr rfl, rfl⟩
  · obtain ⟨e, -, rfl⟩ := eq_of_predict hpredict
    exact .inr ⟨i, _, .inl rfl, rfl⟩
  · obtain ⟨r, origin, e, s, -, -, -, -, rfl⟩ := eq_of_complete hcomplete
    exact .inr ⟨i, _, .inl rfl, rfl⟩

end

/-! ## Steps that fail -/

section

variable {f : Failure τ ε}

theorem chart_of_scan_eq_error {p : String} (h : c.scan test i x p = .error f) : f.chart = c := by
  unfold scan at h
  split at h
  · cases h
    rfl
  · split at h
    · cases h
    · split at h
      · cases h
        rfl
      · cases h
      · split at h
        · cases h
        · cases h
          rfl

theorem chart_of_predict_eq_error {nullable : List String} {name : String}
    (h : c.predict g nullable i x name = .error f) : f.chart = c := by
  unfold predict at h
  split at h
  · cases h
    rfl
  · cases h

/-- A completion that fails has changed nothing, or it has stopped at a waiting item without a rule
and leaves what it has added before. -/
theorem chart_of_complete_eq_error (h : c.complete g i x = .error f) :
    f.chart = c ∨ ∃ r origin e s, c.at? x.start = some origin ∧ c.at? i = some e ∧
      advanceWaiting g (Rule.name r) (x.start == i) origin.items.toList e.items = .error s ∧
      f.chart = c.modify i fun _ => s := by
  unfold complete at h
  split at h
  · cases h
    exact .inl rfl
  next r origin e _ horigin he =>
    split at h
    · cases h
    next s hs =>
      cases h
      exact .inr ⟨r, origin, e, s, horigin, he, hs, rfl⟩
  · cases h
    exact .inl rfl

end

/-! ## Outcomes -/

section

variable {accepts : String → τ → Prop}

/-- An item that demands nothing new leaves the chart as it is. -/
theorem Outcome.refl (h : ∀ {j y}, Demands g accepts tokens c.family i x j y → y ∈ c.itemsAt j) :
    Outcome g accepts tokens i x c c where
  extends_ := Extends.refl c
  frame := fun _ _ _ => rfl
  demands := h
  least := fun hsub _ => hsub

/-- The items of one position are replaced: they stay, what is demanded joins them, and whatever
has what is demanded has all that joins them. -/
theorem outcome_modify {j : Nat} {e : Entry τ} (he : c.at? j = some e) (hj : j = i ∨ j = i + 1)
    {f : StateSet → StateSet} (hgrow : e.items.toList <+: (f e.items).toList)
    (hdemands : ∀ {k y}, Demands g accepts tokens c.family i x k y →
      k = j ∧ y ∈ (f e.items).toList)
    (hleast : ∀ {F : Family}, (∀ k y, y ∈ c.itemsAt k → F k y) →
      (∀ k y, Demands g accepts tokens F i x k y → F k y) → ∀ y ∈ (f e.items).toList, F j y) :
    Outcome g accepts tokens i x c (c.modify j f) where
  extends_ := extends_modify he hgrow
  frame := by
    intro k hk hk'
    rw [itemsAt_modify he, if_neg (by omega)]
  demands := by
    intro k y hd
    obtain ⟨rfl, hy⟩ := hdemands hd
    rw [itemsAt_modify he, if_pos rfl]
    exact hy
  least := by
    intro F hsub hF k y hy
    rw [itemsAt_modify he] at hy
    split at hy
    next hjk => exact hjk ▸ hleast hsub hF y hy
    · exact hsub k y hy

end

/-- Scanning fails only where the test has no answer. -/
theorem exists_scan_iff {p : String} (hc : c.Over g tokens) (hi : i < c.length)
    (hopen : i < tokens.length → i + 1 < c.length) :
    (∃ c', c.scan test i x p = .ok c') ↔ test.AnswersAt tokens i p := by
  obtain ⟨e, he⟩ := lt_length_iff.1 hi
  have htoken := hc.token he
  unfold scan TokenTest.AnswersAt
  rw [he]
  cases ht : tokens[i]? with
  | none => simp [htoken, ht]
  | some t =>
    have hnext := hopen (List.getElem?_eq_some_iff.1 ht).1
    rcases htest : test p t with f | _ | _
    · simp [htoken, ht, htest]
    · simp [htoken, ht, htest]
    · simp [htoken, ht, htest, hnext]

theorem outcome_of_scan {p : String} (hc : c.Over g tokens) (hx : x.Awaits g (.terminal p))
    (h : c.scan test i x p = .ok c') : Outcome g test.Accepts tokens i x c c' := by
  obtain ⟨e, he, ⟨hno, rfl⟩ | ⟨⟨t, ht, hyes⟩, hnext, rfl⟩⟩ := eq_of_scan h
  · refine .refl fun hd => ?_
    obtain ⟨t, ht, hyes, -⟩ := (demands_iff_of_terminal hx).1 hd
    exact absurd hyes (hno t ((hc.token he).trans ht))
  · obtain ⟨e', he'⟩ := lt_length_iff.1 hnext
    refine outcome_modify he' (.inr rfl) (StateSet.prefix_insert _ _) ?_ ?_
    · intro k y hd
      obtain ⟨_, -, -, rfl, rfl⟩ := (demands_iff_of_terminal hx).1 hd
      exact ⟨rfl, StateSet.mem_insert.2 (.inr rfl)⟩
    · intro F hsub hF y hy
      rcases StateSet.mem_insert.1 hy with hy | rfl
      · exact hsub _ y (itemsAt_of_at? he' ▸ hy)
      · exact hF _ _ (.scan hx ((hc.token he).symm.trans ht) hyes)

theorem scan_outcome {p : String} (hc : c.Over g tokens) (htest : test.TotalOn g tokens)
    (hi : i < c.length) (hopen : i < tokens.length → i + 1 < c.length)
    (hx : x.Awaits g (.terminal p)) :
    ∃ c', c.scan test i x p = .ok c' ∧ Outcome g test.Accepts tokens i x c c' := by
  obtain ⟨c', hscan⟩ := (exists_scan_iff hc hi hopen).2 (htest.answersAt hx i)
  exact ⟨c', hscan, outcome_of_scan hc hx hscan⟩

theorem predict_outcome {accepts : String → τ → Prop} {name : String} (hi : i < c.length)
    (hx : x.Awaits g (.nonterminal name)) :
    ∃ c', c.predict (ε := ε) g g.nullable i x name = .ok c' ∧
      Outcome g accepts tokens i x c c' := by
  obtain ⟨e, he⟩ := lt_length_iff.1 hi
  unfold predict
  rw [he]
  refine ⟨_, rfl, outcome_modify he (.inl rfl) (StateSet.prefix_foldl_insert _ _) ?_ ?_⟩
  · intro k y hd
    obtain ⟨rfl, ⟨r, hr, rfl⟩ | ⟨hn, rfl⟩⟩ := (demands_iff_of_nonterminal hx).1 hd
    · refine ⟨rfl, StateSet.mem_foldl_insert.2 (.inr (List.mem_append_left _ ?_))⟩
      exact mem_predictions.2 ⟨r, hr, rfl⟩
    · refine ⟨rfl, StateSet.mem_foldl_insert.2 (.inr (List.mem_append_right _ ?_))⟩
      simp [hn]
  · intro F hsub hF y hy
    rcases StateSet.mem_foldl_insert.1 hy with hy | hy
    · exact hsub _ y (itemsAt_of_at? he ▸ hy)
    rcases List.mem_append.1 hy with hy | hy
    · obtain ⟨r, hr, rfl⟩ := mem_predictions.1 hy
      exact hF _ _ (.predict hx hr)
    · split at hy
      next hn =>
        rw [List.mem_singleton.1 hy]
        exact hF _ _ (.skip hx hn)
      · cases hy

/-- Completing succeeds where the rules of all items are known and both positions are there. -/
theorem exists_complete_of_rule {r : Rule} (hc : c.Known g) (hr : g.rules[x.rule]? = some r)
    (hi : i < c.length) (hstart : x.start < c.length) :
    ∃ c', c.complete (ε := ε) g i x = .ok c' := by
  obtain ⟨e, he⟩ := lt_length_iff.1 hi
  obtain ⟨o, ho⟩ := lt_length_iff.1 hstart
  have hrules : ∀ y ∈ o.items.toList, ∃ r, g.rules[y.rule]? = some r :=
    fun y hy => hc _ y (itemsAt_of_at? ho ▸ hy)
  obtain ⟨s, hs⟩ : ∃ s, advanceWaiting g r.name (x.start == i) o.items.toList e.items = .ok s :=
    exists_advanceWaiting hrules
  unfold complete
  rw [hr, ho, he]
  simp only [hs]
  exact ⟨_, rfl⟩

theorem exists_complete {name : String} (hc : c.Known g) (hi : i < c.length)
    (hstart : x.start < c.length) (hx : x.Finishes g name) :
    ∃ c', c.complete (ε := ε) g i x = .ok c' := by
  obtain ⟨r, hr, -, -⟩ := hx
  exact exists_complete_of_rule hc hr hi hstart

theorem complete_outcome {accepts : String → τ → Prop} {name : String} (hc : c.Over g tokens)
    (hi : i < c.length) (hstart : x.start ≤ i) (hx : x.Finishes g name) :
    ∃ c', c.complete (ε := ε) g i x = .ok c' ∧ Outcome g accepts tokens i x c c' := by
  obtain ⟨c', hcomplete⟩ :=
    exists_complete (ε := ε) hc.known hi (Nat.lt_of_le_of_lt hstart hi) hx
  obtain ⟨r, o, e, s, hr, ho, he, hs, rfl⟩ := eq_of_complete hcomplete
  obtain ⟨r', hr', -, rfl⟩ := id hx
  cases hr.symm.trans hr'
  refine ⟨_, hcomplete, outcome_modify he (.inl rfl) (prefix_advanceWaiting hs) ?_ ?_⟩
  · intro k y hd
    obtain ⟨rfl, z, hz, hw, rfl⟩ := (demands_iff_of_finishes hx).1 hd
    exact ⟨rfl, advanced_mem_advanceWaiting hs (itemsAt_of_at? ho ▸ hz) hw⟩
  · intro F hsub hF
    refine advanceWaiting_induction (Q := F x.start) hs ?_ ?_ ?_ ?_
    · intro y hy
      exact hsub i y (itemsAt_of_at? he ▸ hy)
    · intro y hy
      exact hsub _ y (itemsAt_of_at? ho ▸ hy)
    · intro y hy hw
      exact hF _ _ (.complete hx hy hw)
    · intro hlive y hy
      exact (beq_iff_eq.1 hlive) ▸ hy

/-- On a chart over the input that goes on behind each of its tokens, the step for an item that the
chart holds fails only where the test has no answer. -/
theorem exists_process_iff (hc : c.Over g tokens) (hopen : i < tokens.length → i + 1 < c.length)
    (hx : x ∈ c.itemsAt i) :
    (∃ c', c.process test g g.nullable i x = .ok c') ↔
      ∀ p, x.Awaits g (.terminal p) → test.AnswersAt tokens i p := by
  have hi := lt_length_iff.2 (exists_at?_of_mem hx)
  have hfits := hc.fits hx
  obtain ⟨r, hr, -⟩ := hfits.rule
  -- only an item that awaits a terminal asks the test
  have hasks : ∀ p, x.Awaits g (.terminal p) ↔ x.next? r = some (.terminal p) := by
    simp [Item.Awaits, hr]
  unfold process
  simp only [hr, hasks]
  rcases hs : x.next? r with _ | p | name
  · have hstart := Nat.lt_of_le_of_lt hfits.start_le hi
    simpa using exists_complete_of_rule (ε := ε) hc.known hr hi hstart
  · simpa using exists_scan_iff hc hi hopen
  · obtain ⟨e, he⟩ := lt_length_iff.1 hi
    simp [predict, he]

theorem outcome_of_process (hc : c.Over g tokens) (hx : x ∈ c.itemsAt i)
    (h : c.process test g g.nullable i x = .ok c') :
    Outcome g test.Accepts tokens i x c c' := by
  have hi := lt_length_iff.2 (exists_at?_of_mem hx)
  obtain ⟨p, hw, hscan⟩ | ⟨name, hw, hpredict⟩ | ⟨name, hf, hcomplete⟩ := process_cases h
  · exact outcome_of_scan hc hw hscan
  · obtain ⟨c₁, h₁, ho⟩ := predict_outcome hi hw
    cases hpredict.symm.trans h₁
    exact ho
  · obtain ⟨c₁, h₁, ho⟩ := complete_outcome hc hi (hc.fits hx).start_le hf
    cases hcomplete.symm.trans h₁
    exact ho

/-- So it succeeds where the test has all answers. -/
theorem process_outcome (hc : c.Over g tokens) (htest : test.TotalOn g tokens)
    (hopen : i < tokens.length → i + 1 < c.length) (hx : x ∈ c.itemsAt i) :
    ∃ c', c.process test g g.nullable i x = .ok c' ∧ Outcome g test.Accepts tokens i x c c' := by
  obtain ⟨c', hprocess⟩ := (exists_process_iff hc hopen hx).2 fun p hw => htest.answersAt hw i
  exact ⟨c', hprocess, outcome_of_process hc hx hprocess⟩

/-! ## What outcomes keep -/

section

variable {accepts : String → τ → Prop}

/-- If the chart has what the item demands, the step has changed nothing. -/
theorem Outcome.eq_self (h : Outcome g accepts tokens i x c c')
    (hd : ∀ j y, Demands g accepts tokens c.family i x j y → y ∈ c.itemsAt j) : c' = c :=
  h.extends_.eq_of_subset fun j _ hy => h.least (F := c.family) (fun _ _ hz => hz) hd j _ hy

end

end Chart

end Earley
