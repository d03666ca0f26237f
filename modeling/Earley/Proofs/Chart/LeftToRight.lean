/-
Earley.Proofs.Chart.LeftToRight — a chart depends on its input from left to right.

The step for an item of position `i` changes the positions `i` and `i + 1` only. What it does
depends on the items of the positions up to `i`, and on the answers for the token at `i`. So the
charts of two inputs that begin alike are filled in lockstep as far as the inputs are alike
(`AgreeUpTo`), and what comes later does not change them any more. The two inputs need not have
tokens of one type.

- `at?_saturate`: filling a position changes no other positions than this one and the next.
- `Abreast.saturateFrom`: two charts that agree are filled together, or fail together.
- `itemsAt_build_eq`: inputs that get the same answers up to a position have the same items there.
- `build_leftToRight`: so do inputs with the same tokens up to a position.
-/
import Earley.Proofs.Chart.Fill
import Earley.Proofs.Derivation
import Earley.Regex.Backtracking

namespace Earley.Chart

variable {τ σ ε ε' : Type} {test : TokenTest τ ε} {test' : TokenTest σ ε'} {g : Grammar}
  {nullable : List String} {tokens : List τ} {tokens' : List σ} {c c' : Chart τ}
  {d d' : Chart σ} {i j k : Nat} {x : Item}

/-! ## Positions that are left alone -/

/-- Scanning leaves its own position alone. -/
theorem itemsAt_scan {p : String} (h : c.scan test i x p = .ok c') (hj : j ≠ i + 1) :
    c'.itemsAt j = c.itemsAt j := by
  obtain ⟨e, -, ⟨-, rfl⟩ | ⟨-, -, rfl⟩⟩ := eq_of_scan h
  · rfl
  · exact itemsAt_congr (by simp [insert, at?_modify, hj.symm])

theorem at?_process (h : c.process test g nullable i x = .ok c') (hj : j ≠ i) (hj' : j ≠ i + 1) :
    c'.at? j = c.at? j := by
  rcases eq_of_process h with rfl | ⟨l, f, hl, rfl⟩
  · rfl
  · have hlj : l ≠ j := by omega
    simp [at?_modify, hlj]

theorem length_process (h : c.process test g nullable i x = .ok c') : c'.length = c.length := by
  rcases eq_of_process h with rfl | ⟨j, f, -, rfl⟩
  · rfl
  · exact length_modify c j f

/-- What each turn at a position keeps is kept when the position is filled. -/
theorem saturateFrom_keeps {P : Chart τ → Prop} {fuel l : Nat}
    (hstep : ∀ {x} {c c' : Chart τ}, P c → c.process test g nullable i x = .ok c' → P c')
    (hc : P c) (h : saturateFrom test g nullable i fuel l c = .ok c') : P c' := by
  induction fuel generalizing l c with
  | zero =>
    cases h
    exact hc
  | succ fuel ih =>
    unfold saturateFrom at h
    split at h
    · cases h
      exact hc
    next x _ =>
      cases hprocess : c.process test g nullable i x with
      | error f =>
        rw [hprocess] at h
        cases h
      | ok c₁ =>
        rw [hprocess] at h
        exact ih (hstep hc hprocess) h

/-- Filling a position changes this position and the next one only. -/
theorem at?_saturate (h : c.saturate test g nullable i = .ok c') (hj : j ≠ i) (hj' : j ≠ i + 1) :
    c'.at? j = c.at? j :=
  saturateFrom_keeps (P := fun d => d.at? j = c.at? j)
    (fun hc hprocess => (at?_process hprocess hj hj').trans hc) rfl h

theorem length_saturate (h : c.saturate test g nullable i = .ok c') : c'.length = c.length :=
  saturateFrom_keeps (P := fun d => d.length = c.length)
    (fun hc hprocess => (length_process hprocess).trans hc) rfl h

/-- The positions before the one that is filled next are final. -/
theorem itemsAt_sweep {ts : List (Option τ)} (h : sweep test g nullable ts i c = .ok c')
    (hj : j < i) : c'.itemsAt j = c.itemsAt j := by
  induction ts generalizing i c with
  | nil => exact itemsAt_congr (at?_saturate h (by omega) (by omega))
  | cons t ts ih =>
    unfold sweep at h
    cases hsaturate : (c.push t).saturate test g nullable i with
    | error f =>
      rw [hsaturate] at h
      cases h
    | ok c₁ =>
      rw [hsaturate] at h
      calc c'.itemsAt j
          = c₁.itemsAt j := ih h (by omega)
        _ = (c.push t).itemsAt j := itemsAt_congr (at?_saturate hsaturate (by omega) (by omega))
        _ = c.itemsAt j := itemsAt_push c t j

/-! ## Two charts in lockstep -/

/-- The charts hold the same items in the same order at the positions up to `k`. -/
def AgreeUpTo (k : Nat) (c : Chart τ) (d : Chart σ) : Prop :=
  ∀ j ≤ k, d.itemsAt j = c.itemsAt j

/-- Both inputs go on up to position `k`, and up to there the terminals of the grammar get the same
answers from them. -/
structure SameAnswers (g : Grammar) (accepts : String → τ → Prop) (accepts' : String → σ → Prop)
    (tokens : List τ) (tokens' : List σ) (k : Nat) : Prop where
  le_length : k ≤ tokens.length
  le_length' : k ≤ tokens'.length
  answer : ∀ i < k, ∀ t t', tokens[i]? = some t → tokens'[i]? = some t' →
    ∀ r ∈ g.rules, ∀ p, Symbol.terminal p ∈ r.components → (accepts p t ↔ accepts' p t')

namespace AgreeUpTo

theorem items_eq (h : AgreeUpTo k c d) (hi : i ≤ k) {e : Entry τ} {e' : Entry σ}
    (he : c.at? i = some e) (he' : d.at? i = some e') : e'.items = e.items := by
  have hitems := h i hi
  rw [itemsAt_of_at? he, itemsAt_of_at? he'] at hitems
  exact StateSet.ext hitems

/-- Both charts get the same items at a position, or at positions that do not matter. -/
theorem modify (h : AgreeUpTo k c d) {e : Entry τ} {e' : Entry σ} (he : c.at? i = some e)
    (he' : d.at? i = some e') {f f' : StateSet → StateSet}
    (hf : i ≤ k → f' e'.items = f e.items) : AgreeUpTo k (c.modify i f) (d.modify i f') := by
  intro j hj
  rw [itemsAt_modify he, itemsAt_modify he']
  split
  next hij => rw [hf (hij ▸ hj)]
  · exact h j hj

theorem scan {p : String} (h : AgreeUpTo k c d) (hi : i ≤ k) (hc : c.Over g tokens)
    (hd : d.Over g tokens')
    (hsame : SameAnswers g test.Accepts test'.Accepts tokens tokens' k)
    (hx : x.Awaits g (.terminal p)) (hs : c.scan test i x p = .ok c')
    (hs' : d.scan test' i x p = .ok d') : AgreeUpTo k c' d' := by
  rcases Nat.lt_or_eq_of_le hi with hlt | rfl
  · obtain ⟨e, he, hcase⟩ := eq_of_scan hs
    obtain ⟨e', he', hcase'⟩ := eq_of_scan hs'
    obtain ⟨r, hr, hp⟩ := hx
    have ht := List.getElem?_eq_getElem (Nat.lt_of_lt_of_le hlt hsame.le_length)
    have ht' := List.getElem?_eq_getElem (Nat.lt_of_lt_of_le hlt hsame.le_length')
    have htoken := (hc.token he).trans ht
    have htoken' := (hd.token he').trans ht'
    have hanswer := hsame.answer i hlt _ _ ht ht' r (List.mem_of_getElem? hr) p
      (List.mem_of_getElem? hp)
    rcases hcase with ⟨hno, rfl⟩ | ⟨⟨t, heq, hyes⟩, hnext, rfl⟩ <;>
      rcases hcase' with ⟨hno', rfl⟩ | ⟨⟨t', heq', hyes'⟩, hnext', rfl⟩
    · exact h
    · cases htoken'.symm.trans heq'
      exact absurd (hanswer.2 hyes') (hno _ htoken)
    · cases htoken.symm.trans heq
      exact absurd (hanswer.1 hyes) (hno' _ htoken')
    · obtain ⟨u, hu⟩ := lt_length_iff.1 hnext
      obtain ⟨u', hu'⟩ := lt_length_iff.1 hnext'
      exact h.modify hu hu' fun hle => by rw [h.items_eq hle hu hu']
  · -- the position behind `k` does not matter
    intro j hj
    rw [itemsAt_scan hs (by omega), itemsAt_scan hs' (by omega)]
    exact h j hj

/-- The steps for one item of both charts. -/
theorem process (h : AgreeUpTo k c d) (hi : i ≤ k) (hc : c.Over g tokens) (hd : d.Over g tokens')
    (hsame : SameAnswers g test.Accepts test'.Accepts tokens tokens' k) (hx : x ∈ c.itemsAt i)
    (hs : c.process test g nullable i x = .ok c')
    (hs' : d.process test' g nullable i x = .ok d') : AgreeUpTo k c' d' := by
  obtain ⟨r, hr, -⟩ := (hc.fits hx).rule
  unfold Chart.process at hs hs'
  rw [hr] at hs hs'
  rcases hnext : x.next? r with _ | p | name
  · simp only [hnext] at hs hs'
    obtain ⟨r₁, o, e, s, hr₁, ho, he, hadvance, rfl⟩ := eq_of_complete hs
    obtain ⟨r₂, o', e', s', hr₂, ho', he', hadvance', rfl⟩ := eq_of_complete hs'
    cases hr₁.symm.trans hr₂
    have hstart : x.start ≤ k := Nat.le_trans (hc.fits hx).start_le hi
    rw [h.items_eq hstart ho ho', h.items_eq hi he he'] at hadvance'
    cases hadvance.symm.trans hadvance'
    exact h.modify he he' fun _ => rfl
  · simp only [hnext] at hs hs'
    exact h.scan hi hc hd hsame ⟨r, hr, hnext⟩ hs hs'
  · simp only [hnext] at hs hs'
    obtain ⟨e, he, rfl⟩ := eq_of_predict hs
    obtain ⟨e', he', rfl⟩ := eq_of_predict hs'
    exact h.modify he he' fun hle => by rw [h.items_eq hle he he']

end AgreeUpTo

/-- Two computations that go together: if both have a result, the results are related, and under the
condition `P` one of them has a result if the other has. -/
structure Together {α β γ δ : Type} (P : Prop) (R : α → β → Prop) (r : Except γ α)
    (r' : Except δ β) : Prop where
  related : ∀ {a b}, r = .ok a → r' = .ok b → R a b
  both : P → ((∃ a, r = .ok a) ↔ ∃ b, r' = .ok b)

namespace Together

variable {α α' β β' γ δ : Type} {P : Prop} {R : α → β → Prop} {S : α' → β' → Prop}
  {r : Except γ α} {r' : Except δ β} {f : α → Except γ α'} {f' : β → Except δ β'}

theorem ok {a : α} {b : β} (h : R a b) :
    Together P R (.ok a : Except γ α) (.ok b : Except δ β) where
  related := by
    rintro _ _ ⟨⟩ ⟨⟩
    exact h
  both := fun _ => ⟨fun _ => ⟨b, rfl⟩, fun _ => ⟨a, rfl⟩⟩

/-- Computations that go together can be followed by others that do so on related results. -/
theorem bind (h : Together P R r r') (hf : ∀ a b, R a b → Together P S (f a) (f' b)) :
    Together P S (r >>= f) (r' >>= f') := by
  cases r with
  | error e =>
    refine ⟨nofun, fun hP => ?_⟩
    cases r' with
    | error e' => exact ⟨nofun, nofun⟩
    | ok b =>
      obtain ⟨a, ha⟩ := (h.both hP).2 ⟨b, rfl⟩
      cases ha
  | ok a =>
    cases r' with
    | error e' =>
      refine ⟨nofun, fun hP => ?_⟩
      obtain ⟨b, hb⟩ := (h.both hP).1 ⟨a, rfl⟩
      cases hb
    | ok b => exact hf a b (h.related rfl rfl)

end Together

/-- At each position both tests have an answer for a terminal of the grammar, or neither has. -/
def AnswerAlike (g : Grammar) (test : TokenTest τ ε) (test' : TokenTest σ ε') (tokens : List τ)
    (tokens' : List σ) : Prop :=
  ∀ i, ∀ r ∈ g.rules, ∀ p, Symbol.terminal p ∈ r.components →
    (test.AnswersAt tokens i p ↔ test'.AnswersAt tokens' i p)

/-- The charts agree up to `k`, and both are ready for the turns at position `i`. -/
structure Abreast (g : Grammar) (tokens : List τ) (tokens' : List σ) (k i : Nat) (c : Chart τ)
    (d : Chart σ) : Prop where
  agree : AgreeUpTo k c d
  ready : Ready g tokens i c
  ready' : Ready g tokens' i d

namespace Abreast

theorem process (h : Abreast g tokens tokens' k i c d) (hi : i ≤ k)
    (hsame : SameAnswers g test.Accepts test'.Accepts tokens tokens' k) (hx : x ∈ c.itemsAt i) :
    Together (AnswerAlike g test test' tokens tokens') (Abreast g tokens tokens' k i)
      (c.process test g g.nullable i x) (d.process test' g g.nullable i x) := by
  have hx' : x ∈ d.itemsAt i := by rwa [h.agree i hi]
  refine ⟨fun hs hs' => ?_, fun halike => ?_⟩
  · have hagree := h.agree.process hi h.ready.overInput h.ready'.overInput hsame hx hs hs'
    exact ⟨hagree, h.ready.process hx hs, h.ready'.process hx' hs'⟩
  · rw [exists_process_iff h.ready.overInput h.ready.opened hx,
      exists_process_iff h.ready'.overInput h.ready'.opened hx']
    refine forall₂_congr fun p hw => ?_
    obtain ⟨r, hr, hp⟩ := hw
    exact halike i r (List.mem_of_getElem? hr) p (List.mem_of_getElem? hp)

/-- The turns at one position of both charts. -/
theorem saturateFrom {fuel l : Nat} (h : Abreast g tokens tokens' k i c d) (hi : i ≤ k)
    (hsame : SameAnswers g test.Accepts test'.Accepts tokens tokens' k) :
    Together (AnswerAlike g test test' tokens tokens') (Abreast g tokens tokens' k i)
      (saturateFrom test g g.nullable i fuel l c)
      (saturateFrom test' g g.nullable i fuel l d) := by
  induction fuel generalizing l c d with
  | zero => exact .ok h
  | succ fuel ih =>
    unfold Chart.saturateFrom
    rw [bind_get?, bind_get?, h.agree i hi]
    cases hx : (c.itemsAt i)[l]? with
    | none => exact .ok h
    | some x =>
      exact (h.process hi hsame (List.mem_of_getElem? hx)).bind fun _ _ h₁ => ih h₁

end Abreast

/-- One round of the sweep: a position is made if the input goes on, position `i` is filled, and
what comes after that leaves it alone. -/
theorem exists_round (htest : test.TotalOn g tokens) (hc : Filled g test.Accepts tokens i c)
    (hlength : c.length = i + 1) (hi : i ≤ tokens.length)
    (hs : sweep test g g.nullable (upcoming tokens i) i c = .ok c') :
    ∃ c₁ c₂, (∀ j, c₁.itemsAt j = c.itemsAt j) ∧ Ready g tokens i c₁ ∧
      c₁.saturate test g g.nullable i = .ok c₂ ∧ (∀ j ≤ i, c'.itemsAt j = c₂.itemsAt j) ∧
      (i < tokens.length → Filled g test.Accepts tokens (i + 1) c₂ ∧ c₂.length = i + 2 ∧
        sweep test g g.nullable (upcoming tokens (i + 1)) (i + 1) c₂ = .ok c') := by
  rcases Nat.lt_or_eq_of_le hi with hlt | rfl
  · have hpush := hc.push (by omega)
    rw [hlength] at hpush
    have hopen : i < tokens.length → i + 1 < (c.push tokens[i + 1]?).length := by
      rw [length_push]
      omega
    obtain ⟨c₂, hsaturate, hfilled, hlength₂⟩ := exists_saturate htest hpush hopen
    rw [length_push, hlength] at hlength₂
    rw [upcoming_eq_cons hlt, sweep, hsaturate] at hs
    exact ⟨_, c₂, itemsAt_push c _, ⟨hpush.overInput, hopen⟩, hsaturate,
      fun j hj => itemsAt_sweep hs (by omega), fun _ => ⟨hfilled, hlength₂, hs⟩⟩
  · rw [upcoming_eq_nil (Nat.le_refl _)] at hs
    exact ⟨c, c', fun _ => rfl, ⟨hc.overInput, fun hlt => absurd hlt (Nat.lt_irrefl _)⟩, hs,
      fun _ _ => rfl, fun hlt => absurd hlt (Nat.lt_irrefl _)⟩

/-- All positions up to `k`: round by round up to there, and then nothing changes them. -/
theorem AgreeUpTo.sweep {n : Nat} (h : AgreeUpTo k c d) (hn : i + n = k)
    (htest : test.TotalOn g tokens) (htest' : test'.TotalOn g tokens')
    (hsame : SameAnswers g test.Accepts test'.Accepts tokens tokens' k)
    (hc : Filled g test.Accepts tokens i c) (hd : Filled g test'.Accepts tokens' i d)
    (hlength : c.length = i + 1) (hlength' : d.length = i + 1)
    (hs : sweep test g g.nullable (upcoming tokens i) i c = .ok c')
    (hs' : sweep test' g g.nullable (upcoming tokens' i) i d = .ok d') : AgreeUpTo k c' d' := by
  have hle := hsame.le_length
  have hle' := hsame.le_length'
  induction n generalizing i c d with
  | zero =>
    obtain ⟨c₁, c₂, hitems, hready, hsaturate, hfinal, -⟩ :=
      exists_round htest hc hlength (by omega) hs
    obtain ⟨d₁, d₂, hitems', hready', hsaturate', hfinal', -⟩ :=
      exists_round htest' hd hlength' (by omega) hs'
    have h₁ : AgreeUpTo k c₁ d₁ := fun j hj => by rw [hitems, hitems', h j hj]
    have h₂ : AgreeUpTo k c₂ d₂ :=
      ((Abreast.saturateFrom ⟨h₁, hready, hready'⟩ (by omega) hsame).related hsaturate
        hsaturate').agree
    intro j hj
    rw [hfinal j (by omega), hfinal' j (by omega), h₂ j hj]
  | succ n ih =>
    obtain ⟨c₁, c₂, hitems, hready, hsaturate, -, hrest⟩ :=
      exists_round htest hc hlength (by omega) hs
    obtain ⟨d₁, d₂, hitems', hready', hsaturate', -, hrest'⟩ :=
      exists_round htest' hd hlength' (by omega) hs'
    have h₁ : AgreeUpTo k c₁ d₁ := fun j hj => by rw [hitems, hitems', h j hj]
    have h₂ : AgreeUpTo k c₂ d₂ :=
      ((Abreast.saturateFrom ⟨h₁, hready, hready'⟩ (by omega) hsame).related hsaturate
        hsaturate').agree
    obtain ⟨hfilled, hlength₂, hs₂⟩ := hrest (by omega)
    obtain ⟨hfilled', hlength₂', hs₂'⟩ := hrest' (by omega)
    exact ih h₂ (by omega) hfilled hfilled' hlength₂ hlength₂' hs₂ hs₂'

/-! ## Whole charts -/

/-- Inputs that get the same answers up to position `k` have the same items up to there. -/
theorem itemsAt_build_eq (htest : test.TotalOn g tokens) (htest' : test'.TotalOn g tokens')
    (hrules : g.rules ≠ []) (htokens : tokens ≠ []) (htokens' : tokens' ≠ [])
    (hsame : SameAnswers g test.Accepts test'.Accepts tokens tokens' k) :
    ∃ c d, build test g tokens = .ok c ∧ build test' g tokens' = .ok d ∧
      ∀ i ≤ k, d.itemsAt i = c.itemsAt i := by
  obtain ⟨c, hc, -, -⟩ := exists_build htest htokens hrules
  obtain ⟨d, hd, -, -⟩ := exists_build htest' htokens' hrules
  refine ⟨c, d, hc, hd, ?_⟩
  obtain ⟨t, ts, rfl⟩ := List.exists_cons_of_ne_nil htokens
  obtain ⟨t', ts', rfl⟩ := List.exists_cons_of_ne_nil htokens'
  obtain ⟨r, rs, hr⟩ := List.exists_cons_of_ne_nil hrules
  unfold build at hc hd
  simp only [hr] at hc hd
  have hbegin : AgreeUpTo k (⟨#[⟨some t, StateSet.ofList (seeds g)⟩]⟩ : Chart τ)
      (⟨#[⟨some t', StateSet.ofList (seeds g)⟩]⟩ : Chart σ) := by
    intro j _
    cases j <;> rfl
  exact hbegin.sweep (Nat.zero_add k) htest htest' hsame (filled_start t ts) (filled_start t' ts')
    rfl rfl hc hd

/-- Inputs that begin with the same tokens have the same items, in the same order, as far as these
tokens reach; and filling a position never changes a position before it or after the next one. -/
theorem build_leftToRight {tokens tokens' : List τ} (htest : test.TotalOn g tokens)
    (htest' : test.TotalOn g tokens') (hrules : g.rules ≠ []) (htokens : tokens ≠ [])
    (htokens' : tokens' ≠ []) (hk : k ≤ tokens.length) (hk' : k ≤ tokens'.length)
    (htake : tokens'.take k = tokens.take k) :
    (∃ c c', build test g tokens = .ok c ∧ build test g tokens' = .ok c' ∧
      ∀ i ≤ k, c'.itemsAt i = c.itemsAt i) ∧
    ∀ i (c c' : Chart τ), c.saturate test g g.nullable i = .ok c' →
      ∀ j, j < i ∨ i + 1 < j → c'.at? j = c.at? j := by
  constructor
  · refine itemsAt_build_eq htest htest' hrules htokens htokens' ⟨hk, hk', ?_⟩
    intro i hi t t' ht ht' r _ p _
    have heq : tokens'[i]? = tokens[i]? := by
      rw [← List.getElem?_take_of_lt hi, htake, List.getElem?_take_of_lt hi]
    rw [ht, ht'] at heq
    cases heq
    exact Iff.rfl
  · intro i c c' hsaturate j hj
    exact at?_saturate hsaturate (by omega) (by omega)

/-- What follows the first token does not matter for the positions around it. -/
theorem build_leftToRight_hiddenRecursion :
    ∃ c c', build Matching.literal.accepts .hiddenRecursion [.value (.text "x"), .value .none] =
        .ok c ∧
      build Matching.literal.accepts .hiddenRecursion
          [.value (.text "x"), .value (.text "x"), .value (.text "y")] = .ok c' ∧
      ∀ i ≤ 1, c'.itemsAt i = c.itemsAt i := by
  have htest := Matching.totalOn (m := .literal) (by decide) Grammar.hiddenRecursion
    [.value (.text "x"), .value .none]
  have htest' := Matching.totalOn (m := .literal) (by decide) Grammar.hiddenRecursion
    [.value (.text "x"), .value (.text "x"), .value (.text "y")]
  exact (build_leftToRight (k := 1) htest htest' (by decide) (by decide) (by decide) (by decide)
    (by decide) rfl).1

end Earley.Chart
