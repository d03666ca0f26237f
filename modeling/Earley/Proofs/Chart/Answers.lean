/-
Earley.Proofs.Chart.Answers — a chart sees its tokens through the test alone.

Two inputs of one length, with tokens of any types and a test for each of them, are told apart only
by an answer. While the tests accept the same terminals at the same positions, the two charts are
filled in lockstep from the first position to the last (`Twins`), and the end of the input comes
for both at once, whatever the tokens are.

- `Twins.sweep`: two charts that have the same items keep them the same, position by position.
- `accepted?_congr`: the verdict is read off the items.
- `build_answersOnly`: the charts have the same items and the same verdict.
-/
import Earley.Proofs.Chart.LeftToRight
import Earley.Proofs.Recognition

namespace Earley.Chart

variable {τ σ ε ε' : Type} {test : TokenTest τ ε} {test' : TokenTest σ ε'} {g : Grammar}
  {tokens : List τ} {tokens' : List σ} {c : Chart τ} {d : Chart σ} {i n : Nat}

/-! ## Two charts from the first position to the last -/

/-- Charts over two inputs, with `n` positions each and the same items in the same order at each
position. -/
structure Twins (g : Grammar) (tokens : List τ) (tokens' : List σ) (n : Nat) (c : Chart τ)
    (d : Chart σ) : Prop where
  overInput : c.Over g tokens
  overInput' : d.Over g tokens'
  length_eq : c.length = n
  length_eq' : d.length = n
  items : ∀ i, d.itemsAt i = c.itemsAt i

namespace Twins

theorem push (h : Twins g tokens tokens' n c d) (hn : n ≤ tokens.length)
    (hlength : tokens'.length = tokens.length) :
    Twins g tokens tokens' (n + 1) (c.push tokens[n]?) (d.push tokens'[n]?) := by
  obtain ⟨hc, hd, rfl, hdn, hitems⟩ := h
  have hpush' := hd.push (by omega)
  rw [hdn] at hpush'
  exact ⟨hc.push hn, hpush', length_push _ _, by rw [length_push, hdn], by simpa using hitems⟩

/-- One position of both charts. Behind the last position there is nothing that could differ. -/
theorem saturate (h : Twins g tokens tokens' n c d) (hi : i ≤ tokens.length)
    (hopen : i < tokens.length → i + 1 < n) (hlength : tokens'.length = tokens.length)
    (hsame : SameAnswers g test.Accepts test'.Accepts tokens tokens' tokens.length) :
    Together (AnswerAlike g test test' tokens tokens') (Twins g tokens tokens' n)
      (c.saturate test g g.nullable i) (d.saturate test' g g.nullable i) := by
  obtain ⟨hc, hd, rfl, hdn, hitems⟩ := h
  have habreast : Abreast g tokens tokens' tokens.length i c d :=
    ⟨fun j _ => hitems j, ⟨hc, hopen⟩, ⟨hd, by rwa [hlength, hdn]⟩⟩
  have htogether : Together (AnswerAlike g test test' tokens tokens')
      (Abreast g tokens tokens' tokens.length i) (c.saturate test g g.nullable i)
      (d.saturate test' g g.nullable i) := habreast.saturateFrom hi hsame
  refine ⟨fun hs hs' => ?_, htogether.both⟩
  obtain ⟨hagree, hready, hready'⟩ := htogether.related hs hs'
  refine ⟨hready.overInput, hready'.overInput, length_saturate hs,
    (length_saturate hs').trans hdn, fun j => ?_⟩
  by_cases hj : j ≤ tokens.length
  · exact hagree j hj
  · have hle := hready.overInput.length_le
    have hle' := hready'.overInput.length_le
    rw [itemsAt_of_length_le (by omega), itemsAt_of_length_le (by omega)]

/-- The rest of the positions of both charts, from position `i` on. -/
theorem sweep (h : Twins g tokens tokens' (i + 1) c d) (hn : i + n = tokens.length)
    (hlength : tokens'.length = tokens.length)
    (hsame : SameAnswers g test.Accepts test'.Accepts tokens tokens' tokens.length) :
    Together (AnswerAlike g test test' tokens tokens') (Twins g tokens tokens' (tokens.length + 1))
      (sweep test g g.nullable (upcoming tokens i) i c)
      (sweep test' g g.nullable (upcoming tokens' i) i d) := by
  induction n generalizing i c d with
  | zero =>
    obtain rfl : i = tokens.length := hn
    rw [upcoming_eq_nil (Nat.le_refl _), upcoming_eq_nil (Nat.le_of_eq hlength)]
    exact h.saturate (Nat.le_refl _) (fun hlt => absurd hlt (Nat.lt_irrefl _)) hlength hsame
  | succ n ih =>
    have hi : i < tokens.length := by omega
    have hi' : i < tokens'.length := by omega
    rw [upcoming_eq_cons hi, upcoming_eq_cons hi']
    have hpush := h.push hi hlength
    have hsaturate := hpush.saturate (Nat.le_of_lt hi) (fun _ => Nat.lt_succ_self _) hlength hsame
    exact hsaturate.bind fun _ _ h₁ => ih h₁ (by omega)

end Twins

/-! ## Whole charts -/

/-- The charts have as many positions and the same items, and the grammar has their rules. -/
structure Like (g : Grammar) (c : Chart τ) (d : Chart σ) : Prop where
  length_eq : d.length = c.length
  items : ∀ i, d.itemsAt i = c.itemsAt i
  known : c.Known g

theorem Twins.like (h : Twins g tokens tokens' n c d) : Like g c d :=
  ⟨h.length_eq'.trans h.length_eq.symm, h.items, h.overInput.known⟩

theorem together_build (hlength : tokens'.length = tokens.length)
    (hsame : SameAnswers g test.Accepts test'.Accepts tokens tokens' tokens.length) :
    Together (AnswerAlike g test test' tokens tokens') (Like g) (build test g tokens)
      (build test' g tokens') := by
  by_cases hempty : tokens = [] ∨ g.rules = []
  · have hempty' : tokens' = [] ∨ g.rules = [] := by
      rwa [← List.length_eq_zero_iff, hlength, List.length_eq_zero_iff]
    rw [build_of_eq_nil hempty, build_of_eq_nil hempty']
    exact .ok ⟨rfl, fun _ => rfl, known_empty⟩
  · simp only [not_or] at hempty
    obtain ⟨r, rs, hr⟩ := List.exists_cons_of_ne_nil hempty.2
    obtain ⟨t, ts, rfl⟩ := List.exists_cons_of_ne_nil hempty.1
    obtain ⟨t', ts', rfl⟩ := List.exists_cons_of_length_eq_add_one hlength
    have hc : Filled g test.Accepts (t :: ts) 0 _ := filled_start t ts
    have hd : Filled g test'.Accepts (t' :: ts') 0 _ := filled_start t' ts'
    have hbegin : Twins g (t :: ts) (t' :: ts') 1 _ _ :=
      ⟨hc.overInput, hd.overInput, rfl, rfl, fun i => by cases i <;> rfl⟩
    have hsweep := hbegin.sweep (Nat.zero_add _) hlength hsame
    unfold build
    simp only [hr]
    exact ⟨fun hs hs' => (hsweep.related hs hs').like, hsweep.both⟩

/-- The verdict is read off the items of the last position. -/
theorem accepted?_congr (hlength : d.length = c.length)
    (hitems : ∀ i, d.itemsAt i = c.itemsAt i) : d.accepted? g = c.accepted? g := by
  have hback : c.entries.back? = c.at? (c.length - 1) := Array.back?_eq_getElem?
  have hback' : d.entries.back? = d.at? (c.length - 1) := hlength ▸ Array.back?_eq_getElem?
  unfold accepted?
  rw [hback, hback']
  cases he : c.at? (c.length - 1) with
  | none =>
    have hle : c.length ≤ c.length - 1 := Array.getElem?_eq_none_iff.1 he
    have hnone : d.at? (c.length - 1) = none :=
      Array.getElem?_eq_none_iff.2 (Nat.le_trans (Nat.le_of_eq hlength) hle)
    rw [hnone]
  | some e =>
    have hlt : c.length - 1 < c.length := lt_length_iff.2 ⟨e, he⟩
    obtain ⟨e', he'⟩ := lt_length_iff.1 (Nat.lt_of_lt_of_eq hlt hlength.symm)
    have hlast := hitems (c.length - 1)
    rw [itemsAt_of_at? he, itemsAt_of_at? he'] at hlast
    rw [he']
    cases g.rules with
    | nil => rfl
    | cons r rs => simp only [hlast]

/-- Both inputs have charts, with the same items in the same order at every position, and the same
verdict. -/
def Indistinguishable (g : Grammar) (test : TokenTest τ ε) (test' : TokenTest σ ε')
    (tokens : List τ) (tokens' : List σ) : Prop :=
  ∃ c d verdict, build test g tokens = .ok c ∧ build test' g tokens' = .ok d ∧
    d.length = c.length ∧ (∀ i, d.itemsAt i = c.itemsAt i) ∧
    recognize test g tokens = .ok verdict ∧ recognize test' g tokens' = .ok verdict

theorem Like.indistinguishable (h : Like g c d) (hc : build test g tokens = .ok c)
    (hd : build test' g tokens' = .ok d) : Indistinguishable g test test' tokens tokens' := by
  obtain ⟨verdict, hverdict⟩ := exists_accepted? h.known
  have hverdict' := (accepted?_congr h.length_eq h.items).trans hverdict
  refine ⟨c, d, verdict, hc, hd, h.length_eq, h.items, ?_, ?_⟩
  · simp only [recognize, hc, hverdict]
  · simp only [recognize, hd, hverdict']

theorem indistinguishable_of_totalOn (htest : test.TotalOn g tokens)
    (htest' : test'.TotalOn g tokens') (hlength : tokens'.length = tokens.length)
    (hsame : SameAnswers g test.Accepts test'.Accepts tokens tokens' tokens.length) :
    Indistinguishable g test test' tokens tokens' := by
  obtain ⟨c, hc, -⟩ := exists_known_build htest
  obtain ⟨d, hd, -⟩ := exists_known_build htest'
  exact ((together_build hlength hsame).related hc hd).indistinguishable hc hd

/-- Two inputs of one length whose tests accept the same terminals of the grammar at each position
have the same items, in the same order, and the same verdict: always, if the tests have all answers,
and else if both charts come about. One chart comes about if the other does, if the tests have
answers for the same terminals at each position. In particular it makes no difference whether a
grammar sees lexemes by their kinds or the kinds themselves as plain texts. -/
theorem build_answersOnly [Regex.Engine] (g : Grammar) :
    (∀ (τ σ ε ε' : Type) (test : TokenTest τ ε) (test' : TokenTest σ ε') (tokens : List τ)
      (tokens' : List σ), tokens'.length = tokens.length →
      SameAnswers g test.Accepts test'.Accepts tokens tokens' tokens.length →
      (test.TotalOn g tokens → test'.TotalOn g tokens' →
        Indistinguishable g test test' tokens tokens') ∧
      (∀ c d, build test g tokens = .ok c → build test' g tokens' = .ok d →
        Indistinguishable g test test' tokens tokens') ∧
      (AnswerAlike g test test' tokens tokens' →
        ((∃ c, build test g tokens = .ok c) ↔ ∃ d, build test' g tokens' = .ok d))) ∧
    ∀ lexemes : List (String × Value × Int × Int),
      Indistinguishable g Matching.kind.accepts Matching.literal.accepts
        (lexemes.map fun (kind, text, line, column) => .lexeme (some kind) text line column)
        (lexemes.map fun (kind, _) => .value (.text kind)) := by
  refine ⟨fun τ σ ε ε' test test' tokens tokens' hlength hsame => ?_, fun lexemes => ?_⟩
  · have htogether := together_build hlength hsame
    exact ⟨fun htest htest' => indistinguishable_of_totalOn htest htest' hlength hsame,
      fun c d hc hd => (htogether.related hc hd).indistinguishable hc hd, htogether.both⟩
  · refine indistinguishable_of_totalOn (Matching.totalOn (by decide) g _)
      (Matching.totalOn (by decide) g _) (by simp) ⟨Nat.le_refl _, by simp, ?_⟩
    -- both tests compare the kind with the pattern
    intro i _ t t' ht ht' r _ p _
    rw [List.getElem?_map] at ht ht'
    obtain ⟨⟨kind, text, line, column⟩, hlexeme, rfl⟩ := Option.map_eq_some_iff.1 ht
    rw [hlexeme] at ht'
    cases ht'
    exact Iff.rfl

/-- A plain text and a lexeme of that kind are one to a grammar, and so are two tokens that match
nothing. -/
theorem build_answersOnly_hiddenRecursion :
    Indistinguishable .hiddenRecursion Matching.literal.accepts Matching.kind.accepts
      [.value (.text "x"), .value .none]
      [.lexeme (some "x") (.int 7) 3 9, .lexeme none (.text "x") 1 2] := by
  have hsame : SameAnswers .hiddenRecursion (TokenTest.Accepts Matching.literal.accepts)
      (TokenTest.Accepts Matching.kind.accepts) [.value (.text "x"), .value .none]
      [.lexeme (some "x") (.int 7) 3 9, .lexeme none (.text "x") 1 2] 2 := by
    refine ⟨by decide, by decide, fun i hi t t' ht ht' _ _ p _ => ?_⟩
    match i, hi with
    | 0, _ =>
      cases ht
      cases ht'
      exact Iff.rfl
    | 1, _ =>
      cases ht
      cases ht'
      exact Iff.rfl
  obtain ⟨hsimulates, -⟩ := build_answersOnly .hiddenRecursion
  exact (hsimulates _ _ _ _ _ _ _ _ (by rfl) hsame).1
    (Matching.totalOn (m := .literal) (by decide) _ _)
    (Matching.totalOn (m := .kind) (by decide) _ _)

end Earley.Chart
