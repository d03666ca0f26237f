/-
Earley.Proofs.Recognition — the verdict on an input says whether the start symbol derives it.

The verdict looks for an item that accepts among those of the last position. Which items stand there
is known exactly, so that what is left is to read the verdict off the list.

- `exists_someAccepting?`: on items of the grammar, the search for an accepting item has an answer.
- `recognize_iff_derives`: recognition is sound and complete.
-/
import Earley.Proofs.Chart.Exactness

namespace Earley

variable {τ ε : Type} {test : TokenTest τ ε} {g : Grammar} {tokens : List τ}

namespace Chart

variable {accepts : String → τ → Prop} {c : Chart τ} {k : Nat}

/-! ## The search for an accepting item -/

/-- The item has matched a rule of the start symbol from the first position on. -/
def Accepted (g : Grammar) (x : Item) : Prop :=
  x.start = 0 ∧ ∃ r, g.rules[x.rule]? = some r ∧ g.start? = some r.name ∧
    x.cursor = r.components.length

theorem accepting_eq_true_iff {x : Item} {r : Rule} :
    accepting g x r = true ↔ g.start? = some r.name ∧ x.cursor = r.components.length := by
  simp [accepting, Item.isComplete]

/-- If the rules of all items are in the grammar, the search has an answer, and it is right. -/
theorem exists_someAccepting? {items : List Item}
    (hrules : ∀ x ∈ items, ∃ r, g.rules[x.rule]? = some r) :
    ∃ b, someAccepting? g items = some b ∧ (b = true ↔ ∃ x ∈ items, Accepted g x) := by
  induction items with
  | nil => exact ⟨false, rfl, by simp⟩
  | cons x xs ih =>
    obtain ⟨hx, hxs⟩ := List.forall_mem_cons.1 hrules
    obtain ⟨r, hr⟩ := hx
    obtain ⟨b, hb, hiff⟩ := ih hxs
    by_cases hacc : Accepted g x
    · obtain ⟨hstart, r', hr', hname, hcursor⟩ := hacc
      cases hr.symm.trans hr'
      have haccepting := accepting_eq_true_iff.2 ⟨hname, hcursor⟩
      refine ⟨true, by simp [someAccepting?, hstart, hr, haccepting], ?_⟩
      simp only [true_iff]
      exact ⟨x, List.mem_cons_self, hstart, r, hr, hname, hcursor⟩
    · have hskip : someAccepting? g (x :: xs) = someAccepting? g xs := by
        by_cases hstart : x.start = 0
        · have hnot : accepting g x r ≠ true := fun h =>
            hacc ⟨hstart, r, hr, accepting_eq_true_iff.1 h⟩
          simp [someAccepting?, hstart, hr, hnot]
        · simp [someAccepting?, hstart]
      refine ⟨b, hskip.trans hb, hiff.trans ?_⟩
      simp [hacc]

/-- The last position of a chart that has all of them is where the verdict looks. -/
theorem accepted?_eq (hlength : c.length = tokens.length + 1) (hrules : g.rules ≠ []) :
    c.accepted? g = someAccepting? g (c.itemsAt tokens.length) := by
  obtain ⟨r, rs, hr⟩ := List.exists_cons_of_ne_nil hrules
  have hlast : c.entries.back? = c.at? tokens.length := by
    rw [Array.back?_eq_getElem?]
    exact congrArg (fun n => c.entries[n]?) (by rw [length] at hlength; omega)
  have hlt : tokens.length < c.length := by omega
  obtain ⟨e, he⟩ := lt_length_iff.1 hlt
  simp only [accepted?, hlast, itemsAt, he, hr]

/-- A chart has a verdict if the rules of its items are known. -/
theorem exists_accepted? (h : c.Known g) : ∃ b, c.accepted? g = some b := by
  unfold accepted?
  split
  next e r rs hback _ =>
    have he : c.at? (c.entries.size - 1) = some e := by
      rwa [Array.back?_eq_getElem?] at hback
    have hrules : ∀ x ∈ e.items.toList, ∃ r, g.rules[x.rule]? = some r :=
      fun x hx => h _ x (itemsAt_of_at? he ▸ hx)
    obtain ⟨b, hb, -⟩ := exists_someAccepting? hrules
    exact ⟨b, hb⟩
  · exact ⟨false, rfl⟩

/-- Every input has a chart with known rules, if the test has an answer for it. -/
theorem exists_known_build (htest : test.TotalOn g tokens) :
    ∃ c, build test g tokens = .ok c ∧ c.Known g := by
  by_cases hempty : tokens = [] ∨ g.rules = []
  · exact ⟨empty, build_of_eq_nil hempty, known_empty⟩
  · simp only [not_or] at hempty
    obtain ⟨c, hbuild, -, hfilled⟩ := exists_build htest hempty.1 hempty.2
    exact ⟨c, hbuild, hfilled.overInput.known⟩

/-! ## Accepting items and derivations -/

/-- The last position of a filled chart has an accepting item if the start symbol derives the
input. -/
theorem Filled.exists_accepted_iff (hc : Filled g accepts tokens (tokens.length + 1) c) :
    (∃ x ∈ c.itemsAt tokens.length, Accepted g x) ↔
      ∃ name, g.start? = some name ∧ g.Derives accepts [.nonterminal name] tokens := by
  constructor
  · rintro ⟨x, hx, hstart, r, hr, hname, hcursor⟩
    have hfinished : x.Finishes g r.name :=
      ⟨r, hr, List.getElem?_eq_none (Nat.le_of_eq hcursor.symm), rfl⟩
    have hspan := (hc.exact hx).derivesSpan hfinished
    rw [hstart] at hspan
    exact ⟨r.name, hname, Grammar.derivesSpan_whole_iff.1 hspan⟩
  · rintro ⟨name, hname, hw⟩
    obtain ⟨r, hr, rfl, hcomponents⟩ := Grammar.derives_nonterminal_iff.1 hw
    obtain ⟨q, hq⟩ := List.getElem?_of_mem hr
    refine ⟨⟨q, 0, r.components.length⟩, hc.mem_iff.2 ?_, rfl, r, hq, hname, rfl⟩
    refine ⟨r, hq, Nat.le_refl _, .start hname, ?_⟩
    rw [List.take_length]
    exact Grammar.derivesSpan_whole_iff.2 hcomponents

end Chart

/-! ## The verdict -/

theorem recognize_of_eq_nil (h : tokens = [] ∨ g.rules = []) :
    recognize test g tokens = .ok false := by
  simp only [recognize, Chart.build_of_eq_nil h]
  rfl

/-- A verdict is always reached if the matcher can answer for the terminals and tokens at hand. It
is positive exactly if there are tokens, and the name of the first rule derives them. -/
theorem recognize_iff_derives (htest : test.TotalOn g tokens) :
    ∃ verdict, recognize test g tokens = .ok verdict ∧
      (verdict = true ↔ tokens ≠ [] ∧
        ∃ r, g.rules[0]? = some r ∧ g.Derives test.Accepts [.nonterminal r.name] tokens) := by
  by_cases hempty : tokens = [] ∨ g.rules = []
  · refine ⟨false, recognize_of_eq_nil hempty, ?_⟩
    rcases hempty with h | h <;> simp [h]
  · simp only [not_or] at hempty
    obtain ⟨htokens, hrules⟩ := hempty
    obtain ⟨c, hbuild, hlength, hfilled⟩ := Chart.exists_build htest htokens hrules
    have hknown : ∀ x ∈ c.itemsAt tokens.length, ∃ r, g.rules[x.rule]? = some r :=
      fun x hx => (hfilled.overInput.fits hx).rule.imp fun _ h => h.1
    obtain ⟨b, hb, hiff⟩ := Chart.exists_someAccepting? hknown
    have haccepted := (Chart.accepted?_eq hlength hrules).trans hb
    refine ⟨b, by simp [recognize, hbuild, haccepted], hiff.trans ?_⟩
    rw [hfilled.exists_accepted_iff]
    simp [htokens, Grammar.start?, List.head?_eq_getElem?]

theorem recognize_hiddenRecursion :
    recognize Matching.literal.accepts .hiddenRecursion [.value (.text "x")] = .ok true := by
  obtain ⟨verdict, hverdict, hiff⟩ :=
    recognize_iff_derives
      (Matching.totalOn (m := .literal) (by decide) Grammar.hiddenRecursion [.value (.text "x")])
  have hstart : Grammar.hiddenRecursion.Derives (TokenTest.Accepts Matching.literal.accepts)
      [.nonterminal "S"] [.value (.text "x")] :=
    Grammar.derives_nonterminal_iff.2
      ⟨_, List.mem_cons_self, rfl, Grammar.hiddenRecursion_derives rfl⟩
  rw [hverdict, hiff.2 ⟨by decide, _, rfl, hstart⟩]

end Earley
