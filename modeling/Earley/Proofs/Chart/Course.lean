/-
Earley.Proofs.Chart.Course — the course of the machine, from the first moment to the last.

The recursions that fill a chart are runs of the machine, one for each recursion: what a turn makes
of the chart, what the turns of one position make of it, and what the positions make of it. So the
machine comes to its end with the chart that `Chart.build` gives. As there is only one way to go on,
every moment that can be reached lies on this one run.

- `build_sound_throughout`: the chart exists, it has the shape of the input, and at every moment on
  the way to it each item fits where it stands and stands there once.
- `build_terminates`: the way to it has an end, whatever the grammar is, and on it each position has
  one round and each item has one turn.
-/
import Earley.Proofs.Chart.Moments
import Earley.Proofs.Derivation
import Earley.Regex.Backtracking
import Mathlib.Data.List.Nodup

namespace Earley.Chart

variable {τ ε : Type} {test : TokenTest τ ε} {g : Grammar} {tokens : List τ} {c c' : Chart τ}
  {i j : Nat} {x : Item}

/-! ## One turn -/

section

variable {source : List τ} {n : Nat} {turns : List (Nat × Item)}

theorem reaches_adding (hi : i < c.length) (ys : List Item) :
    Reaches test g ⟨.adding i j ys, source, c, n, turns⟩
      ⟨.turn i (j + 1), source, c.modify i fun s => ys.foldl StateSet.insert s, n, turns⟩ := by
  induction ys generalizing c with
  | nil =>
    obtain ⟨e, he⟩ := lt_length_iff.1 hi
    rw [modify_eq_self he rfl]
    exact .single .added
  | cons y ys ih =>
    have hrest := ih (c := c.insert i y) (by rw [Chart.insert, length_modify]; exact hi)
    rw [Chart.insert, modify_modify] at hrest
    exact .head .adds hrest

/-- What is left of a list, if anything is, is the next element and what is behind it. -/
theorem getElem?_of_drop_eq_cons {α : Type} {l rest : List α} {k : Nat} {a : α}
    (h : l.drop k = a :: rest) : l[k]? = some a ∧ l.drop (k + 1) = rest := by
  constructor
  · rw [← List.head?_drop, h, List.head?_cons]
  · rw [← List.tail_drop, h, List.tail_cons]

/-- The items that are still to be asked are those behind the one whose turn it is. If they are
items of the position that is added to, they become more on the way. -/
theorem reaches_asking {name : String} {origin k : Nat} {e : Entry τ} {s : StateSet}
    (he : c.at? i = some e)
    (h : advanceWaiting g name (origin == i) ((c.itemsAt origin).drop k) e.items = .ok s) :
    Reaches test g ⟨.asking i j name origin k, source, c, n, turns⟩
      ⟨.turn i (j + 1), source, c.modify i fun _ => s, n, turns⟩ := by
  generalize hwaiting : (c.itemsAt origin).drop k = waiting at h
  generalize hlive : (origin == i) = live at h
  generalize htarget : e.items = target at h
  fun_induction advanceWaiting g name live waiting target generalizing c k e with
  | case1 =>
    cases h
    rw [modify_eq_self he htarget.symm]
    exact .single (.asked (List.getElem?_eq_none_iff.2 (List.drop_eq_nil_iff.1 hwaiting)))
  | case2 => cases h
  | case3 y waiting target hno ih =>
    obtain ⟨hy, hrest⟩ := getElem?_of_drop_eq_cons hwaiting
    exact .head (.passes hy hno) (ih he hrest htarget h)
  | @case4 y waiting target hyes fresh ih =>
    obtain ⟨hy, hrest⟩ := getElem?_of_drop_eq_cons hwaiting
    have he' : (c.insert i y.advanced).at? i =
        some { e with items := e.items.insert y.advanced } := by
      simp [Chart.insert, at?_modify, he]
    -- an item that is new to the position that is being asked will be asked in its turn
    have hrest' : ((c.insert i y.advanced).itemsAt origin).drop (k + 1) = waiting ++ fresh := by
      have hlt := (List.getElem?_eq_some_iff.1 hy).1
      rw [itemsAt_insert he, List.drop_append_of_le_length hlt, hrest]
      congr 1
      simp [fresh, ← hlive, htarget, ← StateSet.contains_iff]
    refine .head (.advances hy hyes) ?_
    have hrun := ih he' hrest' (congrArg (·.insert y.advanced) htarget) h
    rw [Chart.insert, modify_modify] at hrun
    exact hrun

theorem reaches_of_complete_of_rule {r : Rule} (hr : g.rules[x.rule]? = some r)
    (h : c.complete (ε := ε) g i x = .ok c') :
    Reaches test g ⟨.asking i j r.name x.start 0, source, c, n, turns⟩
      ⟨.turn i (j + 1), source, c', n, turns⟩ := by
  obtain ⟨r', origin, e, s, hr', horigin, he, hs, rfl⟩ := eq_of_complete h
  cases hr.symm.trans hr'
  rw [← itemsAt_of_at? horigin] at hs
  exact reaches_asking he hs

theorem reaches_of_complete {name : String} (hx : x.Finishes g name)
    (h : c.complete (ε := ε) g i x = .ok c') :
    Reaches test g ⟨.asking i j name x.start 0, source, c, n, turns⟩
      ⟨.turn i (j + 1), source, c', n, turns⟩ := by
  obtain ⟨r, hr, -, rfl⟩ := hx
  exact reaches_of_complete_of_rule hr h

/-- What the step for an item makes of the chart is what the machine makes of it in the turn of
that item. -/
theorem reaches_turn (hx : (c.itemsAt i)[j]? = some x)
    (h : c.process test g g.nullable i x = .ok c') :
    Reaches test g ⟨.turn i j, source, c, n, turns⟩
      ⟨.turn i (j + 1), source, c', n, turns ++ [(i, x)]⟩ := by
  obtain ⟨p, hw, hscan⟩ | ⟨name, hw, hpredict⟩ | ⟨name, hf, hcomplete⟩ := process_cases h
  · exact .single (.scans hx hw hscan)
  · obtain ⟨e, he, rfl⟩ := eq_of_predict hpredict
    exact .head (.predicts hx hw) (reaches_adding (lt_length_iff.2 ⟨e, he⟩) _)
  · obtain ⟨-, origin, -, -, -, horigin, -⟩ := eq_of_complete hcomplete
    have hstart := lt_length_iff.2 ⟨origin, horigin⟩
    exact .head (.completes hx hf hstart) (reaches_of_complete hf hcomplete)

end

/-! ## One position -/

/-- The turns of the items of position `i` from the `j`-th on. -/
def turnsFrom (c : Chart τ) (i j : Nat) : List (Nat × Item) :=
  ((c.itemsAt i).drop j).map fun x => (i, x)

theorem turnsFrom_eq_cons (hx : (c.itemsAt i)[j]? = some x) :
    turnsFrom c i j = (i, x) :: turnsFrom c i (j + 1) := by
  obtain ⟨hlt, rfl⟩ := List.getElem?_eq_some_iff.1 hx
  rw [turnsFrom, List.drop_eq_getElem_cons hlt, List.map_cons, turnsFrom]

theorem turnsFrom_eq_nil (hj : (c.itemsAt i).length ≤ j) : turnsFrom c i j = [] := by
  rw [turnsFrom, List.drop_eq_nil_of_le hj, List.map_nil]

/-- What has been made of a chart by the turns at position `i`, from the `j`-th on. -/
structure Round (test : TokenTest τ ε) (g : Grammar) (tokens : List τ) (i j : Nat)
    (c c' : Chart τ) : Prop where
  overInput : c'.Over g tokens
  extends_ : c.Extends c'
  frame : ∀ k < i, c'.itemsAt k = c.itemsAt k
  reaches : ∀ source n turns, Reaches test g ⟨.turn i j, source, c, n, turns⟩
    ⟨.position (i + 1), source, c', n, turns ++ turnsFrom c' i j⟩

theorem Round.refl (hc : c.Over g tokens) (hj : (c.itemsAt i).length ≤ j) :
    Round test g tokens i j c c where
  overInput := hc
  extends_ := Extends.refl c
  frame := fun _ _ => rfl
  reaches := by
    intro source n turns
    rw [turnsFrom_eq_nil hj, List.append_nil]
    exact .single (.leaves (List.getElem?_eq_none_iff.2 hj))

/-- The recursion over the items of a position is a run, if it has turns enough. -/
theorem round_saturateFrom (htest : test.TotalOn g tokens) {fuel : Nat}
    (hc : c.Over g tokens) (hopen : i < tokens.length → i + 1 < c.length)
    (hfuel : capacity g i ≤ fuel + j)
    (h : saturateFrom test g g.nullable i fuel j c = .ok c') :
    Round test g tokens i j c c' := by
  induction fuel generalizing j c with
  | zero =>
    cases h
    have hlength := length_itemsAt_le hc i
    exact .refl hc (by omega)
  | succ fuel ih =>
    unfold saturateFrom at h
    rw [bind_get?] at h
    cases hx : (c.itemsAt i)[j]? with
    | none =>
      simp only [hx] at h
      cases h
      exact .refl hc (List.getElem?_eq_none_iff.1 hx)
    | some x =>
      have hmem := List.mem_of_getElem? hx
      obtain ⟨c₁, hprocess, ho⟩ := process_outcome hc htest hopen hmem
      simp only [hx, hprocess] at h
      have hlength := ho.extends_.length_eq
      have hrest := ih (ho.overInput hc hmem) (by omega) (by omega) h
      -- the item stands where it stood when all turns are over
      have hx' : (c'.itemsAt i)[j]? = some x := by
        obtain ⟨new, hnew⟩ := (ho.extends_.trans hrest.extends_).items i
        rw [← hnew, List.getElem?_append_left (List.getElem?_eq_some_iff.1 hx).1, hx]
      refine ⟨hrest.overInput, ho.extends_.trans hrest.extends_, fun k hk => ?_, ?_⟩
      · rw [hrest.frame k hk, ho.frame k (by omega) (by omega)]
      · intro source n turns
        have hturns := hrest.reaches source n (turns ++ [(i, x)])
        rw [List.append_assoc, List.singleton_append, ← turnsFrom_eq_cons hx'] at hturns
        exact (reaches_turn hx hprocess).trans hturns

/-! ## All positions -/

/-- The recursion over the positions is a run, in which each position has one round. -/
theorem reaches_sweep (htest : test.TotalOn g tokens) {n : Nat} (hc : c.Over g tokens)
    (hlength : c.length = i + 1) (hn : i + n = tokens.length)
    (h : sweep test g g.nullable (upcoming tokens i) i c = .ok c') :
    c'.length = tokens.length + 1 ∧ (∀ k < i, c'.itemsAt k = c.itemsAt k) ∧
      ∀ turns, Reaches test g ⟨.position i, tokens.drop (i + 1), c, i, turns⟩
        ⟨.position (tokens.length + 1), [], c', tokens.length + 1,
          turns ++ (List.range' i (n + 1)).flatMap fun k => turnsFrom c' k 0⟩ := by
  obtain ⟨e, he⟩ := lt_length_iff.1 (show i < c.length by omega)
  have htoken := hc.token he
  induction n generalizing i c e with
  | zero =>
    have hi : i = tokens.length := hn
    rw [upcoming_eq_nil (by omega), sweep] at h
    have hturns := round_saturateFrom htest hc (by omega) (Nat.le_refl _) h
    have hnone : e.token = none := by simp [htoken, hi]
    have hrest : tokens.drop (i + 1) = [] := List.drop_eq_nil_of_le (by omega)
    refine ⟨by rw [hturns.extends_.length_eq]; omega, hturns.frame, fun turns => ?_⟩
    rw [hrest, ← hi, List.range'_one, List.flatMap_singleton]
    exact .head (.ends he hnone) (hturns.reaches _ _ _)
  | succ n ih =>
    have hlt : i < tokens.length := by omega
    rw [upcoming_eq_cons hlt, sweep] at h
    have hpush : (c.push tokens[i + 1]?).Over g tokens := hlength ▸ hc.push (by omega)
    have hopen : i < tokens.length → i + 1 < (c.push tokens[i + 1]?).length := by
      rw [length_push]
      omega
    cases hs : (c.push tokens[i + 1]?).saturate test g g.nullable i with
    | error f =>
      rw [hs] at h
      cases h
    | ok c₁ =>
      rw [hs] at h
      have hturns := round_saturateFrom htest hpush hopen (Nat.le_refl _) hs
      have hlength₁ : c₁.length = i + 1 + 1 := by
        rw [hturns.extends_.length_eq, length_push, hlength]
      obtain ⟨e₁, he₁⟩ := lt_length_iff.1 (show i + 1 < c₁.length by omega)
      obtain ⟨hsame, hframe, hrounds⟩ := ih hturns.overInput hlength₁ (by omega) h e₁ he₁
        (hturns.overInput.token he₁)
      refine ⟨hsame, fun k hk => ?_, fun turns => ?_⟩
      · rw [hframe k (by omega), hturns.frame k hk, itemsAt_push]
      · have hopens : Move test g ⟨.position i, tokens.drop (i + 1), c, i, turns⟩
            ⟨.turn i 0, tokens.drop (i + 1 + 1), c.push tokens[i + 1]?, i + 1, turns⟩ := by
          have hhead : (tokens.drop (i + 1)).head? = tokens[i + 1]? := List.head?_drop
          have htail : (tokens.drop (i + 1)).tail = tokens.drop (i + 1 + 1) := List.tail_drop
          rw [← hhead, ← htail]
          exact .opens he (htoken.trans (List.getElem?_eq_getElem hlt))
        have hitems : turnsFrom c₁ i 0 = turnsFrom c' i 0 := by
          rw [turnsFrom, turnsFrom, hframe i (Nat.lt_succ_self i)]
        have hround := hrounds (turns ++ turnsFrom c₁ i 0)
        rw [List.append_assoc, hitems] at hround
        rw [List.range'_succ, List.flatMap_cons]
        exact .head hopens ((hitems ▸ hturns.reaches _ _ turns).trans hround)

/-- The machine comes to its end with the chart of the input. By then each position has had one
round and each item one turn. -/
theorem exists_course (htest : test.TotalOn g tokens) {t : τ} {ts : List τ}
    (htokens : tokens = t :: ts) (hrules : g.rules ≠ []) :
    ∃ c, build test g tokens = .ok c ∧ c.length = tokens.length + 1 ∧
      Reaches test g (Moment.first g t ts) ⟨.position (tokens.length + 1), [], c,
        tokens.length + 1, (List.range (tokens.length + 1)).flatMap fun k => turnsFrom c k 0⟩ := by
  subst htokens
  obtain ⟨c, hbuild, -, -⟩ := exists_build htest (List.cons_ne_nil t ts) hrules
  obtain ⟨r, rs, hr⟩ := List.exists_cons_of_ne_nil hrules
  have hsweep := hbuild
  simp only [build, hr] at hsweep
  obtain ⟨hlength, -, hrounds⟩ := reaches_sweep htest (sound_first t ts).overInput rfl
    (Nat.zero_add _) hsweep
  refine ⟨c, hbuild, hlength, ?_⟩
  rw [List.range_eq_range']
  exact hrounds []

/-! ## At every moment -/

/-- The tokens of a chart that goes to the end of the input are those of the input, and then
none. -/
theorem Over.tokens_eq (hc : c.Over g tokens) (hlength : c.length = tokens.length + 1) :
    c.entries.toList.map (·.token) = tokens.map some ++ [none] := by
  refine List.ext_getElem? fun i => ?_
  rw [List.getElem?_map, Array.getElem?_toList]
  change (c.at? i).map (·.token) = _
  rcases Nat.lt_or_ge i c.length with hi | hi
  · obtain ⟨e, he⟩ := lt_length_iff.1 hi
    rw [he, Option.map_some, hc.token he]
    rcases Nat.lt_or_ge i tokens.length with hlt | hge
    · simp [List.getElem?_append_left, hlt]
    · have hlast : i = tokens.length := by omega
      simp [hlast]
  · have hnone : c.at? i = none := Array.getElem?_eq_none hi
    have hbeyond : (tokens.map some ++ [none]).length ≤ i := by simp; omega
    rw [hnone, List.getElem?_eq_none hbeyond, Option.map_none]

/-- A chart is built for every grammar and every input whose tokens can be tested. It is empty if
there are no tokens or no rules. Otherwise it has a position for each token, in order, and one for
the end; and at every moment on the way to it the machine finds whatever it looks up, each item at
a position fits there, and no position holds an item twice. -/
theorem build_sound_throughout (htest : test.TotalOn g tokens) :
    ∃ c, build test g tokens = .ok c ∧
      (tokens = [] ∨ g.rules = [] → c = empty) ∧
      ∀ t ts, tokens = t :: ts → g.rules ≠ [] →
        c.length = tokens.length + 1 ∧
        c.entries.toList.map (·.token) = tokens.map some ++ [none] ∧
        ∀ m, Reaches test g (Moment.first g t ts) m →
          (m.Finished ∧ m.chart = c ∨ ∃ m', Move test g m m') ∧
          ∀ i, (m.chart.itemsAt i).Nodup ∧ ∀ x ∈ m.chart.itemsAt i, x.Fits g i := by
  by_cases hempty : tokens = [] ∨ g.rules = []
  · refine ⟨empty, build_of_eq_nil hempty, fun _ => rfl, ?_⟩
    rintro t ts rfl hrules
    simp [hrules] at hempty
  obtain ⟨htokens, hrules⟩ := not_or.1 hempty
  obtain ⟨t, ts, rfl⟩ := List.exists_cons_of_ne_nil htokens
  obtain ⟨c, hbuild, hlength, hcourse⟩ := exists_course htest rfl hrules
  have hend := (sound_first t ts).run hcourse
  refine ⟨c, hbuild, fun h => absurd h hempty, ?_⟩
  rintro t' ts' h -
  cases h
  refine ⟨hlength, hend.overInput.tokens_eq hlength, fun m hm => ⟨?_, fun i => ?_⟩⟩
  · have hsound := (sound_first t ts).run hm
    refine (hsound.exists_move htest).imp_left fun hfinished => ⟨hfinished, ?_⟩
    -- an end that is reached is the end of the one run
    have hrest := hcourse.to_finished ⟨_, rfl, ?_⟩ hm
    · rcases hrest.cases_head with hlast | ⟨next, hnext, -⟩
      · rw [hlast]
      · exact absurd hnext hfinished.not_move
    · exact Array.getElem?_eq_none (Nat.le_of_eq hlength)
  · have hsound := (sound_first t ts).run hm
    exact ⟨nodup_itemsAt m.chart i, fun x hx => hsound.overInput.fits hx⟩

/-- A token that is no text does not end the input. -/
theorem build_sound_throughout_noText :
    ∃ c, build Matching.literal.accepts .hiddenRecursion [.value .none, .value (.text "x")] =
        .ok c ∧
      c.entries.toList.map (·.token) = [some (.value .none), some (.value (.text "x")), none] ∧
      ∀ m, Reaches Matching.literal.accepts .hiddenRecursion
          (Moment.first .hiddenRecursion (.value .none) [.value (.text "x")]) m →
        ∀ i, ∀ x ∈ m.chart.itemsAt i, x.start ≤ i := by
  have htest := Matching.totalOn (m := .literal) (by decide) Grammar.hiddenRecursion
    [.value .none, .value (.text "x")]
  obtain ⟨c, hbuild, -, hshape⟩ := build_sound_throughout htest
  obtain ⟨-, htokens, hmoments⟩ := hshape _ _ rfl (by decide)
  exact ⟨c, hbuild, htokens, fun m hm i x hx => (((hmoments m hm).2 i).2 x hx).start_le⟩

/-! ## To the end -/

/-- All turns at the positions of a chart. -/
theorem mem_flatMap_turnsFrom {n : Nat} (hlength : c.length = n) :
    (i, x) ∈ (List.range n).flatMap (fun k => turnsFrom c k 0) ↔ x ∈ c.itemsAt i := by
  simp only [List.mem_flatMap, List.mem_range, turnsFrom, List.drop_zero, List.mem_map,
    Prod.mk.injEq]
  constructor
  · rintro ⟨k, -, y, hy, rfl, rfl⟩
    exact hy
  · intro hx
    exact ⟨i, hlength ▸ lt_length_iff.2 (exists_at?_of_mem hx), x, hx, rfl, rfl⟩

theorem nodup_flatMap_turnsFrom (c : Chart τ) (n : Nat) :
    ((List.range n).flatMap fun k => turnsFrom c k 0).Nodup := by
  refine List.nodup_flatMap.2 ⟨fun k _ => ?_, ?_⟩
  · rw [turnsFrom, List.drop_zero]
    exact (nodup_itemsAt c k).map fun x y h => (Prod.mk.inj h).2
  · refine List.nodup_range.imp fun {k l} hne => ?_
    rintro ⟨p, x⟩ hk hl
    simp only [turnsFrom, List.mem_map, Prod.mk.injEq] at hk hl
    obtain ⟨-, -, rfl, -⟩ := hk
    obtain ⟨-, -, rfl, -⟩ := hl
    exact hne rfl

/-- For every grammar and every input whose tokens can be tested, no run of the machine goes on for
ever, and all that is on the way to the end goes on to the same end: the chart that is built. By
then as many rounds have begun as the input has tokens and one more, and each item of each position
has had exactly one turn. At no moment does a position hold more items than there are places for a
dot in the rules, for each position up to it. Completing, by itself, ends on every chart whose items
have known rules, also where it asks the items that it adds. -/
theorem build_terminates (htest : test.TotalOn g tokens) :
    (∃ c, build test g tokens = .ok c ∧
      (∀ i, (c.itemsAt i).length ≤
        (i + 1) * g.rules.foldr (fun r n => r.components.length + 1 + n) 0) ∧
      ∀ t ts, tokens = t :: ts → g.rules ≠ [] →
        Acc (fun next now => Move test g now next) (Moment.first g t ts) ∧
        ∃ last, last.Finished ∧ last.chart = c ∧ last.rounds = tokens.length + 1 ∧
          last.turns.Nodup ∧ (∀ i x, (i, x) ∈ last.turns ↔ x ∈ c.itemsAt i) ∧
          ∀ m, Reaches test g (Moment.first g t ts) m → Reaches test g m last ∧
            ∀ i, (m.chart.itemsAt i).length ≤
              (i + 1) * g.rules.foldr (fun r n => r.components.length + 1 + n) 0) ∧
    ∀ (c : Chart τ) (i : Nat) (x : Item) (name : String), c.Known g → i < c.length →
      x.start < c.length → x.Finishes g name →
      ∃ c', c.complete (ε := ε) g i x = .ok c' ∧ ∀ j source n turns,
        Reaches test g ⟨.asking i j name x.start 0, source, c, n, turns⟩
          ⟨.turn i (j + 1), source, c', n, turns⟩ := by
  refine ⟨?_, fun c i x name hc hi hstart hx => ?_⟩
  swap
  · obtain ⟨c', hcomplete⟩ := exists_complete (ε := ε) hc hi hstart hx
    exact ⟨c', hcomplete, fun j source n turns => reaches_of_complete hx hcomplete⟩
  by_cases hempty : tokens = [] ∨ g.rules = []
  · refine ⟨empty, build_of_eq_nil hempty, fun i => by simp [itemsAt, at?, empty], ?_⟩
    rintro t ts rfl hrules
    simp [hrules] at hempty
  obtain ⟨htokens, hrules⟩ := not_or.1 hempty
  obtain ⟨t, ts, rfl⟩ := List.exists_cons_of_ne_nil htokens
  obtain ⟨c, hbuild, hlength, hcourse⟩ := exists_course htest rfl hrules
  refine ⟨c, hbuild, ?_, ?_⟩
  · exact length_itemsAt_le ((sound_first t ts).run hcourse).overInput
  rintro t' ts' h -
  cases h
  have hfinished : Moment.Finished ⟨.position ((t :: ts).length + 1), [], c, (t :: ts).length + 1,
      (List.range ((t :: ts).length + 1)).flatMap fun k => turnsFrom c k 0⟩ :=
    ⟨_, rfl, Array.getElem?_eq_none (Nat.le_of_eq hlength)⟩
  refine ⟨hcourse.acc hfinished, _, hfinished, rfl, rfl, nodup_flatMap_turnsFrom c _,
    fun i x => mem_flatMap_turnsFrom hlength, fun m hm => ?_⟩
  exact ⟨hcourse.to_finished hfinished hm,
    length_itemsAt_le ((sound_first t ts).run hm).overInput⟩

/-- A start symbol that begins with itself, behind a name that derives nothing, and the completion
of that name at the position where it waits. -/
theorem build_terminates_hiddenRecursion :
    (∃ c, build Matching.literal.accepts .hiddenRecursion [.value (.text "x")] = .ok c ∧
      (c.itemsAt 1).length ≤ 16 ∧
      ∃ last, Reaches Matching.literal.accepts .hiddenRecursion
          (Moment.first .hiddenRecursion (.value (.text "x")) []) last ∧
        last.Finished ∧ last.rounds = 2 ∧ last.turns.Nodup) ∧
    ∃ c', complete (τ := Token) (ε := Regex.Invalid) .hiddenRecursion
      ⟨#[⟨none, .ofList [⟨0, 0, 0⟩, ⟨2, 0, 0⟩]⟩]⟩ 0 ⟨2, 0, 0⟩ = .ok c' := by
  have htest :=
    Matching.totalOn (m := .literal) (by decide) Grammar.hiddenRecursion [.value (.text "x")]
  obtain ⟨⟨c, hbuild, hsize, hruns⟩, hcompletes⟩ := build_terminates htest
  obtain ⟨-, last, hfinished, -, hrounds, hnodup, -, hreaches⟩ := hruns _ _ rfl (by decide)
  refine ⟨⟨c, hbuild, hsize 1, last, (hreaches _ .refl).1, hfinished, hrounds, hnodup⟩, ?_⟩
  have hknown : Known .hiddenRecursion
      (⟨#[⟨none, .ofList [⟨0, 0, 0⟩, ⟨2, 0, 0⟩]⟩]⟩ : Chart Token) := by
    intro i x hx
    cases i with
    | zero =>
      have hx : x ∈ [⟨0, 0, 0⟩, ⟨2, 0, 0⟩] := by simpa [itemsAt, at?] using hx
      simp only [List.mem_cons, List.not_mem_nil, or_false] at hx
      rcases hx with rfl | rfl <;> exact ⟨_, rfl⟩
    | succ i => simp [itemsAt, at?] at hx
  obtain ⟨c', hcomplete, -⟩ := hcompletes _ 0 ⟨2, 0, 0⟩ "A" hknown (by decide +kernel)
    (by decide +kernel) ⟨⟨"A", []⟩, rfl, rfl, rfl⟩
  exact ⟨c', hcomplete⟩

end Earley.Chart
