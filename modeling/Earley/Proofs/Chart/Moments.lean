/-
Earley.Proofs.Chart.Moments — the filling of a chart, one move at a time.

`Chart.build` is said in three recursions. Here the same work is a machine with two nested loops:
positions are filled as long as the chart has them, and at each position items have their turns as
long as it has more. Within a turn, what a nonterminal predicts is added item by item, and the
items that may wait for a finished rule are asked one by one, also where the answers make more of
them. A `Moment` is where the machine stands between two additions, so that what holds at every
moment holds of every chart that exists on the way.

A move looks nothing up that is not there: a moment without a move is the end, or a failure.

- `Move.deterministic`: the machine has one way to go on.
- `Sound.move`: at every moment the chart is over the input, and every item fits where it stands.
- `Sound.exists_move`: at every sound moment but the last, there is a move.
-/
import Earley.Proofs.Chart.Fill
import Mathlib.Logic.Relation

namespace Earley.Chart

variable {τ ε : Type} {test : TokenTest τ ε} {g : Grammar} {tokens : List τ}

/-! ## Moments and moves -/

/-- Where the machine stands. -/
inductive Stage where
  /-- Position `i` is the next to be filled, if the chart has it. -/
  | position (i : Nat)
  /-- Item number `j` of position `i` is the next to have its turn, if there is one. -/
  | turn (i j : Nat)
  /-- In the turn of item number `j`, these items are still to be added to position `i`. -/
  | adding (i j : Nat) (pending : List Item)
  /-- In the turn of item number `j`, item number `k` of position `origin` is the next to be asked
  whether it waits for `name`. -/
  | asking (i j : Nat) (name : String) (origin k : Nat)

/-- The state of the machine. The last two fields only record what has happened. -/
structure Moment (τ : Type) where
  stage : Stage
  /-- The tokens that have not been taken from the input. -/
  source : List τ
  chart : Chart τ
  /-- The number of positions whose filling has begun. -/
  rounds : Nat
  /-- The items that have had their turn or have it now, with their positions. -/
  turns : List (Nat × Item)

/-- The moves of the machine. -/
inductive Move (test : TokenTest τ ε) (g : Grammar) : Moment τ → Moment τ → Prop where
  /-- A position that has a token gets a position behind it, with the next token if there is one. -/
  | opens {i : Nat} {source : List τ} {c : Chart τ} {e : Entry τ} {t : τ} {n : Nat}
      {turns : List (Nat × Item)} (he : c.at? i = some e) (ht : e.token = some t) :
      Move test g ⟨.position i, source, c, n, turns⟩
        ⟨.turn i 0, source.tail, c.push source.head?, n + 1, turns⟩
  /-- The position at the end of the input gets none. -/
  | ends {i : Nat} {source : List τ} {c : Chart τ} {e : Entry τ} {n : Nat}
      {turns : List (Nat × Item)} (he : c.at? i = some e) (ht : e.token = none) :
      Move test g ⟨.position i, source, c, n, turns⟩ ⟨.turn i 0, source, c, n + 1, turns⟩
  | scans {i j : Nat} {source : List τ} {c c' : Chart τ} {n : Nat} {turns : List (Nat × Item)}
      {x : Item} {p : String} (hx : (c.itemsAt i)[j]? = some x) (hw : x.Awaits g (.terminal p))
      (hs : c.scan test i x p = .ok c') :
      Move test g ⟨.turn i j, source, c, n, turns⟩
        ⟨.turn i (j + 1), source, c', n, turns ++ [(i, x)]⟩
  | predicts {i j : Nat} {source : List τ} {c : Chart τ} {n : Nat} {turns : List (Nat × Item)}
      {x : Item} {name : String} (hx : (c.itemsAt i)[j]? = some x)
      (hw : x.Awaits g (.nonterminal name)) :
      Move test g ⟨.turn i j, source, c, n, turns⟩
        ⟨.adding i j (predictions g i name ++ if name ∈ g.nullable then [x.advanced] else []),
          source, c, n, turns ++ [(i, x)]⟩
  | completes {i j : Nat} {source : List τ} {c : Chart τ} {n : Nat} {turns : List (Nat × Item)}
      {x : Item} {name : String} (hx : (c.itemsAt i)[j]? = some x) (hf : x.Finishes g name)
      (hstart : x.start < c.length) :
      Move test g ⟨.turn i j, source, c, n, turns⟩
        ⟨.asking i j name x.start 0, source, c, n, turns ++ [(i, x)]⟩
  | leaves {i j : Nat} {source : List τ} {c : Chart τ} {n : Nat} {turns : List (Nat × Item)}
      (hx : (c.itemsAt i)[j]? = none) :
      Move test g ⟨.turn i j, source, c, n, turns⟩ ⟨.position (i + 1), source, c, n, turns⟩
  | adds {i j : Nat} {y : Item} {pending : List Item} {source : List τ} {c : Chart τ} {n : Nat}
      {turns : List (Nat × Item)} :
      Move test g ⟨.adding i j (y :: pending), source, c, n, turns⟩
        ⟨.adding i j pending, source, c.insert i y, n, turns⟩
  | added {i j : Nat} {source : List τ} {c : Chart τ} {n : Nat} {turns : List (Nat × Item)} :
      Move test g ⟨.adding i j [], source, c, n, turns⟩ ⟨.turn i (j + 1), source, c, n, turns⟩
  | advances {i j : Nat} {name : String} {origin k : Nat} {source : List τ} {c : Chart τ} {n : Nat}
      {turns : List (Nat × Item)} {y : Item} (hy : (c.itemsAt origin)[k]? = some y)
      (hw : waitsFor? g name y = some true) :
      Move test g ⟨.asking i j name origin k, source, c, n, turns⟩
        ⟨.asking i j name origin (k + 1), source, c.insert i y.advanced, n, turns⟩
  | passes {i j : Nat} {name : String} {origin k : Nat} {source : List τ} {c : Chart τ} {n : Nat}
      {turns : List (Nat × Item)} {y : Item} (hy : (c.itemsAt origin)[k]? = some y)
      (hw : waitsFor? g name y = some false) :
      Move test g ⟨.asking i j name origin k, source, c, n, turns⟩
        ⟨.asking i j name origin (k + 1), source, c, n, turns⟩
  | asked {i j : Nat} {name : String} {origin k : Nat} {source : List τ} {c : Chart τ} {n : Nat}
      {turns : List (Nat × Item)} (hy : (c.itemsAt origin)[k]? = none) :
      Move test g ⟨.asking i j name origin k, source, c, n, turns⟩
        ⟨.turn i (j + 1), source, c, n, turns⟩

/-- The second moment can be reached from the first. -/
abbrev Reaches (test : TokenTest τ ε) (g : Grammar) : Moment τ → Moment τ → Prop :=
  Relation.ReflTransGen (Move test g)

/-- The first moment for an input that begins with the token `t`. -/
def Moment.first (g : Grammar) (t : τ) (ts : List τ) : Moment τ :=
  ⟨.position 0, ts, ⟨#[⟨some t, StateSet.ofList (seeds g)⟩]⟩, 0, []⟩

/-- The moment at which no position is left to be filled. -/
def Moment.Finished (m : Moment τ) : Prop := ∃ i, m.stage = .position i ∧ m.chart.at? i = none

/-! ## One way to go on -/

variable {m m' m'' : Moment τ}

theorem Move.deterministic (h : Move test g m m') (h' : Move test g m m'') : m' = m'' := by
  cases h with
  | opens he ht =>
    cases h' with
    | opens he' _ => rfl
    | ends he' ht' =>
      cases he.symm.trans he'
      cases ht.symm.trans ht'
  | ends he ht =>
    cases h' with
    | opens he' ht' =>
      cases he.symm.trans he'
      cases ht.symm.trans ht'
    | ends _ _ => rfl
  | scans hx hw hs =>
    cases h' with
    | scans hx' hw' hs' =>
      cases hx.symm.trans hx'
      cases hw.unique hw'
      cases hs.symm.trans hs'
      rfl
    | predicts hx' hw' =>
      cases hx.symm.trans hx'
      cases hw.unique hw'
    | completes hx' hf' _ =>
      cases hx.symm.trans hx'
      exact absurd hf' (hw.not_finishes _)
    | leaves hx' => cases hx.symm.trans hx'
  | predicts hx hw =>
    cases h' with
    | scans hx' hw' _ =>
      cases hx.symm.trans hx'
      cases hw.unique hw'
    | predicts hx' hw' =>
      cases hx.symm.trans hx'
      cases hw.unique hw'
      rfl
    | completes hx' hf' _ =>
      cases hx.symm.trans hx'
      exact absurd hf' (hw.not_finishes _)
    | leaves hx' => cases hx.symm.trans hx'
  | completes hx hf _ =>
    cases h' with
    | scans hx' hw' _ =>
      cases hx.symm.trans hx'
      exact absurd hf (hw'.not_finishes _)
    | predicts hx' hw' =>
      cases hx.symm.trans hx'
      exact absurd hf (hw'.not_finishes _)
    | completes hx' hf' _ =>
      cases hx.symm.trans hx'
      cases hf.unique hf'
      rfl
    | leaves hx' => cases hx.symm.trans hx'
  | leaves hx =>
    cases h' with
    | scans hx' _ _ | predicts hx' _ | completes hx' _ _ => cases hx.symm.trans hx'
    | leaves _ => rfl
  | adds =>
    cases h'
    rfl
  | added =>
    cases h'
    rfl
  | advances hy hw =>
    cases h' with
    | advances hy' _ =>
      cases hy.symm.trans hy'
      rfl
    | passes hy' hw' =>
      cases hy.symm.trans hy'
      cases hw.symm.trans hw'
    | asked hy' => cases hy.symm.trans hy'
  | passes hy hw =>
    cases h' with
    | advances hy' hw' =>
      cases hy.symm.trans hy'
      cases hw.symm.trans hw'
    | passes _ _ => rfl
    | asked hy' => cases hy.symm.trans hy'
  | asked hy =>
    cases h' with
    | advances hy' _ | passes hy' _ => cases hy.symm.trans hy'
    | asked _ => rfl

theorem Moment.Finished.not_move (h : m.Finished) : ¬ Move test g m m' := by
  obtain ⟨i, hstage, hnone⟩ := h
  intro hmove
  cases hmove with
  | opens he _ | ends he _ =>
    cases hstage
    cases hnone.symm.trans he
  | scans | predicts | completes | leaves | adds | added | advances | passes | asked => cases hstage

/-- Every moment on the way to the end goes on to the end. -/
theorem Reaches.to_finished (h : Reaches test g m m'') (hend : m''.Finished)
    (h' : Reaches test g m m') : Reaches test g m' m'' := by
  induction h' with
  | refl => exact h
  | tail _ hmove ih =>
    rcases ih.cases_head with rfl | ⟨next, hnext, hrest⟩
    · exact absurd hmove hend.not_move
    · cases hmove.deterministic hnext
      exact hrest

/-- No run is without end that could have come to an end. -/
theorem Reaches.acc (h : Reaches test g m m') (hend : m'.Finished) :
    Acc (fun next now => Move test g now next) m := by
  induction h using Relation.ReflTransGen.head_induction_on with
  | refl => exact ⟨_, fun _ hmove => absurd hmove hend.not_move⟩
  | head hmove _ ih =>
    refine ⟨_, fun next hnext => ?_⟩
    cases hmove.deterministic hnext
    exact ih

/-! ## What holds at every moment -/

/-- The stage belongs to a chart of this length, for an input of `n` tokens: a position is filled
only when the next one is there, if there is to be one. -/
def Stage.Suits (g : Grammar) (n length : Nat) : Stage → Prop
  | position i => i ≤ n + 1 ∧ length = min (i + 1) (n + 1)
  | turn i _ => i ≤ n ∧ length = min (i + 2) (n + 1)
  | adding i _ pending => i ≤ n ∧ length = min (i + 2) (n + 1) ∧ ∀ y ∈ pending, y.Fits g i
  | asking i _ _ origin _ => i ≤ n ∧ length = min (i + 2) (n + 1) ∧ origin ≤ i

/-- The chart is over the input, as far as tokens have been taken from it and as far as the stage
needs it. -/
structure Sound (g : Grammar) (tokens : List τ) (m : Moment τ) : Prop where
  overInput : m.chart.Over g tokens
  source : m.source = tokens.drop m.chart.length
  suits : m.stage.Suits g tokens.length m.chart.length

theorem sound_iff {stage : Stage} {source : List τ} {c : Chart τ} {n : Nat}
    {turns : List (Nat × Item)} :
    Sound g tokens ⟨stage, source, c, n, turns⟩ ↔
      c.Over g tokens ∧ source = tokens.drop c.length ∧ stage.Suits g tokens.length c.length :=
  ⟨fun ⟨hover, hsource, hsuits⟩ => ⟨hover, hsource, hsuits⟩,
    fun ⟨hover, hsource, hsuits⟩ => ⟨hover, hsource, hsuits⟩⟩

theorem sound_first (t : τ) (ts : List τ) : Sound g (t :: ts) (Moment.first g t ts) where
  overInput := (show Filled g (fun _ _ => True) (t :: ts) 0 _ from filled_start t ts).overInput
  source := rfl
  suits := ⟨Nat.zero_le _, by simp [Moment.first, length]⟩

/-- An item that fits may be added at any position, and the machine may go on where it suits the
chart. -/
theorem Sound.insert {stage stage' : Stage} {source : List τ} {c : Chart τ} {n n' i : Nat}
    {turns turns' : List (Nat × Item)} {x : Item}
    (h : Sound g tokens ⟨stage, source, c, n, turns⟩) (hi : i < c.length) (hx : x.Fits g i)
    (hstage : stage'.Suits g tokens.length c.length) :
    Sound g tokens ⟨stage', source, c.insert i x, n', turns'⟩ := by
  obtain ⟨hover, hsource, -⟩ := sound_iff.1 h
  have hsame : (c.insert i x).length = c.length := length_modify ..
  refine sound_iff.2 ⟨hover.insert hi hx, ?_, ?_⟩
  · rw [hsame]
    exact hsource
  · rw [hsame]
    exact hstage

theorem Sound.move (h : Sound g tokens m) (hmove : Move test g m m') : Sound g tokens m' := by
  cases hmove with
  | @opens i source c e t n turns he ht =>
    obtain ⟨hover, hsource, -, hlength⟩ := sound_iff.1 h
    have htoken : tokens[i]? = some t := (hover.token he).symm.trans ht
    have hi := (List.getElem?_eq_some_iff.1 htoken).1
    have hhead : source.head? = tokens[c.length]? := by rw [hsource, List.head?_drop]
    refine sound_iff.2 ⟨?_, ?_, by omega, ?_⟩
    · rw [hhead]
      exact hover.push (by omega)
    · rw [length_push, hsource, List.tail_drop]
    · rw [length_push]
      omega
  | @ends i source c e n turns he ht =>
    obtain ⟨hover, hsource, -, hlength⟩ := sound_iff.1 h
    have htoken : tokens[i]? = none := (hover.token he).symm.trans ht
    have hi := List.getElem?_eq_none_iff.1 htoken
    have hlt : i < c.length := lt_length_iff.2 ⟨e, he⟩
    exact sound_iff.2 ⟨hover, hsource, by omega, by omega⟩
  | @scans i j source c c' n turns x p hx hw hs =>
    obtain ⟨hover, hsource, hi, hlength⟩ := sound_iff.1 h
    obtain ⟨-, -, ⟨-, rfl⟩ | ⟨-, hnext, rfl⟩⟩ := eq_of_scan hs
    · exact sound_iff.2 ⟨hover, hsource, hi, hlength⟩
    · have hstart := (hover.fits (List.mem_of_getElem? hx)).start_le
      have hfits : x.advanced.Fits g (i + 1) := .advanced hw (Nat.le_succ_of_le hstart)
      exact h.insert hnext hfits ⟨hi, hlength⟩
  | @predicts i j source c n turns x name hx hw =>
    obtain ⟨hover, hsource, hi, hlength⟩ := sound_iff.1 h
    refine sound_iff.2 ⟨hover, hsource, hi, hlength, fun y hy => ?_⟩
    rcases List.mem_append.1 hy with hy | hy
    · obtain ⟨r, hr, rfl⟩ := mem_predictions.1 hy
      exact Item.fits_prediction hr
    · split at hy
      · rw [List.mem_singleton.1 hy]
        exact .advanced hw (hover.fits (List.mem_of_getElem? hx)).start_le
      · cases hy
  | completes hx _ _ =>
    obtain ⟨hover, hsource, hi, hlength⟩ := sound_iff.1 h
    have hstart := (hover.fits (List.mem_of_getElem? hx)).start_le
    exact sound_iff.2 ⟨hover, hsource, hi, hlength, hstart⟩
  | leaves _ =>
    obtain ⟨hover, hsource, hi, hlength⟩ := sound_iff.1 h
    exact sound_iff.2 ⟨hover, hsource, by omega, by omega⟩
  | adds =>
    obtain ⟨-, -, hi, hlength, hpending⟩ := sound_iff.1 h
    obtain ⟨hy, hpending⟩ := List.forall_mem_cons.1 hpending
    exact h.insert (by omega) hy ⟨hi, hlength, hpending⟩
  | added =>
    obtain ⟨hover, hsource, hi, hlength, -⟩ := sound_iff.1 h
    exact sound_iff.2 ⟨hover, hsource, hi, hlength⟩
  | @advances i _ _ _ _ _ _ _ _ y hy hw =>
    obtain ⟨hover, -, hi, hlength, horigin⟩ := sound_iff.1 h
    have hstart := (hover.fits (List.mem_of_getElem? hy)).start_le
    have hfits : y.advanced.Fits g i :=
      .advanced (waitsFor?_eq_true_iff.1 hw) (Nat.le_trans hstart horigin)
    exact h.insert (by omega) hfits ⟨hi, hlength, horigin⟩
  | passes _ _ =>
    obtain ⟨hover, hsource, hsuits⟩ := sound_iff.1 h
    exact sound_iff.2 ⟨hover, hsource, hsuits⟩
  | asked _ =>
    obtain ⟨hover, hsource, hi, hlength, -⟩ := sound_iff.1 h
    exact sound_iff.2 ⟨hover, hsource, hi, hlength⟩

theorem Sound.run (h : Sound g tokens m) (hrun : Reaches test g m m') : Sound g tokens m' := by
  induction hrun with
  | refl => exact h
  | tail _ hmove ih => exact ih.move hmove

/-- A sound moment is the end, or there is a move: nothing that it looks up is missing. -/
theorem Sound.exists_move (h : Sound g tokens m) (htest : test.TotalOn g tokens) :
    m.Finished ∨ ∃ m', Move test g m m' := by
  obtain ⟨stage, source, c, n, turns⟩ := m
  obtain ⟨hover, -, hsuits⟩ := sound_iff.1 h
  cases stage with
  | position i =>
    cases he : c.at? i with
    | none => exact .inl ⟨i, rfl, he⟩
    | some e =>
      cases ht : e.token with
      | some t => exact .inr ⟨_, .opens he ht⟩
      | none => exact .inr ⟨_, .ends he ht⟩
  | turn i j =>
    refine .inr ?_
    obtain ⟨hi, hlength⟩ := hsuits
    cases hx : (c.itemsAt i)[j]? with
    | none => exact ⟨_, .leaves hx⟩
    | some x =>
      have hfits := hover.fits (List.mem_of_getElem? hx)
      obtain ⟨r, hr, -⟩ := hfits.rule
      rcases hnext : x.next? r with _ | p | name
      · have hstart := hfits.start_le
        exact ⟨_, .completes hx ⟨r, hr, hnext, rfl⟩ (by omega)⟩
      · have hw : x.Awaits g (.terminal p) := ⟨r, hr, hnext⟩
        obtain ⟨c', hs, -⟩ :=
          scan_outcome hover htest (i := i) (by omega) (fun _ => by omega) hw
        exact ⟨_, .scans hx hw hs⟩
      · exact ⟨_, .predicts hx ⟨r, hr, hnext⟩⟩
  | adding i j pending =>
    cases pending with
    | nil => exact .inr ⟨_, .added⟩
    | cons y pending => exact .inr ⟨_, .adds⟩
  | asking i j name origin k =>
    refine .inr ?_
    cases hy : (c.itemsAt origin)[k]? with
    | none => exact ⟨_, .asked hy⟩
    | some y =>
      obtain ⟨r, hr⟩ := hover.known origin y (List.mem_of_getElem? hy)
      cases hw : waitsFor? g name y with
      | none => cases hr.symm.trans (waitsFor?_eq_none_iff.1 hw)
      | some b =>
        cases b with
        | true => exact ⟨_, .advances hy hw⟩
        | false => exact ⟨_, .passes hy hw⟩

end Earley.Chart
