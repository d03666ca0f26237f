/-
Earley.Proofs.Chart.Actions — charts that are changed from outside, one action after another.

The steps are open to every caller: positions need not exist, items need not be in the chart, and
their rules need not be in the grammar. `Action` has all that can be asked of a chart, with any
arguments, and `Action.leave` the chart that is left, also where the action fails.

- `Action.leave_cases`: an action appends a position, or adds items at the end of one position.
- `Action.leave_of_fails`: an action that fails adds nothing, if the rules of the items are
  known.
- `grows_leaveAll`: what a position holds stays where it is through all later actions.
- `leaveAll_appends`: the same from the empty chart, whatever was done to it.
-/
import Earley.Proofs.Chart.Step

namespace Earley.Chart

variable {τ ε : Type} {c c' c'' : Chart τ}

/-! ## Actions -/

/-- What can be asked of a chart. Each action brings the grammar or the test that it works with. -/
inductive Action (τ ε : Type) where
  | push (token : Option τ)
  | add (i : Nat) (x : Item)
  | scan (test : TokenTest τ ε) (i : Nat) (x : Item) (pattern : String)
  | predict (g : Grammar) (nullable : List String) (i : Nat) (x : Item) (name : String)
  | complete (g : Grammar) (i : Nat) (x : Item)

namespace Action

/-- What comes of an action. -/
def run (c : Chart τ) : Action τ ε → Except (Failure τ ε) (Chart τ)
  | push token => .ok (c.push token)
  | add i x => if i < c.length then .ok (c.insert i x) else .error ⟨.noPosition, c⟩
  | scan test i x pattern => c.scan test i x pattern
  | predict g nullable i x name => c.predict g nullable i x name
  | complete g i x => c.complete g i x

/-- The chart that an action leaves behind, whether it succeeds or fails. -/
def leave (c : Chart τ) (a : Action τ ε) : Chart τ :=
  match a.run c with
  | .ok c' => c'
  | .error f => f.chart

/-- The only position that an action can change. -/
def place (c : Chart τ) : Action τ ε → Nat
  | push _ => c.length
  | add i _ => i
  | scan _ i _ _ => i + 1
  | predict _ _ i _ _ => i
  | complete _ i _ => i

/-- The rules that an action looks up for the items of the chart are in its grammar. -/
def Knows (c : Chart τ) : Action τ ε → Prop
  | complete g _ _ => c.Known g
  | _ => True

end Action

/-- The chart that several actions leave behind, one after another. -/
def leaveAll (c : Chart τ) (actions : List (Action τ ε)) : Chart τ := actions.foldl Action.leave c

/-! ## Growth -/

/-- Each position of the chart is a position of another one, with its token, and holds the items
that it holds there, in the same places, and perhaps more behind them. -/
def Grows (c c' : Chart τ) : Prop :=
  ∀ i e, c.at? i = some e →
    ∃ e', c'.at? i = some e' ∧ e'.token = e.token ∧ e.items.toList <+: e'.items.toList

theorem Grows.refl (c : Chart τ) : c.Grows c := fun _ e he => ⟨e, he, rfl, List.prefix_rfl⟩

theorem Grows.trans (h : c.Grows c') (h' : c'.Grows c'') : c.Grows c'' := by
  intro i e he
  obtain ⟨e', he', htoken, hitems⟩ := h i e he
  obtain ⟨e'', he'', htoken', hitems'⟩ := h' i e' he'
  exact ⟨e'', he'', htoken'.trans htoken, hitems.trans hitems'⟩

theorem grows_push (c : Chart τ) (token : Option τ) : c.Grows (c.push token) := by
  intro i e he
  have hlt := lt_length_iff.2 ⟨e, he⟩
  exact ⟨e, by rw [at?_push, if_neg (Nat.ne_of_lt hlt), he], rfl, List.prefix_rfl⟩

theorem grows_modify {i : Nat} {e : Entry τ} {f : StateSet → StateSet} (he : c.at? i = some e)
    (hf : e.items.toList <+: (f e.items).toList) : c.Grows (c.modify i f) := by
  intro j e' he'
  refine ⟨_, by rw [at?_modify, he', Option.map_some], ?_, ?_⟩
  · split <;> rfl
  · split
    next hij =>
      cases (hij ▸ he').symm.trans he
      exact hf
    · exact List.prefix_rfl

/-! ## One action -/

namespace Action

variable {a : Action τ ε}

theorem leave_of_ok (h : a.run c = .ok c') : a.leave c = c' := by
  simp only [leave, h]

theorem leave_of_error {f : Failure τ ε} (h : a.run c = .error f) : a.leave c = f.chart := by
  simp only [leave, h]

/-- An action changes nothing, appends a position, or adds items at the end of its place. -/
theorem leave_cases (a : Action τ ε) (c : Chart τ) :
    a.leave c = c ∨ (∃ token, a = .push token ∧ a.leave c = c.push token) ∨
      ∃ e f, c.at? (a.place c) = some e ∧ e.items.toList <+: (f e.items).toList ∧
        a.leave c = c.modify (a.place c) f := by
  cases hrun : a.run c with
  | ok c' =>
    rw [leave_of_ok hrun]
    cases a with
    | push token =>
      cases hrun
      exact .inr (.inl ⟨token, rfl, rfl⟩)
    | add i x =>
      simp only [run] at hrun
      split at hrun
      next hi =>
        cases hrun
        obtain ⟨e, he⟩ := lt_length_iff.1 hi
        exact .inr (.inr ⟨e, _, he, StateSet.prefix_insert .., rfl⟩)
      · cases hrun
    | scan test i x pattern =>
      obtain ⟨-, -, ⟨-, rfl⟩ | ⟨-, hi, rfl⟩⟩ := eq_of_scan hrun
      · exact .inl rfl
      · obtain ⟨e, he⟩ := lt_length_iff.1 hi
        exact .inr (.inr ⟨e, _, he, StateSet.prefix_insert .., rfl⟩)
    | predict g nullable i x name =>
      obtain ⟨e, he, rfl⟩ := eq_of_predict hrun
      exact .inr (.inr ⟨e, _, he, StateSet.prefix_foldl_insert .., rfl⟩)
    | complete g i x =>
      obtain ⟨r, origin, e, s, -, -, he, hs, rfl⟩ := eq_of_complete hrun
      exact .inr (.inr ⟨e, _, he, prefix_advanceWaiting hs, rfl⟩)
  | error f =>
    rw [leave_of_error hrun]
    cases a with
    | push token => cases hrun
    | add i x =>
      simp only [run] at hrun
      split at hrun
      · cases hrun
      · cases hrun
        exact .inl rfl
    | scan test i x pattern => exact .inl (chart_of_scan_eq_error hrun)
    | predict g nullable i x name => exact .inl (chart_of_predict_eq_error hrun)
    | complete g i x =>
      -- what was added before the failure stays
      obtain hsame | ⟨r, origin, e, s, -, he, hs, hmodify⟩ := chart_of_complete_eq_error hrun
      · exact .inl hsame
      · exact .inr (.inr ⟨e, fun _ => s, he, prefix_of_advanceWaiting (.inr hs), hmodify⟩)

/-- An action that fails changes nothing, if it knows the rules of the items that it asks. -/
theorem leave_of_fails {f : Failure τ ε} (h : a.run c = .error f) (hknown : a.Knows c) :
    a.leave c = c := by
  rw [leave_of_error h]
  cases a with
  | push token => cases h
  | add i x =>
    simp only [run] at h
    split at h
    · cases h
    · cases h
      rfl
  | scan test i x pattern => exact chart_of_scan_eq_error h
  | predict g nullable i x name => exact chart_of_predict_eq_error h
  | complete g i x =>
    obtain hsame | ⟨r, origin, e, s, horigin, -, hs, -⟩ := chart_of_complete_eq_error h
    · exact hsame
    · have hrules : ∀ y ∈ origin.items.toList, ∃ r, g.rules[y.rule]? = some r :=
        fun y hy => hknown _ y (itemsAt_of_at? horigin ▸ hy)
      obtain ⟨s', hs'⟩ := exists_advanceWaiting hrules
      cases hs.symm.trans hs'

theorem grows_leave (a : Action τ ε) (c : Chart τ) : c.Grows (a.leave c) := by
  obtain hsame | ⟨token, -, hpush⟩ | ⟨e, f, he, hf, hmodify⟩ := a.leave_cases c
  · rw [hsame]
    exact .refl c
  · rw [hpush]
    exact grows_push c token
  · rw [hmodify]
    exact grows_modify he hf

theorem at?_leave {i : Nat} (hi : i ≠ a.place c) : (a.leave c).at? i = c.at? i := by
  obtain hsame | ⟨token, rfl, hpush⟩ | ⟨e, f, -, -, hmodify⟩ := a.leave_cases c
  · rw [hsame]
  · have hi : i ≠ c.length := hi
    rw [hpush, at?_push, if_neg hi]
  · simp [hmodify, at?_modify, hi.symm]

theorem length_leave (a : Action τ ε) (c : Chart τ) :
    (a.leave c).length = c.length ∨ ∃ token, a = .push token ∧ a.leave c = c.push token := by
  obtain hsame | hpush | ⟨e, f, -, -, hmodify⟩ := a.leave_cases c
  · exact .inl (congrArg length hsame)
  · exact .inr hpush
  · exact .inl (by rw [hmodify, length_modify])

end Action

/-! ## Runs of actions -/

/-- A chart only grows, however many actions follow. -/
theorem grows_leaveAll (c : Chart τ) (actions : List (Action τ ε)) :
    c.Grows (c.leaveAll actions) := by
  induction actions generalizing c with
  | nil => exact .refl c
  | cons a actions ih => exact (a.grows_leave c).trans (ih (a.leave c))

/-- Whatever has been done to a chart that was empty, what follows leaves each position with its
token and its items in their order, new items behind them, and no item twice; what a set says to
have is what its list has. One more action changes at most its own place, and only a push makes a
new position. An action that fails changes nothing at all, unless it has come upon an item of the
chart whose rule is not in its grammar. -/
theorem leaveAll_appends (before : List (Action τ ε)) (a : Action τ ε) :
    let c := leaveAll empty before
    let c' := a.leave c
    (∀ after : List (Action τ ε), c.Grows (c'.leaveAll after)) ∧
      (∀ i e, c'.at? i = some e → e.items.toList.Nodup ∧
        ∀ x, e.items.contains x = true ↔ x ∈ e.items.toList) ∧
      (∀ i, i ≠ a.place c → c'.at? i = c.at? i) ∧
      (c'.length = c.length ∨ ∃ token, a = .push token ∧ c' = c.push token) ∧
      ∀ f, a.run c = .error f → a.Knows c → c' = c := by
  intro c c'
  refine ⟨fun after => ?_, fun i e _ => ?_, fun i hi => a.at?_leave hi, a.length_leave c, ?_⟩
  · exact (a.grows_leave c).trans (grows_leaveAll c' after)
  · exact ⟨e.items.nodup_toList, fun x => StateSet.contains_iff⟩
  · intro f hf hknown
    exact a.leave_of_fails hf hknown

/-- A rule with two equal nonterminals, and its completion from a position that the chart lacks. -/
theorem leaveAll_appends_missingOrigin :
    ∃ (before : List (Action Char Empty)) (a : Action Char Empty) (f : Failure Char Empty),
      a.run (leaveAll empty before) = .error f ∧ a.Knows (leaveAll empty before) ∧
      (leaveAll empty before).itemsAt 0 = [⟨0, 0, 0⟩] ∧
      a.leave (leaveAll empty before) = leaveAll empty before := by
  let g : Grammar := ⟨[⟨"S", [.nonterminal "S", .nonterminal "S"]⟩]⟩
  let before : List (Action Char Empty) := [.push (some 'x'), .add 0 ⟨0, 0, 0⟩]
  have hitems : (leaveAll empty before).itemsAt 0 = [⟨0, 0, 0⟩] := by decide +kernel
  have hknown : (leaveAll empty before).Known g := by
    intro i x hx
    cases i with
    | zero =>
      rw [hitems] at hx
      cases List.mem_singleton.1 hx
      exact ⟨_, rfl⟩
    | succ i => cases hx
  obtain ⟨-, -, -, -, hfails⟩ := leaveAll_appends before (.complete g 0 ⟨0, 3, 2⟩)
  exact ⟨before, .complete g 0 ⟨0, 3, 2⟩, _, rfl, hknown, hitems, hfails _ rfl hknown⟩

end Earley.Chart
