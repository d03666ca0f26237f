/-
Earley.Regex.Bounds — matches stay within the text.

Backtracking hands its continuation only places that lie in the direction of the search, between
the start and the end of the text. `Node.run_heads` says so for every tree, by induction, and
`Node.matchEnd?_bounds` is what follows for a match: it ends within the text and not before its
start.
-/
import Earley.Regex.Match

namespace Earley.Regex

/-- Whether a place can be reached from another by consuming text in a direction. -/
def Direction.Leads (d : Direction) (size p q : Nat) : Prop :=
  match d with
  | .forward => p ≤ q ∧ q ≤ size
  | .backward => q ≤ p

theorem Direction.Leads.refl {d : Direction} {size p : Nat} (h : p ≤ size) :
    d.Leads size p p := by
  cases d <;> simp [Leads, h]

theorem Direction.Leads.trans {d : Direction} {size p q r : Nat} (h₁ : d.Leads size p q)
    (h₂ : d.Leads size q r) : d.Leads size p r := by
  cases d <;> simp only [Leads] at * <;> omega

theorem Direction.Leads.le {d : Direction} {size p q : Nat} (hp : p ≤ size)
    (h : d.Leads size p q) : q ≤ size := by
  cases d <;> simp only [Leads] at * <;> omega

/-- A way to match that hands its continuation only places that lie in its direction. -/
def Matcher.Heads (m : Matcher) (d : Direction) (size : Nat) : Prop :=
  ∀ s k r, s.pos ≤ size → m s k = some r → ∃ t, d.Leads size s.pos t.pos ∧ k t = some r

theorem iterate_heads {step : Matcher} {d : Direction} {size : Nat} (h : step.Heads d size)
    (least : Nat) (most : Option Nat) (greedy : Bool) (fuel count : Nat) :
    Matcher.Heads (iterate step least most greedy fuel count) d size := by
  induction fuel generalizing count with
  | zero => exact fun s k r hs hr => ⟨s, .refl hs, hr⟩
  | succ fuel ih =>
    intro s k r hs hr
    have again (hr : (step s fun t =>
        if t.pos = s.pos then k t
        else iterate step least most greedy fuel (count + 1) t k) = some r) :
        ∃ t, d.Leads size s.pos t.pos ∧ k t = some r := by
      obtain ⟨t, hst, hk⟩ := h s _ r hs hr
      split at hk
      · exact ⟨t, hst, hk⟩
      · obtain ⟨u, htu, hu⟩ := ih (count + 1) t k r (hst.le hs) hk
        exact ⟨u, hst.trans htu, hu⟩
    have stay (hr : k s = some r) : ∃ t, d.Leads size s.pos t.pos ∧ k t = some r :=
      ⟨s, .refl hs, hr⟩
    rw [iterate] at hr
    split at hr
    · exact again hr
    split at hr
    · exact stay hr
    split at hr
    · rcases Option.or_eq_some_iff.1 hr with hr | ⟨-, hr⟩
      · exact again hr
      · exact stay hr
    · rcases Option.or_eq_some_iff.1 hr with hr | ⟨-, hr⟩
      · exact stay hr
      · exact again hr

theorem Span.follow?_leads {flags : Flags} {text : Array Char} {d : Direction} {span : Span}
    {pos q : Nat} (hp : pos ≤ text.size) (h : span.follow? flags text d pos = some q) :
    d.Leads text.size pos q := by
  cases d with
  | backward =>
    simp only [follow?] at h
    split at h
    · cases h; simp [Direction.Leads]
    · simp at h
  | forward =>
    simp only [follow?] at h
    split at h
    next hr =>
      cases h
      refine ⟨Nat.le_add_right .., ?_⟩
      rcases Nat.eq_zero_or_pos (span.stop - span.start) with h0 | h0
      · omega
      · have := List.all_eq_true.1 hr (span.stop - span.start - 1) (by simp; omega)
        split at this
        next hb =>
          have := (Array.getElem?_eq_some_iff.1 hb).1
          omega
        · simp at this
    · simp at h

theorem Node.run_heads (flags : Flags) (text : Array Char) (n : Node Nat) (d : Direction) :
    Matcher.Heads (n.run flags text d) d text.size := by
  induction n generalizing d with
  | empty => exact fun s k r hs hr => ⟨s, .refl hs, by simpa [run] using hr⟩
  | chars set =>
    intro s k r hs hr
    rw [run] at hr
    split at hr
    next c hc =>
      split at hr
      · refine ⟨_, ?_, hr⟩
        cases d with
        | forward =>
          have := (Array.getElem?_eq_some_iff.1 hc).1
          simp only [Direction.Leads, Direction.next]; omega
        | backward => simp [Direction.Leads, Direction.next]
      · simp at hr
    · simp at hr
  | anchor a =>
    intro s k r hs hr
    rw [run] at hr
    split at hr
    · exact ⟨s, .refl hs, hr⟩
    · simp at hr
  | seq a b iha ihb =>
    intro s k r hs hr
    cases d with
    | forward =>
      rw [run] at hr
      obtain ⟨t, hst, ht⟩ := iha _ s _ r hs hr
      obtain ⟨u, htu, hu⟩ := ihb _ t _ r (hst.le hs) ht
      exact ⟨u, hst.trans htu, hu⟩
    | backward =>
      rw [run] at hr
      obtain ⟨t, hst, ht⟩ := ihb _ s _ r hs hr
      obtain ⟨u, htu, hu⟩ := iha _ t _ r (hst.le hs) ht
      exact ⟨u, hst.trans htu, hu⟩
  | alt a b iha ihb =>
    intro s k r hs hr
    rw [run] at hr
    rcases Option.or_eq_some_iff.1 hr with hr | ⟨-, hr⟩
    · exact iha _ s k r hs hr
    · exact ihb _ s k r hs hr
  | repeated a least most p ih =>
    cases p with
    | greedy =>
      exact fun s k r hs hr =>
        iterate_heads (ih d) _ _ _ _ _ s k r hs (by simpa [run] using hr)
    | lazy =>
      exact fun s k r hs hr =>
        iterate_heads (ih d) _ _ _ _ _ s k r hs (by simpa [run] using hr)
    | possessive =>
      intro s k r hs hr
      rw [run] at hr
      obtain ⟨t, ht, hk⟩ := Option.bind_eq_some_iff.1 hr
      obtain ⟨u, hsu, hu⟩ := iterate_heads (ih d) _ _ _ _ _ s _ t hs ht
      cases hu
      exact ⟨t, hsu, hk⟩
  | group n a ih =>
    intro s k r hs hr
    rw [run] at hr
    obtain ⟨t, hst, ht⟩ := ih _ s _ r hs hr
    exact ⟨t.withCapture n s.pos t.pos, hst, ht⟩
  | backreference n =>
    intro s k r hs hr
    rw [run] at hr
    obtain ⟨q, hq, hk⟩ := Option.bind_eq_some_iff.1 hr
    obtain ⟨span, -, hf⟩ := Option.bind_eq_some_iff.1 hq
    exact ⟨_, Span.follow?_leads hs hf, hk⟩
  | look behind negated a ih =>
    intro s k r hs hr
    simp only [run] at hr
    split at hr
    next =>
      refine ⟨_, ?_, hr⟩
      exact .refl hs
    next => exact ⟨s, .refl hs, hr⟩
    next => simp at hr
  | atomic a ih =>
    intro s k r hs hr
    rw [run] at hr
    obtain ⟨t, ht, hk⟩ := Option.bind_eq_some_iff.1 hr
    obtain ⟨u, hsu, hu⟩ := ih _ s _ t hs ht
    cases hu
    exact ⟨t, hsu, hk⟩

/-- A match that starts within the text ends within it, and not before it starts. -/
theorem Node.matchEnd?_bounds {flags : Flags} {tree : Node Nat} {text : Array Char} {pos e : Nat}
    (hp : pos ≤ text.size) (h : tree.matchEnd? flags text pos = some e) :
    pos ≤ e ∧ e ≤ text.size := by
  obtain ⟨s, hs, rfl⟩ := Option.map_eq_some_iff.1 h
  obtain ⟨t, ht, hst⟩ := tree.run_heads flags text .forward ⟨pos, []⟩ _ s hp hs
  cases hst
  exact ht

end Earley.Regex
