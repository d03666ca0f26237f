/-
Earley.Text.Run — sets of code points as ascending lists of runs.

A run is an arithmetic progression, so that alternating capitals and small letters take one entry.
`Run.covers` decides membership, and `Run.covers_eq_any` says that its early stop loses nothing
on an ascending list.
-/
namespace Earley.Text

/-- Every `stride`-th code point from `first` to `last`. -/
structure Run where
  first : Nat
  last : Nat
  stride : Nat
  deriving DecidableEq, Repr

namespace Run

/-- Whether code point `n` is on the run. -/
def contains (r : Run) (n : Nat) : Bool :=
  decide (r.first ≤ n) && decide (n ≤ r.last) && (n - r.first) % r.stride == 0

/-- Membership in an ascending list of runs: the search stops at the first run that lies
beyond `n`. -/
def covers : List Run → Nat → Bool
  | [], _ => false
  | r :: rs, n => if n < r.first then false else r.contains n || covers rs n

/-- A run contains nothing below its first code point. -/
theorem contains_eq_false {r : Run} {n : Nat} (h : n < r.first) : r.contains n = false := by
  simp [contains, show ¬ r.first ≤ n by omega]

/-- On an ascending list `covers` asks every run. -/
theorem covers_eq_any {rs : List Run} (h : rs.Pairwise fun a b => a.first ≤ b.first) (n : Nat) :
    covers rs n = rs.any (·.contains n) := by
  induction rs with
  | nil => rfl
  | cons r rs ih =>
    obtain ⟨hr, hrs⟩ := List.pairwise_cons.1 h
    rw [covers, List.any_cons]
    split
    next hn =>
      have hall : rs.any (·.contains n) = false := by
        rw [List.any_eq_false]
        intro b hb
        simp [contains_eq_false (Nat.lt_of_lt_of_le hn (hr b hb))]
      rw [contains_eq_false hn, hall, Bool.or_false]
    next => rw [ih hrs]

end Run

end Earley.Text
