/-
Earley.Proofs.GrammarFile.Meaning — what right-hand sides mean as they are written.

`Means` gives a branch its sequences of terminals without any helper: a suffix says how many times
its term occurs, a group is a choice of its branches, and a name that is no token stands for the
rules of that name. Being inductive, it is the least relation with these laws.

- `Means.cons`: a branch means the concatenations of what its terms mean.
- `means_suffixed_snoc`: one more occurrence behind others, which is how helpers repeat a term.
-/
import Earley.GrammarFile.Term

namespace Earley.GrammarFile

/-- Whether a term with the suffix may occur `n` times. -/
def Suffix.Allows : Suffix → Nat → Prop
  | .optional, n => n ≤ 1
  | .star, _ => True
  | .plus, n => 1 ≤ n

/-- A branch means a sequence of terminals, given the rules as they are written and the names of
the tokens. -/
inductive Means (rules : List (String × List (List Term))) (tokens : List String) :
    List Term → List String → Prop where
  | nil : Means rules tokens [] []
  | token {name : String} {ts : List Term} {v : List String} (hname : name ∈ tokens)
      (hv : Means rules tokens ts v) : Means rules tokens (.name name :: ts) (name :: v)
  | name {name : String} {branches : List (List Term)} {b ts : List Term} {u v : List String}
      (hname : name ∉ tokens) (hrule : (name, branches) ∈ rules) (hb : b ∈ branches)
      (hu : Means rules tokens b u) (hv : Means rules tokens ts v) :
      Means rules tokens (.name name :: ts) (u ++ v)
  | literal {text : String} {ts : List Term} {v : List String} (hv : Means rules tokens ts v) :
      Means rules tokens (.literal text :: ts) (text :: v)
  | group {branches : List (List Term)} {b ts : List Term} {u v : List String}
      (hb : b ∈ branches) (hu : Means rules tokens b u) (hv : Means rules tokens ts v) :
      Means rules tokens (.group branches :: ts) (u ++ v)
  | suffixed {suffix : Suffix} {t : Term} {ts : List Term} {us : List (List String)}
      {v : List String} (hcount : suffix.Allows us.length)
      (hus : ∀ u ∈ us, Means rules tokens [t] u) (hv : Means rules tokens ts v) :
      Means rules tokens (.suffixed suffix t :: ts) (us.flatten ++ v)

/-- A name means what some branch of some rule of that name means. -/
def NameMeans (rules : List (String × List (List Term))) (tokens : List String) (name : String)
    (w : List String) : Prop :=
  ∃ branches, (name, branches) ∈ rules ∧ ∃ b ∈ branches, Means rules tokens b w

variable {rules : List (String × List (List Term))} {tokens : List String} {t : Term}
  {ts : List Term} {u v w : List String}

/-- What a term means, followed by what a branch means. -/
theorem Means.cons (hu : Means rules tokens [t] u) (hv : Means rules tokens ts v) :
    Means rules tokens (t :: ts) (u ++ v) := by
  cases hu with
  | token hname hnil =>
    cases hnil
    exact .token hname hv
  | name hname hrule hb hu hnil =>
    cases hnil
    rw [List.append_nil]
    exact .name hname hrule hb hu hv
  | literal hnil =>
    cases hnil
    exact .literal hv
  | group hb hu hnil =>
    cases hnil
    rw [List.append_nil]
    exact .group hb hu hv
  | suffixed hcount hus hnil =>
    cases hnil
    rw [List.append_nil]
    exact .suffixed hcount hus hv

/-! ## Suffixes -/

theorem means_suffixed_iff {suffix : Suffix} :
    Means rules tokens [.suffixed suffix t] w ↔
      ∃ us : List (List String), suffix.Allows us.length ∧ w = us.flatten ∧
        ∀ u ∈ us, Means rules tokens [t] u := by
  constructor
  · intro h
    cases h with
    | suffixed hcount hus hnil =>
      cases hnil
      exact ⟨_, hcount, List.append_nil _, hus⟩
  · rintro ⟨us, hcount, rfl, hus⟩
    have h := Means.suffixed hcount hus .nil
    rwa [List.append_nil] at h

theorem means_group_of_mem {branches : List (List Term)} {b : List Term} (hb : b ∈ branches)
    (hw : Means rules tokens b w) : Means rules tokens [.group branches] w := by
  have h := Means.group hb hw .nil
  rwa [List.append_nil] at h

/-- A term that may be repeated may be repeated once more. -/
theorem means_suffixed_snoc {suffix : Suffix} (hsuffix : suffix ≠ .optional)
    (hu : Means rules tokens [.suffixed suffix t] u) (hv : Means rules tokens [t] v) :
    Means rules tokens [.suffixed suffix t] (u ++ v) := by
  obtain ⟨us, hcount, rfl, hus⟩ := means_suffixed_iff.1 hu
  refine means_suffixed_iff.2 ⟨us ++ [v], ?_, by simp, ?_⟩
  · cases suffix with
    | optional => exact absurd rfl hsuffix
    | star => trivial
    | plus => simp [Suffix.Allows]
  · intro w hw
    rcases List.mem_append.1 hw with hw | hw
    · exact hus w hw
    · rw [List.mem_singleton.1 hw]
      exact hv

end Earley.GrammarFile
