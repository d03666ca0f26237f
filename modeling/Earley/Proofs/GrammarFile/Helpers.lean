/-
Earley.Proofs.GrammarFile.Helpers — where the rules of helpers come from.

Lowering numbers its helpers from left to right, so that each part of a file has the numbers of an
interval to itself (`Numbered`). In turn, a part owns the rules of all helpers with its numbers, in
the whole file (`Owns`), since a name tells the number. This passes from a part to the parts it is
made of.

- `IsHelper.unique`: the name of a helper tells its number.
- `owns_of_mem_lowerRules`: a rule whose name is not that of a helper is a branch as it was written,
  and that branch owns the rules of its helpers.
-/
import Earley.GrammarFile.Lowering

namespace Earley.GrammarFile

/-! ## Names -/

/-- The name is that of a helper with the number `n`. -/
def IsHelper (n : Nat) (name : String) : Prop :=
  name = groupName n ∨ ∃ s : Suffix, name = s.helperName n

/-- The name is that of no helper. -/
def Unclaimed (name : String) : Prop := ∀ n, ¬ IsHelper n name

theorem isHelper_groupName (n : Nat) : IsHelper n (groupName n) := .inl rfl

theorem isHelper_helperName (s : Suffix) (n : Nat) : IsHelper n (s.helperName n) := .inr ⟨s, rfl⟩

/-- Behind five characters that tell the kind of a helper stands its number. -/
theorem IsHelper.drop_toList {n : Nat} {name : String} (h : IsHelper n name) :
    name.toList.drop 5 = Nat.toDigits 10 n := by
  rcases h with rfl | ⟨s, rfl⟩
  · simp [groupName, String.toList_append, ← Nat.toList_repr]
  · cases s <;> simp [Suffix.helperName, String.toList_append, ← Nat.toList_repr]

theorem IsHelper.unique {n m : Nat} {name : String} (h : IsHelper n name) (h' : IsHelper m name) :
    n = m := by
  have hdigits : Nat.toDigits 10 n = Nat.toDigits 10 m := h.drop_toList.symm.trans h'.drop_toList
  rw [← Nat.ofDigitChars_ten_toDigits (n := n), hdigits, Nat.ofDigitChars_ten_toDigits]

/-- A name that does not begin with two underscores is that of no helper. -/
theorem unclaimed_of_take_ne {name : String} (h : name.toList.take 2 ≠ ['_', '_']) :
    Unclaimed name := by
  rintro n (rfl | ⟨s, rfl⟩)
  · exact h (by simp [groupName, String.toList_append])
  · cases s <;> exact h (by simp [Suffix.helperName, String.toList_append])

mutual

/-- The names in a term, from left to right. -/
def Term.names : Term → List String
  | .name s => [s]
  | .literal _ => []
  | .group branches => branchesNames branches
  | .suffixed _ t => t.names

/-- The names in a branch, from left to right. -/
def sequenceNames : List Term → List String
  | [] => []
  | t :: ts => t.names ++ sequenceNames ts

/-- The names in some branches, from left to right. -/
def branchesNames : List (List Term) → List String
  | [] => []
  | b :: bs => sequenceNames b ++ branchesNames bs

end

/-- The names that rules write: their own, and those in their branches. -/
def writtenNames (rules : List (String × List (List Term))) : List String :=
  rules.flatMap fun p => p.1 :: branchesNames p.2

theorem mem_branchesNames {branches : List (List Term)} {b : List Term} {name : String}
    (hb : b ∈ branches) (h : name ∈ sequenceNames b) : name ∈ branchesNames branches := by
  induction hb with
  | head => exact List.mem_append_left _ h
  | tail _ _ ih => exact List.mem_append_right _ ih

section

variable {rules : List (String × List (List Term))}

theorem fst_mem_writtenNames {p : String × List (List Term)} (hp : p ∈ rules) :
    p.1 ∈ writtenNames rules :=
  List.mem_flatMap.2 ⟨p, hp, List.mem_cons_self⟩

theorem mem_writtenNames {name head : String} {branches : List (List Term)} {b : List Term}
    (hrule : (head, branches) ∈ rules) (hb : b ∈ branches) (h : name ∈ sequenceNames b) :
    name ∈ writtenNames rules :=
  List.mem_flatMap.2 ⟨_, hrule, List.mem_cons_of_mem _ (mem_branchesNames hb h)⟩

end

/-! ## Intervals of numbers -/

section

variable {α β : Type} {h k : Nat} {name : String} {new : List Rule} {r : Rule}

/-- The helpers that were made for a part have the numbers behind `h`, up to the last one so far. -/
structure Numbered (h : Nat) (l : Lowered α) : Prop where
  le : h ≤ l.helpers
  rules : ∀ r ∈ l.rules, ∃ n, IsHelper n r.name ∧ h < n ∧ n ≤ l.helpers

theorem Numbered.append {l : Lowered α} {l' : Lowered β} {γ : Type} (hl : Numbered h l)
    (hl' : Numbered l.helpers l') (v : γ) :
    Numbered h (⟨v, l'.helpers, l.rules ++ l'.rules⟩ : Lowered γ) where
  le := Nat.le_trans hl.le hl'.le
  rules := by
    intro r hr
    rcases List.mem_append.1 hr with hr | hr
    · obtain ⟨n, hn, hlow, hhigh⟩ := hl.rules r hr
      exact ⟨n, hn, hlow, Nat.le_trans hhigh hl'.le⟩
    · obtain ⟨n, hn, hlow, hhigh⟩ := hl'.rules r hr
      exact ⟨n, hn, Nat.lt_of_le_of_lt hl.le hlow, hhigh⟩

theorem Numbered.helper {l : Lowered α} (hl : Numbered h l) (hname : IsHelper (l.helpers + 1) name)
    (hnew : ∀ r ∈ new, r.name = name) (v : β) :
    Numbered h (⟨v, l.helpers + 1, l.rules ++ new⟩ : Lowered β) where
  le := Nat.le_succ_of_le hl.le
  rules := by
    intro r hr
    rcases List.mem_append.1 hr with hr | hr
    · obtain ⟨n, hn, hlow, hhigh⟩ := hl.rules r hr
      exact ⟨n, hn, hlow, Nat.le_succ_of_le hhigh⟩
    · exact ⟨_, hnew r hr ▸ hname, Nat.lt_succ_of_le hl.le, Nat.le_refl _⟩

theorem numbered_of_rules_eq_nil (v : α) (h : Nat) : Numbered h (⟨v, h, []⟩ : Lowered α) :=
  ⟨Nat.le_refl h, fun _ hr => nomatch hr⟩

end

theorem name_of_mem_map {name : String} {bodies : List (List Symbol)} :
    ∀ r ∈ bodies.map (Rule.mk name), r.name = name := by
  intro r hr
  obtain ⟨_, -, rfl⟩ := List.mem_map.1 hr
  rfl

mutual

theorem numbered_lowerTerm (tokens : List String) (h : Nat) :
    ∀ t : Term, Numbered h (lowerTerm tokens h t)
  | .name _ => numbered_of_rules_eq_nil _ h
  | .literal _ => numbered_of_rules_eq_nil _ h
  | .group branches =>
    (numbered_lowerBranches tokens h branches).helper (isHelper_groupName _) name_of_mem_map _
  | .suffixed suffix t =>
    (numbered_lowerTerm tokens h t).helper (isHelper_helperName suffix _) name_of_mem_map _

theorem numbered_lowerSequence (tokens : List String) (h : Nat) :
    ∀ ts : List Term, Numbered h (lowerSequence tokens h ts)
  | [] => numbered_of_rules_eq_nil _ h
  | t :: ts =>
    (numbered_lowerTerm tokens h t).append (numbered_lowerSequence tokens _ ts) _

theorem numbered_lowerBranches (tokens : List String) (h : Nat) :
    ∀ bs : List (List Term), Numbered h (lowerBranches tokens h bs)
  | [] => numbered_of_rules_eq_nil _ h
  | b :: bs =>
    (numbered_lowerSequence tokens h b).append (numbered_lowerBranches tokens _ bs) _

end

/-! ## Owners -/

/-- Of the rules `R`, those of the helpers with the numbers of the part are rules of the part. -/
def Owns {α : Type} (R : List Rule) (h : Nat) (l : Lowered α) : Prop :=
  ∀ r ∈ R, ∀ n, IsHelper n r.name → h < n → n ≤ l.helpers → r ∈ l.rules

section

variable {α β γ : Type} {R new : List Rule} {h : Nat} {l : Lowered α} {l' : Lowered β} {v : γ}
  {name : String} {r : Rule}

theorem Owns.head (hl' : Numbered l.helpers l')
    (howns : Owns R h ⟨v, l'.helpers, l.rules ++ l'.rules⟩) : Owns R h l := by
  intro r hr n hn hlow hhigh
  have hmem := howns r hr n hn hlow (Nat.le_trans hhigh hl'.le)
  rcases List.mem_append.1 hmem with hmem | hmem
  · exact hmem
  · obtain ⟨m, hm, hlow', -⟩ := hl'.rules r hmem
    cases hn.unique hm
    omega

theorem Owns.tail (hl : Numbered h l)
    (howns : Owns R h ⟨v, l'.helpers, l.rules ++ l'.rules⟩) : Owns R l.helpers l' := by
  intro r hr n hn hlow hhigh
  have hmem := howns r hr n hn (Nat.lt_of_le_of_lt hl.le hlow) hhigh
  rcases List.mem_append.1 hmem with hmem | hmem
  · obtain ⟨m, hm, -, hhigh'⟩ := hl.rules r hmem
    cases hn.unique hm
    omega
  · exact hmem

theorem Owns.inner (hname : IsHelper (l.helpers + 1) name) (hnew : ∀ r ∈ new, r.name = name)
    (howns : Owns R h ⟨v, l.helpers + 1, l.rules ++ new⟩) : Owns R h l := by
  intro r hr n hn hlow hhigh
  have hmem := howns r hr n hn hlow (Nat.le_succ_of_le hhigh)
  rcases List.mem_append.1 hmem with hmem | hmem
  · exact hmem
  · rw [hnew r hmem] at hn
    cases hn.unique hname
    omega

/-- All rules with the name of a helper that was made last are rules that were made for it. -/
theorem Owns.mem_new (hl : Numbered h l) (hname : IsHelper (l.helpers + 1) name)
    (howns : Owns R h ⟨v, l.helpers + 1, l.rules ++ new⟩) (hr : r ∈ R) (hrname : r.name = name) :
    r ∈ new := by
  rw [← hrname] at hname
  have hmem := howns r hr _ hname (Nat.lt_succ_of_le hl.le) (Nat.le_refl _)
  rcases List.mem_append.1 hmem with hmem | hmem
  · obtain ⟨m, hm, -, hhigh⟩ := hl.rules r hmem
    cases hname.unique hm
    exact absurd hhigh (Nat.not_succ_le_self _)
  · exact hmem

end

section

variable {tokens : List String} {R : List Rule} {h : Nat}

/-- Each right-hand side of some branches is that of a branch, which owns what it is part of. -/
theorem Owns.exists_branch {branches : List (List Term)} {components : List Symbol}
    (howns : Owns R h (lowerBranches tokens h branches))
    (hmem : components ∈ (lowerBranches tokens h branches).value) :
    ∃ b ∈ branches, ∃ k, h ≤ k ∧ components = (lowerSequence tokens k b).value ∧
      Owns R k (lowerSequence tokens k b) := by
  induction branches generalizing h with
  | nil => cases hmem
  | cons b bs ih =>
    have hb := numbered_lowerSequence tokens h b
    rcases List.mem_cons.1 hmem with rfl | hmem
    · exact ⟨b, List.mem_cons_self, h, Nat.le_refl h, rfl,
        howns.head (numbered_lowerBranches tokens _ bs)⟩
    · obtain ⟨b', hb', k, hk, hcomponents, howns'⟩ := ih (howns.tail hb) hmem
      exact ⟨b', List.mem_cons_of_mem _ hb', k, Nat.le_trans hb.le hk, hcomponents, howns'⟩

/-! ## Whole files -/

variable {written : List (String × List (List Term))} {r : Rule}

/-- The rules of a file that are not its own are those of helpers with higher numbers. -/
theorem unclaimed_or_of_mem_lowerRules (hheads : ∀ p ∈ written, Unclaimed p.1)
    (hr : r ∈ lowerRules tokens h written) :
    Unclaimed r.name ∨ ∃ n, IsHelper n r.name ∧ h < n := by
  induction written generalizing h with
  | nil => cases hr
  | cons p rest ih =>
    obtain ⟨name, branches⟩ := p
    obtain ⟨hname, hrest⟩ := List.forall_mem_cons.1 hheads
    have hbody := numbered_lowerBranches tokens h branches
    rcases List.mem_append.1 hr with hr | hr
    · rcases List.mem_append.1 hr with hr | hr
      · obtain ⟨n, hn, hlow, -⟩ := hbody.rules r hr
        exact .inr ⟨n, hn, hlow⟩
      · exact .inl (name_of_mem_map r hr ▸ hname)
    · exact (ih hrest hr).imp_right fun ⟨n, hn, hlow⟩ => ⟨n, hn, Nat.lt_of_le_of_lt hbody.le hlow⟩

/-- The body of the first rule owns the rules of its helpers in the whole file. -/
theorem owns_lowerBranches {name : String} {branches : List (List Term)}
    (hname : Unclaimed name) (hrest : ∀ p ∈ written, Unclaimed p.1) :
    Owns (lowerRules tokens h ((name, branches) :: written)) h
      (lowerBranches tokens h branches) := by
  intro r hr n hn hlow hhigh
  rcases List.mem_append.1 hr with hr | hr
  · rcases List.mem_append.1 hr with hr | hr
    · exact hr
    · exact absurd (name_of_mem_map r hr ▸ hn) (hname n)
  · rcases unclaimed_or_of_mem_lowerRules hrest hr with hr | ⟨m, hm, hlow'⟩
    · exact absurd hn (hr n)
    · cases hn.unique hm
      omega

/-- What owns its helpers among the rules behind the first one owns them in the whole file. -/
theorem Owns.cons {α : Type} {l : Lowered α} {name : String} {branches : List (List Term)} {k : Nat}
    (hname : Unclaimed name) (hk : (lowerBranches tokens h branches).helpers ≤ k)
    (howns : Owns (lowerRules tokens (lowerBranches tokens h branches).helpers written) k l) :
    Owns (lowerRules tokens h ((name, branches) :: written)) k l := by
  intro r hr n hn hlow hhigh
  rcases List.mem_append.1 hr with hr | hr
  · rcases List.mem_append.1 hr with hr | hr
    · obtain ⟨m, hm, -, hhigh'⟩ := (numbered_lowerBranches tokens h branches).rules r hr
      cases hn.unique hm
      omega
    · exact absurd (name_of_mem_map r hr ▸ hn) (hname n)
  · exact howns r hr n hn hlow hhigh

/-- A rule that is not that of a helper is a branch as it was written, and the branch owns the rules
of its helpers. -/
theorem owns_of_mem_lowerRules (hheads : ∀ p ∈ written, Unclaimed p.1)
    (hr : r ∈ lowerRules tokens h written) (hname : Unclaimed r.name) :
    ∃ branches, (r.name, branches) ∈ written ∧ ∃ b ∈ branches, ∃ k, h ≤ k ∧
      r.components = (lowerSequence tokens k b).value ∧
      Owns (lowerRules tokens h written) k (lowerSequence tokens k b) := by
  induction written generalizing h with
  | nil => cases hr
  | cons p rest ih =>
    obtain ⟨name, branches⟩ := p
    obtain ⟨hfirst, hrest⟩ := List.forall_mem_cons.1 hheads
    have hbody := numbered_lowerBranches tokens h branches
    rcases List.mem_append.1 hr with hr | hr
    · rcases List.mem_append.1 hr with hr | hr
      · obtain ⟨n, hn, -⟩ := hbody.rules r hr
        exact absurd hn (hname n)
      · obtain ⟨components, hmem, rfl⟩ := List.mem_map.1 hr
        exact ⟨branches, List.mem_cons_self,
          (owns_lowerBranches hfirst hrest).exists_branch hmem⟩
    · obtain ⟨branches', hmem, b, hb, k, hk, hcomponents, howns⟩ := ih hrest hr
      exact ⟨branches', List.mem_cons_of_mem _ hmem, b, hb, k, Nat.le_trans hbody.le hk,
        hcomponents, howns.cons hfirst hk⟩

end

end Earley.GrammarFile
