/-
Earley.Proofs.GrammarFile.Freshness — the helpers of a file, and what keeps their names apart.

Every group and every suffix of a file has a helper of its own (`helpersOf`), with the bodies that
it gets. The flat rules are the rules of the helpers and the rules as they were written, one between
the other. Numbers tell the helpers apart from each other, but nothing tells them apart from the
names in the file: a rule may be written that has the name of a helper.

- `Counted.nodup`: helpers that are numbered one by one have different names.
- `made_lowerTerm`, `made_lowerBranches`: the helpers of a part are numbered one by one, and its
  rules are theirs.
- `helpers_fresh`: helpers have different names, and their rules mix with written ones only where a
  written rule has the name of a helper.
- `helpers_clash`: a file where they do.
-/
import Earley.Proofs.GrammarFile.Lowering

namespace Earley.GrammarFile

/-! ## Helpers -/

/-- A nonterminal that stands for a group or for something with a suffix. -/
structure Helper where
  name : String
  bodies : List (List Symbol)
  deriving DecidableEq, Repr

/-- The rules of a helper. -/
def Helper.rules (x : Helper) : List Rule := x.bodies.map (Rule.mk x.name)

/-- The helper of a group, given what has become of its branches. -/
def Helper.ofGroup (l : Lowered (List (List Symbol))) : Helper :=
  ⟨groupName (l.helpers + 1), l.value⟩

/-- The helper of a suffix, given what has become of the term before it. -/
def Helper.ofSuffix (s : Suffix) (l : Lowered Symbol) : Helper :=
  ⟨s.helperName (l.helpers + 1), s.bodies (s.helperName (l.helpers + 1)) l.value⟩

mutual

/-- The helpers of a term, in the order of their numbers. -/
def Term.helpers (tokens : List String) (h : Nat) : Term → List Helper
  | .name _ => []
  | .literal _ => []
  | .group branches =>
    branchesHelpers tokens h branches ++ [.ofGroup (lowerBranches tokens h branches)]
  | .suffixed s t => t.helpers tokens h ++ [.ofSuffix s (lowerTerm tokens h t)]

/-- The helpers of a branch. -/
def sequenceHelpers (tokens : List String) (h : Nat) : List Term → List Helper
  | [] => []
  | t :: ts => t.helpers tokens h ++ sequenceHelpers tokens (lowerTerm tokens h t).helpers ts

/-- The helpers of some branches. -/
def branchesHelpers (tokens : List String) (h : Nat) : List (List Term) → List Helper
  | [] => []
  | b :: bs => sequenceHelpers tokens h b ++
      branchesHelpers tokens (lowerSequence tokens h b).helpers bs

end

/-- The helpers of named right-hand sides. -/
def rulesHelpers (tokens : List String) (h : Nat) : List (String × List (List Term)) → List Helper
  | [] => []
  | (_, branches) :: rest => branchesHelpers tokens h branches ++
      rulesHelpers tokens (lowerBranches tokens h branches).helpers rest

/-- The flat rules of named right-hand sides that have a written name. -/
def writtenRules (tokens : List String) (h : Nat) : List (String × List (List Term)) → List Rule
  | [] => []
  | (name, branches) :: rest => (lowerBranches tokens h branches).value.map (Rule.mk name) ++
      writtenRules tokens (lowerBranches tokens h branches).helpers rest

/-! ## Numbers -/

/-- Helpers are numbered one by one, with the numbers behind `h`. -/
def Counted : Nat → List Helper → Prop
  | _, [] => True
  | h, x :: xs => IsHelper (h + 1) x.name ∧ Counted (h + 1) xs

section

variable {h : Nat} {xs ys : List Helper} {x : Helper}

theorem counted_append : Counted h (xs ++ ys) ↔ Counted h xs ∧ Counted (h + xs.length) ys := by
  induction xs generalizing h with
  | nil => simp [Counted]
  | cons x xs ih =>
    rw [List.cons_append, Counted, Counted, ih, and_assoc, List.length_cons,
      Nat.add_right_comm, Nat.add_assoc]

theorem Counted.exists_isHelper (hxs : Counted h xs) (hx : x ∈ xs) :
    ∃ n, IsHelper n x.name ∧ h < n := by
  induction xs generalizing h with
  | nil => cases hx
  | cons y ys ih =>
    rcases List.mem_cons.1 hx with rfl | hx
    · exact ⟨h + 1, hxs.1, Nat.lt_succ_self h⟩
    · obtain ⟨n, hn, hlt⟩ := ih hxs.2 hx
      exact ⟨n, hn, Nat.lt_of_succ_lt hlt⟩

theorem Counted.nodup (hxs : Counted h xs) : (xs.map (·.name)).Nodup := by
  induction xs generalizing h with
  | nil => exact List.nodup_nil
  | cons x xs ih =>
    refine List.nodup_cons.2 ⟨fun hmem => ?_, ih hxs.2⟩
    obtain ⟨y, hy, hname⟩ := List.mem_map.1 hmem
    obtain ⟨n, hn, hlt⟩ := hxs.2.exists_isHelper hy
    rw [hname] at hn
    cases hn.unique hxs.1
    exact Nat.lt_irrefl _ hlt

end

/-! ## Lowering -/

/-- What lowering makes for a part are these helpers, and no other rules than theirs. -/
structure Made {α : Type} (h : Nat) (l : Lowered α) (xs : List Helper) : Prop where
  helpers_eq : l.helpers = h + xs.length
  counted : Counted h xs
  rules_eq : l.rules = xs.flatMap Helper.rules

section

variable {α β : Type} {h : Nat} {l : Lowered α} {xs : List Helper}

theorem made_nil (v : α) (h : Nat) : Made h (⟨v, h, []⟩ : Lowered α) [] := ⟨rfl, trivial, rfl⟩

theorem Made.append {l' : Lowered β} {ys : List Helper} {γ : Type} (hl : Made h l xs)
    (hl' : Made l.helpers l' ys) (v : γ) :
    Made h (⟨v, l'.helpers, l.rules ++ l'.rules⟩ : Lowered γ) (xs ++ ys) where
  helpers_eq := by
    dsimp only
    rw [hl'.helpers_eq, hl.helpers_eq, List.length_append, Nat.add_assoc]
  counted := counted_append.2 ⟨hl.counted, hl.helpers_eq ▸ hl'.counted⟩
  rules_eq := by
    dsimp only
    rw [hl.rules_eq, hl'.rules_eq, List.flatMap_append]

theorem Made.helper {x : Helper} (hl : Made h l xs) (hx : IsHelper (l.helpers + 1) x.name)
    (v : β) : Made h (⟨v, l.helpers + 1, l.rules ++ x.rules⟩ : Lowered β) (xs ++ [x]) where
  helpers_eq := by
    dsimp only
    rw [hl.helpers_eq, List.length_append, List.length_singleton, Nat.add_assoc]
  counted := counted_append.2 ⟨hl.counted, hl.helpers_eq ▸ hx, trivial⟩
  rules_eq := by
    dsimp only
    rw [hl.rules_eq, List.flatMap_append, List.flatMap_singleton]

end

mutual

theorem made_lowerTerm (tokens : List String) (h : Nat) :
    ∀ t : Term, Made h (lowerTerm tokens h t) (t.helpers tokens h)
  | .name _ => made_nil _ h
  | .literal _ => made_nil _ h
  | .group branches => (made_lowerBranches tokens h branches).helper
      (x := .ofGroup (lowerBranches tokens h branches)) (isHelper_groupName _) _
  | .suffixed s t => (made_lowerTerm tokens h t).helper
      (x := .ofSuffix s (lowerTerm tokens h t)) (isHelper_helperName s _) _

theorem made_lowerSequence (tokens : List String) (h : Nat) :
    ∀ ts : List Term, Made h (lowerSequence tokens h ts) (sequenceHelpers tokens h ts)
  | [] => made_nil _ h
  | t :: ts => (made_lowerTerm tokens h t).append (made_lowerSequence tokens _ ts) _

theorem made_lowerBranches (tokens : List String) (h : Nat) :
    ∀ bs : List (List Term), Made h (lowerBranches tokens h bs) (branchesHelpers tokens h bs)
  | [] => made_nil _ h
  | b :: bs => (made_lowerSequence tokens h b).append (made_lowerBranches tokens _ bs) _

end

section

variable {tokens : List String} {h : Nat} {written : List (String × List (List Term))}
  {p : String → Bool}

theorem counted_rulesHelpers : Counted h (rulesHelpers tokens h written) := by
  induction written generalizing h with
  | nil => trivial
  | cons w rest ih =>
    have hbody := made_lowerBranches tokens h w.2
    exact counted_append.2 ⟨hbody.counted, hbody.helpers_eq ▸ ih⟩

theorem filter_map_mk {name : String} {bodies : List (List Symbol)} (hp : p name = false) :
    (bodies.map (Rule.mk name)).filter (p ·.name) = [] := by
  refine List.filter_eq_nil_iff.2 fun r hr => ?_
  rw [name_of_mem_map r hr, hp]
  exact Bool.false_ne_true

theorem filter_flatMap_rules {xs : List Helper} (hp : ∀ x ∈ xs, p x.name = false) :
    (xs.flatMap Helper.rules).filter (p ·.name) = [] := by
  refine List.filter_eq_nil_iff.2 fun r hr => ?_
  obtain ⟨x, hx, hr⟩ := List.mem_flatMap.1 hr
  rw [name_of_mem_map r hr, hp x hx]
  exact Bool.false_ne_true

/-- Of the flat rules, those with names that no written rule has are rules of helpers. -/
theorem filter_lowerRules_of_heads (hp : ∀ w ∈ written, p w.1 = false) :
    (lowerRules tokens h written).filter (p ·.name) =
      ((rulesHelpers tokens h written).flatMap Helper.rules).filter (p ·.name) := by
  induction written generalizing h with
  | nil => rfl
  | cons w rest ih =>
    obtain ⟨hw, hrest⟩ := List.forall_mem_cons.1 hp
    rw [lowerRules, rulesHelpers, List.flatMap_append, List.filter_append, List.filter_append,
      List.filter_append, filter_map_mk hw, List.append_nil, ih hrest,
      (made_lowerBranches tokens h w.2).rules_eq]

/-- Those with names that no helper has are written rules. -/
theorem filter_lowerRules_of_helpers (hp : ∀ x ∈ rulesHelpers tokens h written, p x.name = false) :
    (lowerRules tokens h written).filter (p ·.name) =
      (writtenRules tokens h written).filter (p ·.name) := by
  induction written generalizing h with
  | nil => rfl
  | cons w rest ih =>
    obtain ⟨hbody, hrest⟩ := List.forall_mem_append.1 hp
    rw [lowerRules, writtenRules, List.filter_append, List.filter_append, List.filter_append,
      (made_lowerBranches tokens h w.2).rules_eq, filter_flatMap_rules hbody, List.nil_append,
      ih hrest]

/-- Of helpers with different names, each has its own rules. -/
theorem filter_rules_of_nodup {xs : List Helper} (hxs : (xs.map (·.name)).Nodup) {x : Helper}
    (hx : x ∈ xs) : (xs.flatMap Helper.rules).filter (·.name == x.name) = x.rules := by
  induction xs with
  | nil => cases hx
  | cons y ys ih =>
    obtain ⟨hy, hys⟩ := List.nodup_cons.1 hxs
    rw [List.flatMap_cons, List.filter_append]
    rcases List.mem_cons.1 hx with rfl | hx
    · have hself : x.rules.filter (·.name == x.name) = x.rules :=
        List.filter_eq_self.2 fun r hr => beq_iff_eq.2 (name_of_mem_map r hr)
      have hothers : ∀ z ∈ ys, (z.name == x.name) = false := fun z hz =>
        beq_false_of_ne fun heq => hy (List.mem_map.2 ⟨z, hz, heq⟩)
      rw [hself, filter_flatMap_rules (p := (· == x.name)) hothers, List.append_nil]
    · have hfirst : (y.name == x.name) = false :=
        beq_false_of_ne fun heq => hy (List.mem_map.2 ⟨x, hx, heq.symm⟩)
      have hnone : y.rules.filter (·.name == x.name) = [] :=
        filter_map_mk (p := (· == x.name)) hfirst
      rw [hnone, List.nil_append, ih hys hx]

end

/-! ## Files -/

/-- The names of the tokens that statements declare. -/
def tokenNames (statements : List Statement) : List String := (tokensOf statements).map (·.name)

/-- The helpers of the rules among statements. -/
def helpersOf (statements : List Statement) : List Helper :=
  rulesHelpers (tokenNames statements) 0 (bodiesOf statements)

/-- The helpers of a file have different names. These are not written in the file, if no written
name has the form of a helper's name. If no written rule has the name of a helper, the flat rules of
that name are just the rules of the helper. The flat rules of any name that no helper has are just
those that were written. -/
theorem helpers_fresh [Regex.Engine] [Literal.Decoder] {src : List Char} {file : GrammarFile}
    (hread : read src = .ok file) {statements : List Statement}
    (hspells : Spells src statements) :
    ((helpersOf statements).map (·.name)).Nodup ∧
    ((∀ name ∈ writtenNames (bodiesOf statements) ++ tokenNames statements, Unclaimed name) →
      ∀ x ∈ helpersOf statements,
        x.name ∉ writtenNames (bodiesOf statements) ++ tokenNames statements) ∧
    (∀ x ∈ helpersOf statements, x.name ∉ (bodiesOf statements).map (·.1) →
      file.rules.filter (·.name == x.name) = x.rules) ∧
    ∀ name, name ∉ (helpersOf statements).map (·.name) →
      file.rules.filter (·.name == name) =
        (writtenRules (tokenNames statements) 0 (bodiesOf statements)).filter (·.name == name) := by
  obtain ⟨others, -, hunique, hfile⟩ := exists_spells_of_read hread
  cases hunique statements hspells
  have hrules : file.rules = lowerRules (tokenNames statements) 0 (bodiesOf statements) :=
    rules_of_ofStatements hfile
  have hcounted : Counted 0 (helpersOf statements) := counted_rulesHelpers
  refine ⟨hcounted.nodup, fun hfresh x hx hmem => ?_, fun x hx hname => ?_, fun name hname => ?_⟩
  · obtain ⟨n, hn, -⟩ := hcounted.exists_isHelper hx
    exact hfresh _ hmem n hn
  · have hheads : ∀ w ∈ bodiesOf statements, (w.1 == x.name) = false := fun w hw =>
      beq_false_of_ne fun heq => hname (heq ▸ List.mem_map_of_mem hw)
    rw [hrules, filter_lowerRules_of_heads (p := (· == x.name)) hheads]
    exact filter_rules_of_nodup hcounted.nodup hx
  · have hhelpers : ∀ x ∈ helpersOf statements, (x.name == name) = false := fun x hx =>
      beq_false_of_ne fun heq => hname (heq ▸ List.mem_map_of_mem hx)
    rw [hrules]
    exact filter_lowerRules_of_helpers (p := (· == name)) hhelpers

theorem helpers_fresh_repeatedGroup : ∃ file statements, read repeatedGroup = .ok file ∧
    Spells repeatedGroup statements ∧
    (helpersOf statements).map (·.name) = ["__grp1", "__rep2"] ∧
    "__rep2" ∉ writtenNames (bodiesOf statements) ++ tokenNames statements ∧
    file.rules.filter (·.name == "__rep2") =
      [⟨"__rep2", []⟩, ⟨"__rep2", [.nonterminal "__rep2", .nonterminal "__grp1"]⟩] ∧
    file.rules.filter (·.name == "S") = [⟨"S", [.nonterminal "__rep2"]⟩] := by
  have hread : read repeatedGroup = .ok
      { tokens := [⟨"N", ⟨"n", {}⟩⟩], ignores := []
        literals := [], start := some "S"
        rules := [⟨"__grp1", [.terminal "N"]⟩, ⟨"__grp1", []⟩, ⟨"__rep2", []⟩,
          ⟨"__rep2", [.nonterminal "__rep2", .nonterminal "__grp1"]⟩,
          ⟨"S", [.nonterminal "__rep2"]⟩] } := by
    decide +kernel
  obtain ⟨-, hapart, hhelper, hwritten⟩ := helpers_fresh hread spells_repeatedGroup
  refine ⟨_, _, hread, spells_repeatedGroup, by decide +kernel, ?_, ?_, ?_⟩
  · refine hapart ?_ ⟨"__rep2", [[], [.nonterminal "__rep2", .nonterminal "__grp1"]]⟩
      (by decide +kernel)
    intro name hname
    refine unclaimed_of_take_ne ?_
    revert name
    decide
  · exact hhelper ⟨"__rep2", [[], [.nonterminal "__rep2", .nonterminal "__grp1"]]⟩
      (by decide +kernel) (by decide +kernel)
  · exact (hwritten "S" (by decide +kernel)).trans (by decide +kernel)

/-- A file with an optional sign, and a rule with the name that its helper gets. -/
def writtenHelper : List Char := "S:\"+\"?\"-\";__opt1:\"*\";".toList

theorem scan_writtenHelper : scan writtenHelper = .ok
    [⟨.name, ['S'], 0⟩, ⟨.punctuation, [':'], 1⟩, ⟨.string, ['"', '+', '"'], 2⟩,
      ⟨.punctuation, ['?'], 5⟩, ⟨.string, ['"', '-', '"'], 6⟩, ⟨.punctuation, [';'], 9⟩,
      ⟨.name, "__opt1".toList, 10⟩, ⟨.punctuation, [':'], 16⟩, ⟨.string, ['"', '*', '"'], 17⟩,
      ⟨.punctuation, [';'], 20⟩] := by
  decide +kernel

theorem spells_writtenHelper : Spells writtenHelper
    [.rule "S" 0 [[.suffixed .optional (.literal "+"), .literal "-"]],
      .rule "__opt1" 10 [[.literal "*"]]] := by
  refine ⟨_, scan_writtenHelper, ?_⟩
  have hfirst : branchesSpelled [[.suffixed .optional (.literal "+"), .literal "-"]]
      [⟨.string, ['"', '+', '"'], 2⟩, ⟨.punctuation, ['?'], 5⟩, ⟨.string, ['"', '-', '"'], 6⟩] :=
    .inl ⟨rfl, [_, _], [_], rfl, ⟨rfl, [_], _, rfl, ⟨_, rfl, rfl, by decide +kernel⟩, rfl⟩,
      [_], [], rfl, ⟨_, rfl, rfl, by decide +kernel⟩, rfl⟩
  have hsecond : branchesSpelled [[.literal "*"]] [⟨.string, ['"', '*', '"'], 17⟩] :=
    .inl ⟨rfl, [_], [], rfl, ⟨_, rfl, rfl, by decide +kernel⟩, rfl⟩
  refine ⟨[_, _, _, _, _, _], [_, _, _, _], rfl, ?_, ?_⟩
  · exact ⟨_, _, [_, _, _], _, rfl, rfl, rfl, rfl, rfl, hfirst, rfl⟩
  · refine ⟨[_, _, _, _], [], rfl, ?_, rfl⟩
    exact ⟨_, _, [_], _, rfl, rfl, rfl, rfl, rfl, hsecond, rfl⟩

/-- The rule of this file is a third rule of the helper. -/
theorem helpers_clash : ∃ file statements, read writtenHelper = .ok file ∧
    Spells writtenHelper statements ∧
    (helpersOf statements).map (·.name) = ["__opt1"] ∧
    "__opt1" ∈ writtenNames (bodiesOf statements) ∧
    file.rules.filter (·.name == "__opt1") =
      [⟨"__opt1", []⟩, ⟨"__opt1", [.terminal "+"]⟩, ⟨"__opt1", [.terminal "*"]⟩] := by
  have hread : read writtenHelper = .ok
      { tokens := [], ignores := [], literals := ["+", "-", "*"], start := some "S"
        rules := [⟨"__opt1", []⟩, ⟨"__opt1", [.terminal "+"]⟩,
          ⟨"S", [.nonterminal "__opt1", .terminal "-"]⟩, ⟨"__opt1", [.terminal "*"]⟩] } := by
    decide +kernel
  exact ⟨_, _, hread, spells_writtenHelper, by decide +kernel, by decide +kernel, by decide +kernel⟩

end Earley.GrammarFile
