/-
Earley.Proofs.GrammarFile.Resolution — what has become of names and literals in flat rules.

`Term.Resolved` and its companions say by recursion on terms which symbol stands for a term among
flat rules: a terminal for a literal and for the name of a token, wherever in the file the token is
declared, a nonterminal for any other name, and the nonterminal of a helper for a group or for
something with a suffix, whose bodies stand in turn for what is in it.

- `resolved_lowerTerm` and `resolved_writtenRules`: the symbol that lowering makes of a term stands
  for it, in every rule that is written.
- `lowerRules_perm`: beside these rules there are just those of the helpers.
- `mem_symbols_lowerTerm_iff`: no symbols are made but those of names, literals and helpers.
-/
import Earley.Proofs.GrammarFile.Freshness

namespace Earley.GrammarFile

/-! ## Symbols that stand for terms -/

section

variable (tokens : List String) (helpers : List Helper)

mutual

/-- The symbol stands for a term. -/
def Term.Resolved : Term → Symbol → Prop
  | .name s, x => (s ∈ tokens ∧ x = .terminal s) ∨ (s ∉ tokens ∧ x = .nonterminal s)
  | .literal text, x => x = .terminal text
  | .group branches, x => ∃ helper ∈ helpers, x = .nonterminal helper.name ∧
      branchesResolved branches helper.bodies
  | .suffixed suffix t, x => ∃ helper ∈ helpers, x = .nonterminal helper.name ∧
      ∃ y, t.Resolved y ∧ helper.bodies = suffix.bodies helper.name y

/-- The right-hand side stands for a branch, one symbol for each term. -/
def sequenceResolved : List Term → List Symbol → Prop
  | [], xs => xs = []
  | t :: ts, xs => ∃ y ys, xs = y :: ys ∧ t.Resolved y ∧ sequenceResolved ts ys

/-- The right-hand sides stand for some branches, one for each. -/
def branchesResolved : List (List Term) → List (List Symbol) → Prop
  | [], bodies => bodies = []
  | b :: bs, bodies => ∃ xs rest, bodies = xs :: rest ∧ sequenceResolved b xs ∧
      branchesResolved bs rest

end

/-- The flat rules stand for named right-hand sides, one for each branch, in order. -/
def rulesResolved : List (String × List (List Term)) → List Rule → Prop
  | [], rules => rules = []
  | (name, branches) :: written, rules => ∃ bodies rest,
      rules = bodies.map (Rule.mk name) ++ rest ∧ branchesResolved tokens helpers branches bodies ∧
      rulesResolved written rest

end

section

variable {tokens : List String} {helpers : List Helper}

theorem resolve_resolved (s : String) :
    (Term.name s).Resolved tokens helpers (resolve tokens s) := by
  by_cases hs : s ∈ tokens
  · exact .inl ⟨hs, if_pos hs⟩
  · exact .inr ⟨hs, if_neg hs⟩

mutual

theorem resolved_lowerTerm (t : Term) (h : Nat) (hsub : t.helpers tokens h ⊆ helpers) :
    t.Resolved tokens helpers (lowerTerm tokens h t).value := by
  match t with
  | .name s => exact resolve_resolved s
  | .literal text => rfl
  | .group branches =>
    obtain ⟨hinner, hlast⟩ := List.append_subset.1 hsub
    exact ⟨_, hlast List.mem_cons_self, rfl, resolved_lowerBranches branches h hinner⟩
  | .suffixed suffix t =>
    obtain ⟨hinner, hlast⟩ := List.append_subset.1 hsub
    exact ⟨_, hlast List.mem_cons_self, rfl, _, resolved_lowerTerm t h hinner, rfl⟩

theorem resolved_lowerSequence (ts : List Term) (h : Nat)
    (hsub : sequenceHelpers tokens h ts ⊆ helpers) :
    sequenceResolved tokens helpers ts (lowerSequence tokens h ts).value := by
  match ts with
  | [] => rfl
  | t :: ts =>
    obtain ⟨hfirst, hrest⟩ := List.append_subset.1 hsub
    exact ⟨_, _, rfl, resolved_lowerTerm t h hfirst, resolved_lowerSequence ts _ hrest⟩

theorem resolved_lowerBranches (bs : List (List Term)) (h : Nat)
    (hsub : branchesHelpers tokens h bs ⊆ helpers) :
    branchesResolved tokens helpers bs (lowerBranches tokens h bs).value := by
  match bs with
  | [] => rfl
  | b :: bs =>
    obtain ⟨hfirst, hrest⟩ := List.append_subset.1 hsub
    exact ⟨_, _, rfl, resolved_lowerSequence b h hfirst, resolved_lowerBranches bs _ hrest⟩

end

theorem resolved_writtenRules {written : List (String × List (List Term))} {h : Nat}
    (hsub : rulesHelpers tokens h written ⊆ helpers) :
    rulesResolved tokens helpers written (writtenRules tokens h written) := by
  induction written generalizing h with
  | nil => rfl
  | cons w rest ih =>
    obtain ⟨hfirst, hrest⟩ := List.append_subset.1 hsub
    exact ⟨_, _, rfl, resolved_lowerBranches w.2 h hfirst, ih hrest⟩

/-- The flat rules are those of the helpers and those that were written. -/
theorem lowerRules_perm (written : List (String × List (List Term))) (h : Nat) :
    (lowerRules tokens h written).Perm
      ((rulesHelpers tokens h written).flatMap Helper.rules ++ writtenRules tokens h written) := by
  induction written generalizing h with
  | nil => exact .nil
  | cons w rest ih =>
    rw [lowerRules, rulesHelpers, writtenRules, List.flatMap_append,
      (made_lowerBranches tokens h w.2).rules_eq, List.append_assoc, List.append_assoc]
    -- the rules of this name move behind the helpers of the names that follow
    refine .append_left _ ((List.Perm.append_left _ (ih _)).trans ?_)
    rw [← List.append_assoc, ← List.append_assoc]
    exact .append_right _ List.perm_append_comm

end

/-! ## Symbols that occur -/

/-- The symbols on the right-hand sides of rules. -/
def symbolsOf (rules : List Rule) : List Symbol := rules.flatMap (·.components)

/-- The symbol is what a name stands for, or that of a literal, or that of a helper. -/
def Stems (tokens names literals : List String) (helpers : List Helper) (x : Symbol) : Prop :=
  (∃ s ∈ names, x = resolve tokens s) ∨ (∃ text ∈ literals, x = .terminal text) ∨
    ∃ helper ∈ helpers, x = .nonterminal helper.name

section

variable {tokens names names' literals literals' : List String} {helpers helpers' : List Helper}
  {x : Symbol}

@[simp] theorem stems_nil : ¬ Stems tokens [] [] [] x := by simp [Stems]

theorem stems_append :
    Stems tokens (names ++ names') (literals ++ literals') (helpers ++ helpers') x ↔
      Stems tokens names literals helpers x ∨ Stems tokens names' literals' helpers' x := by
  simp only [Stems, List.mem_append, or_and_right, exists_or]
  rw [or_or_or_comm (a := ∃ text ∈ literals, _), or_or_or_comm]

theorem stems_concat {helper : Helper} :
    Stems tokens names literals (helpers ++ [helper]) x ↔
      x = .nonterminal helper.name ∨ Stems tokens names literals helpers x := by
  simp only [Stems, List.mem_append, List.mem_singleton, or_and_right, exists_or, exists_eq_left]
  rw [or_comm (a := x = _), or_assoc, or_assoc]

@[simp] theorem symbolsOf_append (rules rules' : List Rule) :
    symbolsOf (rules ++ rules') = symbolsOf rules ++ symbolsOf rules' :=
  List.flatMap_append

@[simp] theorem symbolsOf_map_mk (name : String) (bodies : List (List Symbol)) :
    symbolsOf (bodies.map (Rule.mk name)) = bodies.flatten := by
  rw [symbolsOf, List.flatMap_map, List.flatMap_id']

theorem eq_or_mem_flatten_bodies_iff {suffix : Suffix} {helper : String} {y : Symbol} :
    x = .nonterminal helper ∨ x ∈ (suffix.bodies helper y).flatten ↔
      x = .nonterminal helper ∨ x = y := by
  cases suffix with
  | optional | star => simp [Suffix.bodies]
  | plus =>
    simp only [Suffix.bodies, List.flatten_cons, List.flatten_nil, List.append_nil, List.mem_append,
      List.mem_cons, List.not_mem_nil, or_false]
    exact ⟨fun h => h.elim .inl fun h => h.elim .inr id, fun h => h.imp_right .inl⟩

mutual

theorem mem_symbols_lowerTerm_iff (t : Term) (h : Nat) :
    x = (lowerTerm tokens h t).value ∨ x ∈ symbolsOf (lowerTerm tokens h t).rules ↔
      Stems tokens t.names t.literals (t.helpers tokens h) x := by
  match t with
  | .name s => simp [lowerTerm, symbolsOf, Stems, Term.names, Term.literals, Term.helpers]
  | .literal text => simp [lowerTerm, symbolsOf, Stems, Term.names, Term.literals, Term.helpers]
  | .group branches =>
    rw [Term.names, Term.literals, Term.helpers, stems_concat,
      ← mem_symbols_lowerBranches_iff branches h, lowerTerm, symbolsOf_append, symbolsOf_map_mk,
      List.mem_append, Or.comm (a := x ∈ symbolsOf _)]
    rfl
  | .suffixed suffix t =>
    rw [Term.names, Term.literals, Term.helpers, stems_concat, ← mem_symbols_lowerTerm_iff t h,
      ← or_assoc, lowerTerm, symbolsOf_append, symbolsOf_map_mk, List.mem_append,
      Or.comm (a := x ∈ symbolsOf _), ← or_assoc, eq_or_mem_flatten_bodies_iff]
    rfl

theorem mem_symbols_lowerSequence_iff (ts : List Term) (h : Nat) :
    x ∈ (lowerSequence tokens h ts).value ∨ x ∈ symbolsOf (lowerSequence tokens h ts).rules ↔
      Stems tokens (sequenceNames ts) (sequenceLiterals ts) (sequenceHelpers tokens h ts) x := by
  match ts with
  | [] => simp [lowerSequence, symbolsOf, sequenceNames, sequenceLiterals, sequenceHelpers]
  | t :: ts =>
    rw [sequenceNames, sequenceLiterals, sequenceHelpers, stems_append,
      ← mem_symbols_lowerTerm_iff t h, ← mem_symbols_lowerSequence_iff ts _, lowerSequence,
      symbolsOf_append, List.mem_cons, List.mem_append, or_or_or_comm]

theorem mem_symbols_lowerBranches_iff (bs : List (List Term)) (h : Nat) :
    x ∈ (lowerBranches tokens h bs).value.flatten ∨
        x ∈ symbolsOf (lowerBranches tokens h bs).rules ↔
      Stems tokens (branchesNames bs) (branchesLiterals bs) (branchesHelpers tokens h bs) x := by
  match bs with
  | [] => simp [lowerBranches, symbolsOf, branchesNames, branchesLiterals, branchesHelpers]
  | b :: bs =>
    rw [branchesNames, branchesLiterals, branchesHelpers, stems_append,
      ← mem_symbols_lowerSequence_iff b h, ← mem_symbols_lowerBranches_iff bs _, lowerBranches,
      symbolsOf_append, List.flatten_cons, List.mem_append, List.mem_append, or_or_or_comm]

end

end

/-- The names that right-hand sides refer to. -/
def referredNames (written : List (String × List (List Term))) : List String :=
  written.flatMap fun p => branchesNames p.2

/-- The literals in right-hand sides. -/
def quotedLiterals (written : List (String × List (List Term))) : List String :=
  written.flatMap fun p => branchesLiterals p.2

section

variable {tokens : List String} {written : List (String × List (List Term))} {h : Nat}

theorem mem_symbols_lowerRules_iff {x : Symbol} :
    x ∈ symbolsOf (lowerRules tokens h written) ↔
      Stems tokens (referredNames written) (quotedLiterals written)
        (rulesHelpers tokens h written) x := by
  induction written generalizing h with
  | nil => simp [lowerRules, symbolsOf, referredNames, quotedLiterals, rulesHelpers]
  | cons w rest ih =>
    rw [referredNames, quotedLiterals, rulesHelpers, List.flatMap_cons, List.flatMap_cons,
      stems_append, ← referredNames, ← quotedLiterals, ← ih, ← mem_symbols_lowerBranches_iff w.2 h,
      lowerRules, symbolsOf_append, symbolsOf_append, symbolsOf_map_mk, List.mem_append,
      List.mem_append, or_comm (a := x ∈ symbolsOf _)]

/-- The terminals of flat rules are the literals, and the tokens that are referred to. -/
theorem terminal_mem_symbols_iff {pattern : String} :
    .terminal pattern ∈ symbolsOf (lowerRules tokens h written) ↔
      pattern ∈ quotedLiterals written ∨
        (pattern ∈ referredNames written ∧ pattern ∈ tokens) := by
  have hresolve (s : String) : Symbol.terminal pattern = resolve tokens s ↔
      s = pattern ∧ pattern ∈ tokens := by
    by_cases hs : s ∈ tokens
    · rw [resolve, if_pos hs, Symbol.terminal.injEq]
      exact ⟨fun heq => ⟨heq.symm, heq ▸ hs⟩, fun heq => heq.1.symm⟩
    · rw [resolve, if_neg hs]
      exact ⟨(fun heq => nomatch heq), fun heq => absurd (heq.1 ▸ heq.2) hs⟩
  rw [mem_symbols_lowerRules_iff, Stems]
  simp only [hresolve, Symbol.terminal.injEq, reduceCtorEq, and_false, exists_false, or_false,
    exists_eq_right']
  rw [or_comm]
  simp

/-- The nonterminals of flat rules are the other names that are referred to, and the helpers. -/
theorem nonterminal_mem_symbols_iff {name : String} :
    .nonterminal name ∈ symbolsOf (lowerRules tokens h written) ↔
      (name ∈ referredNames written ∧ name ∉ tokens) ∨
        name ∈ (rulesHelpers tokens h written).map (·.name) := by
  have hresolve (s : String) : Symbol.nonterminal name = resolve tokens s ↔
      s = name ∧ name ∉ tokens := by
    by_cases hs : s ∈ tokens
    · rw [resolve, if_pos hs]
      exact ⟨(fun heq => nomatch heq), fun heq => absurd (heq.1 ▸ hs) heq.2⟩
    · rw [resolve, if_neg hs, Symbol.nonterminal.injEq]
      exact ⟨fun heq => ⟨heq.symm, heq ▸ hs⟩, fun heq => heq.1.symm⟩
  rw [mem_symbols_lowerRules_iff, Stems]
  simp [hresolve, eq_comm]

end

end Earley.GrammarFile
