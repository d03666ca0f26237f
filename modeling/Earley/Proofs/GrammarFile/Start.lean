/-
Earley.Proofs.GrammarFile.Start — the start symbol, from the statements of a file to its grammar.

A grammar has no start symbol of its own: its first rule tells it. In a file, rules of helpers stand
before the rule that uses them, and the rules of one name may stand apart. So the rules of the start
symbol are moved to the front, and nothing else about the order changes (`MovedFirst`).

- `chooses_of_startOf`: the start symbol is what the statements choose (`Chooses`).
- `exists_mem_rules_of_mem_headsOf`: every name that has a statement has a flat rule.
- `read_start`: the start symbol of a file that is read is chosen, has a rule, and is that of the
  grammar.
-/
import Earley.Proofs.GrammarFile.Lowering

namespace Earley.GrammarFile

/-! ## Choosing -/

/-- The start symbol that statements choose: the name that is chosen last, or else the name of the
first rule. -/
inductive Chooses : List Statement → Option String → Prop where
  | last {before after : List Statement} {name : String} {pos : Nat}
      (hlater : ∀ n p, .start n p ∉ after) :
      Chooses (before ++ .start name pos :: after) (some name)
  | first {before after : List Statement} {name : String} {pos : Nat}
      {branches : List (List Term)}
      (hstarts : ∀ n p, .start n p ∉ before ++ .rule name pos branches :: after)
      (hearlier : ∀ n p bs, .rule n p bs ∉ before) :
      Chooses (before ++ .rule name pos branches :: after) (some name)
  | nothing {statements : List Statement} (hstarts : ∀ n p, .start n p ∉ statements)
      (hrules : ∀ n p bs, .rule n p bs ∉ statements) : Chooses statements none

section

variable {ss : List Statement} {name : String} {pos : Nat}

theorem mem_startsOf_iff : (name, pos) ∈ startsOf ss ↔ .start name pos ∈ ss := by
  rw [startsOf, List.mem_filterMap]
  constructor
  · rintro ⟨s, hs, hchoice⟩
    cases s with
    | start n p =>
      cases hchoice
      exact hs
    | token | ignore | keyword | rule => cases hchoice
  · intro h
    exact ⟨_, h, rfl⟩

theorem mem_headsOf_iff : (name, pos) ∈ headsOf ss ↔ ∃ branches, .rule name pos branches ∈ ss := by
  rw [headsOf, List.mem_filterMap]
  constructor
  · rintro ⟨s, hs, hhead⟩
    cases s with
    | rule n p branches =>
      cases hhead
      exact ⟨branches, hs⟩
    | token | ignore | start | keyword => cases hhead
  · rintro ⟨branches, h⟩
    exact ⟨_, h, rfl⟩

theorem notMem_of_startsOf_eq_nil (h : startsOf ss = []) (n : String) (p : Nat) :
    .start n p ∉ ss := by
  rw [← mem_startsOf_iff, h]
  exact List.not_mem_nil

theorem notMem_of_headsOf_eq_nil (h : headsOf ss = []) (n : String) (p : Nat)
    (bs : List (List Term)) : .rule n p bs ∉ ss := by
  intro hmem
  have hhead : (n, p) ∈ headsOf ss := mem_headsOf_iff.2 ⟨bs, hmem⟩
  rw [h] at hhead
  cases hhead

/-- Behind the last choice there is none. -/
theorem exists_last_start (h : (startsOf ss).getLast? = some (name, pos)) :
    ∃ before after, ss = before ++ .start name pos :: after ∧ ∀ n p, .start n p ∉ after := by
  obtain ⟨choices, hchoices⟩ := List.getLast?_eq_some_iff.1 h
  obtain ⟨front, back, rfl, -, hback⟩ := List.filterMap_eq_append_iff.1 hchoices
  obtain ⟨between, s, after, rfl, -, hs, hafter⟩ := List.filterMap_eq_cons_iff.1 hback
  cases s with
  | start n p =>
    cases hs
    exact ⟨front ++ between, after, by rw [List.append_assoc], notMem_of_startsOf_eq_nil hafter⟩
  | token | ignore | keyword | rule => cases hs

/-- Before the first rule there is none. -/
theorem exists_first_rule (h : (headsOf ss).head? = some (name, pos)) :
    ∃ before branches after, ss = before ++ .rule name pos branches :: after ∧
      ∀ n p bs, .rule n p bs ∉ before := by
  obtain ⟨heads, hheads⟩ := List.head?_eq_some_iff.1 h
  obtain ⟨before, s, after, rfl, hbefore, hs, -⟩ := List.filterMap_eq_cons_iff.1 hheads
  cases s with
  | rule n p branches =>
    cases hs
    refine ⟨before, branches, after, rfl, fun n p bs hmem => ?_⟩
    cases hbefore _ hmem
  | token | ignore | start | keyword => cases hs

/-- The start symbol is what the statements choose. -/
theorem chooses_of_startOf {start : Option String} (h : startOf ss = .ok start) :
    Chooses ss start := by
  rcases startOf_cases h with ⟨hstarts, rfl⟩ | ⟨name, pos, hlast, rfl, -⟩
  · have hnone := notMem_of_startsOf_eq_nil hstarts
    cases hfirst : (headsOf ss).head? with
    | none => exact .nothing hnone (notMem_of_headsOf_eq_nil (List.head?_eq_none_iff.1 hfirst))
    | some head =>
      obtain ⟨before, branches, after, rfl, hearlier⟩ := exists_first_rule hfirst
      exact .first hnone hearlier
  · obtain ⟨before, after, rfl, hlater⟩ := exists_last_start hlast
    exact .last hlater

/-- A start symbol that is chosen is the name of a rule. -/
theorem exists_mem_headsOf_of_startOf (h : startOf ss = .ok (some name)) :
    ∃ pos, (name, pos) ∈ headsOf ss := by
  rcases startOf_cases h with ⟨-, hfirst⟩ | ⟨name', pos', -, heq, hmem⟩
  · obtain ⟨⟨n, p⟩, hhead, rfl⟩ := Option.map_eq_some_iff.1 hfirst.symm
    exact ⟨p, List.mem_of_head? hhead⟩
  · cases heq
    obtain ⟨⟨n, p⟩, hhead, rfl⟩ := List.mem_map.1 hmem
    exact ⟨p, hhead⟩

/-- Nothing is chosen only where there are no rules. -/
theorem headsOf_eq_nil_of_startOf (h : startOf ss = .ok none) : headsOf ss = [] := by
  rcases startOf_cases h with ⟨-, hfirst⟩ | ⟨name', pos', -, heq, -⟩
  · exact List.head?_eq_none_iff.1 (Option.map_eq_none_iff.1 hfirst.symm)
  · cases heq

end

/-! ## Flat rules -/

section

variable {ss : List Statement} {pieces : List Piece} {name : String} {pos : Nat}

/-- Every statement that is a rule has a branch, and so the name has a flat rule. -/
theorem exists_mem_rules_of_mem_headsOf [Regex.Engine] [Literal.Decoder]
    (hspelled : statementsSpelled ss pieces) (hname : (name, pos) ∈ headsOf ss)
    (tokens : List String) : ∃ r ∈ lowerRules tokens 0 (bodiesOf ss), r.name = name := by
  obtain ⟨branches, hrule⟩ := mem_headsOf_iff.1 hname
  obtain ⟨ps, -, n, m, qs, e, -, -, -, -, -, hbranches, -⟩ := exists_spelled_of_mem hspelled hrule
  obtain ⟨b, bs, rfl⟩ := List.exists_cons_of_ne_nil (ne_nil_of_branchesSpelled hbranches)
  have hbody : (name, b :: bs) ∈ bodiesOf ss := List.mem_filterMap.2 ⟨_, hrule, rfl⟩
  obtain ⟨k, hmem, -⟩ : ∃ k, ⟨name, (lowerSequence tokens k b).value⟩ ∈
      lowerRules tokens 0 (bodiesOf ss) ∧ _ :=
    subset_lowerRules_of_mem hbody List.mem_cons_self 0
  exact ⟨_, hmem, rfl⟩

/-- Without rules there are no helpers either. -/
theorem lowerRules_eq_nil_of_headsOf (h : headsOf ss = []) (tokens : List String) :
    lowerRules tokens 0 (bodiesOf ss) = [] := by
  have hbodies : bodiesOf ss = [] := by
    rw [bodiesOf, List.filterMap_eq_nil_iff]
    intro s hs
    cases s with
    | rule n p bs => exact absurd hs (notMem_of_headsOf_eq_nil h n p bs)
    | token | ignore | start | keyword => rfl
  rw [hbodies, lowerRules]

end

/-! ## Grammars -/

/-- The list `ys` has the members of `xs`, those with a property first. The order among these is
kept, and so is the order among the others. -/
structure MovedFirst {α : Type} (P : α → Prop) (xs ys : List α) : Prop where
  perm : ys.Perm xs
  parted : ∃ front back, ys = front ++ back ∧ (∀ x ∈ front, P x) ∧ (∀ x ∈ back, ¬ P x) ∧
    front.Sublist xs ∧ back.Sublist xs

theorem movedFirst_toGrammar (f : GrammarFile) :
    MovedFirst (fun r => f.start = some r.name) f.rules f.toGrammar.rules where
  perm := List.filter_append_perm _ _
  parted := by
    refine ⟨_, _, rfl, fun r hr => ?_, fun r hr => ?_, List.filter_sublist, List.filter_sublist⟩
    · simpa using (List.mem_filter.1 hr).2
    · simpa using (List.mem_filter.1 hr).2

/-- If the start symbol has a rule, it is the start symbol of the grammar. -/
theorem start?_toGrammar {f : GrammarFile} (hnone : f.start = none → f.rules = [])
    (hsome : ∀ name, f.start = some name → ∃ r ∈ f.rules, r.name = name) :
    f.toGrammar.start? = f.start := by
  cases hstart : f.start with
  | none => simp [toGrammar, Grammar.start?, hnone hstart]
  | some name =>
    obtain ⟨r, hr, hname⟩ := hsome name hstart
    obtain ⟨-, front, back, heq, hfront, hback, -⟩ := movedFirst_toGrammar f
    have hmem : r ∈ f.toGrammar.rules := (movedFirst_toGrammar f).perm.mem_iff.2 hr
    rw [heq, List.mem_append] at hmem
    have hne : r ∈ front := hmem.resolve_right fun hr => hback r hr (by rw [hstart, hname])
    obtain ⟨r', front, rfl⟩ := List.exists_cons_of_ne_nil (List.ne_nil_of_mem hne)
    have hfirst := hfront r' List.mem_cons_self
    rw [Grammar.start?, heq, List.cons_append, List.head?_cons, Option.map_some, ← hfirst, hstart]

/-! ## Texts -/

/-- The start symbol of a file that is read is the name that its statements choose. There is none
just if there are no flat rules, and otherwise it has one. It is the start symbol of the grammar,
which has the flat rules in their order, but those of the start symbol before the others. -/
theorem read_start [Regex.Engine] [Literal.Decoder] {src : List Char} {file : GrammarFile}
    (hread : read src = .ok file) :
    ∃ statements, Spells src statements ∧ (∀ other, Spells src other → other = statements) ∧
      Chooses statements file.start ∧
      (file.start = none ↔ file.rules = []) ∧
      (∀ name, file.start = some name → ∃ r ∈ file.rules, r.name = name) ∧
      file.toGrammar.start? = file.start ∧
      MovedFirst (fun r => file.start = some r.name) file.rules file.toGrammar.rules := by
  obtain ⟨statements, hspells, hunique, hfile⟩ := exists_spells_of_read hread
  obtain ⟨pieces, -, hspelled⟩ := id hspells
  have hstart := startOf_of_ofStatements hfile
  have hrules := rules_of_ofStatements hfile
  have hnone (h : file.start = none) : file.rules = [] := by
    rw [hrules]
    exact lowerRules_eq_nil_of_headsOf (headsOf_eq_nil_of_startOf (h ▸ hstart)) _
  have hsome (name : String) (h : file.start = some name) : ∃ r ∈ file.rules, r.name = name := by
    obtain ⟨pos, hhead⟩ := exists_mem_headsOf_of_startOf (h ▸ hstart)
    rw [hrules]
    exact exists_mem_rules_of_mem_headsOf hspelled hhead _
  refine ⟨statements, hspells, hunique, chooses_of_startOf hstart, ⟨hnone, fun hempty => ?_⟩,
    hsome, start?_toGrammar hnone hsome, movedFirst_toGrammar file⟩
  cases hchosen : file.start with
  | none => rfl
  | some name =>
    obtain ⟨r, hr, -⟩ := hsome name hchosen
    rw [hempty] at hr
    cases hr

/-- A file that chooses its start symbol twice. Rules of a helper and of another name stand before
the rules of the one chosen last, and between them. -/
def lateStart : List Char := "%start A;A:\"a\"?;%start S;S:A;A:;S:\"s\";".toList

theorem read_start_lateStart : ∃ file, read lateStart = .ok file ∧
    (∃ statements, Spells lateStart statements ∧ Chooses statements (some "S")) ∧
    file.rules = [⟨"__opt1", []⟩, ⟨"__opt1", [.terminal "a"]⟩, ⟨"A", [.nonterminal "__opt1"]⟩,
      ⟨"S", [.nonterminal "A"]⟩, ⟨"A", []⟩, ⟨"S", [.terminal "s"]⟩] ∧
    file.toGrammar.start? = some "S" ∧
    MovedFirst (fun r => some "S" = some r.name) file.rules file.toGrammar.rules := by
  have hread : read lateStart = .ok
      { tokens := [], ignores := [], literals := ["a", "s"], start := some "S"
        rules := [⟨"__opt1", []⟩, ⟨"__opt1", [.terminal "a"]⟩, ⟨"A", [.nonterminal "__opt1"]⟩,
          ⟨"S", [.nonterminal "A"]⟩, ⟨"A", []⟩, ⟨"S", [.terminal "s"]⟩] } := by
    decide +kernel
  obtain ⟨statements, hspells, -, hchooses, -, -, hstart, hmoved⟩ := read_start hread
  exact ⟨_, hread, ⟨statements, hspells, hchooses⟩, rfl, hstart, hmoved⟩

end Earley.GrammarFile
