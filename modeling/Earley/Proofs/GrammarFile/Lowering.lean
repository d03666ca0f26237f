/-
Earley.Proofs.GrammarFile.Lowering — lowering keeps the meaning of rules.

Flat rules derive sequences of terminals by `Grammar.Derives`, a terminal deriving itself. The two
directions are inductions over the two least relations:

- `derives_of_means`: what a branch means, its right-hand side derives, by induction on the meaning.
  Only the rules of its helpers are needed for this, whatever other rules there are.
- `forall₂_symbolMeans_of_derives`: what symbols derive, they mean, by induction on the derivation.
  A helper means what the term means that it was made for; this is where the rules of a helper must
  all come from one place.
- `derives_lowerRules_iff`: flat rules derive from a name what the rules mean as they are written.
- `read_derives_iff_means`: so do the rules of every text that is read as a grammar file.
-/
import Earley.GrammarFile.Escape
import Earley.Proofs.Derivation
import Earley.Proofs.GrammarFile.Helpers
import Earley.Proofs.GrammarFile.Meaning
import Earley.Proofs.GrammarFile.Reading
import Earley.Regex.Backtracking
import Mathlib.Data.List.Forall2
import Mathlib.Data.List.Induction

namespace Earley.GrammarFile

/-- The flat rules derive a sequence of terminals. -/
def FlatDerives (R : List Rule) (ss : List Symbol) (w : List String) : Prop :=
  Grammar.Derives ⟨R⟩ (fun pattern t => pattern = t) ss w

variable {R : List Rule} {written : List (String × List (List Term))} {tokens : List String}
  {h : Nat} {w : List String}

/-! ## From meanings to derivations -/

theorem subset_rules_of_mem {branches : List (List Term)} {b : List Term} (hb : b ∈ branches)
    (tokens : List String) (h : Nat) :
    ∃ k, (lowerSequence tokens k b).value ∈ (lowerBranches tokens h branches).value ∧
      (lowerSequence tokens k b).rules ⊆ (lowerBranches tokens h branches).rules := by
  induction hb generalizing h with
  | head => exact ⟨h, List.mem_cons_self, List.subset_append_left _ _⟩
  | @tail b' bs _ ih =>
    obtain ⟨k, hvalue, hrules⟩ := ih (lowerSequence tokens h b').helpers
    exact ⟨k, List.mem_cons_of_mem _ hvalue,
      List.Subset.trans hrules (List.subset_append_right _ _)⟩

/-- Each branch as it is written has its rule, and the rules of its helpers. -/
theorem subset_lowerRules_of_mem {name : String} {branches : List (List Term)} {b : List Term}
    (hrule : (name, branches) ∈ written) (hb : b ∈ branches) (h : Nat) :
    ∃ k, ⟨name, (lowerSequence tokens k b).value⟩ ∈ lowerRules tokens h written ∧
      (lowerSequence tokens k b).rules ⊆ lowerRules tokens h written := by
  induction written generalizing h with
  | nil => cases hrule
  | cons p rest ih =>
    rcases List.mem_cons.1 hrule with rfl | hrule
    · obtain ⟨k, hvalue, hrules⟩ := subset_rules_of_mem hb tokens h
      refine ⟨k, ?_, fun r hr => ?_⟩
      · exact List.mem_append_left _ (List.mem_append_right _ (List.mem_map_of_mem hvalue))
      · exact List.mem_append_left _ (List.mem_append_left _ (hrules hr))
    · obtain ⟨k, hvalue, hrules⟩ := ih hrule (lowerBranches tokens h p.2).helpers
      exact ⟨k, List.mem_append_right _ hvalue, fun r hr => List.mem_append_right _ (hrules hr)⟩

/-- The helper of a suffix derives as many repetitions as the suffix allows. -/
theorem flatDerives_flatten {suffix : Suffix} {helper : String} {x : Symbol}
    {us : List (List String)}
    (hrules : ∀ body ∈ suffix.bodies helper x, ⟨helper, body⟩ ∈ R)
    (hcount : suffix.Allows us.length) (hus : ∀ u ∈ us, FlatDerives R [x] u) :
    FlatDerives R [.nonterminal helper] us.flatten := by
  have hderives {body : List Symbol} {w : List String} (hbody : body ∈ suffix.bodies helper x)
      (hw : FlatDerives R body w) : FlatDerives R [.nonterminal helper] w :=
    Grammar.derives_nonterminal_iff.2 ⟨_, hrules body hbody, rfl, hw⟩
  have hmore {us : List (List String)} {u : List String}
      (hbody : [.nonterminal helper, x] ∈ suffix.bodies helper x)
      (hfirst : FlatDerives R [.nonterminal helper] us.flatten) (hlast : FlatDerives R [x] u) :
      FlatDerives R [.nonterminal helper] (us ++ [u]).flatten := by
    rw [List.flatten_append, List.flatten_singleton]
    exact hderives hbody (Grammar.Derives.append hfirst hlast)
  cases suffix with
  | optional =>
    match us, hcount with
    | [], _ => exact hderives (by simp [Suffix.bodies]) .nil
    | [u], _ =>
      rw [List.flatten_singleton]
      exact hderives (by simp [Suffix.bodies]) (hus u List.mem_cons_self)
  | star =>
    induction us using List.reverseRecOn with
    | nil => exact hderives (by simp [Suffix.bodies]) .nil
    | append_singleton us u ih =>
      have hfirst := ih (fun u' hu' => hus u' (List.mem_append_left _ hu')) trivial
      exact hmore (by simp [Suffix.bodies]) hfirst (hus u (by simp))
  | plus =>
    induction us using List.reverseRecOn with
    | nil => exact absurd hcount (by simp [Suffix.Allows])
    | append_singleton us u ih =>
      have hlast := hus u (by simp)
      by_cases hnil : us = []
      · subst hnil
        rw [List.nil_append, List.flatten_singleton]
        exact hderives (by simp [Suffix.bodies]) hlast
      · have hfirst := ih (fun u' hu' => hus u' (List.mem_append_left _ hu'))
          (List.length_pos_iff.2 hnil)
        exact hmore (by simp [Suffix.bodies]) hfirst hlast

/-- What a branch means, its right-hand side derives, if the rules of its helpers are there. -/
theorem derives_of_means {ts : List Term} (hw : Means written tokens ts w)
    (hwritten : lowerRules tokens 0 written ⊆ R)
    (hsub : (lowerSequence tokens h ts).rules ⊆ R) :
    FlatDerives R (lowerSequence tokens h ts).value w := by
  induction hw generalizing h with
  | nil => exact .nil
  | @token name ts v hname _ ih =>
    have hv := ih (List.append_subset.1 hsub).2
    have hvalue : (lowerTerm tokens h (.name name)).value = .terminal name := if_pos hname
    simp only [lowerSequence, hvalue]
    exact .terminal rfl hv
  | @name name branches b ts u v hname hrule hb _ _ ihu ihv =>
    have hv := ihv (List.append_subset.1 hsub).2
    obtain ⟨k, hmem, hrules⟩ := subset_lowerRules_of_mem hrule hb 0
    have hu := ihu (List.Subset.trans hrules hwritten)
    have hvalue : (lowerTerm tokens h (.name name)).value = .nonterminal name := if_neg hname
    simp only [lowerSequence, hvalue]
    exact .rule (hwritten hmem) hu hv
  | literal _ ih => exact .terminal rfl (ih (List.append_subset.1 hsub).2)
  | @group branches b ts u v hb _ _ ihu ihv =>
    obtain ⟨hhead, htail⟩ := List.append_subset.1 hsub
    obtain ⟨hinner, hhelper⟩ := List.append_subset.1 hhead
    obtain ⟨k, hmem, hrules⟩ := subset_rules_of_mem hb tokens h
    have hu := ihu (List.Subset.trans hrules hinner)
    exact .rule (hhelper (List.mem_map_of_mem hmem)) hu (ihv htail)
  | @suffixed suffix t ts us v hcount _ _ ihus ihv =>
    obtain ⟨hhead, htail⟩ := List.append_subset.1 hsub
    obtain ⟨hinner, hhelper⟩ := List.append_subset.1 hhead
    have hrepeat : ∀ u ∈ us, FlatDerives R [(lowerTerm tokens h t).value] u :=
      fun u hu => ihus u hu (h := h) (by simpa [lowerSequence] using hinner)
    have hu := flatDerives_flatten (fun body hbody => hhelper (List.mem_map_of_mem hbody))
      hcount hrepeat
    exact Grammar.Derives.append hu (ihv htail)

/-! ## From derivations to meanings -/

/-- A symbol means a sequence of terminals if every term does that becomes this symbol and owns the
rules of its helpers. -/
def SymbolMeans (R : List Rule) (written : List (String × List (List Term)))
    (tokens : List String) (s : Symbol) (u : List String) : Prop :=
  ∀ (h : Nat) (t : Term), (∀ name ∈ t.names, Unclaimed name) → Owns R h (lowerTerm tokens h t) →
    (lowerTerm tokens h t).value = s → Means written tokens [t] u

/-- A branch means what the symbols of its right-hand side mean. -/
theorem means_of_forall₂ {ts : List Term} {us : List (List String)}
    (hnames : ∀ name ∈ sequenceNames ts, Unclaimed name)
    (howns : Owns R h (lowerSequence tokens h ts))
    (hus : List.Forall₂ (SymbolMeans R written tokens) (lowerSequence tokens h ts).value us) :
    Means written tokens ts us.flatten := by
  induction ts generalizing h us with
  | nil =>
    cases hus
    exact .nil
  | cons t ts ih =>
    obtain ⟨ht, hts⟩ := List.forall_mem_append.1 hnames
    cases hus with
    | cons hu hus =>
      have hfirst := hu h t ht (howns.head (numbered_lowerSequence tokens _ ts)) rfl
      have hrest := ih hts (howns.tail (numbered_lowerTerm tokens h t)) hus
      exact hfirst.cons hrest

theorem symbolMeans_terminal (pattern : String) :
    SymbolMeans R written tokens (.terminal pattern) [pattern] := by
  intro h t _ _ hvalue
  cases t with
  | name s =>
    by_cases hs : s ∈ tokens
    · have heq : resolve tokens s = .terminal s := if_pos hs
      cases heq.symm.trans hvalue
      exact .token hs .nil
    · have heq : resolve tokens s = .nonterminal s := if_neg hs
      cases heq.symm.trans hvalue
  | literal text =>
    cases hvalue
    exact .literal .nil
  | group | suffixed => cases hvalue

/-- What a rule of the helper of a suffix says is right, if its symbols mean what they should. -/
theorem means_suffixed_of_mem_bodies {suffix : Suffix} {helper : String} {x : Symbol} {t : Term}
    {body : List Symbol} {us : List (List String)} {P : Symbol → List String → Prop}
    (hbody : body ∈ suffix.bodies helper x) (hus : List.Forall₂ P body us)
    (hx : ∀ u, P x u → Means written tokens [t] u)
    (hhelper : ∀ u, P (.nonterminal helper) u → Means written tokens [.suffixed suffix t] u) :
    Means written tokens [.suffixed suffix t] us.flatten := by
  have hnone (hcount : suffix.Allows 0) {us : List (List String)} (hus : List.Forall₂ P [] us) :
      Means written tokens [.suffixed suffix t] us.flatten := by
    cases hus
    exact means_suffixed_iff.2 ⟨[], hcount, rfl, by simp⟩
  have hone (hcount : suffix.Allows 1) {us : List (List String)} (hus : List.Forall₂ P [x] us) :
      Means written tokens [.suffixed suffix t] us.flatten := by
    cases hus with
    | cons hu hnil =>
      cases hnil
      exact means_suffixed_iff.2 ⟨[_], hcount, rfl, by simpa using hx _ hu⟩
  have hmore (hsuffix : suffix ≠ .optional) {us : List (List String)}
      (hus : List.Forall₂ P [.nonterminal helper, x] us) :
      Means written tokens [.suffixed suffix t] us.flatten := by
    cases hus with
    | cons hu hv =>
      cases hv with
      | cons hv hnil =>
        cases hnil
        have hsnoc := means_suffixed_snoc hsuffix (hhelper _ hu) (hx _ hv)
        simpa using hsnoc
  cases suffix with
  | optional =>
    rcases List.mem_pair.1 hbody with rfl | rfl
    · exact hnone (Nat.zero_le 1) hus
    · exact hone (Nat.le_refl 1) hus
  | star =>
    rcases List.mem_pair.1 hbody with rfl | rfl
    · exact hnone trivial hus
    · exact hmore (by decide) hus
  | plus =>
    rcases List.mem_pair.1 hbody with rfl | rfl
    · exact hone (Nat.le_refl 1) hus
    · exact hmore (by decide) hus

/-- A rule that is not that of a helper is a branch as it is written. -/
theorem nameMeans_of_mem_lowerRules {r : Rule} {us : List (List String)}
    (hfresh : ∀ name ∈ writtenNames written, Unclaimed name)
    (hr : r ∈ lowerRules tokens 0 written) (hname : Unclaimed r.name)
    (hus : List.Forall₂ (SymbolMeans (lowerRules tokens 0 written) written tokens)
      r.components us) :
    NameMeans written tokens r.name us.flatten := by
  obtain ⟨branches, hrule, b, hb, k, -, hcomponents, howns⟩ :=
    owns_of_mem_lowerRules (fun p hp => hfresh _ (fst_mem_writtenNames hp)) hr hname
  rw [hcomponents] at hus
  have hnames : ∀ name ∈ sequenceNames b, Unclaimed name :=
    fun name hname => hfresh name (mem_writtenNames hrule hb hname)
  exact ⟨branches, hrule, b, hb, means_of_forall₂ hnames howns hus⟩

/-- Each rule of the file is right, if its symbols mean what they should. -/
theorem symbolMeans_of_mem_lowerRules {r : Rule} {us : List (List String)}
    (hfresh : ∀ name ∈ writtenNames written, Unclaimed name)
    (hr : r ∈ lowerRules tokens 0 written)
    (hus : List.Forall₂ (SymbolMeans (lowerRules tokens 0 written) written tokens)
      r.components us) :
    SymbolMeans (lowerRules tokens 0 written) written tokens (.nonterminal r.name) us.flatten := by
  intro h t hnames howns hvalue
  cases t with
  | name s =>
    by_cases hs : s ∈ tokens
    · have heq : resolve tokens s = .terminal s := if_pos hs
      cases heq.symm.trans hvalue
    · have heq : resolve tokens s = .nonterminal s := if_neg hs
      cases heq.symm.trans hvalue
      obtain ⟨branches, hrule, b, hb, hbranch⟩ :=
        nameMeans_of_mem_lowerRules hfresh hr (hnames _ List.mem_cons_self) hus
      have hname := Means.name hs hrule hb hbranch .nil
      rwa [List.append_nil] at hname
  | literal text => cases hvalue
  | group branches =>
    -- the rule has the name of this helper, so it was made for one of these branches
    have hinner := numbered_lowerBranches tokens h branches
    have hname := isHelper_groupName ((lowerBranches tokens h branches).helpers + 1)
    have hmem := howns.mem_new hinner hname hr (Symbol.nonterminal.inj hvalue).symm
    obtain ⟨components, hcomponents, rfl⟩ := List.mem_map.1 hmem
    obtain ⟨b, hb, k, -, hcomponents, howns'⟩ :=
      (howns.inner hname name_of_mem_map).exists_branch hcomponents
    rw [hcomponents] at hus
    have hbranch := means_of_forall₂
      (fun name hname => hnames name (mem_branchesNames hb hname)) howns' hus
    exact means_group_of_mem hb hbranch
  | suffixed suffix t =>
    have hinner := numbered_lowerTerm tokens h t
    have hname := isHelper_helperName suffix ((lowerTerm tokens h t).helpers + 1)
    have hmem := howns.mem_new hinner hname hr (Symbol.nonterminal.inj hvalue).symm
    obtain ⟨body, hbody, rfl⟩ := List.mem_map.1 hmem
    -- the helper may stand in its own rule, where it means the same suffixed term
    exact means_suffixed_of_mem_bodies hbody hus
      (fun u hu => hu h t hnames (howns.inner hname name_of_mem_map) rfl)
      (fun u hu => hu h (.suffixed suffix t) hnames howns rfl)

/-- What symbols derive is cut into what each of them means. -/
theorem forall₂_symbolMeans_of_derives {ss : List Symbol}
    (hfresh : ∀ name ∈ writtenNames written, Unclaimed name)
    (hw : FlatDerives (lowerRules tokens 0 written) ss w) :
    ∃ us, w = us.flatten ∧
      List.Forall₂ (SymbolMeans (lowerRules tokens 0 written) written tokens) ss us := by
  unfold FlatDerives at hw
  induction hw with
  | nil => exact ⟨[], rfl, .nil⟩
  | @terminal pattern t ss w ht _ ih =>
    obtain ⟨us, rfl, hus⟩ := ih
    cases ht
    exact ⟨[pattern] :: us, rfl, .cons (symbolMeans_terminal pattern) hus⟩
  | @rule r ss u v hr _ _ ihu ihv =>
    obtain ⟨us, rfl, hus⟩ := ihu
    obtain ⟨vs, rfl, hvs⟩ := ihv
    exact ⟨us.flatten :: vs, rfl, .cons (symbolMeans_of_mem_lowerRules hfresh hr hus) hvs⟩

/-! ## Both directions -/

/-- The flat rules derive from a name what its rules mean as they are written, if no name that is
written is that of a helper. -/
theorem derives_lowerRules_iff {name : String}
    (hfresh : ∀ name ∈ writtenNames written, Unclaimed name) (hname : Unclaimed name) :
    FlatDerives (lowerRules tokens 0 written) [.nonterminal name] w ↔
      NameMeans written tokens name w := by
  constructor
  · intro hw
    obtain ⟨r, hr, rfl, hcomponents⟩ := Grammar.derives_nonterminal_iff.1 hw
    obtain ⟨us, rfl, hus⟩ := forall₂_symbolMeans_of_derives hfresh hcomponents
    exact nameMeans_of_mem_lowerRules hfresh hr hname hus
  · rintro ⟨branches, hrule, b, hb, hw⟩
    obtain ⟨k, hmem, hrules⟩ := subset_lowerRules_of_mem hrule hb 0
    exact Grammar.derives_nonterminal_iff.2
      ⟨_, hmem, rfl, derives_of_means hw (List.Subset.refl _) hrules⟩

/-! ## Files that are read -/

theorem rules_of_ofStatements {statements : List Statement} {file : GrammarFile}
    (h : ofStatements statements = .ok file) :
    file.rules = lowerRules ((tokensOf statements).map (·.name)) 0 (bodiesOf statements) := by
  obtain ⟨start, -, rfl⟩ := exists_startOf_of_ofStatements h
  rfl

/-- A text that is read spells exactly one sequence of statements. If these write no name that is
the name of a helper, the flat rules derive from each name that has rules just what the rules mean
as they are written. -/
theorem read_derives_iff_means [Regex.Engine] [Literal.Decoder] {src : List Char}
    {file : GrammarFile} (hread : GrammarFile.read src = .ok file) :
    (∃ statements, Spells src statements ∧ ∀ other, Spells src other → other = statements) ∧
      ∀ statements, Spells src statements →
        (∀ name ∈ writtenNames (bodiesOf statements), Unclaimed name) →
        ∀ name ∈ (bodiesOf statements).map (·.1), ∀ w : List String,
          FlatDerives file.rules [.nonterminal name] w ↔
            NameMeans (bodiesOf statements) ((tokensOf statements).map (·.name)) name w := by
  obtain ⟨statements, hspells, hunique, hfile⟩ := exists_spells_of_read hread
  refine ⟨⟨statements, hspells, hunique⟩, fun other hother hfresh name hname w => ?_⟩
  rw [hunique other hother] at hfresh hname ⊢
  rw [rules_of_ofStatements hfile]
  obtain ⟨p, hp, rfl⟩ := List.mem_map.1 hname
  exact derives_lowerRules_iff hfresh (hfresh _ (fst_mem_writtenNames hp))

/-- A file with a repeated group, one branch of it empty, and a token that is declared behind its
use. -/
def repeatedGroup : List Char := "S:(N|)*;%token N/n/;".toList

theorem scan_repeatedGroup : scan repeatedGroup = .ok
    [⟨.name, ['S'], 0⟩, ⟨.punctuation, [':'], 1⟩, ⟨.punctuation, ['('], 2⟩, ⟨.name, ['N'], 3⟩,
      ⟨.punctuation, ['|'], 4⟩, ⟨.punctuation, [')'], 5⟩, ⟨.punctuation, ['*'], 6⟩,
      ⟨.punctuation, [';'], 7⟩, ⟨.directive, ['%', 't', 'o', 'k', 'e', 'n'], 8⟩, ⟨.name, ['N'], 15⟩,
      ⟨.regex, ['/', 'n', '/'], 16⟩, ⟨.punctuation, [';'], 19⟩] := by
  decide +kernel

theorem spells_repeatedGroup : Spells repeatedGroup
    [.rule "S" 0 [[.suffixed .star (.group [[.name "N"], []])]],
      .token "N" ⟨"n", {}⟩] := by
  refine ⟨_, scan_repeatedGroup, ?_⟩
  have hbranches : branchesSpelled [[.name "N"], []]
      [⟨.name, ['N'], 3⟩, ⟨.punctuation, ['|'], 4⟩] :=
    .inr ⟨[_], _, [], rfl, ⟨[_], [], rfl, ⟨_, rfl, rfl, rfl⟩, rfl⟩, rfl, .inl ⟨rfl, rfl⟩⟩
  have hgroup : (Term.group [[.name "N"], []]).Spelled
      [⟨.punctuation, ['('], 2⟩, ⟨.name, ['N'], 3⟩, ⟨.punctuation, ['|'], 4⟩,
        ⟨.punctuation, [')'], 5⟩] :=
    ⟨_, [_, _], _, rfl, rfl, hbranches, rfl⟩
  have hbody : branchesSpelled [[.suffixed .star (.group [[.name "N"], []])]]
      [⟨.punctuation, ['('], 2⟩, ⟨.name, ['N'], 3⟩, ⟨.punctuation, ['|'], 4⟩,
        ⟨.punctuation, [')'], 5⟩, ⟨.punctuation, ['*'], 6⟩] :=
    .inl ⟨rfl, [_, _, _, _, _], [], rfl, ⟨rfl, [_, _, _, _], _, rfl, hgroup, rfl⟩, rfl⟩
  refine ⟨[_, _, _, _, _, _, _, _], [_, _, _, _], rfl, ?_, ?_⟩
  · exact ⟨_, _, [_, _, _, _, _], _, rfl, rfl, rfl, rfl, rfl, hbody, rfl⟩
  · refine ⟨[_, _, _, _], [], rfl, ?_, rfl⟩
    exact ⟨_, _, _, _, rfl, rfl, rfl, rfl, rfl, rfl, by decide +kernel, rfl⟩

theorem read_derives_iff_means_repeatedGroup :
    FlatDerives [⟨"__grp1", [.terminal "N"]⟩, ⟨"__grp1", []⟩, ⟨"__rep2", []⟩,
        ⟨"__rep2", [.nonterminal "__rep2", .nonterminal "__grp1"]⟩, ⟨"S", [.nonterminal "__rep2"]⟩]
      [.nonterminal "S"] ["N", "N"] := by
  have hread : GrammarFile.read repeatedGroup = .ok
      { tokens := [⟨"N", ⟨"n", {}⟩⟩], ignores := []
        literals := [], start := some "S"
        rules := [⟨"__grp1", [.terminal "N"]⟩, ⟨"__grp1", []⟩, ⟨"__rep2", []⟩,
          ⟨"__rep2", [.nonterminal "__rep2", .nonterminal "__grp1"]⟩,
          ⟨"S", [.nonterminal "__rep2"]⟩] } := by
    decide +kernel
  obtain ⟨-, hmeans⟩ := read_derives_iff_means hread
  refine (hmeans _ spells_repeatedGroup ?_ "S" (by decide) ["N", "N"]).2 ?_
  · intro name hname
    refine unclaimed_of_take_ne ?_
    revert name
    decide
  · refine ⟨_, List.mem_cons_self, _, List.mem_cons_self, ?_⟩
    refine means_suffixed_iff.2 ⟨[["N"], ["N"]], trivial, rfl, ?_⟩
    intro u hu
    have hone : u = ["N"] := by simpa using hu
    rw [hone]
    exact means_group_of_mem List.mem_cons_self (.token (by decide) .nil)

end Earley.GrammarFile
