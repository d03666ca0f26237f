/-
Earley.Proofs.GrammarFile.Order — the order of statements.

The tokens of a file are listed in the order of their declarations, and so are the patterns to
ignore; helpers are counted along the rules, and the last choice of the start symbol counts. Between
these groups the order is free (`Reordered`): names are resolved when all statements are known, and
every check looks at one statement, at one group, or at the names of two groups.

- `filterMap_eq_of_reordered`: what is collected from one group does not depend on the order.
- `exists_alike_of_ofStatements`: statements that declare the same make the same file, up to the
  order of its literals.
- `read_reordered`: files with the same statements in another order are both refused, or read alike.
-/
import Earley.GrammarFile.Escape
import Earley.Proofs.GrammarFile.Wording
import Earley.Regex.Backtracking
import Mathlib.Data.List.Perm.Basic

namespace Earley.GrammarFile

/-! ## Groups of statements -/

/-- The groups of statements that the order matters in. -/
inductive Group where
  | token
  | ignore
  | start
  | rule
  deriving DecidableEq, Repr

/-- The group of a statement; keywords have none. -/
def Statement.group? : Statement → Option Group
  | .token _ _ => some .token
  | .ignore _ => some .ignore
  | .start _ _ => some .start
  | .keyword _ => none
  | .rule _ _ _ => some .rule

/-- The group that the first word of a statement tells. -/
def group? : List Word → Option Group
  | (.directive, chars) :: _ =>
    if chars = "%token".toList then some .token
    else if chars = "%ignore".toList then some .ignore
    else if chars = "%start".toList then some .start
    else none
  | (.name, _) :: _ => some .rule
  | _ => none

/-- The file consists of statements with these words. They need not make sense. -/
structure ConsistsOf (src : List Char) (ws : List (List Word)) : Prop where
  words : ∃ pieces, scan src = .ok pieces ∧ pieces.map Piece.word = ws.flatten
  terminated : ∀ w ∈ ws, Terminated w

/-- The same statements in another order, which is the same order within every group. -/
structure Reordered (ws ws' : List (List Word)) : Prop where
  perm : ws.Perm ws'
  group : ∀ g : Group, ws.filter (group? · = some g) = ws'.filter (group? · = some g)

theorem Reordered.symm {ws ws' : List (List Word)} (h : Reordered ws ws') : Reordered ws' ws :=
  ⟨h.perm.symm, fun g => (h.group g).symm⟩

/-- The files declare the same, the order of literals apart. -/
structure Alike (f f' : GrammarFile) : Prop where
  tokens : f'.tokens = f.tokens
  ignores : f'.ignores = f.ignores
  rules : f'.rules = f.rules
  start : f'.start = f.start
  literals : ∀ l, l ∈ f'.literals ↔ l ∈ f.literals

theorem group?_eq_of_worded [Regex.Engine] [Literal.Decoder] {s : Statement} {w : List Word}
    (h : s.Worded w) : group? w = s.group? := by
  obtain ⟨s', ps, hs, rfl, rfl⟩ := h
  have hchars {p : Piece} {text : String} (htext : p.text = text) : p.chars = text.toList := by
    rw [← htext, Piece.text, String.toList_ofList]
  cases s' with
  | token =>
    obtain ⟨d, n, r, e, rfl, hd, htext, -⟩ := hs
    simp [group?, Piece.word, hd, hchars htext, Statement.unplaced, Statement.group?]
  | ignore =>
    obtain ⟨d, r, e, rfl, hd, htext, -⟩ := hs
    simp [group?, Piece.word, hd, hchars htext, Statement.unplaced, Statement.group?]
  | start =>
    obtain ⟨d, n, e, rfl, hd, htext, -⟩ := hs
    simp [group?, Piece.word, hd, hchars htext, Statement.unplaced, Statement.group?]
  | keyword =>
    obtain ⟨l, m, r, e, rfl, hl, -⟩ := hs
    simp [group?, Piece.word, hl, Statement.unplaced, Statement.group?]
  | rule =>
    obtain ⟨n, m, qs, e, rfl, hn, -⟩ := hs
    simp [group?, Piece.word, hn, Statement.unplaced, Statement.group?]

/-! ## Collecting statements in another order -/

section

variable {ss ss' : List Statement} {ws ws' : List (List Word)}

theorem filterMap_filter_group {α : Type} {f : Statement → Option α} {g : Group}
    (hgroup : ∀ s, (f s).isSome → s.group? = some g) (ss : List Statement) :
    (ss.filter (·.group? = some g)).filterMap f = ss.filterMap f := by
  rw [List.filterMap_filter]
  congr 1
  funext s
  by_cases hs : s.group? = some g
  · simp [hs]
  · have hnone : f s = none := by simpa using mt (hgroup s) hs
    simp [hs, hnone]

/-- What is collected from the statements of one group, their places apart. -/
theorem filterMap_eq_of_reordered [Regex.Engine] [Literal.Decoder] {α : Type}
    {f : Statement → Option α} {g : Group}
    (hplace : ∀ s, f s.unplaced = f s) (hgroup : ∀ s, (f s).isSome → s.group? = some g)
    (h : Reordered ws ws') (hss : List.Forall₂ Statement.Worded (ss.map Statement.unplaced) ws)
    (hss' : List.Forall₂ Statement.Worded (ss'.map Statement.unplaced) ws') :
    ss'.filterMap f = ss.filterMap f := by
  have hsame : (ss'.map Statement.unplaced).filter (·.group? = some g) =
      (ss.map Statement.unplaced).filter (·.group? = some g) := by
    have hfilter ⦃s : Statement⦄ ⦃w : List Word⦄ (hs : s.Worded w) :
        decide (s.group? = some g) = true ↔ decide (group? w = some g) = true := by
      rw [group?_eq_of_worded hs]
    have hw := List.rel_filter hfilter hss
    have hw' := List.rel_filter hfilter hss'
    rw [h.group g] at hw
    exact List.left_unique_forall₂' worded_leftUnique hw' hw
  calc ss'.filterMap f
      = ((ss'.map Statement.unplaced).filter (·.group? = some g)).filterMap f := by
        rw [filterMap_filter_group hgroup, filterMap_unplaced hplace]
    _ = ((ss.map Statement.unplaced).filter (·.group? = some g)).filterMap f := by rw [hsame]
    _ = ss.filterMap f := by
        rw [filterMap_filter_group hgroup, filterMap_unplaced hplace]

/-- The literals of statements, as a set. -/
theorem mem_literals_iff_of_perm
    (h : (ss.map Statement.unplaced).Perm (ss'.map Statement.unplaced)) (l : String) :
    l ∈ ss'.flatMap literalsOf ↔ l ∈ ss.flatMap literalsOf := by
  rw [← flatMap_literalsOf_unplaced ss, ← flatMap_literalsOf_unplaced ss']
  exact (h.flatMap_right literalsOf).symm.mem_iff

/-! ## Making files -/

theorem map_fst_bodiesOf (ss : List Statement) :
    (bodiesOf ss).map (·.1) = (headsOf ss).map (·.1) := by
  rw [bodiesOf, headsOf, List.map_filterMap, List.map_filterMap]
  congr 1
  funext s
  cases s <;> rfl

/-- The start symbol depends on names only. -/
theorem eq_of_startOf {start : Option String} (h : startOf ss = .ok start) :
    start = ((startsOf ss).map (·.1)).getLast?.or ((headsOf ss).map (·.1)).head? := by
  rw [List.getLast?_map, List.head?_map]
  rcases startOf_cases h with ⟨hnone, rfl⟩ | ⟨name, pos, hlast, rfl, -⟩
  · rw [hnone]
    rfl
  · rw [hlast]
    rfl

/-- Statements that declare the same make the same file, up to the order of its literals. -/
theorem exists_alike_of_ofStatements {f : GrammarFile} (hf : ofStatements ss = .ok f)
    (htokens : tokensOf ss' = tokensOf ss) (hignores : ignoresOf ss' = ignoresOf ss)
    (hbodies : bodiesOf ss' = bodiesOf ss)
    (hstarts : (startsOf ss').map (·.1) = (startsOf ss).map (·.1))
    (hliterals : ∀ l, l ∈ ss'.flatMap literalsOf ↔ l ∈ ss.flatMap literalsOf) :
    ∃ f', ofStatements ss' = .ok f' ∧ Alike f f' := by
  have hdeclared : ss'.filterMap Statement.declared? = ss.filterMap Statement.declared? := by
    rw [← map_name_tokensOf, ← map_name_tokensOf, htokens]
  have hheads : (headsOf ss').map (·.1) = (headsOf ss).map (·.1) := by
    rw [← map_fst_bodiesOf, ← map_fst_bodiesOf, hbodies]
  have hmakes := exists_ofStatements_iff.1 ⟨f, hf⟩
  rw [← hdeclared, ← hheads, ← hstarts] at hmakes
  obtain ⟨f', hf'⟩ := exists_ofStatements_iff.2 hmakes
  obtain ⟨start, hstart, rfl⟩ := exists_startOf_of_ofStatements hf
  obtain ⟨start', hstart', rfl⟩ := exists_startOf_of_ofStatements hf'
  refine ⟨_, hf', ?_⟩
  exact
    { tokens := htokens
      ignores := hignores
      rules := by simp only [htokens, hbodies]
      start := by simp only [eq_of_startOf hstart, eq_of_startOf hstart', hstarts, hheads]
      literals := fun l => by simpa only [List.mem_eraseDups] using hliterals l }

/-! ## Whole files -/

/-- What is read from a file is read from the same statements in another order. -/
theorem exists_alike_of_reordered [Regex.Engine] [Literal.Decoder] {src src' : List Char}
    {f : GrammarFile} (hsrc : ConsistsOf src ws) (hsrc' : ConsistsOf src' ws')
    (h : Reordered ws ws') (hf : GrammarFile.read src = .ok f) :
    ∃ f', GrammarFile.read src' = .ok f' ∧ Alike f f' := by
  obtain ⟨pieces, ss, hscan, hall, hfile⟩ := exists_readAll_of_read hf
  have hss : List.Forall₂ Statement.Worded (ss.map Statement.unplaced) ws := by
    obtain ⟨pieces', hscan', hwords⟩ := hsrc.words
    cases hscan.symm.trans hscan'
    obtain ⟨us, hus, hterminated, hflat⟩ :=
      exists_worded_of_statementsSpelled (spelled_of_readAll hall)
    rwa [eq_of_flatten_eq hsrc.terminated hterminated (hwords.symm.trans hflat)]
  -- the other file spells the same statements in another order, at other places
  obtain ⟨pieces', hscan', hwords⟩ := hsrc'.words
  obtain ⟨ts, hperm, hts⟩ : Relation.Comp List.Perm (List.Forall₂ Statement.Worded)
      (ss.map Statement.unplaced) ws' := by
    rw [← List.forall₂_comp_perm_eq_perm_comp_forall₂]
    exact ⟨ws, hss, h.perm⟩
  obtain ⟨ss', hspelled, rfl⟩ := exists_statementsSpelled_of_worded hts hwords
  have htokens : tokensOf ss' = tokensOf ss :=
    filterMap_eq_of_reordered (g := .token) (by rintro (_ | _) <;> rfl)
      (by rintro (_ | _) <;> simp [Statement.group?]) h hss hts
  have hignores : ignoresOf ss' = ignoresOf ss :=
    filterMap_eq_of_reordered (g := .ignore) (by rintro (_ | _) <;> rfl)
      (by rintro (_ | _) <;> simp [Statement.group?]) h hss hts
  have hbodies : bodiesOf ss' = bodiesOf ss :=
    filterMap_eq_of_reordered (g := .rule) (by rintro (_ | _) <;> rfl)
      (by rintro (_ | _) <;> simp [Statement.group?]) h hss hts
  have hstarts : (startsOf ss').map (·.1) = (startsOf ss).map (·.1) := by
    rw [startsOf, startsOf, List.map_filterMap, List.map_filterMap]
    exact filterMap_eq_of_reordered (g := .start) (by rintro (_ | _) <;> rfl)
      (by rintro (_ | _) <;> simp [Statement.group?]) h hss hts
  obtain ⟨f', hf', halike⟩ := exists_alike_of_ofStatements hfile htokens hignores hbodies hstarts
    (mem_literals_iff_of_perm hperm)
  refine ⟨f', ?_, halike⟩
  have hdistinct : ([] ++ ss'.filterMap Statement.declared?).Nodup := by
    rw [← map_name_tokensOf, htokens, map_name_tokensOf]
    exact nodup_of_readAll hall List.nodup_nil
  have hall' := readAll_of_statementsSpelled hspelled hdistinct 0 src'.length
  simp only [GrammarFile.read, hscan', hall', hf']

end

/-- Files with the same statements in another order are both refused, or read alike. -/
theorem read_reordered [Regex.Engine] [Literal.Decoder] {src src' : List Char}
    {ws ws' : List (List Word)} (hsrc : ConsistsOf src ws) (hsrc' : ConsistsOf src' ws')
    (h : Reordered ws ws') :
    ((∃ e, GrammarFile.read src = .error e) ∧ ∃ e, GrammarFile.read src' = .error e) ∨
      ∃ f f', GrammarFile.read src = .ok f ∧ GrammarFile.read src' = .ok f' ∧
        f'.tokens = f.tokens ∧ f'.ignores = f.ignores ∧ f'.rules = f.rules ∧
        f'.start = f.start ∧ ∀ l, l ∈ f'.literals ↔ l ∈ f.literals := by
  cases hread : GrammarFile.read src with
  | ok f =>
    obtain ⟨f', hread', halike⟩ := exists_alike_of_reordered hsrc hsrc' h hread
    exact .inr ⟨f, f', rfl, hread', halike.tokens, halike.ignores, halike.rules, halike.start,
      halike.literals⟩
  | error e =>
    cases hread' : GrammarFile.read src' with
    | ok f' =>
      obtain ⟨f, hok, -⟩ := exists_alike_of_reordered hsrc' hsrc h.symm hread'
      cases hread.symm.trans hok
    | error e' => exact .inl ⟨⟨e, rfl⟩, e', rfl⟩

/-- A token may be declared behind the rule that refers to it. -/
theorem read_reordered_tokenLast :
    ∃ ws ws', ws ≠ ws' ∧ ConsistsOf "S:A;%token A/a/;".toList ws ∧
      ConsistsOf "%token A/a/;S:A;".toList ws' ∧ Reordered ws ws' ∧
      ∃ f f', GrammarFile.read "S:A;%token A/a/;".toList = .ok f ∧
        GrammarFile.read "%token A/a/;S:A;".toList = .ok f' ∧
        f'.tokens = f.tokens ∧ f'.ignores = f.ignores ∧ f'.rules = f.rules ∧
        f'.start = f.start ∧ ∀ l, l ∈ f'.literals ↔ l ∈ f.literals := by
  let rule : List Word :=
    [(.name, ['S']), (.punctuation, [':']), (.name, ['A']), (.punctuation, [';'])]
  let token : List Word :=
    [(.directive, "%token".toList), (.name, ['A']), (.regex, "/a/".toList), (.punctuation, [';'])]
  have hrule : Terminated rule := ⟨rule.dropLast, by decide, by decide⟩
  have htoken : Terminated token := ⟨token.dropLast, by decide, by decide⟩
  have hsrc : ConsistsOf "S:A;%token A/a/;".toList [rule, token] :=
    { words := ⟨[⟨.name, ['S'], 0⟩, ⟨.punctuation, [':'], 1⟩, ⟨.name, ['A'], 2⟩,
        ⟨.punctuation, [';'], 3⟩, ⟨.directive, "%token".toList, 4⟩, ⟨.name, ['A'], 11⟩,
        ⟨.regex, "/a/".toList, 12⟩, ⟨.punctuation, [';'], 15⟩], by decide +kernel, by decide⟩
      terminated := by simp [hrule, htoken] }
  have hsrc' : ConsistsOf "%token A/a/;S:A;".toList [token, rule] :=
    { words := ⟨[⟨.directive, "%token".toList, 0⟩, ⟨.name, ['A'], 7⟩, ⟨.regex, "/a/".toList, 8⟩,
        ⟨.punctuation, [';'], 11⟩, ⟨.name, ['S'], 12⟩, ⟨.punctuation, [':'], 13⟩,
        ⟨.name, ['A'], 14⟩, ⟨.punctuation, [';'], 15⟩], by decide +kernel, by decide⟩
      terminated := by simp [hrule, htoken] }
  have hreordered : Reordered [rule, token] [token, rule] :=
    { perm := .swap _ _ _
      group := fun g => by cases g <;> decide }
  have hok : (GrammarFile.read "S:A;%token A/a/;".toList).isOk = true := by decide +kernel
  refine ⟨[rule, token], [token, rule], by decide, hsrc, hsrc', hreordered, ?_⟩
  rcases read_reordered hsrc hsrc' hreordered with ⟨⟨e, he⟩, -⟩ | halike
  · rw [he] at hok
    cases hok
  · exact halike

end Earley.GrammarFile
