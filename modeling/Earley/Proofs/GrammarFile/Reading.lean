/-
Earley.Proofs.GrammarFile.Reading — which statements a file spells.

`Statement.Spelled` says which pieces make up a statement, and `statementsSpelled` that a file is
nothing but statements. Reading finds the only statements that a file spells.

- `exists_read_of_spelled` and `exists_spelled_of_read`: one statement, in both directions.
- `exists_spells_of_read`: a text that is read spells exactly one sequence of statements, and it is
  read as these.
-/
import Earley.GrammarFile.Basic
import Earley.Proofs.GrammarFile.Body

namespace Earley.GrammarFile

open Cursor (isMark)

/-! ## Cursors -/

namespace Statement

variable {c c' : Cursor} {p : Piece}

theorem expect_of_kind {what : Expectation} {kind : PieceKind} {rest : List Piece}
    {last size : Nat} (h : p.kind = kind) :
    Cursor.expect ⟨p :: rest, last, size⟩ what kind = .ok (p, ⟨rest, p.stop, size⟩) := by
  simp [Cursor.expect, h, Cursor.past]

theorem expectMark_of_isMark {what : Expectation} {mark : Char} {rest : List Piece}
    {last size : Nat} (h : isMark mark p = true) :
    Cursor.expectMark ⟨p :: rest, last, size⟩ what mark = .ok ⟨rest, p.stop, size⟩ := by
  simp [Cursor.expectMark, h, Cursor.past]

theorem semicolon_of_isMark {after : StatementKind} {rest : List Piece} {last size : Nat}
    (h : isMark ';' p = true) :
    Cursor.semicolon ⟨p :: rest, last, size⟩ after = .ok ⟨rest, p.stop, size⟩ := by
  simp [Cursor.semicolon, h, Cursor.past]

theorem eq_of_expect {what : Expectation} {kind : PieceKind}
    (h : c.expect what kind = .ok (p, c')) : c.rest = p :: c'.rest ∧ p.kind = kind := by
  unfold Cursor.expect at h
  split at h
  next hrest =>
    split at h
    next hkind =>
      cases h
      exact ⟨hrest, hkind⟩
    · cases h
  · cases h

theorem eq_of_expectMark {what : Expectation} {mark : Char}
    (h : c.expectMark what mark = .ok c') : ∃ p, c.rest = p :: c'.rest ∧ isMark mark p = true := by
  unfold Cursor.expectMark at h
  split at h
  next hrest =>
    split at h
    next hmark =>
      cases h
      exact ⟨_, hrest, hmark⟩
    · cases h
  · cases h

theorem eq_of_semicolon {after : StatementKind} (h : c.semicolon after = .ok c') :
    ∃ p, c.rest = p :: c'.rest ∧ isMark ';' p = true := by
  unfold Cursor.semicolon at h
  split at h
  next hrest =>
    split at h
    next hmark =>
      cases h
      exact ⟨_, hrest, hmark⟩
    · cases h
  · cases h

section

variable [Regex.Engine]

theorem readRegex_of_compilePiece {what : Expectation} {rest : List Piece} {last size : Nat}
    {regex : Regex} (hkind : p.kind = .regex) (h : compilePiece p = .ok regex) :
    readRegex ⟨p :: rest, last, size⟩ what = .ok (regex, ⟨rest, p.stop, size⟩) := by
  simp [readRegex, expect_of_kind hkind, h, Except.map]

theorem eq_of_readRegex {what : Expectation} {regex : Regex}
    (h : readRegex c what = .ok (regex, c')) :
    ∃ p, c.rest = p :: c'.rest ∧ p.kind = .regex ∧ compilePiece p = .ok regex := by
  unfold readRegex at h
  split at h
  · cases h
  next p c₁ hexpect =>
    obtain ⟨hrest, hkind⟩ := eq_of_expect hexpect
    obtain ⟨r, hregex, heq⟩ := exists_of_map_eq_ok h
    cases heq
    exact ⟨p, hrest, hkind, hregex⟩

end

end Statement

/-! ## Spelling -/

section

variable [Regex.Engine] [Literal.Decoder]

/-- The pieces spell a statement. -/
def Statement.Spelled : Statement → List Piece → Prop
  | .token name regex, ps => ∃ d n r e, ps = [d, n, r, e] ∧ d.kind = .directive ∧
      d.text = "%token" ∧ n.kind = .name ∧ n.text = name ∧ r.kind = .regex ∧
      Statement.compilePiece r = .ok regex ∧ isMark ';' e = true
  | .ignore regex, ps => ∃ d r e, ps = [d, r, e] ∧ d.kind = .directive ∧ d.text = "%ignore" ∧
      r.kind = .regex ∧ Statement.compilePiece r = .ok regex ∧ isMark ';' e = true
  | .start name pos, ps => ∃ d n e, ps = [d, n, e] ∧ d.kind = .directive ∧ d.text = "%start" ∧
      n.kind = .name ∧ n.text = name ∧ n.start = pos ∧ isMark ';' e = true
  | .keyword text, ps => ∃ l m r e, ps = [l, m, r, e] ∧ l.kind = .string ∧
      l.literal = .ok text ∧ isMark ':' m = true ∧ r.kind = .string ∧ r.literal = .ok text ∧
      isMark ';' e = true
  | .rule name pos branches, ps => ∃ n m qs e, ps = n :: m :: qs ++ [e] ∧ n.kind = .name ∧
      n.text = name ∧ n.start = pos ∧ isMark ':' m = true ∧ branchesSpelled branches qs ∧
      isMark ';' e = true

/-- The pieces spell statements, one after the other. -/
def statementsSpelled : List Statement → List Piece → Prop
  | [], ps => ps = []
  | s :: ss, ps => ∃ qs rs, ps = qs ++ rs ∧ s.Spelled qs ∧ statementsSpelled ss rs

/-- The text spells the statements. -/
def Spells (src : List Char) (statements : List Statement) : Prop :=
  ∃ pieces, scan src = .ok pieces ∧ statementsSpelled statements pieces

namespace Statement

variable {declared : List String} {c c' : Cursor} {p : Piece} {s : Statement}

theorem exists_cons_of_spelled {ps : List Piece} (h : s.Spelled ps) : ∃ p qs, ps = p :: qs := by
  cases s with
  | token =>
    obtain ⟨d, n, r, e, rfl, -⟩ := h
    exact ⟨d, _, rfl⟩
  | ignore =>
    obtain ⟨d, r, e, rfl, -⟩ := h
    exact ⟨d, _, rfl⟩
  | start =>
    obtain ⟨d, n, e, rfl, -⟩ := h
    exact ⟨d, _, rfl⟩
  | keyword =>
    obtain ⟨l, m, r, e, rfl, -⟩ := h
    exact ⟨l, _, rfl⟩
  | rule =>
    obtain ⟨n, m, qs, e, rfl, -⟩ := h
    exact ⟨n, _, rfl⟩

/-! ## Reading what is spelled -/

/-- A statement declares a token that is declared already. -/
def Redeclares (declared : List String) (s : Statement) : Prop :=
  ∃ name ∈ declared, s.declared? = some name

/-- Pieces that spell a statement are read as this statement, unless it declares a token again. -/
theorem exists_read_of_spelled {ps : List Piece} (h : s.Spelled (p :: ps))
    (hnew : ¬ Redeclares declared s) (rest : List Piece) (last size : Nat) :
    ∃ last', read declared p ⟨ps ++ rest, last, size⟩ = .ok (s, ⟨rest, last', size⟩) := by
  cases s with
  | token name regex =>
    obtain ⟨d, n, r, e, hps, hd, htext, hn, rfl, hr, hregex, he⟩ := h
    cases hps
    have hnew' : n.text ∉ declared := fun hmem => hnew ⟨_, hmem, rfl⟩
    refine ⟨e.stop, ?_⟩
    simp only [read, hd, readDirective, htext, List.cons_append, List.nil_append]
    simp [readToken, expect_of_kind hn, hnew', readRegex_of_compilePiece hr hregex,
      semicolon_of_isMark he, bind, Except.bind, pure, Except.pure]
  | ignore regex =>
    obtain ⟨d, r, e, hps, hd, htext, hr, hregex, he⟩ := h
    cases hps
    refine ⟨e.stop, ?_⟩
    simp only [read, hd, readDirective, htext, List.cons_append, List.nil_append]
    simp [readIgnore, readRegex_of_compilePiece hr hregex, semicolon_of_isMark he, bind,
      Except.bind, pure, Except.pure]
  | start name pos =>
    obtain ⟨d, n, e, hps, hd, htext, hn, rfl, rfl, he⟩ := h
    cases hps
    refine ⟨e.stop, ?_⟩
    simp only [read, hd, readDirective, htext, List.cons_append, List.nil_append]
    simp [readStart, expect_of_kind hn, semicolon_of_isMark he, bind, Except.bind, pure,
      Except.pure]
  | keyword text =>
    obtain ⟨l, m, r, e, hps, hl, hleft, hm, hr, hright, he⟩ := h
    cases hps
    refine ⟨e.stop, ?_⟩
    simp only [read, hl, List.cons_append, List.nil_append]
    simp [readKeyword, expectMark_of_isMark hm, expect_of_kind hr, hleft, hright,
      semicolon_of_isMark he, bind, Except.bind, pure, Except.pure]
  | rule name pos branches =>
    obtain ⟨n, m, qs, e, hps, hn, rfl, rfl, hm, hbranches, he⟩ := h
    cases hps
    obtain ⟨last', hbody⟩ :=
      Body.exists_read_of_branchesSpelled hbranches he rest m.stop size
    refine ⟨e.stop, ?_⟩
    simp only [read, hn]
    simp [readRule, expectMark_of_isMark hm, hbody, semicolon_of_isMark he, bind, Except.bind,
      pure, Except.pure]

/-- A token that is declared already is an error. -/
theorem read_of_redeclares {ps : List Piece} (h : s.Spelled (p :: ps))
    (hold : Redeclares declared s) (rest : List Piece) (last size : Nat) :
    ∃ e, read declared p ⟨ps ++ rest, last, size⟩ = .error e := by
  obtain ⟨name, hmem, hname⟩ := hold
  cases s with
  | token name' regex =>
    cases hname
    obtain ⟨d, n, r, e, hps, hd, htext, hn, rfl, -⟩ := h
    cases hps
    refine ⟨.located (.duplicateToken n.text) n.start, ?_⟩
    simp only [read, hd, readDirective, htext, List.cons_append, List.nil_append]
    simp [readToken, expect_of_kind hn, hmem, bind, Except.bind, throw, throwThe,
      MonadExceptOf.throw]
  | ignore | start | keyword | rule => cases hname

/-! ## Spelling what is read -/

theorem exists_spelled_of_readToken (hd : p.kind = .directive) (htext : p.text = "%token")
    (h : readToken declared c = .ok (s, c')) :
    ∃ ps, c.rest = ps ++ c'.rest ∧ s.Spelled (p :: ps) := by
  obtain ⟨⟨n, c₁⟩, hname, h⟩ := ok_of_bind_ok h
  obtain ⟨hrest, hn⟩ := eq_of_expect hname
  simp only at h
  split at h
  · cases h
  obtain ⟨⟨regex, c₂⟩, hpattern, h⟩ := ok_of_bind_ok h
  obtain ⟨r, hrest₁, hr, hregex⟩ := eq_of_readRegex hpattern
  obtain ⟨c₃, hsemicolon, h⟩ := ok_of_bind_ok h
  obtain ⟨e, (hrest₂ : c₂.rest = _), he⟩ := eq_of_semicolon hsemicolon
  cases h
  refine ⟨[n, r, e], by simp [hrest, hrest₁, hrest₂], p, n, r, e, rfl, ?_⟩
  exact ⟨hd, htext, hn, rfl, hr, hregex, he⟩

theorem exists_spelled_of_readIgnore (hd : p.kind = .directive) (htext : p.text = "%ignore")
    (h : readIgnore c = .ok (s, c')) : ∃ ps, c.rest = ps ++ c'.rest ∧ s.Spelled (p :: ps) := by
  obtain ⟨⟨regex, c₁⟩, hpattern, h⟩ := ok_of_bind_ok h
  obtain ⟨r, hrest, hr, hregex⟩ := eq_of_readRegex hpattern
  obtain ⟨c₂, hsemicolon, h⟩ := ok_of_bind_ok h
  obtain ⟨e, hrest₁, he⟩ := eq_of_semicolon hsemicolon
  cases h
  refine ⟨[r, e], by simp [hrest, hrest₁], p, r, e, rfl, ?_⟩
  exact ⟨hd, htext, hr, hregex, he⟩

theorem exists_spelled_of_readStart (hd : p.kind = .directive) (htext : p.text = "%start")
    (h : readStart c = .ok (s, c')) : ∃ ps, c.rest = ps ++ c'.rest ∧ s.Spelled (p :: ps) := by
  obtain ⟨⟨n, c₁⟩, hname, h⟩ := ok_of_bind_ok h
  obtain ⟨hrest, hn⟩ := eq_of_expect hname
  obtain ⟨c₂, hsemicolon, h⟩ := ok_of_bind_ok h
  obtain ⟨e, hrest₁, he⟩ := eq_of_semicolon hsemicolon
  cases h
  refine ⟨[n, e], by simp [hrest, hrest₁], p, n, e, rfl, ?_⟩
  exact ⟨hd, htext, hn, rfl, rfl, he⟩

theorem exists_spelled_of_readKeyword (hl : p.kind = .string)
    (h : readKeyword p c = .ok (s, c')) : ∃ ps, c.rest = ps ++ c'.rest ∧ s.Spelled (p :: ps) := by
  obtain ⟨c₁, hcolon, h⟩ := ok_of_bind_ok h
  obtain ⟨m, hrest, hm⟩ := eq_of_expectMark hcolon
  obtain ⟨⟨r, c₂⟩, hright, h⟩ := ok_of_bind_ok h
  obtain ⟨hrest₁, hr⟩ := eq_of_expect hright
  obtain ⟨a, ha, h⟩ := ok_of_bind_ok h
  obtain ⟨b, hb, h⟩ := ok_of_bind_ok h
  simp only at h
  split at h
  · cases h
  next hab =>
    rw [ne_eq, Decidable.not_not] at hab
    subst hab
    obtain ⟨c₃, hsemicolon, h⟩ := ok_of_bind_ok h
    obtain ⟨e, hrest₂, he⟩ := eq_of_semicolon hsemicolon
    cases h
    refine ⟨[m, r, e], by simp [hrest, hrest₁, hrest₂], p, m, r, e, rfl, ?_⟩
    exact ⟨hl, ha, hm, hr, hb, he⟩

theorem exists_spelled_of_readRule (hn : p.kind = .name) (h : readRule p c = .ok (s, c')) :
    ∃ ps, c.rest = ps ++ c'.rest ∧ s.Spelled (p :: ps) := by
  obtain ⟨c₁, hcolon, h⟩ := ok_of_bind_ok h
  obtain ⟨m, hrest, hm⟩ := eq_of_expectMark hcolon
  obtain ⟨⟨branches, c₂⟩, hbody, h⟩ := ok_of_bind_ok h
  obtain ⟨qs, hrest₁, hbranches⟩ := Body.exists_branchesSpelled_of_read hbody
  obtain ⟨c₃, hsemicolon, h⟩ := ok_of_bind_ok h
  obtain ⟨e, hrest₂, he⟩ := eq_of_semicolon hsemicolon
  cases h
  refine ⟨m :: qs ++ [e], by simp [hrest, hrest₁, hrest₂], p, m, qs, e, rfl, ?_⟩
  exact ⟨hn, rfl, rfl, hm, hbranches, he⟩

/-- A statement that is read is spelled by the pieces that are taken. -/
theorem exists_spelled_of_read (h : read declared p c = .ok (s, c')) :
    ∃ ps, c.rest = ps ++ c'.rest ∧ s.Spelled (p :: ps) := by
  unfold read at h
  split at h
  case h_1 hd =>
    unfold readDirective at h
    split at h
    case h_1 htext => exact exists_spelled_of_readToken hd htext h
    case h_2 htext => exact exists_spelled_of_readIgnore hd htext h
    case h_3 htext => exact exists_spelled_of_readStart hd htext h
    case h_4 => cases h
  case h_2 hl => exact exists_spelled_of_readKeyword hl h
  case h_3 hn => exact exists_spelled_of_readRule hn h
  · cases h
  · cases h

end Statement

/-! ## Whole files -/

/-- Each statement of a file is spelled by some of its pieces. -/
theorem exists_spelled_of_mem {ss : List Statement} {ps : List Piece} (h : statementsSpelled ss ps)
    {s : Statement} (hs : s ∈ ss) : ∃ qs ⊆ ps, s.Spelled qs := by
  induction ss generalizing ps with
  | nil => cases hs
  | cons s' ss ih =>
    obtain ⟨qs, rs, rfl, hs', hss⟩ := h
    rcases List.mem_cons.1 hs with rfl | hs
    · exact ⟨qs, List.subset_append_left qs rs, hs'⟩
    · obtain ⟨us, hus, hspelled⟩ := ih hss hs
      exact ⟨us, List.subset_append_of_subset_right qs hus, hspelled⟩

/-- The statements of a file that is read are spelled by its pieces. -/
theorem spelled_of_readAll {declared : List String} {c : Cursor} {ss : List Statement}
    (h : Statement.readAll declared c = .ok ss) : statementsSpelled ss c.rest := by
  fun_induction Statement.readAll declared c generalizing ss with
  | case1 declared c hc =>
    cases h
    exact hc
  | case2 => cases h
  | case3 declared c p rest hc s c' hread ih =>
    obtain ⟨ss', hrest, rfl⟩ := exists_of_map_eq_ok h
    obtain ⟨ps, hps, hs⟩ := Statement.exists_spelled_of_read hread
    refine ⟨p :: ps, c'.rest, ?_, hs, ih hrest⟩
    rw [hc, List.cons_append, ← hps]
    rfl

theorem eq_nil_of_statementsSpelled_nil {ss : List Statement} (h : statementsSpelled ss []) :
    ss = [] := by
  cases ss with
  | nil => rfl
  | cons s ss =>
    obtain ⟨qs, rs, hps, hs, -⟩ := h
    obtain ⟨p, qs, rfl⟩ := Statement.exists_cons_of_spelled hs
    cases hps

/-- No other statements are spelled by the pieces of a file that is read. -/
theorem eq_of_readAll {declared : List String} {c : Cursor} {ss ss' : List Statement}
    (h : Statement.readAll declared c = .ok ss) (hss' : statementsSpelled ss' c.rest) :
    ss' = ss := by
  fun_induction Statement.readAll declared c generalizing ss ss' with
  | case1 declared c hc =>
    cases h
    rw [hc] at hss'
    exact eq_nil_of_statementsSpelled_nil hss'
  | case2 => cases h
  | case3 declared c p rest hc s c' hread ih =>
    obtain ⟨ss₁, hrest, rfl⟩ := exists_of_map_eq_ok h
    rw [hc] at hss'
    cases ss' with
    | nil => cases hss'
    | cons s' ss' =>
      obtain ⟨qs, rs, hps, hs, hss'⟩ := hss'
      obtain ⟨q, qs, rfl⟩ := Statement.exists_cons_of_spelled hs
      cases hps
      by_cases hold : Statement.Redeclares declared s'
      · obtain ⟨e, he⟩ := Statement.read_of_redeclares hs hold rs p.stop c.size
        cases hread.symm.trans he
      · obtain ⟨last', hok⟩ := Statement.exists_read_of_spelled hs hold rs p.stop c.size
        cases hread.symm.trans hok
        rw [ih hrest hss']

/-- A file that is read is made of the statements that its pieces are read as. -/
theorem exists_readAll_of_read {src : List Char} {file : GrammarFile}
    (h : GrammarFile.read src = .ok file) :
    ∃ pieces statements, scan src = .ok pieces ∧
      Statement.readAll [] ⟨pieces, 0, src.length⟩ = .ok statements ∧
      ofStatements statements = .ok file := by
  unfold GrammarFile.read at h
  split at h
  · cases h
  next pieces hscan =>
    split at h
    · cases h
    next statements hall => exact ⟨pieces, statements, hscan, hall, h⟩

/-- The file that is read is that of the only statements that its text spells. -/
theorem exists_spells_of_read {src : List Char} {file : GrammarFile}
    (h : GrammarFile.read src = .ok file) :
    ∃ statements, Spells src statements ∧ (∀ other, Spells src other → other = statements) ∧
      ofStatements statements = .ok file := by
  obtain ⟨pieces, statements, hscan, hall, hfile⟩ := exists_readAll_of_read h
  refine ⟨statements, ⟨pieces, hscan, spelled_of_readAll hall⟩, ?_, hfile⟩
  rintro other ⟨pieces', hscan', hother⟩
  cases hscan.symm.trans hscan'
  exact eq_of_readAll hall hother

end

/-- A file has what its statements declare, and the start symbol that they choose. -/
theorem exists_startOf_of_ofStatements {statements : List Statement} {file : GrammarFile}
    (h : ofStatements statements = .ok file) :
    ∃ start, startOf statements = .ok start ∧ file =
      { tokens := tokensOf statements, start
        ignores := ignoresOf statements
        literals := (statements.flatMap literalsOf).eraseDups
        rules := lowerRules ((tokensOf statements).map (·.name)) 0 (bodiesOf statements) } := by
  unfold ofStatements at h
  simp only at h
  split at h
  · cases h
  · obtain ⟨start, hstart, rfl⟩ := exists_of_map_eq_ok h
    exact ⟨start, hstart, rfl⟩

/-- The start symbol of a file is that of its statements. -/
theorem startOf_of_ofStatements {statements : List Statement} {file : GrammarFile}
    (h : ofStatements statements = .ok file) : startOf statements = .ok file.start := by
  obtain ⟨start, hstart, rfl⟩ := exists_startOf_of_ofStatements h
  exact hstart

/-- A start symbol is the name of the first rule, if there is one, or it was chosen last and is the
name of some rule. -/
theorem startOf_cases {statements : List Statement} {start : Option String}
    (h : startOf statements = .ok start) :
    (startsOf statements = [] ∧ start = (headsOf statements).head?.map (·.1)) ∨
      ∃ name pos, (startsOf statements).getLast? = some (name, pos) ∧ start = some name ∧
        name ∈ (headsOf statements).map (·.1) := by
  unfold startOf at h
  dsimp only at h
  split at h
  next hnone => exact .inl ⟨List.getLast?_eq_none_iff.1 hnone, (Except.ok.inj h).symm⟩
  next name pos hlast =>
    split at h
    next hmem => exact .inr ⟨name, pos, hlast, (Except.ok.inj h).symm, hmem⟩
    · cases h

end Earley.GrammarFile
