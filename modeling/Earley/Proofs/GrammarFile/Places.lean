/-
Earley.Proofs.GrammarFile.Places — the places of pieces matter to the places of errors only.

Two files with the same words are read in step. Every reader is given one law: if it starts at
cursors with the same words left, it ends either in errors that differ in their places at most, or
with the same result and with the same words left (`EndAlike`). The laws are put together along the
readers (`EndAlike.bind`).

- `readAll_alike`: the statements of two files differ in their places at most.
- `ofStatements_alike`: so the same file is made of them.
- `read_alike`: files with the same words are read alike, or refused for the same reason.
-/
import Earley.Proofs.GrammarFile.Wording

namespace Earley.GrammarFile

open Cursor (isMark)

/-! ## Computations -/

/-- An error at the beginning of a file. -/
def Error.unplaced : Error → Error
  | .located cause _ => .located cause 0
  | .literal fault => .literal fault

/-- Two computations end in errors that differ in their places at most, or in related values. -/
inductive EndAlike {α β : Type} (R : α → β → Prop) : Except Error α → Except Error β → Prop where
  | error {e e' : Error} (he : e'.unplaced = e.unplaced) : EndAlike R (.error e) (.error e')
  | ok {a : α} {b : β} (hab : R a b) : EndAlike R (.ok a) (.ok b)

section

variable {α β α' β' : Type} {R : α → β → Prop} {S : α' → β' → Prop} {m : Except Error α}
  {m' : Except Error β}

theorem EndAlike.bind {k : α → Except Error α'} {k' : β → Except Error β'} (hm : EndAlike R m m')
    (hk : ∀ a b, R a b → EndAlike S (k a) (k' b)) : EndAlike S (m >>= k) (m' >>= k') := by
  cases hm with
  | error he => exact .error he
  | ok hab => exact hk _ _ hab

theorem EndAlike.map {f : α → α'} {f' : β → β'} (hm : EndAlike R m m')
    (hf : ∀ a b, R a b → S (f a) (f' b)) : EndAlike S (m.map f) (m'.map f') := by
  cases hm with
  | error he => exact .error he
  | ok hab => exact .ok (hf _ _ hab)

end

/-! ## Reading pieces -/

/-- The same words are left at two cursors. -/
def Cursor.Alike (c c' : Cursor) : Prop := c'.rest.map Piece.word = c.rest.map Piece.word

/-- Two readers end in errors that differ in their places at most, or with related results and the
same words left. -/
abbrev ReadAlike {α : Type} (R : α → α → Prop) :
    Except Error (α × Cursor) → Except Error (α × Cursor) → Prop :=
  EndAlike fun r r' => R r.1 r'.1 ∧ r.2.Alike r'.2

section

variable {c c' : Cursor} {p p' : Piece} {what : Expectation}

theorem isMark_eq_of_word (hp : p'.word = p.word) (mark : Char) : isMark mark p' = isMark mark p :=
  Bool.eq_iff_iff.2 ⟨isMark_of_word hp.symm, isMark_of_word hp⟩

theorem Cursor.Alike.eq_nil (h : c.Alike c') (hrest : c.rest = []) : c'.rest = [] := by
  rw [Cursor.Alike, hrest] at h
  exact List.map_eq_nil_iff.1 h

theorem Cursor.Alike.exists_past {rest : List Piece} (h : c.Alike c') (hrest : c.rest = p :: rest) :
    ∃ p' rest', c'.rest = p' :: rest' ∧ p'.word = p.word ∧
      (c.past p rest).Alike (c'.past p' rest') := by
  rw [Cursor.Alike, hrest, List.map_cons] at h
  exact List.map_eq_cons_iff.1 h

/-- Either nothing is left at both cursors, or pieces with the same word come next. -/
theorem Cursor.Alike.cases (h : c.Alike c') :
    (c.rest = [] ∧ c'.rest = []) ∨
      ∃ p rest p' rest', c.rest = p :: rest ∧ c'.rest = p' :: rest' ∧ p'.word = p.word ∧
        (c.past p rest).Alike (c'.past p' rest') := by
  cases hrest : c.rest with
  | nil => exact .inl ⟨rfl, h.eq_nil hrest⟩
  | cons p rest => exact .inr ⟨p, rest, by simpa using h.exists_past hrest⟩

theorem unexpected_alike (hc : c.Alike c') (what : Expectation) :
    (c'.unexpected what).unplaced = (c.unexpected what).unplaced := by
  rcases hc.cases with ⟨hrest, hrest'⟩ | ⟨p, rest, p', rest', hrest, hrest', hp, -⟩
  · simp [Cursor.unexpected, hrest, hrest', Error.unplaced]
  · simp [Cursor.unexpected, hrest, hrest', Error.unplaced, text_of_word hp]

theorem expect_alike (hc : c.Alike c') (what : Expectation) (kind : PieceKind) :
    ReadAlike (fun p p' => p'.word = p.word) (c.expect what kind) (c'.expect what kind) := by
  have hunexpected := unexpected_alike hc what
  unfold Cursor.expect
  rcases hc.cases with ⟨hrest, hrest'⟩ | ⟨p, rest, p', rest', hrest, hrest', hp, hpast⟩
  · rw [hrest, hrest']
    exact .error hunexpected
  · rw [hrest, hrest']
    dsimp only
    rw [kind_of_word hp]
    split
    · exact .ok ⟨hp, hpast⟩
    · exact .error hunexpected

theorem expectMark_alike (hc : c.Alike c') (what : Expectation) (mark : Char) :
    EndAlike Cursor.Alike (c.expectMark what mark) (c'.expectMark what mark) := by
  have hunexpected := unexpected_alike hc what
  unfold Cursor.expectMark
  rcases hc.cases with ⟨hrest, hrest'⟩ | ⟨p, rest, p', rest', hrest, hrest', hp, hpast⟩
  · rw [hrest, hrest']
    exact .error hunexpected
  · rw [hrest, hrest']
    dsimp only
    rw [isMark_eq_of_word hp]
    split
    · exact .ok hpast
    · exact .error hunexpected

theorem semicolon_alike (hc : c.Alike c') (after : StatementKind) :
    EndAlike Cursor.Alike (c.semicolon after) (c'.semicolon after) := by
  unfold Cursor.semicolon
  rcases hc.cases with ⟨hrest, hrest'⟩ | ⟨p, rest, p', rest', hrest, hrest', hp, hpast⟩
  · rw [hrest, hrest']
    exact .error rfl
  · rw [hrest, hrest']
    dsimp only
    rw [isMark_eq_of_word hp]
    split
    · exact .ok hpast
    · exact .error rfl

theorem literal_alike [Literal.Decoder] (hp : p'.word = p.word) :
    EndAlike Eq p.literal p'.literal := by
  unfold Piece.literal
  rw [chars_of_word hp]
  split
  · exact .error rfl
  · exact .error rfl
  · exact .ok rfl

end

/-! ## Reading right-hand sides -/

theorem move_alike [Literal.Decoder] {p p' : Piece} (hp : p'.word = p.word) :
    EndAlike Eq (Body.move p) (Body.move p') := by
  unfold Body.move
  rw [kind_of_word hp, chars_of_word hp, text_of_word hp]
  split
  case h_2 => exact (literal_alike hp).map fun _ _ heq => by rw [heq]
  all_goals exact .ok rfl

theorem stop_alike {c c' : Cursor} (hc : c.Alike c') (level : Body.Level)
    (outer : List Body.Level) :
    ReadAlike Eq (Body.stop level outer c) (Body.stop level outer c') := by
  cases outer with
  | nil => exact .ok ⟨rfl, hc⟩
  | cons => exact .error (unexpected_alike hc _)

theorem readFrom_alike [Literal.Decoder] {ps ps' : List Piece}
    (hwords : ps'.map Piece.word = ps.map Piece.word) (size size' : Nat) (level : Body.Level)
    (outer : List Body.Level) (last last' : Nat) :
    ReadAlike Eq (Body.readFrom size level outer last ps)
      (Body.readFrom size' level outer last' ps') := by
  induction ps generalizing ps' level outer last last' with
  | nil =>
    have hcursors : Cursor.Alike ⟨[], last, size⟩ ⟨ps', last', size'⟩ := hwords
    obtain rfl : ps' = [] := List.map_eq_nil_iff.1 hwords
    unfold Body.readFrom
    exact stop_alike hcursors level outer
  | cons p rest ih =>
    have hcursors : Cursor.Alike ⟨p :: rest, last, size⟩ ⟨ps', last', size'⟩ := hwords
    obtain ⟨p', rest', rfl, hp, hrest⟩ := List.map_eq_cons_iff.1 hwords
    have hmove := move_alike hp
    unfold Body.readFrom
    generalize Body.move p = m at hmove ⊢
    generalize Body.move p' = m' at hmove ⊢
    cases hmove with
    | error he => exact .error he
    | ok heq =>
      subst heq
      -- both go on in the same group, or both stop
      split
      · exact .error rfl
      · exact ih hrest _ _ _ _
      · exact ih hrest _ _ _ _
      · exact ih hrest _ _ _ _
      · cases outer with
        | nil => exact stop_alike hcursors _ _
        | cons up outer => exact ih hrest _ _ _ _
      · cases hsuffix : level.suffix? _ with
        | none => exact stop_alike hcursors _ _
        | some level' => exact ih hrest _ _ _ _
      · exact stop_alike hcursors _ _

/-! ## Reading statements -/

namespace Statement

section

variable {c c' : Cursor} {p p' : Piece}

/-- The statements differ in their places at most. -/
abbrev Alike (s s' : Statement) : Prop := s'.unplaced = s.unplaced

/-- The statements of two files differ in their places at most. -/
abbrev AllAlike (ss ss' : List Statement) : Prop := ss'.map unplaced = ss.map unplaced

theorem compilePiece_alike [Regex.Engine] (hp : p'.word = p.word) :
    EndAlike Eq (compilePiece p) (compilePiece p') := by
  unfold compilePiece
  rw [chars_of_word hp, text_of_word hp]
  split
  · exact .ok rfl
  · exact .error rfl

theorem readRegex_alike [Regex.Engine] (hc : c.Alike c') (what : Expectation) :
    ReadAlike Eq (readRegex c what) (readRegex c' what) := by
  have hexpect := expect_alike hc what .regex
  unfold readRegex
  generalize c.expect what .regex = m at hexpect ⊢
  generalize c'.expect what .regex = m' at hexpect ⊢
  cases hexpect with
  | error he => exact .error he
  | ok hread =>
    obtain ⟨hp, hrest⟩ := hread
    exact (compilePiece_alike hp).map fun _ _ heq => ⟨heq, hrest⟩

/-- A statement is read when its semicolon is. -/
theorem semicolon_statement_alike {s s' : Statement} (hs : s.Alike s') (hc : c.Alike c')
    (after : StatementKind) :
    ReadAlike Alike (do return (s, ← c.semicolon after)) (do return (s', ← c'.semicolon after)) :=
  (semicolon_alike hc after).bind fun _ _ hrest => .ok ⟨hs, hrest⟩

theorem readToken_alike [Regex.Engine] (hc : c.Alike c') (declared : List String) :
    ReadAlike Alike (readToken declared c) (readToken declared c') := by
  refine (expect_alike hc _ _).bind fun ⟨n, c₁⟩ ⟨n', c₁'⟩ ⟨hn, hc₁⟩ => ?_
  dsimp only at hn ⊢
  rw [text_of_word hn]
  split
  · exact .error rfl
  · refine (readRegex_alike hc₁ _).bind fun ⟨regex, c₂⟩ ⟨regex', c₂'⟩ ⟨hregex, hc₂⟩ => ?_
    cases hregex
    exact semicolon_statement_alike rfl hc₂ _

theorem readIgnore_alike [Regex.Engine] (hc : c.Alike c') :
    ReadAlike Alike (readIgnore c) (readIgnore c') := by
  refine (readRegex_alike hc _).bind fun ⟨regex, c₁⟩ ⟨regex', c₁'⟩ ⟨hregex, hc₁⟩ => ?_
  cases hregex
  exact semicolon_statement_alike rfl hc₁ _

theorem readStart_alike (hc : c.Alike c') : ReadAlike Alike (readStart c) (readStart c') := by
  refine (expect_alike hc _ _).bind fun ⟨n, c₁⟩ ⟨n', c₁'⟩ ⟨hn, hc₁⟩ => ?_
  have hs : Alike (.start n.text n.start) (.start n'.text n'.start) := by
    simp only [Alike, unplaced, text_of_word hn]
  exact semicolon_statement_alike hs hc₁ _

theorem readDirective_alike [Regex.Engine] (hp : p'.word = p.word) (hc : c.Alike c')
    (declared : List String) :
    ReadAlike Alike (readDirective declared p c) (readDirective declared p' c') := by
  unfold readDirective
  rw [text_of_word hp]
  split
  · exact readToken_alike hc declared
  · exact readIgnore_alike hc
  · exact readStart_alike hc
  · exact .error rfl

theorem readKeyword_alike [Literal.Decoder] (hp : p'.word = p.word) (hc : c.Alike c') :
    ReadAlike Alike (readKeyword p c) (readKeyword p' c') := by
  refine (expectMark_alike hc _ _).bind fun c₁ c₁' hc₁ => ?_
  refine (expect_alike hc₁ _ _).bind fun ⟨right, c₂⟩ ⟨right', c₂'⟩ ⟨hright, hc₂⟩ => ?_
  refine (literal_alike hp).bind fun a a' ha => ?_
  refine (literal_alike hright).bind fun b b' hb => ?_
  cases ha
  cases hb
  dsimp only
  split
  · exact .error rfl
  · exact semicolon_statement_alike rfl hc₂ _

theorem readRule_alike [Literal.Decoder] (hp : p'.word = p.word) (hc : c.Alike c') :
    ReadAlike Alike (readRule p c) (readRule p' c') := by
  refine (expectMark_alike hc _ _).bind fun c₁ c₁' hc₁ => ?_
  have hbody : ReadAlike Eq (Body.read c₁) (Body.read c₁') :=
    readFrom_alike hc₁ _ _ _ _ _ _
  refine hbody.bind fun ⟨branches, c₂⟩ ⟨branches', c₂'⟩ ⟨hbranches, hc₂⟩ => ?_
  cases hbranches
  have hs : Alike (.rule p.text p.start branches) (.rule p'.text p'.start branches) := by
    simp only [Alike, unplaced, text_of_word hp]
  rw [text_of_word hp] at hs ⊢
  exact semicolon_statement_alike hs hc₂ _

theorem read_statement_alike [Regex.Engine] [Literal.Decoder] (hp : p'.word = p.word)
    (hc : c.Alike c') (declared : List String) :
    ReadAlike Alike (read declared p c) (read declared p' c') := by
  unfold read
  rw [kind_of_word hp]
  split
  · exact readDirective_alike hp hc declared
  · exact readKeyword_alike hp hc
  · exact readRule_alike hp hc
  · exact .error (by simp only [Error.unplaced, text_of_word hp])
  · exact .error (by simp only [Error.unplaced, text_of_word hp])

theorem declared?_unplaced (s : Statement) : s.unplaced.declared? = s.declared? := by
  cases s <;> rfl

theorem readAll_alike [Regex.Engine] [Literal.Decoder] (hc : c.Alike c') (declared : List String) :
    EndAlike AllAlike (readAll declared c) (readAll declared c') := by
  fun_induction readAll declared c generalizing c' with
  | case1 declared c hnil =>
    rw [readAll_of_rest_eq_nil (hc.eq_nil hnil)]
    exact .ok rfl
  | case2 declared c p rest hcons e he =>
    obtain ⟨p', rest', hcons', hp, hpast⟩ := hc.exists_past hcons
    have hread := read_statement_alike hp hpast declared
    rw [readAll_of_rest_eq_cons hcons']
    rw [he] at hread
    generalize read declared p' (c'.past p' rest') = m' at hread ⊢
    cases hread with
    | error he => exact .error he
  | case3 declared c p rest hcons s c₁ hok ih =>
    obtain ⟨p', rest', hcons', hp, hpast⟩ := hc.exists_past hcons
    have hread := read_statement_alike hp hpast declared
    rw [readAll_of_rest_eq_cons hcons']
    rw [hok] at hread
    generalize read declared p' (c'.past p' rest') = m' at hread ⊢
    cases hread with
    | @ok _ r hread =>
      obtain ⟨s', c₁'⟩ := r
      obtain ⟨hs, hrest⟩ := hread
      have hdeclared : s'.declared? = s.declared? := by
        rw [← declared?_unplaced s', hs, declared?_unplaced]
      have htail : EndAlike AllAlike
          ((readAll (declared ++ s.declared?.toList) c₁).map (s :: ·))
          ((readAll (declared ++ s'.declared?.toList) c₁').map (s' :: ·)) := by
        rw [hdeclared]
        exact (ih hrest).map fun ss ss' hss => congrArg₂ List.cons hs hss
      exact htail

end

end Statement

/-! ## Whole files -/

section

variable {ss ss' : List Statement}

/-- What is collected from statements, their places apart, does not depend on these. -/
theorem filterMap_eq_of_allAlike {α : Type} {f : Statement → Option α}
    (hplace : ∀ s, f s.unplaced = f s) (h : Statement.AllAlike ss ss') :
    ss'.filterMap f = ss.filterMap f := by
  rw [← filterMap_unplaced hplace, h, filterMap_unplaced hplace]

theorem map_fst_headsOf_eq (h : Statement.AllAlike ss ss') :
    (headsOf ss').map (·.1) = (headsOf ss).map (·.1) := by
  rw [headsOf, headsOf, List.map_filterMap, List.map_filterMap]
  exact filterMap_eq_of_allAlike (by rintro (_ | _) <;> rfl) h

theorem map_fst_startsOf_eq (h : Statement.AllAlike ss ss') :
    (startsOf ss').map (·.1) = (startsOf ss).map (·.1) := by
  rw [startsOf, startsOf, List.map_filterMap, List.map_filterMap]
  exact filterMap_eq_of_allAlike (by rintro (_ | _) <;> rfl) h

/-- Where two searches find the same names, they both find nothing, or a name each. -/
theorem cases_of_map_fst_eq {α β : Type} {o o' : Option (α × β)}
    (h : o'.map (·.1) = o.map (·.1)) :
    (o = none ∧ o' = none) ∨ ∃ a b b', o = some (a, b) ∧ o' = some (a, b') := by
  rcases o with _ | ⟨a, b⟩
  · exact .inl ⟨rfl, Option.map_eq_none_iff.1 h⟩
  · obtain ⟨⟨a', b'⟩, rfl, rfl⟩ := Option.map_eq_some_iff.1 h
    exact .inr ⟨_, b, b', rfl, rfl⟩

theorem startOf_alike (h : Statement.AllAlike ss ss') :
    EndAlike Eq (startOf ss) (startOf ss') := by
  have hheads := map_fst_headsOf_eq h
  have hlast : (startsOf ss').getLast?.map (·.1) = (startsOf ss).getLast?.map (·.1) := by
    rw [← List.getLast?_map, map_fst_startsOf_eq h, List.getLast?_map]
  unfold startOf
  rcases cases_of_map_fst_eq hlast with ⟨hnone, hnone'⟩ | ⟨name, pos, pos', hsome, hsome'⟩
  · rw [hnone, hnone']
    refine .ok ?_
    rw [← List.head?_map, ← List.head?_map, hheads]
  · rw [hsome, hsome']
    dsimp only
    rw [hheads]
    split
    · exact .ok rfl
    · exact .error rfl

theorem ofStatements_alike (h : Statement.AllAlike ss ss') :
    EndAlike Eq (ofStatements ss) (ofStatements ss') := by
  have htokens : tokensOf ss' = tokensOf ss :=
    filterMap_eq_of_allAlike (by rintro (_ | _) <;> rfl) h
  have hignores : ignoresOf ss' = ignoresOf ss :=
    filterMap_eq_of_allAlike (by rintro (_ | _) <;> rfl) h
  have hbodies : bodiesOf ss' = bodiesOf ss :=
    filterMap_eq_of_allAlike (by rintro (_ | _) <;> rfl) h
  have hliterals : ss'.flatMap literalsOf = ss.flatMap literalsOf := by
    rw [← flatMap_literalsOf_unplaced, h, flatMap_literalsOf_unplaced]
  have hclash (names : List String) : ((headsOf ss').find? (·.1 ∈ names)).map (·.1) =
      ((headsOf ss).find? (·.1 ∈ names)).map (·.1) := by
    have hfind (hs : List (String × Nat)) : (hs.find? (·.1 ∈ names)).map (·.1) =
        (hs.map (·.1)).find? (· ∈ names) := by
      rw [List.find?_map]
      rfl
    rw [hfind, hfind, map_fst_headsOf_eq h]
  unfold ofStatements
  rw [htokens, hignores, hbodies, hliterals]
  dsimp only
  rcases cases_of_map_fst_eq (hclash _) with ⟨hnone, hnone'⟩ | ⟨name, pos, pos', hsome, hsome'⟩
  · rw [hnone, hnone']
    exact (startOf_alike h).map fun start start' hstart => by rw [hstart]
  · rw [hsome, hsome']
    exact .error rfl

end

/-- Files with the same words are read alike, or they are refused for the same reason. -/
theorem read_alike [Regex.Engine] [Literal.Decoder] {src src' : List Char}
    {pieces pieces' : List Piece} (hscan : scan src = .ok pieces) (hscan' : scan src' = .ok pieces')
    (hwords : pieces'.map Piece.word = pieces.map Piece.word) :
    EndAlike Eq (GrammarFile.read src) (GrammarFile.read src') := by
  have hcursors : Cursor.Alike ⟨pieces, 0, src.length⟩ ⟨pieces', 0, src'.length⟩ := hwords
  have hall := Statement.readAll_alike hcursors []
  unfold GrammarFile.read
  rw [hscan, hscan']
  dsimp only
  generalize Statement.readAll [] ⟨pieces, 0, src.length⟩ = m at hall ⊢
  generalize Statement.readAll [] ⟨pieces', 0, src'.length⟩ = m' at hall ⊢
  cases hall with
  | error he => exact .error he
  | ok hss => exact ofStatements_alike hss

end Earley.GrammarFile
