/-
Earley.Proofs.GrammarFile.Wording — what the words of a grammar file say.

A word is a piece without its place. Words say a statement, of which the place does not count
(`Statement.Worded`), and a statement ends at its first semicolon. So the words of a file say its
statements, whatever stands between them.

- `Statement.Spelled.of_words`: pieces with the same words spell the same statement at another
  place.
- `worded_leftUnique`: words say at most one statement.
- `exists_worded_of_statementsSpelled`, `exists_statementsSpelled_of_worded`: pieces spell
  statements just if their words say them.
- `eq_of_flatten_eq`: a sequence of words falls into statements in one way only.
-/
import Earley.Proofs.GrammarFile.Acceptance
import Earley.Proofs.Location

namespace Earley.GrammarFile

open Cursor (isMark)

/-! ## Words -/

/-- The class and the characters of a piece. -/
abbrev Word := PieceKind × List Char

/-- A piece without its place. -/
def Piece.word (p : Piece) : Word := (p.kind, p.chars)

section

variable {p q : Piece} {mark : Char}

theorem kind_of_word (h : q.word = p.word) : q.kind = p.kind := congrArg Prod.fst h

theorem chars_of_word (h : q.word = p.word) : q.chars = p.chars := congrArg Prod.snd h

theorem text_of_word (h : q.word = p.word) : q.text = p.text :=
  congrArg String.ofList (chars_of_word h)

theorem isMark_iff_word : isMark mark p = true ↔ p.word = (.punctuation, [mark]) := by
  rw [isMark_eq_true_iff, Piece.word, Prod.mk.injEq]

theorem isMark_of_word (h : q.word = p.word) (hp : isMark mark p = true) :
    isMark mark q = true := by
  rw [isMark_iff_word] at hp ⊢
  exact h.trans hp

theorem literal_of_word [Literal.Decoder] {text : String} (h : q.word = p.word)
    (hp : p.literal = .ok text) : q.literal = .ok text := by
  rw [Piece.literal_eq_ok_iff, Piece.decoded] at hp ⊢
  rwa [chars_of_word h]

theorem compilePiece_of_word [Regex.Engine] {regex : Regex} (h : q.word = p.word)
    (hp : Statement.compilePiece p = .ok regex) : Statement.compilePiece q = .ok regex := by
  unfold Statement.compilePiece at hp ⊢
  rw [chars_of_word h]
  split at hp
  next r hr =>
    cases hp
    rfl
  · cases hp

end

/-! ## Right-hand sides -/

section

variable [Literal.Decoder]

mutual

theorem Term.Spelled.of_words {t : Term} {ps qs : List Piece} (h : t.Spelled ps)
    (hwords : qs.map Piece.word = ps.map Piece.word) : t.Spelled qs := by
  match t, h with
  | .name s, h =>
    obtain ⟨p, rfl, hkind, htext⟩ := h
    obtain ⟨q, rfl, hq⟩ := List.map_eq_singleton_iff.1 hwords
    exact ⟨q, rfl, (kind_of_word hq).trans hkind, (text_of_word hq).trans htext⟩
  | .literal text, h =>
    obtain ⟨p, rfl, hkind, hliteral⟩ := h
    obtain ⟨q, rfl, hq⟩ := List.map_eq_singleton_iff.1 hwords
    exact ⟨q, rfl, (kind_of_word hq).trans hkind, literal_of_word hq hliteral⟩
  | .group branches, h =>
    obtain ⟨p, us, r, rfl, hp, hbranches, hr⟩ := h
    rw [List.map_append] at hwords
    obtain ⟨qs, rs, rfl, hqs, hrs⟩ := List.map_eq_append_iff.1 hwords
    obtain ⟨p', us', rfl, hp', hus'⟩ := List.map_eq_cons_iff.1 hqs
    obtain ⟨r', rfl, hr'⟩ := List.map_eq_singleton_iff.1 hrs
    exact ⟨p', us', r', rfl, isMark_of_word hp' hp, hbranches.of_words hus',
      isMark_of_word hr' hr⟩
  | .suffixed suffix t, h =>
    obtain ⟨hbare, us, p, rfl, ht, hp⟩ := h
    rw [List.map_append] at hwords
    obtain ⟨us', rs, rfl, hus', hrs⟩ := List.map_eq_append_iff.1 hwords
    obtain ⟨p', rfl, hp'⟩ := List.map_eq_singleton_iff.1 hrs
    exact ⟨hbare, us', p', rfl, ht.of_words hus', isMark_of_word hp' hp⟩

theorem sequenceSpelled.of_words {ts : List Term} {ps qs : List Piece} (h : sequenceSpelled ts ps)
    (hwords : qs.map Piece.word = ps.map Piece.word) : sequenceSpelled ts qs := by
  match ts, h with
  | [], h =>
    cases h
    exact List.map_eq_nil_iff.1 hwords
  | t :: ts, h =>
    obtain ⟨us, vs, rfl, ht, hts⟩ := h
    rw [List.map_append] at hwords
    obtain ⟨us', vs', rfl, hus', hvs'⟩ := List.map_eq_append_iff.1 hwords
    exact ⟨us', vs', rfl, ht.of_words hus', hts.of_words hvs'⟩

theorem branchesSpelled.of_words {bs : List (List Term)} {ps qs : List Piece}
    (h : branchesSpelled bs ps) (hwords : qs.map Piece.word = ps.map Piece.word) :
    branchesSpelled bs qs := by
  match bs, h with
  | [], h => exact absurd h (by simp [branchesSpelled])
  | b :: bs, h =>
    rcases h with ⟨hnil, hb⟩ | ⟨us, p, vs, rfl, hb, hp, hbs⟩
    · exact .inl ⟨hnil, hb.of_words hwords⟩
    · rw [List.map_append] at hwords
      obtain ⟨us', rs, rfl, hus', hrs⟩ := List.map_eq_append_iff.1 hwords
      obtain ⟨p', vs', rfl, hp', hvs'⟩ := List.map_eq_cons_iff.1 hrs
      exact .inr ⟨us', p', vs', rfl, hb.of_words hus', isMark_of_word hp' hp,
        hbs.of_words hvs'⟩

end

end

/-! ## Statements -/

/-- A statement at the beginning of a file. -/
def Statement.unplaced : Statement → Statement
  | .start name _ => .start name 0
  | .rule name _ branches => .rule name 0 branches
  | s => s

/-- The words are those of a statement, wherever that stands. -/
def Statement.Worded [Regex.Engine] [Literal.Decoder] (s : Statement) (w : List Word) : Prop :=
  ∃ s' ps, Statement.Spelled s' ps ∧ ps.map Piece.word = w ∧ s'.unplaced = s

theorem filterMap_unplaced {α : Type} {f : Statement → Option α}
    (hplace : ∀ s, f s.unplaced = f s) (ss : List Statement) :
    (ss.map Statement.unplaced).filterMap f = ss.filterMap f := by
  rw [List.filterMap_map]
  congr 1
  funext s
  exact hplace s

theorem flatMap_literalsOf_unplaced (ss : List Statement) :
    (ss.map Statement.unplaced).flatMap literalsOf = ss.flatMap literalsOf := by
  rw [List.flatMap_map]
  congr 1
  funext s
  cases s <;> rfl

section

variable [Regex.Engine] [Literal.Decoder] {s s' : Statement} {ps qs : List Piece}

theorem Statement.Spelled.of_words (h : s.Spelled ps)
    (hwords : qs.map Piece.word = ps.map Piece.word) :
    ∃ s' : Statement, s'.Spelled qs ∧ s'.unplaced = s.unplaced := by
  cases s with
  | token name regex =>
    obtain ⟨d, n, r, e, rfl, hd, htext, hn, hname, hr, hregex, he⟩ := h
    obtain ⟨d', us, rfl, hd', hus⟩ := List.map_eq_cons_iff.1 hwords
    obtain ⟨n', us, rfl, hn', hus⟩ := List.map_eq_cons_iff.1 hus
    obtain ⟨r', us, rfl, hr', hus⟩ := List.map_eq_cons_iff.1 hus
    obtain ⟨e', rfl, he'⟩ := List.map_eq_singleton_iff.1 hus
    exact ⟨.token name regex, ⟨d', n', r', e', rfl, (kind_of_word hd').trans hd,
      (text_of_word hd').trans htext, (kind_of_word hn').trans hn, (text_of_word hn').trans hname,
      (kind_of_word hr').trans hr, compilePiece_of_word hr' hregex, isMark_of_word he' he⟩, rfl⟩
  | ignore regex =>
    obtain ⟨d, r, e, rfl, hd, htext, hr, hregex, he⟩ := h
    obtain ⟨d', us, rfl, hd', hus⟩ := List.map_eq_cons_iff.1 hwords
    obtain ⟨r', us, rfl, hr', hus⟩ := List.map_eq_cons_iff.1 hus
    obtain ⟨e', rfl, he'⟩ := List.map_eq_singleton_iff.1 hus
    exact ⟨.ignore regex, ⟨d', r', e', rfl, (kind_of_word hd').trans hd,
      (text_of_word hd').trans htext, (kind_of_word hr').trans hr,
      compilePiece_of_word hr' hregex, isMark_of_word he' he⟩, rfl⟩
  | start name pos =>
    obtain ⟨d, n, e, rfl, hd, htext, hn, hname, -, he⟩ := h
    obtain ⟨d', us, rfl, hd', hus⟩ := List.map_eq_cons_iff.1 hwords
    obtain ⟨n', us, rfl, hn', hus⟩ := List.map_eq_cons_iff.1 hus
    obtain ⟨e', rfl, he'⟩ := List.map_eq_singleton_iff.1 hus
    exact ⟨.start name n'.start, ⟨d', n', e', rfl, (kind_of_word hd').trans hd,
      (text_of_word hd').trans htext, (kind_of_word hn').trans hn, (text_of_word hn').trans hname,
      rfl, isMark_of_word he' he⟩, rfl⟩
  | keyword text =>
    obtain ⟨l, m, r, e, rfl, hl, hleft, hm, hr, hright, he⟩ := h
    obtain ⟨l', us, rfl, hl', hus⟩ := List.map_eq_cons_iff.1 hwords
    obtain ⟨m', us, rfl, hm', hus⟩ := List.map_eq_cons_iff.1 hus
    obtain ⟨r', us, rfl, hr', hus⟩ := List.map_eq_cons_iff.1 hus
    obtain ⟨e', rfl, he'⟩ := List.map_eq_singleton_iff.1 hus
    exact ⟨.keyword text, ⟨l', m', r', e', rfl, (kind_of_word hl').trans hl,
      literal_of_word hl' hleft, isMark_of_word hm' hm, (kind_of_word hr').trans hr,
      literal_of_word hr' hright, isMark_of_word he' he⟩, rfl⟩
  | rule name pos branches =>
    obtain ⟨n, m, us, e, rfl, hn, hname, -, hm, hbranches, he⟩ := h
    rw [List.map_append] at hwords
    obtain ⟨vs, rs, rfl, hvs, hrs⟩ := List.map_eq_append_iff.1 hwords
    obtain ⟨n', vs, rfl, hn', hvs⟩ := List.map_eq_cons_iff.1 hvs
    obtain ⟨m', us', rfl, hm', hus'⟩ := List.map_eq_cons_iff.1 hvs
    obtain ⟨e', rfl, he'⟩ := List.map_eq_singleton_iff.1 hrs
    exact ⟨.rule name n'.start branches, ⟨n', m', us', e', rfl, (kind_of_word hn').trans hn,
      (text_of_word hn').trans hname, rfl, isMark_of_word hm' hm, hbranches.of_words hus',
      isMark_of_word he' he⟩, rfl⟩

/-- Pieces spell at most one statement, since they are read as it. -/
theorem eq_of_spelled (h : s.Spelled ps) (h' : s'.Spelled ps) : s = s' := by
  obtain ⟨p, ps, rfl⟩ := Statement.exists_cons_of_spelled h
  have hnew (s : Statement) : ¬ Statement.Redeclares [] s := by simp [Statement.Redeclares]
  obtain ⟨last, hread⟩ := Statement.exists_read_of_spelled h (hnew s) [] 0 0
  obtain ⟨last', hread'⟩ := Statement.exists_read_of_spelled h' (hnew s') [] 0 0
  cases hread.symm.trans hread'
  rfl

/-- Words say at most one statement. -/
theorem worded_leftUnique : Relator.LeftUnique Statement.Worded := by
  rintro s t w ⟨s₁, ps, hs₁, rfl, rfl⟩ ⟨s₂, qs, hs₂, hwords, rfl⟩
  obtain ⟨s₃, hs₃, hplace⟩ := hs₁.of_words hwords
  rw [← hplace, eq_of_spelled hs₃ hs₂]

end

/-! ## Ends of statements -/

/-- The word that ends a statement. -/
def semicolon : Word := (.punctuation, [';'])

/-- The words end with a semicolon, and have no other. -/
def Terminated (w : List Word) : Prop := ∃ body, w = body ++ [semicolon] ∧ semicolon ∉ body

/-- A sequence of words falls into statements in one way only. -/
theorem eq_of_flatten_eq {ws ws' : List (List Word)} (h : ∀ w ∈ ws, Terminated w)
    (h' : ∀ w ∈ ws', Terminated w) (heq : ws.flatten = ws'.flatten) : ws = ws' := by
  induction ws generalizing ws' with
  | nil =>
    cases ws' with
    | nil => rfl
    | cons w' ws' =>
      obtain ⟨body, rfl, -⟩ := h' w' List.mem_cons_self
      simp at heq
  | cons w ws ih =>
    obtain ⟨body, rfl, hbody⟩ := h w List.mem_cons_self
    cases ws' with
    | nil => simp at heq
    | cons w' ws' =>
      obtain ⟨body', rfl, hbody'⟩ := h' w' List.mem_cons_self
      simp only [List.flatten_cons, List.append_assoc, List.singleton_append] at heq
      obtain ⟨rfl, hrest⟩ := Text.eq_of_append_cons hbody hbody' heq
      rw [ih (fun w hw => h w (List.mem_cons_of_mem _ hw))
        (fun w hw => h' w (List.mem_cons_of_mem _ hw)) hrest]

theorem word_ne_semicolon_of_kind {p : Piece} (h : p.kind ≠ .punctuation) : p.word ≠ semicolon :=
  fun heq => h (congrArg Prod.fst heq)

theorem word_ne_semicolon_of_isMark {p : Piece} {mark : Char} (h : isMark mark p = true)
    (hmark : mark ≠ ';') : p.word ≠ semicolon := by
  rw [isMark_iff_word.1 h, semicolon]
  simpa using hmark

theorem Suffix.mark_ne_semicolon (suffix : Suffix) : suffix.mark ≠ ';' := by
  cases suffix <;> decide

/-- No semicolon stands in a right-hand side. -/
theorem word_ne_semicolon_of_forms {part : Part} {ps : List Piece} (h : part.Forms ps) :
    ∀ p ∈ ps, p.word ≠ semicolon := by
  induction h with
  | name hp | literal hp => simpa using word_ne_semicolon_of_kind (by simp [hp])
  | group hp _ hr ih =>
    have hopen := word_ne_semicolon_of_isMark hp (by decide)
    have hclose := word_ne_semicolon_of_isMark hr (by decide)
    simpa [or_imp, forall_and] using ⟨hopen, ih, hclose⟩
  | nil => simp
  | cons _ _ ihps ihqs => exact List.forall_mem_append.2 ⟨ihps, ihqs⟩
  | suffixed suffix _ hp _ ihps ihqs =>
    have hmark := word_ne_semicolon_of_isMark hp suffix.mark_ne_semicolon
    exact List.forall_mem_append.2 ⟨ihps, List.forall_mem_cons.2 ⟨hmark, ihqs⟩⟩
  | branch _ ih => exact ih
  | divide _ hp _ ihps ihqs =>
    have hbar := word_ne_semicolon_of_isMark hp (by decide)
    exact List.forall_mem_append.2 ⟨ihps, List.forall_mem_cons.2 ⟨hbar, ihqs⟩⟩

/-- A statement ends at its first semicolon. -/
theorem terminated_of_worded [Regex.Engine] [Literal.Decoder] {s : Statement} {w : List Word}
    (h : s.Worded w) : Terminated w := by
  obtain ⟨s', ps, hs, rfl, -⟩ := h
  obtain ⟨o, hforms, -⟩ := hs.exists_outline
  suffices hends : ∃ qs e, ps = qs ++ [e] ∧ isMark ';' e = true ∧ ∀ q ∈ qs, q.word ≠ semicolon by
    obtain ⟨qs, e, rfl, he, hqs⟩ := hends
    refine ⟨qs.map Piece.word, ?_, ?_⟩
    · rw [List.map_append, List.map_singleton, isMark_iff_word.1 he, semicolon]
    · simpa using hqs
  have hother {p : Piece} (h : p.kind ≠ .punctuation) := word_ne_semicolon_of_kind h
  cases o with
  | token n r =>
    obtain ⟨d, e, rfl, hd, -, hn, hr, he⟩ := hforms
    refine ⟨[d, n, r], e, rfl, he, ?_⟩
    simp [hother, hd, hn, hr]
  | ignore r =>
    obtain ⟨d, e, rfl, hd, -, hr, he⟩ := hforms
    refine ⟨[d, r], e, rfl, he, ?_⟩
    simp [hother, hd, hr]
  | start n =>
    obtain ⟨d, e, rfl, hd, -, hn, he⟩ := hforms
    refine ⟨[d, n], e, rfl, he, ?_⟩
    simp [hother, hd, hn]
  | keyword l r =>
    obtain ⟨m, e, rfl, hl, hm, hr, he⟩ := hforms
    have hcolon := word_ne_semicolon_of_isMark hm (by decide)
    refine ⟨[l, m, r], e, rfl, he, ?_⟩
    simp [hother, hl, hcolon, hr]
  | rule n =>
    obtain ⟨m, qs, e, rfl, hn, hm, hbody, he⟩ := hforms
    have hcolon := word_ne_semicolon_of_isMark hm (by decide)
    refine ⟨n :: m :: qs, e, rfl, he, ?_⟩
    refine List.forall_mem_cons.2 ⟨hother (by simp [hn]), List.forall_mem_cons.2 ⟨hcolon, ?_⟩⟩
    exact word_ne_semicolon_of_forms hbody

/-! ## Whole files -/

section

variable [Regex.Engine] [Literal.Decoder]

/-- The words of pieces that spell statements say these statements. -/
theorem exists_worded_of_statementsSpelled {ss : List Statement} {ps : List Piece}
    (h : statementsSpelled ss ps) :
    ∃ ws, List.Forall₂ Statement.Worded (ss.map Statement.unplaced) ws ∧
      (∀ w ∈ ws, Terminated w) ∧ ps.map Piece.word = ws.flatten := by
  induction ss generalizing ps with
  | nil =>
    cases h
    exact ⟨[], .nil, by simp, rfl⟩
  | cons s ss ih =>
    obtain ⟨qs, rs, rfl, hs, hss⟩ := h
    obtain ⟨ws, hws, hterminated, hwords⟩ := ih hss
    have hworded : s.unplaced.Worded (qs.map Piece.word) := ⟨s, qs, hs, rfl, rfl⟩
    refine ⟨qs.map Piece.word :: ws, .cons hworded hws, ?_, ?_⟩
    · exact List.forall_mem_cons.2 ⟨terminated_of_worded hworded, hterminated⟩
    · rw [List.map_append, hwords, List.flatten_cons]

/-- Pieces spell the statements that their words say. -/
theorem exists_statementsSpelled_of_worded {ss : List Statement} {ws : List (List Word)}
    {ps : List Piece} (h : List.Forall₂ Statement.Worded ss ws)
    (hwords : ps.map Piece.word = ws.flatten) :
    ∃ ss', statementsSpelled ss' ps ∧ ss'.map Statement.unplaced = ss := by
  induction h generalizing ps with
  | nil => exact ⟨[], List.map_eq_nil_iff.1 hwords, rfl⟩
  | cons hs _ ih =>
    obtain ⟨qs, rs, rfl, hqs, hrs⟩ := List.map_eq_append_iff.1 hwords
    obtain ⟨s, us, hus, rfl, rfl⟩ := hs
    obtain ⟨s', hs', hplace⟩ := hus.of_words hqs
    obtain ⟨ss', hss', rfl⟩ := ih hrs
    exact ⟨s' :: ss', ⟨qs, rs, rfl, hs', hss'⟩, by rw [List.map_cons, hplace]⟩

end

end Earley.GrammarFile
