/-
Earley.Proofs.GrammarFile.Acceptance — which texts are grammar files.

`Part.Forms` and `Outline.Forms` say by the classes of pieces alone what right-hand sides and
statements look like. What else is asked of a grammar file is a list of conditions on the pieces and
on the names in the statements (`IsFile`). Two of them ask an engine about patterns and a decoder
about literals, and these may be any. Reading asks the conditions at different times: some where a
piece is read, some where a statement ends, and the last ones at the end of the file.

- `compilePiece_eq_ok_iff`: a pattern compiles if the engine has nothing against what is written.
- `Part.spelled_of_forms`, `forms_of_branchesSpelled`: what has the form of a right-hand side is
  spelled by branches, if its literals can be read, and the other way round.
- `Outline.exists_spelled`, `Statement.Spelled.exists_outline`: the same for statements.
- `readAll_of_statementsSpelled`, `nodup_of_readAll`: what is spelled is read just if no token is
  declared twice.
- `read_succeeds_iff`: a text is read just if it is a grammar file.
-/
import Earley.Proofs.GrammarFile.Piece
import Earley.Proofs.GrammarFile.Reading
import Mathlib.Data.List.Forall2

namespace Earley.GrammarFile

open Cursor (isMark)

/-! ## Forms -/

/-- The parts of right-hand sides. -/
inductive Part where
  /-- A name, a literal or a group. -/
  | atom
  /-- Atoms one after the other, each with a suffix or without. -/
  | sequence
  /-- Sequences with bars between them, at least one. -/
  | branches
  deriving DecidableEq, Repr

/-- The pieces have the form of a part of a right-hand side. -/
inductive Part.Forms : Part → List Piece → Prop where
  | name {p : Piece} (hp : p.kind = .name) : Forms .atom [p]
  | literal {p : Piece} (hp : p.kind = .string) : Forms .atom [p]
  | group {p r : Piece} {qs : List Piece} (hp : isMark '(' p = true) (hqs : Forms .branches qs)
      (hr : isMark ')' r = true) : Forms .atom (p :: qs ++ [r])
  | nil : Forms .sequence []
  | cons {ps qs : List Piece} (hps : Forms .atom ps) (hqs : Forms .sequence qs) :
      Forms .sequence (ps ++ qs)
  | suffixed {p : Piece} {ps qs : List Piece} (suffix : Suffix) (hps : Forms .atom ps)
      (hp : isMark suffix.mark p = true) (hqs : Forms .sequence qs) :
      Forms .sequence (ps ++ p :: qs)
  | branch {ps : List Piece} (hps : Forms .sequence ps) : Forms .branches ps
  | divide {p : Piece} {ps qs : List Piece} (hps : Forms .sequence ps) (hp : isMark '|' p = true)
      (hqs : Forms .branches qs) : Forms .branches (ps ++ p :: qs)

/-- The pieces have the form of a term: an atom, and a suffix unless the term is bare. -/
def Term.Forms (t : Term) (ps : List Piece) : Prop :=
  if t.isBare then Part.atom.Forms ps
  else ∃ suffix : Suffix, ∃ qs p, ps = qs ++ [p] ∧ Part.atom.Forms qs ∧
    isMark suffix.mark p = true

theorem Term.Forms.cons {t : Term} {ps qs : List Piece} (ht : t.Forms ps)
    (hqs : Part.sequence.Forms qs) : Part.sequence.Forms (ps ++ qs) := by
  unfold Term.Forms at ht
  split at ht
  · exact .cons ht hqs
  · obtain ⟨suffix, us, p, rfl, hus, hp⟩ := ht
    rw [List.append_assoc]
    exact .suffixed suffix hus hp hqs

/-- A statement of which only the pieces are known that matter. -/
inductive Outline where
  | token (name regex : Piece)
  | ignore (regex : Piece)
  | start (name : Piece)
  | keyword (left right : Piece)
  | rule (head : Piece)
  deriving DecidableEq, Repr

namespace Outline

/-- The pieces have the form of a statement. -/
def Forms : Outline → List Piece → Prop
  | .token n r, ps => ∃ d e, ps = [d, n, r, e] ∧ d.kind = .directive ∧ d.text = "%token" ∧
      n.kind = .name ∧ r.kind = .regex ∧ isMark ';' e = true
  | .ignore r, ps => ∃ d e, ps = [d, r, e] ∧ d.kind = .directive ∧ d.text = "%ignore" ∧
      r.kind = .regex ∧ isMark ';' e = true
  | .start n, ps => ∃ d e, ps = [d, n, e] ∧ d.kind = .directive ∧ d.text = "%start" ∧
      n.kind = .name ∧ isMark ';' e = true
  | .keyword l r, ps => ∃ m e, ps = [l, m, r, e] ∧ l.kind = .string ∧ isMark ':' m = true ∧
      r.kind = .string ∧ isMark ';' e = true
  | .rule n, ps => ∃ m qs e, ps = n :: m :: qs ++ [e] ∧ n.kind = .name ∧ isMark ':' m = true ∧
      Part.branches.Forms qs ∧ isMark ';' e = true

/-- The name of the token that a statement declares. -/
def token? : Outline → Option String
  | .token n _ => some n.text
  | _ => none

/-- The name of the rule that a statement is. -/
def head? : Outline → Option String
  | .rule n => some n.text
  | _ => none

/-- The name that a statement chooses as the start symbol. -/
def start? : Outline → Option String
  | .start n => some n.text
  | _ => none

end Outline

/-- The pieces have the form of statements, one after the other. -/
def outlinesForm : List Outline → List Piece → Prop
  | [], ps => ps = []
  | o :: os, ps => ∃ qs rs, ps = qs ++ rs ∧ o.Forms qs ∧ outlinesForm os rs

theorem scan_eq_ok_iff_splits {src : List Char} {pieces : List Piece} :
    scan src = .ok pieces ↔ Piece.Splits 0 src pieces := by
  rw [← Piece.scan_eq_ok_iff, scan]
  cases Piece.scan src <;> simp

/-! ## What statements declare -/

section

variable {ss : List Statement}

theorem map_name_tokensOf (ss : List Statement) :
    (tokensOf ss).map (·.name) = ss.filterMap Statement.declared? := by
  rw [tokensOf, List.map_filterMap]
  congr 1
  funext s
  cases s <;> rfl

theorem filterMap_declared?_cons (s : Statement) (ss : List Statement) :
    (s :: ss).filterMap Statement.declared? =
      s.declared?.toList ++ ss.filterMap Statement.declared? := by
  cases hs : s.declared? <;> simp [hs]

theorem exists_startOf_iff :
    (∃ start, startOf ss = .ok start) ↔
      ∀ name, ((startsOf ss).map (·.1)).getLast? = some name →
        name ∈ (headsOf ss).map (·.1) := by
  simp only [startOf, List.getLast?_map]
  cases (startsOf ss).getLast? with
  | none => simp
  | some choice =>
    obtain ⟨name, pos⟩ := choice
    by_cases hmem : name ∈ (headsOf ss).map (·.1)
    · simp only [if_pos hmem]
      simpa using hmem
    · simp only [if_neg hmem]
      simpa using hmem

/-- Statements make a grammar file just if no rule has the name of a token, and the start symbol
that was chosen last has a rule. -/
theorem exists_ofStatements_iff :
    (∃ file, ofStatements ss = .ok file) ↔
      (∀ name ∈ (headsOf ss).map (·.1), name ∉ ss.filterMap Statement.declared?) ∧
        ∀ name, ((startsOf ss).map (·.1)).getLast? = some name →
          name ∈ (headsOf ss).map (·.1) := by
  rw [← exists_startOf_iff, ← map_name_tokensOf]
  simp only [ofStatements]
  cases hclash : (headsOf ss).find? (·.1 ∈ (tokensOf ss).map (·.name)) with
  | some head =>
    constructor
    · rintro ⟨file, hfile⟩
      cases hfile
    · rintro ⟨hseparate, -⟩
      have hfound := List.find?_some hclash
      have hname : head.1 ∈ (tokensOf ss).map (·.name) := of_decide_eq_true hfound
      exact absurd hname (hseparate _ (List.mem_map_of_mem (List.mem_of_find?_eq_some hclash)))
  | none =>
    have hseparate : ∀ name ∈ (headsOf ss).map (·.1), name ∉ (tokensOf ss).map (·.name) := by
      intro name hname
      obtain ⟨head, hhead, rfl⟩ := List.mem_map.1 hname
      exact of_decide_eq_false (Bool.eq_false_iff.2 (List.find?_eq_none.1 hclash head hhead))
    constructor
    · rintro ⟨file, hfile⟩
      obtain ⟨start, hstart, -⟩ := exists_of_map_eq_ok hfile
      exact ⟨hseparate, start, hstart⟩
    · rintro ⟨-, start, hstart⟩
      simp only [hstart]
      exact ⟨_, rfl⟩

end

/-! ## Patterns -/

/-- A piece writes a pattern: the text between its slashes, with the flags behind them. -/
def Piece.Writes (p : Piece) (r : Regex) : Prop :=
  ∃ text flags, p.chars = '/' :: (text ++ '/' :: flags) ∧ (∀ c ∈ flags, isFlag c = true) ∧
    r = ⟨String.ofList text, .ofLetters flags⟩

/-- The pieces of a text that are patterns write one. -/
theorem Piece.exists_writes_of_splits {pos : Nat} {src : List Char} {ps : List Piece} {p : Piece}
    (h : Splits pos src ps) (hp : p ∈ ps) (hkind : p.kind = .regex) : ∃ r, p.Writes r := by
  induction h with
  | nil => cases hp
  | skip _ _ ih => exact ih hp
  | piece hpart _ _ ih =>
    rcases List.mem_cons.1 hp with rfl | hp
    · cases hkind
      cases hpart with
      | regex _ _ hflags _ => exact ⟨_, _, _, rfl, hflags, rfl⟩
    · exact ih hp

theorem writtenFlags_eq {text flags : List Char} (hflags : ∀ c ∈ flags, Piece.isFlag c = true) :
    Statement.writtenFlags ('/' :: (text ++ '/' :: flags)) = flags := by
  have hall : ∀ c ∈ flags.reverse, (c != '/') = true := by
    intro c hc
    have hflag := hflags c (List.mem_reverse.1 hc)
    rw [bne_iff_ne]
    rintro rfl
    exact absurd hflag (by decide)
  have hreverse : ('/' :: (text ++ '/' :: flags)).reverse =
      flags.reverse ++ '/' :: (text.reverse ++ ['/']) := by simp
  rw [Statement.writtenFlags, hreverse, List.takeWhile_append_of_pos hall]
  simp

theorem writtenPattern_eq {text flags : List Char} (hflags : ∀ c ∈ flags, Piece.isFlag c = true) :
    Statement.writtenPattern ('/' :: (text ++ '/' :: flags)) = text := by
  have hlength : ('/' :: (text ++ '/' :: flags)).length - 2 - flags.length = text.length := by
    simp only [List.length_cons, List.length_append]
    omega
  rw [Statement.writtenPattern, writtenFlags_eq hflags, hlength, List.drop_succ_cons,
    List.drop_zero, List.take_left]

/-- What a piece writes is compiled if the engine has nothing against it. -/
theorem compilePiece_eq_ok_iff [Regex.Engine] {p : Piece} {r r' : Regex} (h : p.Writes r) :
    Statement.compilePiece p = .ok r' ↔ r.invalid? = none ∧ r' = r := by
  obtain ⟨text, flags, hchars, hflags, rfl⟩ := h
  unfold Statement.compilePiece Regex.compile
  rw [hchars, writtenFlags_eq hflags, writtenPattern_eq hflags]
  dsimp only
  cases (Regex.mk (String.ofList text) (.ofLetters flags)).invalid? with
  | none => simp [eq_comm]
  | some reason => simp

/-! ## Literals -/

/-- What a quoted piece stands for. -/
def Piece.decoded [Literal.Decoder] (p : Piece) : Except Literal.Fault (List Char) :=
  Literal.Decoder.decode p.chars

theorem Piece.literal_eq_ok_iff [Literal.Decoder] {p : Piece} {text : String} :
    p.literal = .ok text ↔ text.toList ≠ [] ∧ p.decoded = .ok text.toList := by
  unfold literal decoded
  split
  next h =>
    rw [h]
    constructor
    · intro hok
      cases hok
    · rintro ⟨-, hok⟩
      cases hok
  next h =>
    rw [h]
    constructor
    · intro hok
      cases hok
    · rintro ⟨hne, hok⟩
      exact absurd (Except.ok.inj hok).symm hne
  next c cs h =>
    rw [h]
    constructor
    · intro hok
      cases hok
      simp
    · rintro ⟨-, hok⟩
      rw [Except.ok.inj hok, String.ofList_toList]

/-! ## Conditions -/

variable [Regex.Engine] [Literal.Decoder]

/-- A text is a grammar file: it splits into the pieces, and these have the form of the
statements. -/
structure IsFile (src : List Char) (pieces : List Piece) (outlines : List Outline) : Prop where
  splits : Piece.Splits 0 src pieces
  forms : outlinesForm outlines pieces
  /-- The engine has nothing against any pattern. -/
  compiles : ∀ p ∈ pieces, p.kind = .regex → ∃ regex, p.Writes regex ∧ regex.invalid? = none
  /-- Every literal stands for a text that is not empty. -/
  decodes : ∀ p ∈ pieces, p.kind = .string → ∃ text, text ≠ [] ∧ p.decoded = .ok text
  /-- The two sides of a keyword stand for the same text. -/
  agree : ∀ l r, Outline.keyword l r ∈ outlines → l.decoded = r.decoded
  /-- No token is declared twice. -/
  distinct : (outlines.filterMap Outline.token?).Nodup
  /-- No rule has the name of a token. -/
  separate : ∀ name ∈ outlines.filterMap Outline.head?, name ∉ outlines.filterMap Outline.token?
  /-- The start symbol that was chosen last has a rule. -/
  start : ∀ name, (outlines.filterMap Outline.start?).getLast? = some name →
    name ∈ outlines.filterMap Outline.head?

/-! ## Pieces that can be read -/

/-- A piece compiles if it is a pattern, and stands for a text if it is a literal. -/
def Piece.Readable (p : Piece) : Prop :=
  (p.kind = .regex → ∃ regex, Statement.compilePiece p = .ok regex) ∧
    (p.kind = .string → ∃ text, p.literal = .ok text)

theorem Piece.readable_of_kind {p : Piece} (hregex : p.kind ≠ .regex) (hstring : p.kind ≠ .string) :
    p.Readable :=
  ⟨fun h => absurd h hregex, fun h => absurd h hstring⟩

theorem Piece.readable_of_isMark {p : Piece} {mark : Char} (h : isMark mark p = true) :
    p.Readable := by
  obtain ⟨hkind, -⟩ := isMark_eq_true_iff.1 h
  exact readable_of_kind (by simp [hkind]) (by simp [hkind])

theorem forall_readable_append {ps qs : List Piece} (hps : ∀ p ∈ ps, p.Readable)
    (hqs : ∀ p ∈ qs, p.Readable) : ∀ p ∈ ps ++ qs, p.Readable :=
  fun p hp => (List.mem_append.1 hp).elim (hps p) (hqs p)

/-! ## Right-hand sides -/

mutual

theorem Term.forms_of_spelled {t : Term} {ps : List Piece} (h : t.Spelled ps) :
    t.Forms ps ∧ ∀ p ∈ ps, p.Readable := by
  match t, h with
  | .name s, h =>
    obtain ⟨p, rfl, hkind, -⟩ := h
    have hp : p.Readable := Piece.readable_of_kind (by simp [hkind]) (by simp [hkind])
    exact ⟨.name hkind, by simpa using hp⟩
  | .literal text, h =>
    obtain ⟨p, rfl, hkind, hliteral⟩ := h
    have hp : p.Readable := ⟨by simp [hkind], fun _ => ⟨text, hliteral⟩⟩
    exact ⟨.literal hkind, by simpa using hp⟩
  | .group branches, h =>
    obtain ⟨p, qs, r, rfl, hp, hbranches, hr⟩ := h
    obtain ⟨hforms, hqs⟩ := forms_of_branchesSpelled hbranches
    have hr' : ∀ q ∈ [r], q.Readable := by simpa using Piece.readable_of_isMark hr
    refine ⟨.group hp hforms hr, List.forall_mem_cons.2 ⟨Piece.readable_of_isMark hp, ?_⟩⟩
    exact forall_readable_append hqs hr'
  | .suffixed suffix t, h =>
    obtain ⟨hbare, qs, p, rfl, ht, hp⟩ := h
    obtain ⟨hforms, hqs⟩ := Term.forms_of_spelled ht
    have hp' : ∀ q ∈ [p], q.Readable := by simpa using Piece.readable_of_isMark hp
    rw [Term.Forms, if_pos hbare] at hforms
    exact ⟨⟨suffix, qs, p, rfl, hforms, hp⟩, forall_readable_append hqs hp'⟩

theorem forms_of_sequenceSpelled {ts : List Term} {ps : List Piece} (h : sequenceSpelled ts ps) :
    Part.sequence.Forms ps ∧ ∀ p ∈ ps, p.Readable := by
  match ts, h with
  | [], h =>
    cases h
    exact ⟨.nil, by simp⟩
  | t :: ts, h =>
    obtain ⟨qs, rs, rfl, ht, hts⟩ := h
    obtain ⟨hfirst, hqs⟩ := Term.forms_of_spelled ht
    obtain ⟨hrest, hrs⟩ := forms_of_sequenceSpelled hts
    exact ⟨hfirst.cons hrest, forall_readable_append hqs hrs⟩

theorem forms_of_branchesSpelled {bs : List (List Term)} {ps : List Piece}
    (h : branchesSpelled bs ps) : Part.branches.Forms ps ∧ ∀ p ∈ ps, p.Readable := by
  match bs, h with
  | [], h => exact absurd h (by simp [branchesSpelled])
  | b :: bs, h =>
    rcases h with ⟨-, hb⟩ | ⟨qs, p, rs, rfl, hb, hp, hbs⟩
    · obtain ⟨hforms, hps⟩ := forms_of_sequenceSpelled hb
      exact ⟨.branch hforms, hps⟩
    · obtain ⟨hfirst, hqs⟩ := forms_of_sequenceSpelled hb
      obtain ⟨hrest, hrs⟩ := forms_of_branchesSpelled hbs
      refine ⟨.divide hfirst hp hrest, forall_readable_append hqs ?_⟩
      exact List.forall_mem_cons.2 ⟨Piece.readable_of_isMark hp, hrs⟩

end

/-- Something of a part's sort is spelled by the pieces. -/
def Part.Spelled : Part → List Piece → Prop
  | .atom, ps => ∃ t : Term, t.isBare = true ∧ t.Spelled ps
  | .sequence, ps => ∃ ts, sequenceSpelled ts ps
  | .branches, ps => ∃ bs, branchesSpelled bs ps

theorem Part.spelled_of_forms {part : Part} {ps : List Piece} (h : part.Forms ps)
    (hps : ∀ p ∈ ps, p.Readable) : part.Spelled ps := by
  induction h with
  | @name p hp => exact ⟨.name p.text, rfl, p, rfl, hp, rfl⟩
  | @literal p hp =>
    obtain ⟨text, htext⟩ := (hps p List.mem_cons_self).2 hp
    exact ⟨.literal text, rfl, p, rfl, hp, htext⟩
  | @group p r qs hp _ hr ih =>
    obtain ⟨bs, hbs⟩ := ih fun q hq => hps q (by simp [hq])
    exact ⟨.group bs, rfl, p, qs, r, rfl, hp, hbs, hr⟩
  | nil => exact ⟨[], rfl⟩
  | @cons ps qs _ _ ihps ihqs =>
    obtain ⟨hps, hqs⟩ := List.forall_mem_append.1 hps
    obtain ⟨t, -, ht⟩ := ihps hps
    obtain ⟨ts, hts⟩ := ihqs hqs
    exact ⟨t :: ts, ps, qs, rfl, ht, hts⟩
  | @suffixed p ps qs suffix _ hp _ ihps ihqs =>
    obtain ⟨hps, hqs⟩ := List.forall_mem_append.1 hps
    obtain ⟨t, hbare, ht⟩ := ihps hps
    obtain ⟨ts, hts⟩ := ihqs (List.forall_mem_cons.1 hqs).2
    exact ⟨.suffixed suffix t :: ts, ps ++ [p], qs, by simp, ⟨hbare, ps, p, rfl, ht, hp⟩, hts⟩
  | branch _ ih =>
    obtain ⟨ts, hts⟩ := ih hps
    exact ⟨[ts], .inl ⟨rfl, hts⟩⟩
  | @divide p ps qs _ hp _ ihps ihqs =>
    obtain ⟨hps, hqs⟩ := List.forall_mem_append.1 hps
    obtain ⟨ts, hts⟩ := ihps hps
    obtain ⟨bs, hbs⟩ := ihqs (List.forall_mem_cons.1 hqs).2
    exact ⟨ts :: bs, .inr ⟨ps, p, qs, rfl, hts, hp, hbs⟩⟩

/-! ## Statements -/

/-- A statement is what an outline says, once its pieces are read. -/
def Outline.Describes : Outline → Statement → Prop
  | .token n r, .token name regex => n.text = name ∧ Statement.compilePiece r = .ok regex
  | .ignore r, .ignore regex => Statement.compilePiece r = .ok regex
  | .start n, .start name pos => n.text = name ∧ n.start = pos
  | .keyword l r, .keyword text => l.literal = .ok text ∧ r.literal = .ok text
  | .rule n, .rule name pos _ => n.text = name ∧ n.start = pos
  | _, _ => False

/-- A statement that is spelled has an outline, and its pieces can be read. -/
theorem Statement.Spelled.exists_outline {s : Statement} {ps : List Piece} (h : s.Spelled ps) :
    ∃ o : Outline, o.Forms ps ∧ o.Describes s ∧ ∀ p ∈ ps, p.Readable := by
  have hother {p : Piece} (hregex : p.kind ≠ .regex) (hstring : p.kind ≠ .string) :=
    Piece.readable_of_kind hregex hstring
  cases s with
  | token name regex =>
    obtain ⟨d, n, r, e, rfl, hd, htext, hn, hname, hr, hregex, he⟩ := h
    refine ⟨.token n r, ⟨d, e, rfl, hd, htext, hn, hr, he⟩, ⟨hname, hregex⟩, ?_⟩
    have hr' : r.Readable := ⟨fun _ => ⟨regex, hregex⟩, by simp [hr]⟩
    simp [hr', Piece.readable_of_isMark he, hother, hd, hn]
  | ignore regex =>
    obtain ⟨d, r, e, rfl, hd, htext, hr, hregex, he⟩ := h
    refine ⟨.ignore r, ⟨d, e, rfl, hd, htext, hr, he⟩, hregex, ?_⟩
    have hr' : r.Readable := ⟨fun _ => ⟨regex, hregex⟩, by simp [hr]⟩
    simp [hr', Piece.readable_of_isMark he, hother, hd]
  | start name pos =>
    obtain ⟨d, n, e, rfl, hd, htext, hn, hname, hpos, he⟩ := h
    refine ⟨.start n, ⟨d, e, rfl, hd, htext, hn, he⟩, ⟨hname, hpos⟩, ?_⟩
    simp [Piece.readable_of_isMark he, hother, hd, hn]
  | keyword text =>
    obtain ⟨l, m, r, e, rfl, hl, hleft, hm, hr, hright, he⟩ := h
    refine ⟨.keyword l r, ⟨m, e, rfl, hl, hm, hr, he⟩, ⟨hleft, hright⟩, ?_⟩
    have hl' : l.Readable := ⟨by simp [hl], fun _ => ⟨text, hleft⟩⟩
    have hr' : r.Readable := ⟨by simp [hr], fun _ => ⟨text, hright⟩⟩
    simp [hl', hr', Piece.readable_of_isMark hm, Piece.readable_of_isMark he]
  | rule name pos branches =>
    obtain ⟨n, m, qs, e, rfl, hn, hname, hpos, hm, hbranches, he⟩ := h
    obtain ⟨hforms, hqs⟩ := forms_of_branchesSpelled hbranches
    refine ⟨.rule n, ⟨m, qs, e, rfl, hn, hm, hforms, he⟩, ⟨hname, hpos⟩, ?_⟩
    have he' : ∀ p ∈ [e], p.Readable := by simpa using Piece.readable_of_isMark he
    refine List.forall_mem_cons.2 ⟨hother (by simp [hn]) (by simp [hn]), ?_⟩
    refine List.forall_mem_cons.2 ⟨Piece.readable_of_isMark hm, ?_⟩
    exact forall_readable_append hqs he'

/-- What has the form of a statement spells one, if its pieces can be read and the two sides of a
keyword agree. -/
theorem Outline.exists_spelled {o : Outline} {ps : List Piece} (h : o.Forms ps)
    (hps : ∀ p ∈ ps, p.Readable)
    (hagree : ∀ l r, o = .keyword l r → l.decoded = r.decoded) :
    ∃ s : Statement, o.Describes s ∧ s.Spelled ps := by
  cases o with
  | token n r =>
    obtain ⟨d, e, rfl, hd, htext, hn, hr, he⟩ := h
    obtain ⟨regex, hregex⟩ := (hps r (by simp)).1 hr
    exact ⟨.token n.text regex, ⟨rfl, hregex⟩, d, n, r, e, rfl, hd, htext, hn, rfl, hr, hregex, he⟩
  | ignore r =>
    obtain ⟨d, e, rfl, hd, htext, hr, he⟩ := h
    obtain ⟨regex, hregex⟩ := (hps r (by simp)).1 hr
    exact ⟨.ignore regex, hregex, d, r, e, rfl, hd, htext, hr, hregex, he⟩
  | start n =>
    obtain ⟨d, e, rfl, hd, htext, hn, he⟩ := h
    exact ⟨.start n.text n.start, ⟨rfl, rfl⟩, d, n, e, rfl, hd, htext, hn, rfl, rfl, he⟩
  | keyword l r =>
    obtain ⟨m, e, rfl, hl, hm, hr, he⟩ := h
    obtain ⟨text, hleft⟩ := (hps l (by simp)).2 hl
    have hright : r.literal = .ok text := by
      rw [Piece.literal_eq_ok_iff, ← hagree l r rfl, ← Piece.literal_eq_ok_iff]
      exact hleft
    exact ⟨.keyword text, ⟨hleft, hright⟩, l, m, r, e, rfl, hl, hleft, hm, hr, hright, he⟩
  | rule n =>
    obtain ⟨m, qs, e, rfl, hn, hm, hforms, he⟩ := h
    have hqs : ∀ p ∈ qs, p.Readable := fun p hp => hps p (by simp [hp])
    obtain ⟨bs, hbs⟩ := Part.spelled_of_forms hforms hqs
    exact ⟨.rule n.text n.start bs, ⟨rfl, rfl⟩, n, m, qs, e, rfl, hn, rfl, rfl, hm, hbs, he⟩

/-! ## Whole files -/

section

variable {os : List Outline} {ss : List Statement} {ps : List Piece} {declared : List String}

theorem exists_outlines_of_statementsSpelled (h : statementsSpelled ss ps) :
    ∃ os, List.Forall₂ Outline.Describes os ss ∧ outlinesForm os ps ∧ ∀ p ∈ ps, p.Readable := by
  induction ss generalizing ps with
  | nil =>
    cases h
    exact ⟨[], .nil, rfl, by simp⟩
  | cons s ss ih =>
    obtain ⟨qs, rs, rfl, hs, hss⟩ := h
    obtain ⟨o, hforms, ho, hqs⟩ := hs.exists_outline
    obtain ⟨os, hos, hrest, hrs⟩ := ih hss
    exact ⟨o :: os, .cons ho hos, ⟨qs, rs, rfl, hforms, hrest⟩, forall_readable_append hqs hrs⟩

theorem exists_statements_of_outlinesForm (h : outlinesForm os ps) (hps : ∀ p ∈ ps, p.Readable)
    (hagree : ∀ l r, .keyword l r ∈ os → l.decoded = r.decoded) :
    ∃ ss, List.Forall₂ Outline.Describes os ss ∧ statementsSpelled ss ps := by
  induction os generalizing ps with
  | nil =>
    cases h
    exact ⟨[], .nil, rfl⟩
  | cons o os ih =>
    obtain ⟨qs, rs, rfl, hforms, hos⟩ := h
    obtain ⟨hqs, hrs⟩ := List.forall_mem_append.1 hps
    obtain ⟨s, ho, hs⟩ := Outline.exists_spelled hforms hqs fun l r heq =>
      hagree l r (heq ▸ List.mem_cons_self)
    obtain ⟨ss, hos, hss⟩ := ih hos hrs fun l r hmem => hagree l r (List.mem_cons_of_mem _ hmem)
    exact ⟨s :: ss, .cons ho hos, qs, rs, rfl, hs, hss⟩

/-- What outlines tell of the statements that they describe, they tell of all of them. -/
theorem filterMap_eq_of_describes {α : Type} {f : Outline → Option α} {g : Statement → Option α}
    (h : List.Forall₂ Outline.Describes os ss) (hfg : ∀ o s, o.Describes s → f o = g s) :
    os.filterMap f = ss.filterMap g := by
  induction h with
  | nil => rfl
  | cons ho _ ih => rw [List.filterMap_cons, List.filterMap_cons, hfg _ _ ho, ih]

theorem token?_eq_of_describes (h : List.Forall₂ Outline.Describes os ss) :
    os.filterMap Outline.token? = ss.filterMap Statement.declared? := by
  refine filterMap_eq_of_describes h fun o s ho => ?_
  cases o <;> cases s <;>
    simp_all [Outline.Describes, Outline.token?, Statement.declared?]

theorem head?_eq_of_describes (h : List.Forall₂ Outline.Describes os ss) :
    os.filterMap Outline.head? = (headsOf ss).map (·.1) := by
  rw [headsOf, List.map_filterMap]
  refine filterMap_eq_of_describes h fun o s ho => ?_
  cases o <;> cases s <;> simp_all [Outline.Describes, Outline.head?]

theorem start?_eq_of_describes (h : List.Forall₂ Outline.Describes os ss) :
    os.filterMap Outline.start? = (startsOf ss).map (·.1) := by
  rw [startsOf, List.map_filterMap]
  refine filterMap_eq_of_describes h fun o s ho => ?_
  cases o <;> cases s <;> simp_all [Outline.Describes, Outline.start?]

/-- The two sides of a keyword that is read agree. -/
theorem agree_of_describes (h : List.Forall₂ Outline.Describes os ss) (l r : Piece)
    (hmem : .keyword l r ∈ os) : l.decoded = r.decoded := by
  induction h with
  | nil => cases hmem
  | @cons o s os ss ho _ ih =>
    rcases List.mem_cons.1 hmem with rfl | hmem
    · cases s <;> try exact ho.elim
      obtain ⟨hleft, hright⟩ := ho
      rw [(Piece.literal_eq_ok_iff.1 hleft).2, (Piece.literal_eq_ok_iff.1 hright).2]
    · exact ih hmem

/-- Statements that are spelled are read, if no token is declared twice. -/
theorem readAll_of_statementsSpelled (h : statementsSpelled ss ps)
    (hdistinct : (declared ++ ss.filterMap Statement.declared?).Nodup) (last size : Nat) :
    Statement.readAll declared ⟨ps, last, size⟩ = .ok ss := by
  induction ss generalizing ps declared last with
  | nil =>
    cases h
    exact Statement.readAll_of_rest_eq_nil rfl
  | cons s ss ih =>
    obtain ⟨qs, rs, rfl, hs, hss⟩ := h
    obtain ⟨p, qs, rfl⟩ := Statement.exists_cons_of_spelled hs
    rw [filterMap_declared?_cons, ← List.append_assoc] at hdistinct
    have hnew : ¬ Statement.Redeclares declared s := by
      rintro ⟨name, hmem, hname⟩
      have hfirst := (List.nodup_append.1 hdistinct).1
      rw [hname] at hfirst
      exact (List.nodup_append.1 hfirst).2.2 name hmem name (by simp) rfl
    obtain ⟨last', hread⟩ := Statement.exists_read_of_spelled hs hnew rs p.stop size
    refine (Statement.readAll_of_rest_eq_cons rfl).trans ?_
    rw [Cursor.past, List.append_eq, hread]
    exact congrArg (Except.map (s :: ·)) (ih hss hdistinct last')

/-- If no token was declared twice before, none is after what has been read. -/
theorem nodup_of_readAll {c : Cursor} (h : Statement.readAll declared c = .ok ss)
    (hdistinct : declared.Nodup) : (declared ++ ss.filterMap Statement.declared?).Nodup := by
  fun_induction Statement.readAll declared c generalizing ss with
  | case1 =>
    cases h
    simpa using hdistinct
  | case2 => cases h
  | case3 declared c p rest hc s c' hread ih =>
    obtain ⟨ss', hrest, rfl⟩ := exists_of_map_eq_ok h
    have hnew : (declared ++ s.declared?.toList).Nodup := by
      cases hname : s.declared? with
      | none => simpa using hdistinct
      | some name =>
        obtain ⟨ps, hps, hs⟩ := Statement.exists_spelled_of_read hread
        have hnot : name ∉ declared := by
          intro hmem
          obtain ⟨e, he⟩ :=
            Statement.read_of_redeclares hs ⟨name, hmem, hname⟩ c'.rest p.stop c.size
          rw [← hps] at he
          cases hread.symm.trans he
        simpa [List.nodup_append] using ⟨hdistinct, fun a ha heq => hnot (heq ▸ ha)⟩
    rw [filterMap_declared?_cons, ← List.append_assoc]
    exact ih hrest hnew

end

/-! ## Texts -/

/-- What is read is a grammar file. -/
theorem exists_isFile_of_read {src : List Char} {file : GrammarFile}
    (h : GrammarFile.read src = .ok file) : ∃ pieces outlines, IsFile src pieces outlines := by
  obtain ⟨pieces, ss, hscan, hall, hfile⟩ := exists_readAll_of_read h
  have hspelled : statementsSpelled ss pieces := spelled_of_readAll hall
  obtain ⟨os, hos, hforms, hreadable⟩ := exists_outlines_of_statementsSpelled hspelled
  obtain ⟨hseparate, hstart⟩ := exists_ofStatements_iff.1 ⟨file, hfile⟩
  have htokens := token?_eq_of_describes hos
  have hheads := head?_eq_of_describes hos
  refine ⟨pieces, os, ?_⟩
  exact
    { splits := scan_eq_ok_iff_splits.1 hscan
      forms := hforms
      compiles := fun p hp hkind => by
        obtain ⟨regex, hregex⟩ := (hreadable p hp).1 hkind
        obtain ⟨r, hr⟩ := Piece.exists_writes_of_splits (scan_eq_ok_iff_splits.1 hscan) hp hkind
        exact ⟨r, hr, ((compilePiece_eq_ok_iff hr).1 hregex).1⟩
      decodes := fun p hp hkind => by
        obtain ⟨text, htext⟩ := (hreadable p hp).2 hkind
        exact ⟨text.toList, Piece.literal_eq_ok_iff.1 htext⟩
      agree := agree_of_describes hos
      distinct := htokens ▸ nodup_of_readAll hall List.nodup_nil
      separate := by rwa [htokens, hheads]
      start := by rwa [start?_eq_of_describes hos, hheads] }

/-- A grammar file is read. -/
theorem exists_read_of_isFile {src : List Char} {pieces : List Piece} {outlines : List Outline}
    (h : IsFile src pieces outlines) : ∃ file, GrammarFile.read src = .ok file := by
  have hreadable : ∀ p ∈ pieces, p.Readable := by
    intro p hp
    refine ⟨fun hkind => ?_, fun hkind => ?_⟩
    · obtain ⟨regex, hregex, hvalid⟩ := h.compiles p hp hkind
      exact ⟨regex, (compilePiece_eq_ok_iff hregex).2 ⟨hvalid, rfl⟩⟩
    · obtain ⟨text, hne, htext⟩ := h.decodes p hp hkind
      exact ⟨String.ofList text, Piece.literal_eq_ok_iff.2 (by simpa using ⟨hne, htext⟩)⟩
  obtain ⟨ss, hos, hspelled⟩ := exists_statements_of_outlinesForm h.forms hreadable h.agree
  have hdistinct := h.distinct
  have hseparate := h.separate
  have hstart := h.start
  rw [token?_eq_of_describes hos] at hdistinct hseparate
  rw [head?_eq_of_describes hos] at hseparate hstart
  rw [start?_eq_of_describes hos] at hstart
  have hall : Statement.readAll [] ⟨pieces, 0, src.length⟩ = .ok ss :=
    readAll_of_statementsSpelled hspelled hdistinct 0 src.length
  obtain ⟨file, hfile⟩ := exists_ofStatements_iff.2 ⟨hseparate, hstart⟩
  exact ⟨file, by simp only [GrammarFile.read, scan_eq_ok_iff_splits.2 h.splits, hall, hfile]⟩

/-- With any engine and any decoder, a text is read just if it is a grammar file, and otherwise
there is an error. -/
theorem read_succeeds_iff (src : List Char) :
    ((∃ file, GrammarFile.read src = .ok file) ↔ ∃ pieces outlines, IsFile src pieces outlines) ∧
      ((∃ e, GrammarFile.read src = .error e) ↔
        ¬ ∃ pieces outlines, IsFile src pieces outlines) := by
  have hread : (∃ file, GrammarFile.read src = .ok file) ↔
      ∃ pieces outlines, IsFile src pieces outlines :=
    ⟨fun ⟨_, hfile⟩ => exists_isFile_of_read hfile,
      fun ⟨_, _, hfile⟩ => exists_read_of_isFile hfile⟩
  refine ⟨hread, ?_⟩
  rw [← hread]
  cases GrammarFile.read src <;> simp

end Earley.GrammarFile
