/-
Earley.Proofs.GrammarFile.Body — which right-hand sides pieces spell.

`Term.Spelled` and its companions say by recursion on terms how right-hand sides are written:
branches with bars between them, groups in parentheses, a suffix behind a name, a literal or a
group. Nothing is said about how they are read. Reading is then shown to be the inverse:

- `exists_read_of_branchesSpelled`: pieces that spell branches are read as these branches. One
  part after the other, a term is added to the innermost group that is open.
- `exists_branchesSpelled_of_read`: branches that are read are spelled by the pieces that are taken.
  What was taken for the groups that are still open is kept by `Level.Taken` and `StackTaken`.
-/
import Earley.GrammarFile.Statement

namespace Earley.GrammarFile

open Cursor (isMark)

/-! ## Marks and outcomes -/

theorem isMark_eq_true_iff {mark : Char} {p : Piece} :
    isMark mark p = true ↔ p.kind = .punctuation ∧ p.chars = [mark] := by
  simp [isMark]

/-- A mapped outcome that is a success comes from a success. -/
theorem exists_of_map_eq_ok {ε α β : Type} {m : Except ε α} {f : α → β} {b : β}
    (h : m.map f = .ok b) : ∃ a, m = .ok a ∧ f a = b := by
  cases m with
  | error e => cases h
  | ok a => exact ⟨a, rfl, Except.ok.inj h⟩

/-! ## Terms and groups -/

/-- The mark of a suffix. -/
def Suffix.mark : Suffix → Char
  | .optional => '?'
  | .star => '*'
  | .plus => '+'

/-- Whether a term may take a suffix: it has none yet. -/
def Term.isBare : Term → Bool
  | .suffixed _ _ => false
  | _ => true

namespace Body

/-- Adds a term to the last branch of a group. -/
def Level.add (l : Level) (t : Term) : Level := ⟨l.branches, t :: l.terms, t.isBare⟩

/-- Adds the terms of a branch to the last branch of a group. -/
def Level.addAll (l : Level) (ts : List Term) : Level := ts.foldl Level.add l

theorem Level.branches_addAll (l : Level) (ts : List Term) :
    (l.addAll ts).branches = l.branches := by
  induction ts generalizing l with
  | nil => rfl
  | cons t ts ih => exact ih (l.add t)

theorem Level.terms_addAll (l : Level) (ts : List Term) :
    (l.addAll ts).terms = ts.reverse ++ l.terms := by
  induction ts generalizing l with
  | nil => rfl
  | cons t ts ih =>
    rw [List.reverse_cons, List.append_assoc]
    exact ih (l.add t)

/-- Adds branches to a group of which the last branch has no terms yet. -/
def Level.extend (l : Level) : List (List Term) → Level
  | [] => l
  | [b] => l.addAll b
  | b :: bs => (l.addAll b).divide.extend bs

theorem Level.finish_extend {l : Level} (hl : l.terms = []) {bs : List (List Term)}
    (hbs : bs ≠ []) : (l.extend bs).finish = l.branches.reverse ++ bs := by
  induction bs generalizing l with
  | nil => exact absurd rfl hbs
  | cons b bs ih =>
    cases bs with
    | nil => simp [extend, finish, branches_addAll, terms_addAll, hl]
    | cons b' bs =>
      have hrest := ih (l := (l.addAll b).divide) rfl (List.cons_ne_nil _ _)
      simp only [extend] at hrest ⊢
      rw [hrest]
      simp [divide, branches_addAll, terms_addAll, hl]

theorem Level.suffix?_add {l : Level} {t : Term} (ht : t.isBare = true) (s : Suffix) :
    (l.add t).suffix? s = some (l.add (.suffixed s t)) := by
  simp only [add, suffix?, ht]
  rfl

end Body

/-! ## Spelling -/

variable [Literal.Decoder]

mutual

/-- The pieces spell a term. -/
def Term.Spelled : Term → List Piece → Prop
  | .name s, ps => ∃ p, ps = [p] ∧ p.kind = .name ∧ p.text = s
  | .literal text, ps => ∃ p, ps = [p] ∧ p.kind = .string ∧ p.literal = .ok text
  | .group branches, ps => ∃ p qs r, ps = p :: qs ++ [r] ∧ isMark '(' p = true ∧
      branchesSpelled branches qs ∧ isMark ')' r = true
  | .suffixed s t, ps => t.isBare = true ∧
      ∃ qs p, ps = qs ++ [p] ∧ t.Spelled qs ∧ isMark s.mark p = true

/-- The pieces spell a branch: its terms one after the other. -/
def sequenceSpelled : List Term → List Piece → Prop
  | [], ps => ps = []
  | t :: ts, ps => ∃ qs rs, ps = qs ++ rs ∧ t.Spelled qs ∧ sequenceSpelled ts rs

/-- The pieces spell some branches, at least one, with bars between them. -/
def branchesSpelled : List (List Term) → List Piece → Prop
  | [], _ => False
  | b :: bs, ps => (bs = [] ∧ sequenceSpelled b ps) ∨
      ∃ qs p rs, ps = qs ++ p :: rs ∧ sequenceSpelled b qs ∧ isMark '|' p = true ∧
        branchesSpelled bs rs

end

theorem ne_nil_of_branchesSpelled {bs : List (List Term)} {ps : List Piece}
    (h : branchesSpelled bs ps) : bs ≠ [] := by
  rintro rfl
  exact h

/-! ## Moves -/

namespace Body

/-- What the piece of a move is. -/
def Move.Spelled : Move → Piece → Prop
  | .push t, p => t.isBare = true ∧ t.Spelled [p]
  | .suffix s, p => isMark s.mark p = true
  | .openGroup, p => isMark '(' p = true
  | .closeGroup, p => isMark ')' p = true
  | .divide, p => isMark '|' p = true
  | .leave, _ => True

theorem spelled_of_move {p : Piece} {m : Move} (h : move p = .ok m) : m.Spelled p := by
  unfold move at h
  split at h
  case h_1 hkind =>
    cases h
    exact ⟨rfl, p, rfl, hkind, rfl⟩
  case h_2 hkind =>
    obtain ⟨text, hliteral, rfl⟩ := exists_of_map_eq_ok h
    exact ⟨rfl, p, rfl, hkind, hliteral⟩
  all_goals cases h
  case h_9 => trivial
  all_goals exact isMark_eq_true_iff.2 ⟨‹_›, ‹_›⟩

theorem move_of_spelled {p : Piece} {m : Move} (h : m.Spelled p) (hm : m ≠ .leave) :
    move p = .ok m := by
  cases m with
  | push t =>
    cases t with
    | name s =>
      obtain ⟨-, q, hq, hkind, rfl⟩ := h
      cases hq
      simp [move, hkind]
    | literal text =>
      obtain ⟨-, q, hq, hkind, hliteral⟩ := h
      cases hq
      simp [move, hkind, hliteral, Except.map]
    | group branches =>
      obtain ⟨-, q, qs, r, hq, -⟩ := h
      simp at hq
    | suffixed s t => exact absurd h.1 Bool.false_ne_true
  | suffix s =>
    obtain ⟨hkind, hchars⟩ := isMark_eq_true_iff.1 h
    cases s <;> simp [move, hkind, hchars, Suffix.mark]
  | openGroup | closeGroup | divide =>
    obtain ⟨hkind, hchars⟩ := isMark_eq_true_iff.1 h
    simp [move, hkind, hchars]
  | leave => exact absurd rfl hm

theorem move_of_semicolon {p : Piece} (h : isMark ';' p = true) : move p = .ok .leave := by
  obtain ⟨hkind, hchars⟩ := isMark_eq_true_iff.1 h
  simp [move, hkind, hchars]

/-! ## Reading what is spelled -/

mutual

/-- The pieces of a term add the term to the innermost group. -/
theorem exists_readFrom_of_spelled {t : Term} {ps : List Piece} (h : t.Spelled ps) (size : Nat)
    (level : Level) (outer : List Level) (last : Nat) (rest : List Piece) :
    ∃ last', readFrom size level outer last (ps ++ rest) =
      readFrom size (level.add t) outer last' rest := by
  match t, h with
  | .name s, h =>
    obtain ⟨p, rfl, hkind, rfl⟩ := h
    have hmove : move p = .ok (.push (.name p.text)) :=
      move_of_spelled ⟨rfl, p, rfl, hkind, rfl⟩ (by simp)
    refine ⟨p.stop, ?_⟩
    simp only [List.singleton_append, readFrom, hmove]
    rfl
  | .literal text, h =>
    obtain ⟨p, rfl, hkind, hliteral⟩ := h
    have hmove : move p = .ok (.push (.literal text)) :=
      move_of_spelled ⟨rfl, p, rfl, hkind, hliteral⟩ (by simp)
    refine ⟨p.stop, ?_⟩
    simp only [List.singleton_append, readFrom, hmove]
    rfl
  | .group branches, h =>
    obtain ⟨p, qs, r, rfl, hp, hbranches, hr⟩ := h
    have hopen : move p = .ok .openGroup := move_of_spelled hp (by simp)
    have hclose : move r = .ok .closeGroup := move_of_spelled hr (by simp)
    obtain ⟨last', hinner⟩ := exists_readFrom_of_branchesSpelled hbranches size .start
      (level :: outer) p.stop (r :: rest)
    have hfinish : (Level.start.extend branches).finish = branches :=
      Level.finish_extend rfl (ne_nil_of_branchesSpelled hbranches)
    refine ⟨r.stop, ?_⟩
    simp only [List.cons_append, List.append_assoc, List.nil_append, readFrom, hopen, hinner,
      hclose, hfinish]
    rfl
  | .suffixed s t, h =>
    obtain ⟨hbare, qs, p, rfl, ht, hp⟩ := h
    have hmove : move p = .ok (.suffix s) := move_of_spelled hp (by simp)
    obtain ⟨last', hinner⟩ := exists_readFrom_of_spelled ht size level outer last (p :: rest)
    refine ⟨p.stop, ?_⟩
    simp only [List.append_assoc, List.singleton_append, hinner, readFrom, hmove,
      Level.suffix?_add hbare]

theorem exists_readFrom_of_sequenceSpelled {ts : List Term} {ps : List Piece}
    (h : sequenceSpelled ts ps) (size : Nat) (level : Level) (outer : List Level) (last : Nat)
    (rest : List Piece) :
    ∃ last', readFrom size level outer last (ps ++ rest) =
      readFrom size (level.addAll ts) outer last' rest := by
  match ts, h with
  | [], h =>
    cases h
    exact ⟨last, rfl⟩
  | t :: ts, h =>
    obtain ⟨qs, rs, rfl, ht, hts⟩ := h
    obtain ⟨last₁, hfirst⟩ := exists_readFrom_of_spelled ht size level outer last (rs ++ rest)
    obtain ⟨last₂, hrest⟩ :=
      exists_readFrom_of_sequenceSpelled hts size (level.add t) outer last₁ rest
    exact ⟨last₂, by rw [List.append_assoc, hfirst, hrest]; rfl⟩

theorem exists_readFrom_of_branchesSpelled {bs : List (List Term)} {ps : List Piece}
    (h : branchesSpelled bs ps) (size : Nat) (level : Level) (outer : List Level) (last : Nat)
    (rest : List Piece) :
    ∃ last', readFrom size level outer last (ps ++ rest) =
      readFrom size (level.extend bs) outer last' rest := by
  match bs, h with
  | [], h => exact absurd h (by simp [branchesSpelled])
  | [b], h =>
    rcases h with ⟨-, hb⟩ | ⟨_, _, _, -, -, -, hbs⟩
    · exact exists_readFrom_of_sequenceSpelled hb size level outer last rest
    · exact absurd hbs (by simp [branchesSpelled])
  | b :: b' :: bs, h =>
    rcases h with ⟨hnil, -⟩ | ⟨qs, p, rs, rfl, hb, hp, hbs⟩
    · cases hnil
    · have hmove : move p = .ok .divide := move_of_spelled hp (by simp)
      obtain ⟨last₁, hfirst⟩ :=
        exists_readFrom_of_sequenceSpelled hb size level outer last (p :: rs ++ rest)
      obtain ⟨last₂, hrest⟩ := exists_readFrom_of_branchesSpelled hbs size
        (level.addAll b).divide outer p.stop rest
      refine ⟨last₂, ?_⟩
      rw [List.append_assoc, hfirst]
      simp only [List.cons_append, readFrom, hmove, hrest]
      rfl

end

/-- Pieces that spell branches, and end with a semicolon, are read as these branches. -/
theorem exists_read_of_branchesSpelled {bs : List (List Term)} {ps : List Piece} {p : Piece}
    (h : branchesSpelled bs ps) (hp : isMark ';' p = true) (rest : List Piece) (last size : Nat) :
    ∃ last', read ⟨ps ++ p :: rest, last, size⟩ = .ok (bs, ⟨p :: rest, last', size⟩) := by
  obtain ⟨last', hread⟩ :=
    exists_readFrom_of_branchesSpelled h size .start [] last (p :: rest)
  have hfinish : (Level.start.extend bs).finish = bs :=
    Level.finish_extend rfl (ne_nil_of_branchesSpelled h)
  refine ⟨last', ?_⟩
  simp only [read, hread, readFrom, move_of_semicolon hp, stop, hfinish]

/-! ## Spelling what is read -/

/-- The pieces that were taken for a group so far. -/
inductive Level.Taken : Level → List Piece → Prop where
  | start : Taken .start []
  | add {l : Level} {ps qs : List Piece} {t : Term} (hl : Taken l ps) (ht : t.Spelled qs) :
      Taken (l.add t) (ps ++ qs)
  | divide {l : Level} {ps : List Piece} {p : Piece} (hl : Taken l ps)
      (hp : isMark '|' p = true) : Taken l.divide (ps ++ [p])

theorem sequenceSpelled_cons_append {t : Term} {ts : List Term} {ps qs : List Piece}
    (ht : t.Spelled ps) (hts : sequenceSpelled ts qs) : sequenceSpelled (t :: ts) (ps ++ qs) :=
  ⟨ps, qs, rfl, ht, hts⟩

/-- A term in front of the first branch. -/
theorem branchesSpelled_cons_append {t : Term} {b : List Term} {bs : List (List Term)}
    {ps qs : List Piece} (ht : t.Spelled ps) (h : branchesSpelled (b :: bs) qs) :
    branchesSpelled ((t :: b) :: bs) (ps ++ qs) := by
  rcases h with ⟨hbs, hb⟩ | ⟨qs, p, rs, rfl, hb, hp, hbs⟩
  · exact .inl ⟨hbs, sequenceSpelled_cons_append ht hb⟩
  · rw [← List.append_assoc]
    exact .inr ⟨ps ++ qs, p, rs, rfl, sequenceSpelled_cons_append ht hb, hp, hbs⟩

/-- What was taken for a group, and what spells the rest of its last branch and more branches, spell
the group together. -/
theorem Level.Taken.extend {l : Level} {ps : List Piece} (h : l.Taken ps) {b : List Term}
    {bs : List (List Term)} {qs : List Piece} (hqs : branchesSpelled (b :: bs) qs) :
    branchesSpelled (l.branches.reverse ++ (l.terms.reverse ++ b) :: bs) (ps ++ qs) := by
  induction h generalizing b bs qs with
  | start => exact hqs
  | @add l ps qs' t _ ht ih =>
    have hrest := ih (branchesSpelled_cons_append ht hqs)
    simpa [Level.add] using hrest
  | @divide l ps p _ hp ih =>
    have hempty : branchesSpelled ([] :: b :: bs) (p :: qs) :=
      .inr ⟨[], p, qs, rfl, rfl, hp, hqs⟩
    have hrest := ih hempty
    simpa [Level.divide] using hrest

theorem Level.Taken.finish {l : Level} {ps : List Piece} (h : l.Taken ps) :
    branchesSpelled l.finish ps := by
  have hempty : branchesSpelled [[]] [] := .inl ⟨rfl, rfl⟩
  have hall := h.extend hempty
  simpa [Level.finish] using hall

/-- A suffix goes to the term that was taken last. -/
theorem Level.Taken.suffix {l l' : Level} {ps : List Piece} {s : Suffix} {p : Piece}
    (h : l.Taken ps) (hl : l.suffix? s = some l') (hp : isMark s.mark p = true) :
    l'.Taken (ps ++ [p]) := by
  cases h with
  | start => cases hl
  | divide => cases hl
  | @add l ps qs t hl' ht =>
    cases hbare : t.isBare with
    | false => simp [Level.suffix?, Level.add, hbare] at hl
    | true =>
      rw [Level.suffix?_add hbare] at hl
      cases hl
      rw [List.append_assoc]
      exact hl'.add ⟨hbare, qs, p, rfl, ht, hp⟩

/-- The pieces that were taken for the groups around the innermost one, which is open. -/
def StackTaken : List Level → List Piece → Prop
  | [], ps => ps = []
  | up :: outer, ps => ∃ qs rs p, ps = qs ++ rs ++ [p] ∧ StackTaken outer qs ∧ up.Taken rs ∧
      isMark '(' p = true

/-- Branches that are read are spelled by the pieces that were taken before and the pieces that are
taken now. -/
theorem exists_branchesSpelled_of_readFrom {size last : Nat} {level : Level} {outer : List Level}
    {ps qs pieces : List Piece} {bs : List (List Term)} {c : Cursor}
    (h : readFrom size level outer last pieces = .ok (bs, c)) (hs : StackTaken outer ps)
    (hl : level.Taken qs) :
    ∃ rs, pieces = rs ++ c.rest ∧ branchesSpelled bs (ps ++ qs ++ rs) := by
  have hstop {level : Level} {outer : List Level} {ps qs : List Piece} {c' : Cursor}
      (h : stop level outer c' = .ok (bs, c)) (hs : StackTaken outer ps) (hl : level.Taken qs) :
      ∃ rs, c'.rest = rs ++ c.rest ∧ branchesSpelled bs (ps ++ qs ++ rs) := by
    cases outer with
    | nil =>
      cases h
      cases hs
      exact ⟨[], rfl, by simpa using hl.finish⟩
    | cons => cases h
  fun_induction readFrom size level outer last pieces generalizing ps qs with
  | case1 => exact hstop h hs hl
  | case2 => cases h
  | case3 level outer last p rest t hmove ih =>
    obtain ⟨hbare, ht⟩ := spelled_of_move hmove
    have hadd : level.push t = level.add t := by simp [Level.push, Level.add, hbare]
    obtain ⟨rs, rfl, hbs⟩ := ih h hs (hadd ▸ hl.add ht)
    exact ⟨p :: rs, rfl, by simpa using hbs⟩
  | case4 level outer last p rest hmove ih =>
    obtain ⟨rs, rfl, hbs⟩ := ih h hs (hl.divide (spelled_of_move hmove))
    exact ⟨p :: rs, rfl, by simpa using hbs⟩
  | case5 level outer last p rest hmove ih =>
    have hs' : StackTaken (level :: outer) (ps ++ qs ++ [p]) :=
      ⟨ps, qs, p, rfl, hs, hl, spelled_of_move hmove⟩
    obtain ⟨rs, rfl, hbs⟩ := ih h hs' .start
    exact ⟨p :: rs, rfl, by simpa using hbs⟩
  | case6 => exact hstop h hs hl
  | case7 level last p rest hmove up outer ih =>
    -- the innermost group ends, and becomes a term of the group around it
    obtain ⟨us, vs, o, rfl, hs, hup, ho⟩ := hs
    have hgroup : (Term.group level.finish).Spelled (o :: qs ++ [p]) :=
      ⟨o, qs, p, rfl, ho, hl.finish, spelled_of_move hmove⟩
    obtain ⟨rs, rfl, hbs⟩ := ih h hs (hup.add hgroup)
    exact ⟨p :: rs, rfl, by simpa using hbs⟩
  | case8 level outer last p rest s hmove level' hsuffix ih =>
    obtain ⟨rs, rfl, hbs⟩ := ih h hs (hl.suffix hsuffix (spelled_of_move hmove))
    exact ⟨p :: rs, rfl, by simpa using hbs⟩
  | case9 => exact hstop h hs hl
  | case10 => exact hstop h hs hl

/-- Branches that are read are spelled by the pieces that are taken. -/
theorem exists_branchesSpelled_of_read {c c' : Cursor} {bs : List (List Term)}
    (h : read c = .ok (bs, c')) : ∃ ps, c.rest = ps ++ c'.rest ∧ branchesSpelled bs ps := by
  have hs : StackTaken [] [] := rfl
  exact exists_branchesSpelled_of_readFrom h hs .start

end Body

end Earley.GrammarFile
