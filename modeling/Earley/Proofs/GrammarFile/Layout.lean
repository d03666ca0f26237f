/-
Earley.Proofs.GrammarFile.Layout — how a grammar file is laid out does not matter.

What counts of a text are the words that it splits into (`Cuts`), at whatever offset it stands.
Blanks behind a piece leave these as they are: they end a name, and they neither open nor close a
comment. And files with the same words are read alike.

- `cuts_of_splits`: a text splits into the same words wherever it stands.
- `cuts_insert`, `cuts_append`: blanks behind a piece, and at the end, make no difference.
- `read_layout`: a file may be laid out in any way that keeps its words.
-/
import Earley.GrammarFile.Escape
import Earley.Proofs.GrammarFile.Places
import Earley.Regex.Backtracking

namespace Earley.GrammarFile

open Piece (Formed RunEnds Skipped Splits)
open Text (isBlank)

/-! ## Words of a text -/

/-- The characters are blanks. -/
def Blank (cs : List Char) : Prop := ∀ d ∈ cs, isBlank d = true

/-- At any offset, the text splits into pieces with these words. -/
def Cuts (cs : List Char) (ws : List Word) : Prop :=
  ∀ pos, ∃ ps, Splits pos cs ps ∧ ps.map Piece.word = ws

section

variable {cs part rest gap front back : List Char} {kind : PieceKind} {ws : List Word}
  {pos : Nat} {ps : List Piece}

theorem blank_nil : Blank [] := List.forall_mem_nil _

theorem cuts_nil : Cuts [] [] := fun _ => ⟨[], .nil, rfl⟩

theorem Cuts.skip (h : Cuts rest ws) (hpart : Skipped part rest) : Cuts (part ++ rest) ws := by
  intro pos
  obtain ⟨ps, hps, hwords⟩ := h (pos + part.length)
  exact ⟨ps, .skip hpart hps, hwords⟩

/-- A piece in front of a text is cut off where nothing can be skipped. -/
theorem Cuts.cons (h : Cuts rest ws) (hpart : Formed kind part rest)
    (hskip : ∀ part' rest', part ++ rest = part' ++ rest' → ¬ Skipped part' rest') :
    Cuts (part ++ rest) ((kind, part) :: ws) := by
  intro pos
  obtain ⟨ps, hps, rfl⟩ := h (pos + part.length)
  exact ⟨⟨kind, part, pos⟩ :: ps, .piece hpart hskip hps, rfl⟩

theorem Cuts.blanks (h : Cuts rest ws) (hgap : Blank gap) : Cuts (gap ++ rest) ws := by
  induction gap with
  | nil => exact h
  | cons c gap ih =>
    intro pos
    obtain ⟨hc, hgap⟩ := List.forall_mem_cons.1 hgap
    obtain ⟨ps, hps, hwords⟩ := ih hgap (pos + 1)
    exact ⟨ps, hps.blank_cons hc, hwords⟩

/-- A text splits into the same words wherever it stands. -/
theorem cuts_of_splits (h : Splits pos cs ps) : Cuts cs (ps.map Piece.word) := by
  induction h with
  | nil => exact cuts_nil
  | skip hpart _ ih => exact ih.skip hpart
  | piece hpart hskip _ ih => exact ih.cons hpart hskip

/-! ## Blanks in a text -/

/-- Where nothing can be skipped, nothing can be skipped either if blanks stand farther on. -/
theorem not_skipped_insert (hgap : Blank gap) (hfront : front ≠ [])
    (hskip : ∀ part' rest', front ++ back = part' ++ rest' → ¬ Skipped part' rest') :
    ∀ part' rest', front ++ (gap ++ back) = part' ++ rest' → ¬ Skipped part' rest' := by
  obtain ⟨c, front, rfl⟩ := List.exists_cons_of_ne_nil hfront
  have hnone := Piece.skip?_eq_none_iff.2 hskip
  exact Piece.skip?_eq_none_iff.1 (Piece.skip?_insert_eq_none hgap hnone)

/-- A part before the end of a piece lies in front of it, and something stands between them. -/
theorem exists_between {p : Piece} (hrest : Splits (pos + part.length) rest ps) (hp : p ∈ ps)
    (hstop : p.stop = pos + front.length) (hcs : front ++ back = part ++ rest) :
    ∃ between, front = part ++ between ∧ rest = between ++ back ∧ between ≠ [] := by
  have hlt := hrest.lt_stop hp
  rcases List.append_eq_append_iff.1 hcs with ⟨as, rfl, -⟩ | ⟨between, rfl, rfl⟩
  · rw [List.length_append] at hlt
    omega
  · refine ⟨between, rfl, rfl, ?_⟩
    rintro rfl
    rw [List.append_nil] at hstop
    omega

/-- Blanks behind a piece make no difference. -/
theorem cuts_insert (h : Splits pos (front ++ back) ps)
    (hstop : ∃ p ∈ ps, p.stop = pos + front.length) (hgap : Blank gap) :
    Cuts (front ++ (gap ++ back)) (ps.map Piece.word) := by
  obtain ⟨p, hp, hstop⟩ := hstop
  generalize hcs : front ++ back = cs at h
  induction h generalizing front with
  | nil => cases hp
  | @skip pos part rest ps hpart hrest ih =>
    obtain ⟨between, rfl, rfl, hne⟩ := exists_between hrest hp hstop hcs
    rw [List.length_append, ← Nat.add_assoc] at hstop
    rw [List.append_assoc]
    refine (ih hp hstop rfl).skip (hpart.congr ?_)
    rw [List.head?_append_of_ne_nil _ hne, List.head?_append_of_ne_nil _ hne]
  | @piece pos kind part rest ps hpart hskip hrest ih =>
    rcases List.mem_cons.1 hp with rfl | hp
    · obtain ⟨rfl, rfl⟩ := List.append_inj hcs (Nat.add_left_cancel hstop).symm
      obtain ⟨c, cs, rfl⟩ := hpart.exists_cons
      refine ((cuts_of_splits hrest).blanks hgap).cons (hpart.congr fun d hd => ?_)
        (not_skipped_insert hgap (List.cons_ne_nil c cs) hskip)
      rcases gap with _ | ⟨b, gap⟩
      · exact .inl hd
      · cases hd
        exact .inr (hgap _ List.mem_cons_self)
    · obtain ⟨between, rfl, rfl, hne⟩ := exists_between hrest hp hstop hcs
      rw [List.length_append, ← Nat.add_assoc] at hstop
      rw [← List.append_assoc] at hskip
      have hskip' := not_skipped_insert hgap (List.append_ne_nil_of_right_ne_nil part hne) hskip
      rw [List.append_assoc] at hskip' ⊢
      refine (ih hp hstop rfl).cons (hpart.congr fun d hd => ?_) hskip'
      rw [List.head?_append_of_ne_nil _ hne] at hd ⊢
      exact .inl hd

theorem cuts_of_blank (hgap : Blank gap) : Cuts gap [] := by
  have hcuts := cuts_nil.blanks hgap
  rwa [List.append_nil] at hcuts

/-- What is skipped at the end of a text goes on with blanks behind it, or they are skipped too. -/
theorem cuts_append_of_skipped (hpart : Skipped part []) (hgap : Blank gap) :
    Cuts (part ++ gap) [] := by
  cases hpart with
  | @blanks c cs _ hc hcs =>
    have hpart : Blank (c :: cs) := List.forall_mem_cons.2 ⟨hc, hcs⟩
    exact cuts_of_blank (List.forall_mem_append.2 ⟨hpart, hgap⟩)
  | @lineComment cs _ hcs =>
    obtain ⟨run, rest, rfl, -, hrun, hend⟩ := Piece.exists_run (· != '\n') gap
    have hline : Skipped ('/' :: '/' :: (cs ++ run)) rest :=
      .lineComment (List.forall_mem_append.2 ⟨hcs, hrun⟩) hend
    have hcuts := (cuts_of_blank (List.forall_mem_append.1 hgap).2).skip hline
    simpa using hcuts
  | blockComment hcs => exact (cuts_of_blank hgap).skip (.blockComment hcs)

/-- Blanks at the end of a text make no difference. -/
theorem cuts_append (h : Splits pos cs ps) (hgap : Blank gap) :
    Cuts (cs ++ gap) (ps.map Piece.word) := by
  induction h with
  | nil => exact cuts_of_blank hgap
  | @skip pos part rest ps hpart hrest ih =>
    rw [List.append_assoc]
    rcases rest with _ | ⟨c, rest⟩
    · cases (Piece.scanFrom_of_splits hrest).symm.trans Piece.scanFrom_nil
      exact cuts_append_of_skipped hpart hgap
    · exact ih.skip (hpart.congr rfl)
  | @piece pos kind part rest ps hpart hskip hrest ih =>
    obtain ⟨c, cs, rfl⟩ := hpart.exists_cons
    have hskip' : ∀ part' rest', c :: cs ++ rest ++ (gap ++ []) = part' ++ rest' →
        ¬ Skipped part' rest' :=
      not_skipped_insert hgap (List.cons_ne_nil c (cs ++ rest)) (by rwa [List.append_nil])
    rw [List.append_nil, List.append_assoc] at hskip'
    rw [List.append_assoc]
    refine ih.cons (hpart.congr fun d hd => ?_) hskip'
    rcases rest with _ | ⟨e, rest⟩
    · exact .inr (hgap d (List.mem_of_head? hd))
    · exact .inl hd

end

/-! ## Whole files -/

/-- Blanks at the beginning of a text, behind a piece of it and at its end make no difference to the
words that it splits into. -/
theorem exists_scan_insert {src gap : List Char} {pieces : List Piece} {k : Nat}
    (hscan : scan src = .ok pieces)
    (hk : k = 0 ∨ (∃ p ∈ pieces, p.stop = k) ∨ k = src.length) (hgap : Blank gap) :
    ∃ pieces', scan (src.take k ++ gap ++ src.drop k) = .ok pieces' ∧
      pieces'.map Piece.word = pieces.map Piece.word := by
  have hsplits : Splits 0 src pieces := scan_eq_ok_iff_splits.1 hscan
  have hcuts : Cuts (src.take k ++ gap ++ src.drop k) (pieces.map Piece.word) := by
    rcases hk with rfl | ⟨p, hp, rfl⟩ | rfl
    · exact (cuts_of_splits hsplits).blanks hgap
    · have hle : p.stop ≤ src.length := by simpa using hsplits.stop_le hp
      rw [List.append_assoc]
      refine cuts_insert (List.take_append_drop p.stop src ▸ hsplits) ⟨p, hp, ?_⟩ hgap
      rw [List.length_take, Nat.min_eq_left hle, Nat.zero_add]
    · rw [List.take_length, List.drop_length, List.append_nil]
      exact cuts_append hsplits hgap
  obtain ⟨pieces', hsplits', hwords⟩ := hcuts 0
  exact ⟨pieces', scan_eq_ok_iff_splits.2 hsplits', hwords⟩

/-- The layout of a file does not matter. Blanks may be inserted in front of its pieces, behind each
of them and at its end; it splits into the same words. And whatever stands between the words of
another file, it is read as the same declarations, or both are refused for the same reason. -/
theorem read_layout [Regex.Engine] [Literal.Decoder] {src : List Char} {pieces : List Piece}
    (hscan : scan src = .ok pieces) :
    (∀ k gap, k = 0 ∨ (∃ p ∈ pieces, p.stop = k) ∨ k = src.length → Blank gap →
        ∃ pieces', scan (src.take k ++ gap ++ src.drop k) = .ok pieces' ∧
          pieces'.map Piece.word = pieces.map Piece.word) ∧
      ∀ src' pieces', scan src' = .ok pieces' →
        pieces'.map Piece.word = pieces.map Piece.word →
        (∃ f, GrammarFile.read src = .ok f ∧ GrammarFile.read src' = .ok f) ∨
          ∃ e e', GrammarFile.read src = .error e ∧ GrammarFile.read src' = .error e' ∧
            e'.unplaced = e.unplaced := by
  refine ⟨fun k gap => exists_scan_insert hscan, fun src' pieces' hscan' hwords => ?_⟩
  have halike := read_alike hscan hscan' hwords
  generalize GrammarFile.read src = m at halike ⊢
  generalize GrammarFile.read src' = m' at halike ⊢
  cases halike with
  | error he => exact .inr ⟨_, _, rfl, rfl, he⟩
  | @ok f f' heq => exact .inl ⟨f, rfl, by rw [heq]⟩

/-- A comment may hold what looks like the end of a rule. -/
theorem read_layout_comments :
    ∃ f, GrammarFile.read "S:A;//x".toList = .ok f ∧
      GrammarFile.read "S /*;*/: A\n;".toList = .ok f := by
  have hscan : scan "S:A;//x".toList = .ok [⟨.name, ['S'], 0⟩, ⟨.punctuation, [':'], 1⟩,
      ⟨.name, ['A'], 2⟩, ⟨.punctuation, [';'], 3⟩] := by
    decide +kernel
  have hscan' : scan "S /*;*/: A\n;".toList = .ok [⟨.name, ['S'], 0⟩, ⟨.punctuation, [':'], 7⟩,
      ⟨.name, ['A'], 9⟩, ⟨.punctuation, [';'], 11⟩] := by
    decide +kernel
  have hok : (GrammarFile.read "S:A;//x".toList).isOk = true := by decide +kernel
  rcases (read_layout hscan).2 _ _ hscan' rfl with hboth | ⟨e, e', he, -, -⟩
  · exact hboth
  · rw [he] at hok
    cases hok

end Earley.GrammarFile
