/-
Earley.Proofs.Lexer.Tracking — lines and columns are those of the offsets.

A lexer carries a line and its beginning along, and looks for line feeds only in what it passes
over. Lexing by offsets alone (`cut`) carries neither. What both say agrees, when the line and the
column of an offset are computed from the whole text before it. Nothing is assumed of the lexer: an
empty literal may be taken forever, and a match may end behind the text, where nothing more begins.

- `lineStart_add_lastLine`: where the line of an offset begins.
- `Place.Tracks.advance`: a place stays right as long as it lies in the text.
- `tracks_next`: what one step takes, and where.
- `take_tracked`: the lexemes and the fault of a whole text, however many are asked for.
-/
import Earley.Proofs.Lexer.Lossless

namespace Earley.Lexer

variable {lx : Lexer} {text : Array Char} {line : Int} {pos stop : Nat}

/-! ## Lines of offsets -/

/-- The offset just behind the last line feed before an offset, or 0 if there is none. -/
def lineStart (text : Array Char) : (pos : Nat) → Nat
  | 0 => 0
  | pos + 1 => if text[pos]? = some '\n' then pos + 1 else lineStart text pos

theorem lineStart_add_lastLine (h : pos ≤ text.size) :
    lineStart text pos + (Text.lastLine (text.toList.take pos)).length = pos := by
  induction pos with
  | zero => rfl
  | succ pos ih =>
    have hlt : pos < text.toList.length := h
    have hchar : text[pos]? = some text.toList[pos] := by
      rw [← Array.getElem?_toList, List.getElem?_eq_getElem hlt]
    rw [lineStart, hchar, List.take_succ_eq_append_getElem hlt]
    by_cases hfeed : text.toList[pos] = '\n'
    · rw [if_pos (congrArg some hfeed), hfeed, Text.lastLine_append_of_mem _ (by simp)]
      rfl
    · have hnot : '\n' ∉ [text.toList[pos]] := by simpa using Ne.symm hfeed
      rw [if_neg (by simpa using hfeed), Text.lastLine_append_of_notMem _ hnot, List.length_append,
        List.length_singleton, ← Nat.add_assoc, ih (Nat.le_of_lt h)]

/-- The line and the column of an offset in a text that begins on the given line, computed from the
whole text before it. -/
structure LiesAt (text : Array Char) (line : Int) (pos : Nat) (l : Int) (column : Nat) : Prop where
  line_eq : l = line + (text.toList.take pos).count '\n'
  column_eq : column = pos - lineStart text pos + 1

theorem Place.Exact.liesAt {p : Place} (hp : p.Exact text line) :
    LiesAt text line p.pos p.line p.column where
  line_eq := hp.line_eq
  column_eq := by
    have hstart := hp.lineStart_add
    have hdirect := lineStart_add_lastLine hp.pos_le
    rw [Place.column]
    omega

/-- The place is that of its offset, if that lies in the text. -/
def Place.Tracks (text : Array Char) (line : Int) (p : Place) : Prop :=
  p.pos ≤ text.size → p.Exact text line

theorem Place.Tracks.advance {p : Place} (hp : p.Tracks text line) (hle : p.pos ≤ stop) :
    (p.advance text stop).Tracks text line := by
  intro hstop
  rw [Place.pos_advance] at hstop
  exact (hp (Nat.le_trans hle hstop)).advance hle hstop

/-! ## Lexing by offsets -/

theorem le_skip (ignores : List Pattern) (text : Array Char) (pos : Nat) :
    pos ≤ skip ignores text pos := by
  fun_induction skip ignores text pos with
  | case1 pos _ e hend ih => exact Nat.le_trans (Nat.le_of_lt (lt_of_ignoredEnd? hend)) ih
  | case2 => exact Nat.le_refl _
  | case3 => exact Nat.le_refl _

theorem le_of_longest {kind : String} (h : lx.longest text pos = (some kind, stop)) :
    pos ≤ stop := by
  rcases longest_eq_some h with ⟨-, -, rfl⟩ | ⟨t, -, -, -, hlt⟩
  · exact Nat.le_add_right _ _
  · exact Nat.le_of_lt hlt

/-- The spans of the lexemes from an offset on, at most `limit` of them, and the offset of the fault
that stopped before the limit was reached. -/
def cutFrom (lx : Lexer) (text : Array Char) : (limit : Nat) → (pos : Nat) → List Span × Option Nat
  | 0, _ => ([], none)
  | limit + 1, pos =>
    let here := skip lx.ignores text pos
    if here < text.size then
      match lx.longest text here with
      | (none, _) => ([], some here)
      | (some _, stop) =>
        let (spans, fault) := cutFrom lx text limit stop
        (⟨here, stop⟩ :: spans, fault)
    else ([], none)

/-- The spans of the first lexemes of a text, and the offset of the fault. -/
def cut (lx : Lexer) (limit : Nat) (text : String) : List Span × Option Nat :=
  lx.cutFrom text.toList.toArray limit 0

/-- The lexeme is what is taken at its span, and it has the text, the line and the column of the
span. -/
structure Tracked (lx : Lexer) (text : Array Char) (line : Int) (s : Span) (l : Lexeme) : Prop where
  taken : lx.longest text s.start = (some l.kind, s.stop)
  text_eq : l.text = String.ofList (slice text s.start s.stop)
  liesAt : LiesAt text line s.start l.line l.column

/-- The fault reports the character at an offset, where nothing is taken, with its line and
column. -/
structure TrackedFault (lx : Lexer) (text : Array Char) (line : Int) (pos : Nat) (f : Fault) :
    Prop where
  nothing : (lx.longest text pos).1 = none
  char_eq : text[pos]? = some f.char
  liesAt : LiesAt text line pos f.line f.column

/-- What a step comes upon behind what is to be ignored: the end of the text, a fault, or a lexeme
with the place behind it. -/
theorem tracks_next (lx : Lexer) {place : Place} {here : Nat} (hplace : place.Tracks text line)
    (hskip : skip lx.ignores text place.pos = here) :
    (¬ here < text.size ∧ lx.next text place = .done) ∨
    (here < text.size ∧ ∃ f, TrackedFault lx text line here f ∧ lx.next text place = .stuck f) ∨
    (here < text.size ∧ ∃ l after, Tracked lx text line ⟨here, after.pos⟩ l ∧
      after.Tracks text line ∧ lx.next text place = .lexeme l after) := by
  have hadvance : (place.advance text here).Tracks text line :=
    hplace.advance (hskip ▸ le_skip _ _ _)
  have hpos : (place.advance text here).pos = here := Place.pos_advance text place here
  rw [next, hskip]
  generalize place.advance text here = there at hadvance hpos ⊢
  subst hpos
  by_cases hsize : there.pos < text.size
  · have hexact : LiesAt text line there.pos there.line there.column :=
      (hadvance (Nat.le_of_lt hsize)).liesAt
    rw [Array.getElem?_eq_getElem hsize]
    rcases hlongest : lx.longest text there.pos with ⟨_ | kind, stop⟩
    · refine .inr (.inl ⟨hsize, _, ⟨?_, Array.getElem?_eq_getElem hsize, hexact⟩, rfl⟩)
      rw [hlongest]
    · refine .inr (.inr ⟨hsize, _, _, ?_, hadvance.advance (le_of_longest hlongest), rfl⟩)
      rw [Place.pos_advance]
      exact ⟨hlongest, rfl, hexact⟩
  · rw [Array.getElem?_eq_none (Nat.not_lt.1 hsize)]
    exact .inl ⟨hsize, rfl⟩

/-! ## Runs -/

theorem tracked_takeFrom (limit : Nat) {place : Place} (hplace : place.Tracks text line) :
    List.Forall₂ (Tracked lx text line) (lx.cutFrom text limit place.pos).1
        (lx.takeFrom text limit place).1 ∧
      Option.Rel (TrackedFault lx text line) (lx.cutFrom text limit place.pos).2
        (lx.takeFrom text limit place).2 := by
  induction limit generalizing place with
  | zero => exact ⟨.nil, .none⟩
  | succ limit ih =>
    rw [cutFrom, takeFrom]
    rcases tracks_next lx hplace rfl with
      ⟨hsize, hnext⟩ | ⟨hsize, f, hf, hnext⟩ | ⟨hsize, l, after, hl, hafter, hnext⟩
    · simp only [if_neg hsize, hnext]
      exact ⟨.nil, .none⟩
    · have hnothing : lx.longest text (skip lx.ignores text place.pos) =
          (none, (lx.longest text (skip lx.ignores text place.pos)).2) := Prod.ext hf.nothing rfl
      simp only [if_pos hsize, hnext]
      rw [hnothing]
      exact ⟨.nil, .some hf⟩
    · obtain ⟨hrest, hfault⟩ := ih hafter
      simp only [if_pos hsize, hnext, hl.taken]
      exact ⟨.cons hl hrest, hfault⟩

/-- Whatever the lexer, the text and the line that it begins on, each lexeme has the line and the
column of the offset where it begins, and so has the fault. -/
theorem take_tracked (lx : Lexer) (text : String) (line : Int) (limit : Nat) :
    List.Forall₂ (Tracked lx text.toList.toArray line) (lx.cut limit text).1
        (lx.take limit text line).1 ∧
      Option.Rel (TrackedFault lx text.toList.toArray line) (lx.cut limit text).2
        (lx.take limit text line).2 :=
  tracked_takeFrom limit fun _ => Place.exact_zero _ line

end Earley.Lexer
