/-
Earley.Proofs.Location — the line and the column of an offset.

`LiesAt` says what line and column mean in terms of the lines that a text splits into at its line
feeds: so many whole lines, and so many characters, stand before the offset.

- `liesAt_ofOffset`: the place that is computed for an offset is where the offset lies.
- `liesAt_iff`: an offset lies at no other place, and `eq_of_ofOffset_eq`: no other offset lies
  there.
- `located_eq_placed`: a located message shows that place, and the line that is there.
- `eq_of_located_eq`: the offset can be told from such a message.
-/
import Earley.Text.Location
import Std.Data.String.ToNat

namespace Earley.Text

/-! ## Last lines -/

/-- A text without line feeds is one line. -/
theorem lastLine_of_notMem {s : List Char} (h : '\n' ∉ s) : lastLine s = s := by
  simpa [lastLine] using lastLine_append_of_notMem [] h

theorem lastLine_cons (c : Char) (cs : List Char) :
    lastLine (c :: cs) = if c = '\n' ∨ '\n' ∈ cs then lastLine cs else c :: cs := by
  by_cases hcs : '\n' ∈ cs
  · rw [if_pos (.inr hcs)]
    exact lastLine_append_of_mem [c] hcs
  · have hlast : lastLine (c :: cs) = lastLine [c] ++ cs := lastLine_append_of_notMem [c] hcs
    rw [hlast, lastLine_of_notMem hcs]
    by_cases hc : c = '\n'
    · subst hc
      rfl
    · simp [lastLine, hc, hcs]

/-! ## Splitting at line feeds -/

theorem splitOn_cons_lineFeed (cs : List Char) :
    ('\n' :: cs).splitOn '\n' = [] :: cs.splitOn '\n' := by
  simp [List.splitOn, List.splitOnP_cons_eq_if_modifyHead]

theorem splitOn_cons_of_ne {c : Char} (hc : c ≠ '\n') (cs : List Char) :
    (c :: cs).splitOn '\n' = (cs.splitOn '\n').modifyHead (c :: ·) := by
  simp [List.splitOn, List.splitOnP_cons_eq_if_modifyHead, hc]

theorem head?_splitOn (cs : List Char) :
    (cs.splitOn '\n').head? = some (cs.takeWhile (· != '\n')) := by
  induction cs with
  | nil => rfl
  | cons c cs ih =>
    by_cases hc : c = '\n'
    · subst hc
      rfl
    · rw [splitOn_cons_of_ne hc, List.head?_modifyHead, ih]
      simp [hc]

/-! ## Places of offsets -/

/-- The offset `pos` lies on the line of the text that has the number `line` and is `l`, either at
the character with the number `column` or right behind the last one. Both numbers count from 1. -/
structure LiesAt (src : List Char) (pos line column : Nat) (l : List Char) : Prop where
  line_pos : 0 < line
  line_eq : (src.splitOn '\n')[line - 1]? = some l
  column_pos : 0 < column
  column_le : column ≤ l.length + 1
  pos_eq : pos =
    (((src.splitOn '\n').take (line - 1)).flatMap (· ++ ['\n'])).length + (column - 1)

/-- An offset of a text lies at the place that is computed for it. -/
theorem liesAt_ofOffset {src : List Char} {pos : Nat} (h : pos ≤ src.length) :
    LiesAt src pos (Location.ofOffset src pos).line (Location.ofOffset src pos).column
      (lineAt src pos) := by
  suffices hlies : (src.splitOn '\n')[(src.take pos).count '\n']? = some (lineAt src pos) ∧
      pos = (((src.splitOn '\n').take ((src.take pos).count '\n')).flatMap (· ++ ['\n'])).length +
        (lastLine (src.take pos)).length by
    refine ⟨Nat.succ_pos _, hlies.1, Nat.succ_pos _, ?_, hlies.2⟩
    simp [Location.ofOffset, lineAt]
  induction src generalizing pos with
  | nil =>
    cases Nat.le_zero.1 h
    exact ⟨rfl, rfl⟩
  | cons c cs ih =>
    cases pos with
    | zero =>
      have hhead := head?_splitOn (c :: cs)
      rw [List.head?_eq_getElem?] at hhead
      exact ⟨hhead, rfl⟩
    | succ pos =>
      obtain ⟨hline, hpos⟩ := ih (Nat.le_of_succ_le_succ h)
      rw [lineAt] at hline
      rw [lineAt, List.take_succ_cons, List.drop_succ_cons, lastLine_cons]
      by_cases hc : c = '\n'
      · -- one more line stands before the offset
        subst hc
        rw [if_pos (.inl rfl), splitOn_cons_lineFeed, List.count_cons_self]
        refine ⟨hline, ?_⟩
        rw [List.take_succ_cons, List.flatMap_cons, List.length_append]
        simp only [List.nil_append, List.length_singleton]
        omega
      · -- the first line is longer by one; the offset may lie on it or on a later one
        obtain ⟨first, rest, hlines⟩ := List.exists_cons_of_ne_nil (List.splitOn_ne_nil '\n' cs)
        rw [splitOn_cons_of_ne hc, List.count_cons_of_ne hc]
        rw [hlines] at hline hpos ⊢
        rw [List.modifyHead_cons]
        cases hcount : (cs.take pos).count '\n' with
        | zero =>
          rw [hcount] at hline
          have hnone : '\n' ∉ cs.take pos := List.count_eq_zero.1 hcount
          rw [if_neg (not_or.2 ⟨hc, hnone⟩)]
          rw [lastLine_of_notMem hnone] at hline
          refine ⟨congrArg _ (congrArg (c :: ·) (Option.some.inj hline)), ?_⟩
          simp [List.length_take, Nat.le_of_succ_le_succ h]
        | succ n =>
          rw [hcount] at hline hpos
          have hmem : '\n' ∈ cs.take pos := List.count_pos_iff.1 (by omega)
          rw [if_pos (.inr hmem)]
          refine ⟨hline, ?_⟩
          rw [List.take_succ_cons, List.flatMap_cons, List.length_append] at hpos ⊢
          simp only [List.cons_append, List.length_cons]
          omega

/-! ## Uniqueness -/

/-- Each line takes its characters and a line feed. -/
theorem length_lines_take_succ {lines : List (List Char)} {n : Nat} {l : List Char}
    (h : lines[n]? = some l) :
    ((lines.take (n + 1)).flatMap (· ++ ['\n'])).length =
      ((lines.take n).flatMap (· ++ ['\n'])).length + l.length + 1 := by
  rw [List.take_add_one, h, List.flatMap_append, List.length_append, Nat.add_assoc]
  simp

theorem length_lines_take_mono (lines : List (List Char)) {n m : Nat} (h : n ≤ m) :
    ((lines.take n).flatMap (· ++ ['\n'])).length ≤
      ((lines.take m).flatMap (· ++ ['\n'])).length := by
  obtain ⟨rest, hrest⟩ := List.take_prefix_take_left (l := lines) h
  rw [← hrest, List.flatMap_append, List.length_append]
  exact Nat.le_add_right _ _

namespace LiesAt

section

variable {src : List Char} {pos pos' line line' column column' : Nat} {l l' : List Char}

/-- What lies on a later line lies further on. -/
theorem pos_lt_of_line_lt (h : LiesAt src pos line column l)
    (h' : LiesAt src pos' line' column' l') (hlt : line < line') : pos < pos' := by
  have hline := h.line_pos
  have hle : line - 1 + 1 ≤ line' - 1 := by omega
  have hlater := length_lines_take_mono (src.splitOn '\n') hle
  have hcolumn := h.column_le
  rw [length_lines_take_succ h.line_eq] at hlater
  rw [h.pos_eq, h'.pos_eq]
  omega

theorem unique (h : LiesAt src pos line column l) (h' : LiesAt src pos line' column' l') :
    line = line' ∧ column = column' ∧ l = l' := by
  have hline : line = line' := by
    rcases Nat.lt_trichotomy line line' with hlt | heq | hgt
    · exact absurd (h.pos_lt_of_line_lt h' hlt) (Nat.lt_irrefl pos)
    · exact heq
    · exact absurd (h'.pos_lt_of_line_lt h hgt) (Nat.lt_irrefl pos)
  subst hline
  refine ⟨rfl, ?_, Option.some.inj (h.line_eq.symm.trans h'.line_eq)⟩
  have hpos := h.pos_eq.symm.trans h'.pos_eq
  have hcolumn := h.column_pos
  have hcolumn' := h'.column_pos
  omega

theorem pos_unique (h : LiesAt src pos line column l) (h' : LiesAt src pos' line column l') :
    pos = pos' := h.pos_eq.trans h'.pos_eq.symm

end

end LiesAt

section

variable {src : List Char} {pos pos' : Nat}

/-- An offset of a text lies at the place that is computed for it, and nowhere else. -/
theorem liesAt_iff (h : pos ≤ src.length) {line column : Nat} {l : List Char} :
    LiesAt src pos line column l ↔ line = (Location.ofOffset src pos).line ∧
      column = (Location.ofOffset src pos).column ∧ l = lineAt src pos := by
  refine ⟨fun hlies => hlies.unique (liesAt_ofOffset h), ?_⟩
  rintro ⟨rfl, rfl, rfl⟩
  exact liesAt_ofOffset h

/-- No two offsets of a text have one place. -/
theorem eq_of_ofOffset_eq (h : pos ≤ src.length) (h' : pos' ≤ src.length)
    (heq : Location.ofOffset src pos = Location.ofOffset src pos') : pos = pos' := by
  have hlies := liesAt_ofOffset h
  rw [heq] at hlies
  exact hlies.pos_unique (liesAt_ofOffset h')

end

/-! ## Messages -/

/-- What stands before the first separator and what stands behind it can be told apart. -/
theorem eq_of_append_cons {α : Type} {a : α} {u v x y : List α} (hu : a ∉ u) (hv : a ∉ v)
    (heq : u ++ a :: x = v ++ a :: y) : u = v ∧ x = y := by
  rcases List.append_eq_append_iff.1 heq with ⟨as, rfl, htail⟩ | ⟨as, rfl, htail⟩
  · cases as with
    | nil => exact ⟨(List.append_nil u).symm, List.tail_eq_of_cons_eq htail⟩
    | cons a as =>
      cases htail
      exact absurd (List.mem_append_right u List.mem_cons_self) hv
  · cases as with
    | nil => exact ⟨List.append_nil v, (List.tail_eq_of_cons_eq htail).symm⟩
    | cons a as =>
      cases htail
      exact absurd (List.mem_append_right v List.mem_cons_self) hu

/-- A number ends at what is no digit. -/
theorem eq_of_repr_append {m n : Nat} {c : Char} (hc : c.isDigit = false) {x y : List Char}
    (heq : m.repr.toList ++ c :: x = n.repr.toList ++ c :: y) : m = n ∧ x = y := by
  have hnotMem (k : Nat) : c ∉ k.repr.toList := by
    intro hmem
    rw [Nat.toList_repr] at hmem
    rw [Nat.isDigit_of_mem_toDigits (by decide) (by decide) hmem] at hc
    cases hc
  obtain ⟨hrepr, htail⟩ := eq_of_append_cons (hnotMem m) (hnotMem n) heq
  exact ⟨Nat.repr_injective (String.toList_injective hrepr), htail⟩

/-- A message with a line and a column, the whole line, and a caret below the column. -/
def placed (message : String) (line column : Nat) (l : List Char) : String :=
  message ++ " at " ++ toString line ++ ":" ++ toString column ++ "\n" ++ String.ofList l ++ "\n" ++
    String.ofList (List.replicate (column - 1) ' ') ++ "^"

theorem located_eq_placed (src : List Char) (pos : Nat) (message : String) :
    located src pos message = placed message (Location.ofOffset src pos).line
      (Location.ofOffset src pos).column (lineAt src pos) := rfl

/-- Line and column can be told from a message. -/
theorem eq_of_placed_eq {message : String} {line line' column column' : Nat} {l l' : List Char}
    (h : placed message line column l = placed message line' column' l') :
    line = line' ∧ column = column' := by
  have hlist := congrArg String.toList h
  simp only [placed, String.toList_append, List.append_assoc, List.append_cancel_left_eq] at hlist
  obtain ⟨hline, hrest⟩ := eq_of_repr_append (c := ':') rfl hlist
  obtain ⟨hcolumn, -⟩ := eq_of_repr_append (c := '\n') rfl hrest
  exact ⟨hline, hcolumn⟩

/-- The offset can be told from a located message. -/
theorem eq_of_located_eq {src : List Char} {pos pos' : Nat} {message : String}
    (h : pos ≤ src.length) (h' : pos' ≤ src.length)
    (heq : located src pos message = located src pos' message) : pos = pos' := by
  rw [located_eq_placed, located_eq_placed] at heq
  obtain ⟨hline, hcolumn⟩ := eq_of_placed_eq heq
  have hplace : Location.mk (Location.ofOffset src pos).line (Location.ofOffset src pos).column =
      ⟨(Location.ofOffset src pos').line, (Location.ofOffset src pos').column⟩ := by
    rw [hline, hcolumn]
  exact eq_of_ofOffset_eq h h' hplace

/-- A message with a place has a line feed. -/
theorem lineFeed_mem_placed (message : String) (line column : Nat) (l : List Char) :
    '\n' ∈ (placed message line column l).toList := by
  simp [placed]

end Earley.Text
