/-
Earley.Proofs.Lexer.Place — the line and the column that a place carries are those of its offset.

A place is moved forward over a part of the text, and only that part is searched for line feeds.
What it says is still about the whole text before it (`Place.Exact`).

- `Place.Exact.advance`: this stays so when a place is moved.
- `Place.Exact.column_eq`: the column is that of the offset in the text.
-/
import Earley.Lexer

namespace Earley.Lexer

variable {text : Array Char} {start stop : Nat}

/-! ## Parts of a text -/

theorem slice_eq (text : Array Char) (start stop : Nat) :
    slice text start stop = (text.toList.drop start).take (stop - start) := by
  rw [slice, Array.toList_extract, List.extract_eq_take_drop]

theorem take_append_slice (h : start ≤ stop) :
    text.toList.take start ++ slice text start stop = text.toList.take stop := by
  rw [slice_eq, ← List.take_add, Nat.add_sub_cancel' h]

theorem length_slice (h : stop ≤ text.size) : (slice text start stop).length = stop - start := by
  rw [slice_eq, List.length_take, List.length_drop, Array.length_toList]
  omega

/-! ## Places -/

namespace Place

variable {line : Int} {p : Place}

/-- The place lies in the text, which begins on the given line. It is on the line that the line
feeds before it make, and that line begins where it says. -/
structure Exact (text : Array Char) (line : Int) (p : Place) : Prop where
  pos_le : p.pos ≤ text.size
  line_eq : p.line = line + (text.toList.take p.pos).count '\n'
  lineStart_add : p.lineStart + (Text.lastLine (text.toList.take p.pos)).length = p.pos

/-- The first place of a text. -/
theorem exact_zero (text : Array Char) (line : Int) : Exact text line ⟨0, line, 0⟩ where
  pos_le := Nat.zero_le _
  line_eq := by simp
  lineStart_add := by simp [Text.lastLine]

@[simp] theorem pos_advance (text : Array Char) (p : Place) (stop : Nat) :
    (p.advance text stop).pos = stop := by
  simp only [advance]
  split <;> rfl

theorem Exact.advance (hp : p.Exact text line) (hle : p.pos ≤ stop) (hstop : stop ≤ text.size) :
    (p.advance text stop).Exact text line := by
  have hsplit : text.toList.take p.pos ++ slice text p.pos stop = text.toList.take stop :=
    take_append_slice hle
  have hlength : (slice text p.pos stop).length = stop - p.pos := length_slice hstop
  by_cases hfeed : '\n' ∈ slice text p.pos stop
  · have hmoved : p.advance text stop = ⟨stop, p.line + (slice text p.pos stop).count '\n',
        stop - (Text.lastLine (slice text p.pos stop)).length⟩ := if_pos hfeed
    have hlast := Text.length_lastLine_le (slice text p.pos stop)
    rw [hmoved]
    refine ⟨hstop, ?_, ?_⟩
    · rw [← hsplit, List.count_append, hp.line_eq]
      push_cast
      omega
    · rw [← hsplit, Text.lastLine_append_of_mem _ hfeed]
      dsimp only
      omega
  · have hmoved : p.advance text stop = { p with pos := stop } := if_neg hfeed
    have hstart := hp.lineStart_add
    rw [hmoved]
    refine ⟨hstop, ?_, ?_⟩
    · rw [← hsplit, List.count_append, List.count_eq_zero_of_not_mem hfeed, hp.line_eq]
      rfl
    · rw [← hsplit, Text.lastLine_append_of_notMem _ hfeed, List.length_append]
      dsimp only
      omega

/-- The column is that of the offset in the whole text. -/
theorem Exact.column_eq (hp : p.Exact text line) :
    p.column = (Text.Location.ofOffset text.toList p.pos).column := by
  have hstart := hp.lineStart_add
  rw [column, Text.Location.ofOffset]
  dsimp only
  omega

end Place

end Earley.Lexer
