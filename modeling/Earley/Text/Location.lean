/-
Earley.Text.Location — lines and columns of offsets.

Offsets count characters from 0, lines and columns from 1, and a line ends only at a line feed.
-/
namespace Earley.Text

/-- A place in a text, for a reader. -/
structure Location where
  line : Nat
  column : Nat
  deriving DecidableEq, Repr

/-- The part of a text after its last line feed. -/
def lastLine (s : List Char) : List Char := (s.reverse.takeWhile (· != '\n')).reverse

/-- A line feed in a text hides the lines of whatever stands before that text. -/
theorem lastLine_append_of_mem (s : List Char) {t : List Char} (h : '\n' ∈ t) :
    lastLine (s ++ t) = lastLine t := by
  have hstop : (t.reverse.takeWhile (· != '\n')).length ≠ t.reverse.length := by
    intro hlength
    have hself := (List.takeWhile_prefix (· != '\n')).eq_of_length hlength
    have hall : t.reverse.all (· != '\n') = true := hself ▸ List.all_takeWhile
    simpa using List.all_eq_true.1 hall '\n' (List.mem_reverse.2 h)
  rw [lastLine, lastLine, List.reverse_append, List.takeWhile_append, if_neg hstop]

/-- A text without line feeds continues the last line of the text before it. -/
theorem lastLine_append_of_notMem (s : List Char) {t : List Char} (h : '\n' ∉ t) :
    lastLine (s ++ t) = lastLine s ++ t := by
  have hall : ∀ c ∈ t.reverse, (c != '\n') = true := by
    intro c hc
    exact bne_iff_ne.2 fun heq => h (heq ▸ List.mem_reverse.1 hc)
  rw [lastLine, List.reverse_append, List.takeWhile_append_of_pos hall, List.reverse_append,
    List.reverse_reverse, lastLine]

/-- The last line of a text is no longer than the text. -/
theorem length_lastLine_le (s : List Char) : (lastLine s).length ≤ s.length := by
  simpa [lastLine] using (List.takeWhile_prefix (l := s.reverse) (· != '\n')).length_le

namespace Location

/-- The place of the character at offset `pos`. -/
def ofOffset (src : List Char) (pos : Nat) : Location where
  line := (src.take pos).count '\n' + 1
  column := (lastLine (src.take pos)).length + 1

end Location

/-- The whole line that offset `pos` lies on, without its line feed. -/
def lineAt (src : List Char) (pos : Nat) : List Char :=
  lastLine (src.take pos) ++ (src.drop pos).takeWhile (· != '\n')

/-- A message with the place it is about, the line of that place, and a caret below the
character. -/
def located (src : List Char) (pos : Nat) (message : String) : String :=
  let place := Location.ofOffset src pos
  message ++ " at " ++ toString place.line ++ ":" ++ toString place.column ++ "\n" ++
    String.ofList (lineAt src pos) ++ "\n" ++
    String.ofList (List.replicate (place.column - 1) ' ') ++ "^"

end Earley.Text
