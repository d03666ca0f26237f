/-
Earley.Text.Line — line ends.

`unifyNewlines` leaves the line feed as the only line end; `lines` cuts a text after each of them.
-/
namespace Earley.Text

/-- A carriage return, alone or before a line feed, becomes a line feed. -/
def unifyNewlines : List Char → List Char
  | [] => []
  | '\r' :: '\n' :: cs => '\n' :: unifyNewlines cs
  | c :: cs => (if c = '\r' then '\n' else c) :: unifyNewlines cs

/-- The complete lines of a text, without their line feeds, and what follows the last of them. -/
def splitLines : List Char → List (List Char) × List Char
  | [] => ([], [])
  | c :: cs =>
    if c = '\n' then
      let (full, rest) := splitLines cs
      ([] :: full, rest)
    else
      match splitLines cs with
      | ([], rest) => ([], c :: rest)
      | (l :: full, rest) => ((c :: l) :: full, rest)

/-- The lines of a text; a text that does not end with a line feed has an unfinished last line. -/
def lines (s : List Char) : List (List Char) :=
  let (full, rest) := splitLines s
  if rest.isEmpty then full else full ++ [rest]

/-! ## Texts that are written line by line -/

theorem unifyNewlines_of_notMem {s : List Char} (h : '\r' ∉ s) : unifyNewlines s = s := by
  fun_induction unifyNewlines s with
  | case1 => rfl
  | case2 cs ih => simp at h
  | case3 c cs hother ih =>
    obtain ⟨hc, hcs⟩ := not_or.1 (mt List.mem_cons.2 h)
    rw [if_neg (Ne.symm hc), ih hcs]

theorem splitLines_append {l : List Char} (h : '\n' ∉ l) (rest : List Char) :
    splitLines (l ++ '\n' :: rest) = (l :: (splitLines rest).1, (splitLines rest).2) := by
  induction l with
  | nil => simp [splitLines]
  | cons c l ih =>
    obtain ⟨hc, hl⟩ := not_or.1 (mt List.mem_cons.2 h)
    rw [List.cons_append, splitLines, if_neg (Ne.symm hc), ih hl]

/-- Lines with a line feed behind each are cut into these lines again. -/
theorem lines_flatMap {ls : List (List Char)} (h : ∀ l ∈ ls, '\n' ∉ l) :
    lines (ls.flatMap (· ++ ['\n'])) = ls := by
  have hsplit : splitLines (ls.flatMap (· ++ ['\n'])) = (ls, []) := by
    induction ls with
    | nil => rfl
    | cons l ls ih =>
      obtain ⟨hl, hls⟩ := List.forall_mem_cons.1 h
      rw [List.flatMap_cons, List.append_assoc, List.singleton_append, splitLines_append hl, ih hls]
  rw [lines, hsplit]
  rfl

end Earley.Text
