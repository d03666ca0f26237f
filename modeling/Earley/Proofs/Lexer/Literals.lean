/-
Earley.Proofs.Lexer.Literals — the order of literals.

A lexer holds its literals longest first, and those of one length in the order in which they were
given. So lexers that are given the same literals in another order hold them in another order, too.
They lex alike all the same, since of each length at most one literal stands at an offset.

- `longest_eq_of_same`: lexers with the same literals, longer ones first, take the same.
- `next_congr`, `takeFrom_congr`: lexers that take and ignore the same lex alike.
- `take_ofPatterns_reordered`: the order of literals does not count, nor how often one is given.
-/
import Earley.Proofs.Lexer.Longest

namespace Earley.Lexer

variable {lx lx' : Lexer} {text : Array Char}

/-! ## Steps -/

theorem longest_eq_of_same (hsorted : lx.literals.Pairwise fun a b => b.length ≤ a.length)
    (hsorted' : lx'.literals.Pairwise fun a b => b.length ≤ a.length)
    (hsame : ∀ l, l ∈ lx'.literals ↔ l ∈ lx.literals) (htokens : lx'.tokens = lx.tokens)
    (pos : Nat) : lx'.longest text pos = lx.longest text pos := by
  have hchosen : Chosen lx.literals lx.tokens text pos (lx.longest text pos) :=
    chosen_longest hsorted
  have hchosen' : Chosen lx'.literals lx.tokens text pos (lx'.longest text pos) :=
    htokens ▸ chosen_longest hsorted'
  exact (hchosen.congr hsame).unique hchosen'

theorem next_congr (hignores : lx'.ignores = lx.ignores)
    (hlongest : ∀ pos, lx'.longest text pos = lx.longest text pos) (place : Place) :
    lx'.next text place = lx.next text place := by
  simp only [next, hignores, hlongest]

/-! ## Runs -/

theorem takeFrom_congr (hnext : ∀ place, lx'.next text place = lx.next text place) (limit : Nat)
    (place : Place) : lx'.takeFrom text limit place = lx.takeFrom text limit place := by
  induction limit generalizing place with
  | zero => rfl
  | succ limit ih =>
    rw [takeFrom, takeFrom, hnext]
    cases lx.next text place with
    | done | stuck => rfl
    | lexeme l after => simp only [ih]

/-- Lexers that are given the same literals, in whatever order and however often, the same tokens
and the same patterns to ignore, take the same lexemes of every text and end with the same fault, or
without one. -/
theorem take_ofPatterns_reordered {literals literals' : List String}
    (hsame : ∀ l, l ∈ literals' ↔ l ∈ literals) (tokens : List (String × Pattern))
    (ignores : List Pattern) (text : String) (line : Int) :
    (∀ limit, (ofPatterns literals' tokens ignores).take limit text line =
      (ofPatterns literals tokens ignores).take limit text line) ∧
    (ofPatterns literals' tokens ignores).tokenize text line =
      (ofPatterns literals tokens ignores).tokenize text line := by
  have hheld : ∀ l, l ∈ (ofPatterns literals' tokens ignores).literals ↔
      l ∈ (ofPatterns literals tokens ignores).literals := by
    simpa only [mem_literals_ofPatterns] using hsame
  have hlongest (pos : Nat) :
      (ofPatterns literals' tokens ignores).longest text.toList.toArray pos =
        (ofPatterns literals tokens ignores).longest text.toList.toArray pos :=
    longest_eq_of_same (pairwise_literals_ofPatterns literals tokens ignores)
      (pairwise_literals_ofPatterns literals' tokens ignores) hheld rfl pos
  have hignores : (ofPatterns literals' tokens ignores).ignores =
      (ofPatterns literals tokens ignores).ignores := rfl
  have htake (limit : Nat) : (ofPatterns literals' tokens ignores).take limit text line =
      (ofPatterns literals tokens ignores).take limit text line :=
    takeFrom_congr (next_congr hignores hlongest) limit ⟨0, line, 0⟩
  exact ⟨htake, by simp only [tokenize, lexemes, htake]⟩

/-- Literals of one length are held in another order, and yet the text is lexed alike. -/
theorem take_ofPatterns_reordered_signs :
    (∀ l, l ∈ ["-", "+", "--", "+"] ↔ l ∈ ["+", "--", "-"]) ∧
    (ofPatterns ["+", "--", "-"] sameWords []).literals = ["--", "+", "-"] ∧
    (ofPatterns ["-", "+", "--", "+"] sameWords []).literals = ["--", "-", "+"] ∧
    (ofPatterns ["-", "+", "--", "+"] sameWords []).take 4 "+a---1" 5 =
      ([⟨"+", "+", 5, 1⟩, ⟨"WORD", "a", 5, 2⟩, ⟨"--", "--", 5, 3⟩, ⟨"-", "-", 5, 5⟩], none) := by
  have hsame : ∀ l, l ∈ ["-", "+", "--", "+"] ↔ l ∈ ["+", "--", "-"] := by
    intro l
    simp only [List.mem_cons, List.not_mem_nil]
    grind
  have hliterals : (ofPatterns ["+", "--", "-"] sameWords []).literals = ["--", "+", "-"] := by
    simp +decide [ofPatterns, List.mergeSort, List.eraseDups_cons]
  have hmade : ofPatterns ["+", "--", "-"] sameWords [] = ⟨["--", "+", "-"], sameWords, []⟩ :=
    congrArg (Lexer.mk · _ _) hliterals
  obtain ⟨htake, -⟩ := take_ofPatterns_reordered hsame sameWords [] "+a---1" 5
  refine ⟨hsame, hliterals, by simp +decide [ofPatterns, List.mergeSort, List.eraseDups_cons], ?_⟩
  rw [htake, hmade]
  decide +kernel

end Earley.Lexer
