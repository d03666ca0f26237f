/-
Earley.Proofs.Lexer.Longest — what is taken at an offset.

What is found first is the literal to take; a token pattern takes its place if it matches more, and
in turn gives way to a later one that matches still more. In the end that pattern has won which is
the first among those that match most (`Wins`). As longer literals are tried first, the literal to
take is the longest that may be taken; so all that the search finds can be said without it
(`Chosen`).

- `foldl_better`: what has been found stays, or a pattern wins over it.
- `longest_cases`: what can be taken at an offset.
- `longest_eq_some`: a lexeme is a literal that may be taken, or the match of a token pattern.
- `longest_eq_none`: there is no lexeme only where there is no such literal and no pattern matches
  more than nothing.
- `longest_ofPatterns_iff`: what a lexer takes, whatever its literals and patterns are.
-/
import Earley.Lexer
import Earley.Regex.Backtracking

namespace Earley.Lexer

variable {lx : Lexer} {text : Array Char} {pos least stop : Nat} {l kind : String}
  {t : String × Pattern} {literals : List String} {tokens : List (String × Pattern)}

/-! ## Literals -/

/-- No word goes on at either end of a part of a text. -/
structure Apart (text : Array Char) (start stop : Nat) : Prop where
  before : ∀ c, start ≠ 0 → text[start - 1]? = some c → Text.isIdentifierPart c = false
  behind : ∀ c, text[stop]? = some c → Text.isIdentifierPart c = false

/-- A literal stands at an offset, and it is not cut out of a word. -/
structure Admissible (text : Array Char) (pos : Nat) (l : String) : Prop where
  stands : slice text pos (pos + l.length) = l.toList
  apart : ∀ c ∈ l.toList, Text.isIdentifierPart c = true → Apart text pos (pos + l.length)

theorem isWordAt_eq_false_iff :
    isWordAt text pos = false ↔ ∀ c, text[pos]? = some c → Text.isIdentifierPart c = false := by
  cases h : text[pos]? <;> simp [isWordAt, h]

theorem isBounded_iff : isBounded text pos stop l = true ↔
    ∀ c ∈ l.toList, Text.isIdentifierPart c = true → Apart text pos stop := by
  have hedges : ((pos != 0 && isWordAt text (pos - 1)) || isWordAt text stop) = false ↔
      Apart text pos stop := by
    simp only [Bool.or_eq_false_iff, Bool.and_eq_false_imp, isWordAt_eq_false_iff, bne_iff_ne]
    exact ⟨fun h => ⟨fun c hpos => h.1 hpos c, h.2⟩, fun h => ⟨fun hpos c => h.1 c hpos, h.2⟩⟩
  rw [isBounded, Bool.or_eq_true, Bool.not_eq_true', Bool.not_eq_true', hedges, List.any_eq_false]
  constructor
  · rintro (hplain | hapart) c hc hword
    · exact absurd hword (hplain c hc)
    · exact hapart
  · intro h
    by_cases hapart : Apart text pos stop
    · exact .inr hapart
    · exact .inl fun c hc hword => hapart (h c hc hword)

theorem isAdmissible_iff : isAdmissible text pos l = true ↔ Admissible text pos l := by
  rw [isAdmissible, Bool.and_eq_true, beq_iff_eq, isBounded_iff]
  exact ⟨fun h => ⟨h.1, h.2⟩, fun h => ⟨h.stands, h.apart⟩⟩

/-- Of each length there is at most one literal that stands at an offset. -/
theorem Admissible.eq_of_length {l' : String} (h : Admissible text pos l)
    (h' : Admissible text pos l') (hlength : l'.length = l.length) : l' = l := by
  have hstands := h'.stands
  rw [hlength, h.stands] at hstands
  exact (String.toList_inj.1 hstands).symm

theorem literalAt?_eq_some (h : literalAt? literals text pos = some (l, stop)) :
    l ∈ literals ∧ Admissible text pos l ∧ stop = pos + l.length := by
  obtain ⟨l', hfind, heq⟩ := Option.map_eq_some_iff.1 h
  cases heq
  exact ⟨List.mem_of_find?_eq_some hfind, isAdmissible_iff.1 (List.find?_some hfind), rfl⟩

theorem literalAt?_eq_none (h : literalAt? literals text pos = none) :
    ∀ l ∈ literals, ¬ Admissible text pos l := fun l hl hadmissible =>
  List.find?_eq_none.1 (Option.map_eq_none_iff.1 h) l hl (isAdmissible_iff.2 hadmissible)

/-- Where longer literals come first, the literal to take is the longest that may be taken. -/
theorem length_le_of_literalAt? (hsorted : literals.Pairwise fun a b => b.length ≤ a.length)
    (h : literalAt? literals text pos = some (l, stop)) :
    ∀ l' ∈ literals, Admissible text pos l' → l'.length ≤ l.length := by
  obtain ⟨l₀, hfind, heq⟩ := Option.map_eq_some_iff.1 h
  cases heq
  obtain ⟨-, before, behind, rfl, hbefore⟩ := List.find?_eq_some_iff_append.1 hfind
  intro l' hl' hadmissible
  rcases List.mem_append.1 hl' with hl' | hl'
  · have hnot := hbefore l' hl'
    rw [isAdmissible_iff.2 hadmissible] at hnot
    cases hnot
  · rcases List.mem_cons.1 hl' with rfl | hl'
    · exact Nat.le_refl _
    · exact (List.pairwise_cons.1 (List.pairwise_append.1 hsorted).2.1).1 l' hl'

/-! ## Token patterns -/

/-- Of some token patterns, `t` is the first among those that match most at an offset. Its match
ends at `stop`, which lies behind `least`. -/
structure Wins (tokens : List (String × Pattern)) (text : Array Char) (pos least : Nat)
    (t : String × Pattern) (stop : Nat) : Prop where
  ends : t.2 text pos = some stop
  lt : least < stop
  first : ∃ before behind, tokens = before ++ t :: behind ∧
    (∀ u ∈ before, ∀ e, u.2 text pos = some e → e < stop) ∧
    ∀ u ∈ behind, ∀ e, u.2 text pos = some e → e ≤ stop

theorem Wins.mem (h : Wins tokens text pos least t stop) : t ∈ tokens := by
  obtain ⟨before, behind, rfl, -, -⟩ := h.first
  exact List.mem_append_right _ List.mem_cons_self

/-- No pattern matches more than the one that wins. -/
theorem Wins.le {u : String × Pattern} {e : Nat} (h : Wins tokens text pos least t stop)
    (hu : u ∈ tokens) (he : u.2 text pos = some e) : e ≤ stop := by
  obtain ⟨before, behind, rfl, hbefore, hbehind⟩ := h.first
  rcases List.mem_append.1 hu with hu | hu
  · exact Nat.le_of_lt (hbefore u hu e he)
  · rcases List.mem_cons.1 hu with rfl | hu
    · cases he.symm.trans h.ends
      exact Nat.le_refl stop
    · exact hbehind u hu e he

/-- The pattern that wins is the first whose match ends where its match ends. -/
theorem Wins.find?_eq (h : Wins tokens text pos least t stop) :
    tokens.find? (fun u => u.2 text pos == some stop) = some t := by
  obtain ⟨before, behind, rfl, hbefore, -⟩ := h.first
  refine List.find?_eq_some_iff_append.2 ⟨by simp [h.ends], before, behind, rfl, fun u hu => ?_⟩
  have hne : u.2 text pos ≠ some stop := fun he => Nat.lt_irrefl stop (hbefore u hu stop he)
  simpa using hne

theorem Wins.unique {t' : String × Pattern} (h : Wins tokens text pos least t stop)
    (h' : Wins tokens text pos least t' stop) : t' = t :=
  Option.some.inj (h'.find?_eq.symm.trans h.find?_eq)

/-- A pattern in front of the others does not win if it matches less. -/
theorem Wins.cons {u : String × Pattern} (h : Wins tokens text pos least t stop)
    (hu : ∀ e, u.2 text pos = some e → e < stop) : Wins (u :: tokens) text pos least t stop := by
  obtain ⟨before, behind, rfl, hbefore, hbehind⟩ := h.first
  exact ⟨h.ends, h.lt, u :: before, behind, rfl, List.forall_mem_cons.2 ⟨hu, hbefore⟩, hbehind⟩

theorem foldl_better (found : Option String × Nat) :
    (tokens.foldl (better text pos) found = found ∧
      ∀ t ∈ tokens, ∀ e, t.2 text pos = some e → e ≤ found.2) ∨
    ∃ t stop, tokens.foldl (better text pos) found = (some t.1, stop) ∧
      Wins tokens text pos found.2 t stop := by
  induction tokens generalizing found with
  | nil => exact .inl ⟨rfl, fun _ ht => nomatch ht⟩
  | cons t ts ih =>
    rw [List.foldl_cons]
    by_cases htakes : ∃ e, t.2 text pos = some e ∧ found.2 < e
    · obtain ⟨e, he, hlt⟩ := htakes
      have hstep : better text pos found t = (some t.1, e) := by simp [better, he, hlt]
      rw [hstep]
      rcases ih (some t.1, e) with ⟨hfold, hle⟩ | ⟨u, stop, hfold, hwins⟩
      · exact .inr ⟨t, e, hfold, he, hlt, [], ts, rfl, (fun _ hu => nomatch hu), hle⟩
      · have hlater : Wins ts text pos found.2 u stop :=
          ⟨hwins.ends, Nat.lt_trans hlt hwins.lt, hwins.first⟩
        refine .inr ⟨u, stop, hfold, hlater.cons ?_⟩
        intro e' he'
        cases he.symm.trans he'
        exact hwins.lt
    · simp only [not_exists, not_and, Nat.not_lt] at htakes
      have hstep : better text pos found t = found := by
        rcases he : t.2 text pos with _ | e
        · simp [better, he]
        · simp [better, he, Nat.not_lt.2 (htakes e he)]
      rw [hstep]
      refine (ih found).imp ?_ ?_
      · rintro ⟨hfold, hle⟩
        exact ⟨hfold, List.forall_mem_cons.2 ⟨htakes, hle⟩⟩
      · rintro ⟨u, stop, hfold, hwins⟩
        exact ⟨u, stop, hfold, hwins.cons fun e he => Nat.lt_of_le_of_lt (htakes e he) hwins.lt⟩

/-! ## Both -/

/-- At an offset the literal to take is taken, or a token pattern wins over it, or there is
neither. -/
theorem longest_cases (lx : Lexer) (text : Array Char) (pos : Nat) :
    (∃ l stop, literalAt? lx.literals text pos = some (l, stop) ∧
      (∀ t ∈ lx.tokens, ∀ e, t.2 text pos = some e → e ≤ stop) ∧
      lx.longest text pos = (some l, stop)) ∨
    (∃ t stop, Wins lx.tokens text pos pos t stop ∧
      (∀ l e, literalAt? lx.literals text pos = some (l, e) → e < stop) ∧
      lx.longest text pos = (some t.1, stop)) ∨
    (literalAt? lx.literals text pos = none ∧
      (∀ t ∈ lx.tokens, ∀ e, t.2 text pos = some e → e ≤ pos) ∧
      lx.longest text pos = (none, pos)) := by
  rw [longest]
  rcases hliteral : literalAt? lx.literals text pos with _ | ⟨l, e⟩ <;> dsimp only
  · rcases foldl_better (none, pos) with ⟨hfold, hle⟩ | ⟨t, stop, hfold, hwins⟩
    · exact .inr (.inr ⟨rfl, hle, hfold⟩)
    · exact .inr (.inl ⟨t, stop, hwins, (fun _ _ h => nomatch h), hfold⟩)
  · rcases foldl_better (some l, e) with ⟨hfold, hle⟩ | ⟨t, stop, hfold, hwins⟩
    · exact .inl ⟨l, e, rfl, hle, hfold⟩
    · obtain ⟨-, -, rfl⟩ := literalAt?_eq_some hliteral
      have hlt := Nat.lt_of_le_of_lt (Nat.le_add_right pos l.length) hwins.lt
      refine .inr (.inl ⟨t, stop, ⟨hwins.ends, hlt, hwins.first⟩, fun l' e' h => ?_, hfold⟩)
      cases h
      exact hwins.lt

/-- A lexeme is a literal that may be taken, or the match of a token pattern, which is not empty. -/
theorem longest_eq_some (h : lx.longest text pos = (some kind, stop)) :
    (kind ∈ lx.literals ∧ Admissible text pos kind ∧ stop = pos + kind.length) ∨
    ∃ t ∈ lx.tokens, t.1 = kind ∧ t.2 text pos = some stop ∧ pos < stop := by
  rcases lx.longest_cases text pos with
    ⟨l, e, hliteral, -, heq⟩ | ⟨t, e, hwins, -, heq⟩ | ⟨-, -, heq⟩
  · cases h.symm.trans heq
    exact .inl (literalAt?_eq_some hliteral)
  · cases h.symm.trans heq
    exact .inr ⟨t, hwins.mem, rfl, hwins.ends, hwins.lt⟩
  · cases h.symm.trans heq

/-- Where no lexeme begins there is no literal to take, and no token pattern matches more than
nothing. -/
theorem longest_eq_none (h : lx.longest text pos = (none, stop)) :
    (∀ l ∈ lx.literals, ¬ Admissible text pos l) ∧
    ∀ t ∈ lx.tokens, ∀ e, t.2 text pos = some e → e ≤ pos := by
  rcases lx.longest_cases text pos with
    ⟨l, e, -, -, heq⟩ | ⟨t, e, -, -, heq⟩ | ⟨hliteral, htokens, -⟩
  · cases h.symm.trans heq
  · cases h.symm.trans heq
  · exact ⟨literalAt?_eq_none hliteral, htokens⟩

/-! ## The choice -/

/-- What is to be taken at an offset, of some literals and token patterns, and where it ends. -/
inductive Chosen (literals : List String) (tokens : List (String × Pattern)) (text : Array Char)
    (pos : Nat) : Option String × Nat → Prop where
  /-- The longest literal that may be taken, if no pattern matches more. -/
  | literal {l : String} (hl : l ∈ literals) (hadmissible : Admissible text pos l)
      (hlongest : ∀ l' ∈ literals, Admissible text pos l' → l'.length ≤ l.length)
      (htokens : ∀ t ∈ tokens, ∀ e, t.2 text pos = some e → e ≤ pos + l.length) :
      Chosen literals tokens text pos (some l, pos + l.length)
  /-- The first of the patterns that match most, if that is more than any literal that may be
  taken, and more than nothing. -/
  | token {t : String × Pattern} {stop : Nat} (hwins : Wins tokens text pos pos t stop)
      (hliterals : ∀ l ∈ literals, Admissible text pos l → pos + l.length < stop) :
      Chosen literals tokens text pos (some t.1, stop)
  | nothing (hliterals : ∀ l ∈ literals, ¬ Admissible text pos l)
      (htokens : ∀ t ∈ tokens, ∀ e, t.2 text pos = some e → e ≤ pos) :
      Chosen literals tokens text pos (none, pos)

/-- What is taken is what is to be taken, if longer literals are tried first. -/
theorem chosen_longest (hsorted : lx.literals.Pairwise fun a b => b.length ≤ a.length) :
    Chosen lx.literals lx.tokens text pos (lx.longest text pos) := by
  rcases lx.longest_cases text pos with
    ⟨l, stop, hliteral, htokens, heq⟩ | ⟨t, stop, hwins, hliteral, heq⟩ | ⟨hliteral, htokens, heq⟩
  · obtain ⟨hl, hadmissible, rfl⟩ := literalAt?_eq_some hliteral
    rw [heq]
    exact .literal hl hadmissible (length_le_of_literalAt? hsorted hliteral) htokens
  · rw [heq]
    refine .token hwins fun l hl hadmissible => ?_
    rcases hfound : literalAt? lx.literals text pos with _ | ⟨l₀, e⟩
    · exact absurd hadmissible (literalAt?_eq_none hfound l hl)
    · have hlt := hliteral l₀ e hfound
      have hle := length_le_of_literalAt? hsorted hfound l hl hadmissible
      obtain ⟨-, -, rfl⟩ := literalAt?_eq_some hfound
      omega
  · rw [heq]
    exact .nothing (literalAt?_eq_none hliteral) htokens

/-- If the same patterns are there in another order, the same is to be taken, or patterns that match
equally much. -/
theorem Chosen.eq_or_wins {tokens' : List (String × Pattern)} {found found' : Option String × Nat}
    (h : Chosen literals tokens text pos found) (h' : Chosen literals tokens' text pos found')
    (hsame : ∀ t, t ∈ tokens' ↔ t ∈ tokens) :
    found' = found ∨ ∃ t t' stop, Wins tokens text pos pos t stop ∧
      Wins tokens' text pos pos t' stop ∧ found = (some t.1, stop) ∧
      found' = (some t'.1, stop) := by
  cases h with
  | @literal l hl hadmissible hlongest htokens =>
    cases h' with
    | @literal l' hl' hadmissible' hlongest' _ =>
      have hlength : l'.length = l.length :=
        Nat.le_antisymm (hlongest l' hl' hadmissible') (hlongest' l hl hadmissible)
      exact .inl (by rw [hadmissible.eq_of_length hadmissible' hlength])
    | @token t' stop' hwins' hliterals' =>
      have hlt := hliterals' l hl hadmissible
      have hle := htokens t' ((hsame t').1 hwins'.mem) stop' hwins'.ends
      omega
    | nothing hliterals' _ => exact absurd hadmissible (hliterals' l hl)
  | @token t stop hwins hliterals =>
    cases h' with
    | @literal l' hl' hadmissible' _ htokens' =>
      have hlt := hliterals l' hl' hadmissible'
      have hle := htokens' t ((hsame t).2 hwins.mem) stop hwins.ends
      omega
    | @token t' stop' hwins' _ =>
      have hstop : stop' = stop := Nat.le_antisymm
        (hwins.le ((hsame t').1 hwins'.mem) hwins'.ends)
        (hwins'.le ((hsame t).2 hwins.mem) hwins.ends)
      subst hstop
      exact .inr ⟨t, t', stop', hwins, hwins', rfl, rfl⟩
    | nothing _ htokens' =>
      have hle := htokens' t ((hsame t).2 hwins.mem) stop hwins.ends
      exact absurd hwins.lt (Nat.not_lt.2 hle)
  | nothing hliterals htokens =>
    cases h' with
    | @literal l' hl' hadmissible' _ _ => exact absurd hadmissible' (hliterals l' hl')
    | @token t' stop' hwins' _ =>
      have hle := htokens t' ((hsame t').1 hwins'.mem) stop' hwins'.ends
      exact absurd hwins'.lt (Nat.not_lt.2 hle)
    | nothing _ _ => exact .inl rfl

theorem Chosen.unique {found found' : Option String × Nat}
    (h : Chosen literals tokens text pos found) (h' : Chosen literals tokens text pos found') :
    found' = found := by
  rcases h.eq_or_wins h' fun _ => Iff.rfl with heq | ⟨t, t', stop, hwins, hwins', rfl, rfl⟩
  · exact heq
  · rw [hwins.unique hwins']

/-- Which literals there are matters, not their order or how often they are there. -/
theorem Chosen.congr {literals' : List String} {found : Option String × Nat}
    (h : Chosen literals tokens text pos found) (hsame : ∀ l, l ∈ literals' ↔ l ∈ literals) :
    Chosen literals' tokens text pos found := by
  cases h with
  | literal hl hadmissible hlongest htokens =>
    have hlongest' : ∀ l' ∈ literals', Admissible text pos l' → l'.length ≤ _ :=
      fun l' hl' => hlongest l' ((hsame l').1 hl')
    exact .literal ((hsame _).2 hl) hadmissible hlongest' htokens
  | token hwins hliterals => exact .token hwins fun l hl => hliterals l ((hsame l).1 hl)
  | nothing hliterals htokens => exact .nothing (fun l hl => hliterals l ((hsame l).1 hl)) htokens

/-! ## Lexers -/

/-- A lexer holds the literals that were given, each once. -/
@[simp] theorem mem_literals_ofPatterns {ignores : List Pattern} :
    l ∈ (ofPatterns literals tokens ignores).literals ↔ l ∈ literals := by
  rw [ofPatterns, List.mem_mergeSort, List.mem_eraseDups]

@[simp] theorem mem_literals_make [Regex.Engine] {tokens : List TokenDeclaration}
    {ignores : List Regex} :
    l ∈ (make literals tokens ignores).literals ↔ l ∈ literals :=
  mem_literals_ofPatterns

theorem pairwise_literals_ofPatterns (literals : List String) (tokens : List (String × Pattern))
    (ignores : List Pattern) :
    (ofPatterns literals tokens ignores).literals.Pairwise fun a b => b.length ≤ a.length := by
  have hsorted : (literals.eraseDups.mergeSort fun a b => decide (b.length ≤ a.length)).Pairwise
      fun a b => decide (b.length ≤ a.length) = true :=
    List.pairwise_mergeSort (fun a b c => by simp only [decide_eq_true_eq]; omega)
      (fun a b => by simp only [Bool.or_eq_true, decide_eq_true_eq]; omega) _
  simpa [ofPatterns] using hsorted

theorem chosen_ofPatterns (literals : List String) (tokens : List (String × Pattern))
    (ignores : List Pattern) (text : Array Char) (pos : Nat) :
    Chosen literals tokens text pos ((ofPatterns literals tokens ignores).longest text pos) :=
  (chosen_longest (pairwise_literals_ofPatterns literals tokens ignores)).congr
    fun _ => mem_literals_ofPatterns.symm

/-- A lexer takes at an offset what is to be taken there, whatever its literals and patterns are:
the longest literal that may be taken, the first of the patterns that match most, or nothing. With
its tokens declared in another order it takes the same, or another token that matches equally
much. -/
theorem longest_ofPatterns_iff (literals : List String) (tokens : List (String × Pattern))
    (ignores : List Pattern) (text : Array Char) (pos : Nat) :
    (∀ found, (ofPatterns literals tokens ignores).longest text pos = found ↔
      Chosen literals tokens text pos found) ∧
    ∀ tokens' : List (String × Pattern), tokens'.Perm tokens →
      (ofPatterns literals tokens' ignores).longest text pos =
        (ofPatterns literals tokens ignores).longest text pos ∨
      ∃ t ∈ tokens, ∃ t' ∈ tokens, ∃ stop,
        t.2 text pos = some stop ∧ t'.2 text pos = some stop ∧
        (ofPatterns literals tokens ignores).longest text pos = (some t.1, stop) ∧
        (ofPatterns literals tokens' ignores).longest text pos = (some t'.1, stop) := by
  have hchosen := chosen_ofPatterns literals tokens ignores text pos
  refine ⟨fun found => ⟨fun heq => heq ▸ hchosen, fun h => h.unique hchosen⟩, ?_⟩
  intro tokens' hperm
  have hchosen' := chosen_ofPatterns literals tokens' ignores text pos
  refine (hchosen.eq_or_wins hchosen' fun _ => hperm.mem_iff).imp_right ?_
  rintro ⟨t, t', stop, hwins, hwins', heq, heq'⟩
  exact ⟨t, hwins.mem, t', hperm.mem_iff.1 hwins'.mem, stop, hwins.ends, hwins'.ends, heq, heq'⟩

/-- Two tokens with the same pattern. -/
def sameWords : List (String × Pattern) :=
  let word : Regex := ⟨"[a-z]+", {}⟩
  [("WORD", word.matchEnd?), ("NAME", word.matchEnd?)]

/-- Where the longer literal would be cut out of a word, the shorter one is taken. Of two tokens
that match the rest of the text, the one that is declared first is taken. -/
theorem longest_ofPatterns_iff_cutWord :
    Chosen ["=", "=if"] sameWords "=iffy".toList.toArray 0 (some "=", 1) ∧
    ¬ Admissible "=iffy".toList.toArray 0 "=if" ∧
    ∃ t ∈ sameWords, ∃ t' ∈ sameWords, ∃ stop,
      t.2 "=iffy".toList.toArray 1 = some stop ∧ t'.2 "=iffy".toList.toArray 1 = some stop ∧
      (ofPatterns ["=", "=if"] sameWords []).longest "=iffy".toList.toArray 1 =
        (some t.1, stop) ∧
      (ofPatterns ["=", "=if"] sameWords.reverse []).longest "=iffy".toList.toArray 1 =
        (some t'.1, stop) := by
  obtain ⟨hfirst, -⟩ :=
    longest_ofPatterns_iff ["=", "=if"] sameWords [] "=iffy".toList.toArray 0
  obtain ⟨-, hreordered⟩ :=
    longest_ofPatterns_iff ["=", "=if"] sameWords [] "=iffy".toList.toArray 1
  have hliterals : ∀ tokens, (ofPatterns ["=", "=if"] tokens []).literals = ["=if", "="] :=
    fun tokens => by simp +decide [ofPatterns, List.mergeSort, List.eraseDups_cons]
  refine ⟨(hfirst _).1 ?_, fun h => ?_, ?_⟩
  · rw [longest, hliterals]
    decide +kernel
  · have hnot : isAdmissible "=iffy".toList.toArray 0 "=if" = false := by decide +kernel
    cases hnot.symm.trans (isAdmissible_iff.2 h)
  · refine (hreordered sameWords.reverse (List.reverse_perm _)).resolve_left ?_
    rw [longest, longest, hliterals, hliterals]
    decide +kernel

end Earley.Lexer
