/-
Earley.Proofs.Lexer.Lossless — lexing loses nothing of a text, and it ends.

A text is taken apart into gaps, which are ignored, and the spans of lexemes between them (`Tiled`).
Each lexeme stands where its span says (`Stands`). Lexing ends at the end of the text, or with a
fault at a place where nothing can be taken (`Ends`).

- `gap_skip`: what is skipped is a gap.
- `next_cases`: what one step takes off the text.
- `exists_lossless_from`: what all steps together take off it.
- `take_lossless`: the same for a whole text, however many lexemes are asked for.
-/
import Earley.Proofs.Lexer.Longest
import Earley.Proofs.Lexer.Place
import Mathlib.Data.List.Forall2
import Mathlib.Logic.Relation

namespace Earley.Lexer

variable {lx : Lexer} {ignores : List Pattern} {text : Array Char} {line : Int} {pos stop : Nat}

/-! ## Assumptions -/

/-- The matches of a pattern that begin in a text end in it, and none ends before it begins. -/
def Pattern.BoundedIn (text : Array Char) (p : Pattern) : Prop :=
  ∀ pos e, pos ≤ text.size → p text pos = some e → pos ≤ e ∧ e ≤ text.size

/-- All patterns of a lexer are bounded in a text. -/
structure BoundedIn (lx : Lexer) (text : Array Char) : Prop where
  tokens : ∀ t ∈ lx.tokens, t.2.BoundedIn text
  ignores : ∀ p ∈ lx.ignores, p.BoundedIn text

/-- What an engine matches is bounded in every text. -/
theorem boundedIn_make [Regex.Engine] (literals : List String) (tokens : List TokenDeclaration)
    (ignores : List Regex) (text : Array Char) : (make literals tokens ignores).BoundedIn text where
  tokens := by
    intro t ht
    obtain ⟨token, -, rfl⟩ := List.mem_map.1 ht
    exact fun pos e => Regex.matchEnd?_bounds
  ignores := by
    intro p hp
    obtain ⟨regex, -, rfl⟩ := List.mem_map.1 hp
    exact fun pos e => Regex.matchEnd?_bounds

/-! ## Gaps -/

/-- A pattern to ignore matches from one offset to the other, and not nothing. -/
def Ignores (ignores : List Pattern) (text : Array Char) (pos e : Nat) : Prop :=
  ∃ p ∈ ignores, p text pos = some e ∧ pos < e

/-- Ignored text: matches of patterns to ignore, one behind the other, up to where the text ends or
nothing more can be ignored. -/
structure Gap (ignores : List Pattern) (text : Array Char) (start stop : Nat) : Prop where
  ignored : Relation.ReflTransGen (Ignores ignores text) start stop
  maximal : stop < text.size → ∀ e, ¬ Ignores ignores text stop e

theorem Ignores.lt {e : Nat} (h : Ignores ignores text pos e) : pos < e := by
  obtain ⟨-, -, -, hlt⟩ := h
  exact hlt

theorem Gap.le (h : Gap ignores text pos stop) : pos ≤ stop := by
  obtain ⟨hignored, -⟩ := h
  induction hignored with
  | refl => exact Nat.le_refl pos
  | tail _ hstep ih => exact Nat.le_of_lt (Nat.lt_of_le_of_lt ih hstep.lt)

theorem ignores_of_ignoredEnd?_eq_some {e : Nat} (h : ignoredEnd? ignores text pos = some e) :
    Ignores ignores text pos e := by
  obtain ⟨p, hp, hfilter⟩ := List.exists_of_findSome?_eq_some h
  obtain ⟨hmatch, hlt⟩ := Option.filter_eq_some_iff.1 hfilter
  exact ⟨p, hp, hmatch, of_decide_eq_true hlt⟩

theorem not_ignores_of_ignoredEnd?_eq_none (h : ignoredEnd? ignores text pos = none) (e : Nat) :
    ¬ Ignores ignores text pos e := by
  rintro ⟨p, hp, hmatch, hlt⟩
  have hfilter := List.findSome?_eq_none_iff.1 h p hp
  rw [hmatch, Option.filter_some, if_pos (decide_eq_true hlt)] at hfilter
  cases hfilter

theorem gap_skip (hbounded : ∀ p ∈ ignores, p.BoundedIn text) (hpos : pos ≤ text.size) :
    Gap ignores text pos (skip ignores text pos) ∧ skip ignores text pos ≤ text.size := by
  fun_induction skip ignores text pos with
  | case1 pos _ e hend ih =>
    obtain ⟨p, hp, hmatch, hlt⟩ := ignores_of_ignoredEnd?_eq_some hend
    obtain ⟨hgap, hle⟩ := ih (hbounded p hp pos e hpos hmatch).2
    exact ⟨⟨hgap.ignored.head ⟨p, hp, hmatch, hlt⟩, hgap.maximal⟩, hle⟩
  | case2 pos _ hend =>
    exact ⟨⟨.refl, fun _ => not_ignores_of_ignoredEnd?_eq_none hend⟩, hpos⟩
  | case3 pos hsize => exact ⟨⟨.refl, fun hlt => absurd hlt hsize⟩, hpos⟩

/-! ## Spans -/

/-- The offsets between which a lexeme stands. -/
structure Span where
  start : Nat
  stop : Nat
  deriving DecidableEq, Repr

/-- From one offset up to another, a text consists of gaps with spans between them. -/
inductive Tiled (ignores : List Pattern) (text : Array Char) : Nat → List Span → Nat → Prop where
  | last {pos stop : Nat} (hgap : Gap ignores text pos stop) : Tiled ignores text pos [] stop
  | cons {pos stop : Nat} {s : Span} {spans : List Span} (hgap : Gap ignores text pos s.start)
      (hrest : Tiled ignores text s.stop spans stop) : Tiled ignores text pos (s :: spans) stop

/-- A lexeme stands in a text that begins on the given line: it is what is taken at its span, it has
the text of the span, which is not empty, and the place where the span starts. -/
structure Stands (lx : Lexer) (text : Array Char) (line : Int) (s : Span) (l : Lexeme) : Prop where
  lt : s.start < s.stop
  le_size : s.stop ≤ text.size
  taken : lx.longest text s.start = (some l.kind, s.stop)
  text_eq : l.text = String.ofList (slice text s.start s.stop)
  line_eq : l.line = line + (text.toList.take s.start).count '\n'
  column_eq : l.column = (Text.Location.ofOffset text.toList s.start).column

/-- A fault reports the character at an offset and its place, and nothing can be taken there. -/
structure Stuck (lx : Lexer) (text : Array Char) (line : Int) (pos : Nat) (f : Fault) : Prop where
  char_eq : text[pos]? = some f.char
  line_eq : f.line = line + (text.toList.take pos).count '\n'
  column_eq : f.column = (Text.Location.ofOffset text.toList pos).column
  ignores : ∀ e, ¬ Ignores lx.ignores text pos e
  literals : ∀ l ∈ lx.literals, ¬ Admissible text pos l
  tokens : ∀ t ∈ lx.tokens, ∀ e, t.2 text pos = some e → e ≤ pos

/-- Lexing ends at an offset: at the end of the text, or with a fault. -/
def Ends (lx : Lexer) (text : Array Char) (line : Int) (pos : Nat) : Option Fault → Prop
  | none => pos = text.size
  | some f => Stuck lx text line pos f

/-- Lexing from an offset on loses nothing: the text behind it consists of gaps and of the spans of
the lexemes, up to where lexing ends. -/
structure Lossless (lx : Lexer) (text : Array Char) (line : Int) (pos : Nat) (spans : List Span)
    (stop : Nat) (lexemes : List Lexeme) (fault : Option Fault) : Prop where
  tiled : Tiled lx.ignores text pos spans stop
  stands : List.Forall₂ (Stands lx text line) spans lexemes
  ascending : spans.Pairwise fun s s' => s.stop ≤ s'.start
  ends : Ends lx text line stop fault

/-- The spans of lexemes that tile a text come one after the other. -/
theorem Tiled.ascending {spans : List Span} {lexemes : List Lexeme}
    (h : Tiled ignores text pos spans stop)
    (hstands : List.Forall₂ (Stands lx text line) spans lexemes) :
    (∀ s ∈ spans, pos ≤ s.start) ∧ spans.Pairwise fun s s' => s.stop ≤ s'.start := by
  induction h generalizing lexemes with
  | last => simp
  | @cons pos stop s spans hgap hrest ih =>
    obtain ⟨l, ls, hl, hls, rfl⟩ := List.forall₂_cons_left_iff.1 hstands
    obtain ⟨hle, hpairwise⟩ := ih hls
    have hbefore : pos ≤ s.stop := Nat.le_trans hgap.le (Nat.le_of_lt hl.lt)
    exact ⟨List.forall_mem_cons.2 ⟨hgap.le, fun s' hs' => Nat.le_trans hbefore (hle s' hs')⟩,
      List.pairwise_cons.2 ⟨hle, hpairwise⟩⟩

/-! ## Steps -/

section

variable {place : Place} (hliterals : ∀ l ∈ lx.literals, l ≠ "") (hbounded : lx.BoundedIn text)

include hliterals hbounded

/-- What is taken at an offset is not empty, and lies in the text. -/
theorem bounds_of_longest {kind : String} (hpos : pos ≤ text.size)
    (h : lx.longest text pos = (some kind, stop)) : pos < stop ∧ stop ≤ text.size := by
  rcases longest_eq_some h with ⟨hmem, hadmissible, rfl⟩ | ⟨t, ht, -, hmatch, hlt⟩
  · have hlength := congrArg List.length hadmissible.stands
    have hne : kind.length ≠ 0 := fun hzero =>
      hliterals kind hmem (String.length_eq_zero_iff.1 hzero)
    rw [slice_eq, List.length_take, List.length_drop, Array.length_toList,
      String.length_toList] at hlength
    omega
  · exact ⟨hlt, (hbounded.tokens t ht pos stop hpos hmatch).2⟩

/-- A step passes over a gap. Behind it the text ends, or there is a fault, or the step takes a
lexeme. -/
theorem next_cases (hplace : place.Exact text line) :
    ∃ here, Gap lx.ignores text place.pos here ∧
      ((here = text.size ∧ lx.next text place = .done) ∨
        (∃ f, Stuck lx text line here f ∧ lx.next text place = .stuck f) ∨
        ∃ l after, Stands lx text line ⟨here, after.pos⟩ l ∧ after.Exact text line ∧
          lx.next text place = .lexeme l after) := by
  obtain ⟨hgap, hsize⟩ := gap_skip hbounded.ignores hplace.pos_le
  have hhere := hplace.advance hgap.le hsize
  refine ⟨_, hgap, ?_⟩
  rw [next]
  generalize hplace' : place.advance text (skip lx.ignores text place.pos) = here at hhere ⊢
  have hpos : skip lx.ignores text place.pos = here.pos := by rw [← hplace', Place.pos_advance]
  rw [hpos] at hgap hsize ⊢
  rcases hc : text[here.pos]? with _ | c
  · exact .inl ⟨Nat.le_antisymm hsize (Array.getElem?_eq_none_iff.1 hc), rfl⟩
  · obtain ⟨hlt, -⟩ := Array.getElem?_eq_some_iff.1 hc
    rcases hlongest : lx.longest text here.pos with ⟨_ | kind, stop⟩
    · obtain ⟨hnoLiteral, hnoToken⟩ := longest_eq_none hlongest
      exact .inr (.inl ⟨_, ⟨hc, hhere.line_eq, hhere.column_eq, hgap.maximal hlt, hnoLiteral,
        hnoToken⟩, rfl⟩)
    · obtain ⟨hltStop, hstop⟩ := bounds_of_longest hliterals hbounded hsize hlongest
      refine .inr (.inr ⟨_, _, ?_, hhere.advance (Nat.le_of_lt hltStop) hstop, rfl⟩)
      rw [Place.pos_advance]
      exact ⟨hltStop, hstop, hlongest, rfl, hhere.line_eq, hhere.column_eq⟩

/-! ## Runs -/

/-- From a place on there are lexemes, and at most as many as characters. If enough are asked for,
all of them come, and what ends them. -/
theorem exists_lossless_from (hplace : place.Exact text line) :
    ∃ lexemes fault spans stop, lexemes.length ≤ text.size - place.pos ∧
      (∀ limit, lx.takeFrom text limit place =
        (lexemes.take limit, if lexemes.length < limit then fault else none)) ∧
      Lossless lx text line place.pos spans stop lexemes fault := by
  -- each lexeme leaves less of the text
  induction hn : text.size - place.pos using Nat.strongRecOn generalizing place with
  | ind n ih =>
    obtain ⟨here, hgap, hstep⟩ := next_cases hliterals hbounded hplace
    rcases hstep with ⟨rfl, hdone⟩ | ⟨f, hstuck, hnext⟩ | ⟨l, after, hstands, hafter, hnext⟩
    · refine ⟨[], none, [], text.size, Nat.zero_le _, fun limit => ?_, .last hgap, .nil, .nil, rfl⟩
      cases limit <;> simp [takeFrom, hdone]
    · refine ⟨[], some f, [], here, Nat.zero_le _, fun limit => ?_, .last hgap, .nil, .nil, hstuck⟩
      cases limit <;> simp [takeFrom, hnext]
    · have hshorter : text.size - after.pos < n := by
        have hlt := hstands.lt
        have hle := hstands.le_size
        have hstart := hgap.le
        dsimp only at hlt hle
        omega
      obtain ⟨lexemes, fault, spans, stop, hlength, htake, hrest⟩ := ih _ hshorter hafter rfl
      have htiled : Tiled lx.ignores text place.pos (⟨here, after.pos⟩ :: spans) stop :=
        .cons hgap hrest.tiled
      have hstands : List.Forall₂ (Stands lx text line) (⟨here, after.pos⟩ :: spans)
          (l :: lexemes) := .cons hstands hrest.stands
      refine ⟨l :: lexemes, fault, _, stop, ?_, fun limit => ?_,
        ⟨htiled, hstands, (htiled.ascending hstands).2, hrest.ends⟩⟩
      · rw [List.length_cons]
        omega
      · cases limit with
        | zero => rfl
        | succ limit => simp [takeFrom, hnext, htake]

end

/-- All lexemes of a text come if one more is asked for than there are characters. -/
theorem lexemes_eq {text : String} {lexemes : List Lexeme} {fault : Option Fault}
    (hlength : lexemes.length ≤ text.toList.toArray.size)
    (htake : ∀ limit, lx.takeFrom text.toList.toArray limit ⟨0, line, 0⟩ =
      (lexemes.take limit, if lexemes.length < limit then fault else none)) :
    lx.lexemes text line = (lexemes, fault) := by
  have hlength : lexemes.length ≤ text.length := by rwa [← String.length_toList]
  rw [Lexer.lexemes, take, htake, List.take_of_length_le (by omega), if_pos (by omega)]

/-- Lexing that succeeds takes the whole text apart. -/
theorem exists_lossless_of_tokenize {text : String} {lexemes : List Lexeme}
    (hliterals : ∀ l ∈ lx.literals, l ≠ "") (hbounded : lx.BoundedIn text.toList.toArray)
    (h : lx.tokenize text line = .ok lexemes) :
    ∃ spans, Lossless lx text.toList.toArray line 0 spans text.length lexemes none := by
  obtain ⟨lexemes', fault, spans, stop, hlength, htake, hlossless⟩ :=
    exists_lossless_from hliterals hbounded (Place.exact_zero text.toList.toArray line)
  rw [tokenize, lexemes_eq hlength htake] at h
  cases fault with
  | some f => cases h
  | none =>
    cases h
    have hstop : stop = text.length := hlossless.ends.trans (String.length_toList)
    exact ⟨spans, hstop ▸ hlossless⟩

/-- Lexing a text ends, and it loses nothing. There are at most as many lexemes as characters: of
these come as many as are asked for, and what ends them only if more are asked for. -/
theorem take_lossless (lx : Lexer) (text : String) (line : Int)
    (hliterals : ∀ l ∈ lx.literals, l ≠ "") (hbounded : lx.BoundedIn text.toList.toArray) :
    ∃ lexemes fault spans stop, lexemes.length ≤ text.length ∧
      (∀ limit, lx.take limit text line =
        (lexemes.take limit, if lexemes.length < limit then fault else none)) ∧
      lx.lexemes text line = (lexemes, fault) ∧
      Lossless lx text.toList.toArray line 0 spans stop lexemes fault := by
  obtain ⟨lexemes, fault, spans, stop, hlength, htake, hlossless⟩ :=
    exists_lossless_from hliterals hbounded (Place.exact_zero text.toList.toArray line)
  have hsize : text.toList.toArray.size = text.length := String.length_toList
  exact ⟨lexemes, fault, spans, stop, hsize ▸ hlength, htake, lexemes_eq hlength htake, hlossless⟩

/-- Every lexeme that is taken of a text stands at some span of it. -/
theorem exists_stands_of_mem_take {text : String} {l : Lexeme} {limit : Nat}
    (hliterals : ∀ l ∈ lx.literals, l ≠ "") (hbounded : lx.BoundedIn text.toList.toArray)
    (hl : l ∈ (lx.take limit text line).1) : ∃ s, lx.Stands text.toList.toArray line s l := by
  obtain ⟨lexemes, fault, spans, stop, -, htake, hlossless⟩ :=
    exists_lossless_from hliterals hbounded (Place.exact_zero text.toList.toArray line)
  rw [take, htake] at hl
  obtain ⟨i, hi, rfl⟩ := List.getElem_of_mem (List.mem_of_mem_take hl)
  exact ⟨_, List.Forall₂.get hlossless.stands (hlossless.stands.length_eq ▸ hi) hi⟩

/-- A lexer with a literal that begins like a word, and a pattern to ignore that may match
nothing. -/
def wordLexer : Lexer := make ["if"] [⟨"WORD", ⟨"[a-z]+", {}⟩⟩] [⟨" *", {}⟩]

theorem take_lossless_wordLexer :
    ∃ spans stop, Lossless wordLexer "if  iffy ?".toList.toArray 7 0 spans stop
      [⟨"if", "if", 7, 1⟩, ⟨"WORD", "iffy", 7, 5⟩] (some ⟨'?', 7, 10⟩) := by
  have hlexemes : wordLexer.lexemes "if  iffy ?" 7 =
      ([⟨"if", "if", 7, 1⟩, ⟨"WORD", "iffy", 7, 5⟩], some ⟨'?', 7, 10⟩) := by
    decide +kernel
  obtain ⟨lexemes, fault, spans, stop, -, -, heq, hlossless⟩ :=
    take_lossless wordLexer "if  iffy ?" 7 (by simp [wordLexer]) (boundedIn_make _ _ _ _)
  cases heq.symm.trans hlexemes
  exact ⟨spans, stop, hlossless⟩

end Earley.Lexer
