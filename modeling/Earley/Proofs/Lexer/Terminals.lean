/-
Earley.Proofs.Lexer.Terminals — which lexemes the terminals of a grammar file accept.

Literals and tokens have one space of names: a terminal knows no more than its pattern, a lexeme no
more than its kind, and both may be the spelling of a literal or the name of a token. As long as no
literal is spelled like a token, the terminals of a literal accept only that literal, and those of a
token only what its pattern matches. Nothing keeps a file from quoting the name of a token, and then
neither holds.

- `Stands.spelled_or_matched`: a lexeme is the literal that its kind is, or a match of the token
  that its kind names.
- `accepts_quoted_and_referenced`: which lexemes of a text the terminals of a file accept.
- `accepts_confused`: a file that quotes the name of a token.
-/
import Earley.GrammarFile.Escape
import Earley.Language
import Earley.Proofs.GrammarFile.Declarations
import Earley.Proofs.Lexer.Lossless
import Earley.Regex.Backtracking
import Mathlib.Data.List.Nodup

namespace Earley

/-! ## Kinds of lexemes -/

namespace Lexer

variable {lx : Lexer} {text : Array Char} {line : Int} {s : Span} {l : Lexeme}

theorem Stands.spelled_or_matched (h : lx.Stands text line s l) :
    (l.kind ∈ lx.literals ∧ l.text = l.kind) ∨
    ∃ t ∈ lx.tokens, t.1 = l.kind ∧ t.2 text s.start = some s.stop := by
  rcases longest_eq_some h.taken with ⟨hmem, hadmissible, hstop⟩ | ⟨t, ht, hkind, hmatch, -⟩
  · refine .inl ⟨hmem, ?_⟩
    rw [h.text_eq, hstop, hadmissible.stands, String.ofList_toList]
  · exact .inr ⟨t, ht, hkind, hmatch⟩

theorem accepts_toToken [Regex.Engine] {pattern : String} :
    Matching.kind.accepts pattern l.toToken = .ok true ↔ l.kind = pattern := by
  simp [Matching.accepts, Lexeme.toToken]

end Lexer

/-! ## Terminals -/

/-- Lowering the rules of a file makes a terminal with the pattern of the term. -/
def GrammarFile.Becomes (file : GrammarFile) (t : GrammarFile.Term) (pattern : String) : Prop :=
  ∃ helpers,
    (GrammarFile.lowerTerm (file.tokens.map (·.name)) helpers t).value = .terminal pattern

section

variable [Regex.Engine] {src : List Char} {file : GrammarFile} {text : Array Char} {line : Int}
  {s : Lexer.Span} {l : Lexeme} {pattern : String}

/-- What the terminal of a literal accepts is the literal, if no token has its spelling. -/
theorem text_eq_of_accepts {q : String} (hl : (Lexer.ofFile file).Stands text line s l)
    (hpattern : file.Becomes (.literal q) pattern) (hq : q ∉ file.tokens.map (·.name))
    (haccepts : Matching.kind.accepts pattern l.toToken = .ok true) : l.text = q := by
  obtain ⟨helpers, hlowered⟩ := hpattern
  cases hlowered
  have hkind := Lexer.accepts_toToken.1 haccepts
  rcases hl.spelled_or_matched with ⟨-, htext⟩ | ⟨t, ht, hname, -⟩
  · rw [htext, hkind]
  · obtain ⟨token, htoken, rfl⟩ := List.mem_map.1 ht
    exact absurd (List.mem_map.2 ⟨token, htoken, hname.trans hkind⟩) hq

variable [GrammarFile.Literal.Decoder]

/-- What the terminal of a reference to a token accepts is a match of its pattern, if no literal has
the spelling of its name. -/
theorem matchEnd?_of_accepts {t : TokenDeclaration} (hread : GrammarFile.read src = .ok file)
    (hl : (Lexer.ofFile file).Stands text line s l) (ht : t ∈ file.tokens)
    (hpattern : file.Becomes (.name t.name) pattern) (hname : t.name ∉ file.literals)
    (haccepts : Matching.kind.accepts pattern l.toToken = .ok true) :
    t.regex.matchEnd? text s.start = some s.stop := by
  obtain ⟨helpers, hlowered⟩ := hpattern
  have hresolve : GrammarFile.resolve (file.tokens.map (·.name)) t.name = .terminal t.name :=
    if_pos (List.mem_map_of_mem ht)
  cases hresolve.symm.trans hlowered
  have hkind : l.kind = t.name := Lexer.accepts_toToken.1 haccepts
  rcases hl.spelled_or_matched with ⟨hmem, -⟩ | ⟨t', ht', hname', hmatch⟩
  · exact absurd (hkind ▸ Lexer.mem_literals_make.1 hmem) hname
  · obtain ⟨token, htoken, rfl⟩ := List.mem_map.1 ht'
    have hsame := List.inj_on_of_nodup_map (GrammarFile.nodup_tokens hread) htoken ht
      (hname'.trans hkind)
    exact hsame ▸ hmatch

/-- Every lexeme that is taken of a text stands at a span. If the terminal of a literal accepts it,
it is that literal, as long as no token has the same spelling. If the terminal of a reference to a
token accepts it, it is what the pattern of the token matches there, as long as no literal has the
spelling of the token's name. -/
theorem accepts_quoted_and_referenced (hread : GrammarFile.read src = .ok file) (text : String)
    (line : Int) (limit : Nat) :
    ∀ l ∈ ((Lexer.ofFile file).take limit text line).1, ∃ s,
      (Lexer.ofFile file).Stands text.toList.toArray line s l ∧
      (∀ q pattern, file.Becomes (.literal q) pattern → q ∉ file.tokens.map (·.name) →
        Matching.kind.accepts pattern l.toToken = .ok true → l.text = q) ∧
      ∀ t ∈ file.tokens, ∀ pattern, file.Becomes (.name t.name) pattern →
        t.name ∉ file.literals → Matching.kind.accepts pattern l.toToken = .ok true →
        t.regex.matchEnd? text.toList.toArray s.start = some s.stop := by
  intro l hmem
  have hliterals : ∀ l ∈ (Lexer.ofFile file).literals, l ≠ "" := fun l hl =>
    GrammarFile.ne_empty_of_mem_literals hread (Lexer.mem_literals_make.1 hl)
  obtain ⟨s, hl⟩ := Lexer.exists_stands_of_mem_take hliterals (Lexer.boundedIn_make _ _ _ _) hmem
  exact ⟨s, hl, fun q pattern => text_eq_of_accepts hl,
    fun t ht pattern => matchEnd?_of_accepts hread hl ht⟩

end

theorem accepts_quoted_and_referenced_sum :
    ∃ file, GrammarFile.read "%token N/[0-9]+/;S:N\"+\"S|N;".toList = .ok file ∧
      ((Lexer.ofFile file).take 2 "17+" 1).1 = [⟨"N", "17", 1, 1⟩, ⟨"+", "+", 1, 3⟩] ∧
      ∀ l ∈ ((Lexer.ofFile file).take 2 "17+" 1).1, ∃ s,
        (Lexer.ofFile file).Stands "17+".toList.toArray 1 s l ∧
        (Matching.kind.accepts "+" l.toToken = .ok true → l.text = "+") ∧
        ∀ t ∈ file.tokens, Matching.kind.accepts "N" l.toToken = .ok true →
          t.regex.matchEnd? "17+".toList.toArray s.start = some s.stop := by
  have hread : GrammarFile.read "%token N/[0-9]+/;S:N\"+\"S|N;".toList = .ok
      { tokens := [⟨"N", ⟨"[0-9]+", {}⟩⟩]
        ignores := [], literals := ["+"], start := some "S"
        rules := [⟨"S", [.terminal "N", .terminal "+", .nonterminal "S"]⟩,
          ⟨"S", [.terminal "N"]⟩] } := by
    decide +kernel
  refine ⟨_, hread, by decide +kernel, fun l hl => ?_⟩
  obtain ⟨s, hstands, hquoted, hreferenced⟩ := accepts_quoted_and_referenced hread "17+" 1 2 l hl
  refine ⟨s, hstands, hquoted "+" "+" ⟨0, rfl⟩ (by decide), fun t ht => ?_⟩
  cases List.mem_singleton.1 ht
  exact hreferenced _ ht "N" ⟨0, rfl⟩ (by decide)

/-- A file that quotes the name of a token, before it refers to the token. -/
def quotedToken : List Char := "%token A/x/;%ignore/ /;S:\"A\"A;".toList

/-- The terminal of the literal accepts a match of the token, and the terminal of the token accepts
the literal, where its pattern matches nothing. -/
theorem accepts_confused :
    ∃ file l l' s', GrammarFile.read quotedToken = .ok file ∧
      file.rules = [⟨"S", [.terminal "A", .terminal "A"]⟩] ∧
      (Lexer.ofFile file).lexemes "x A" 1 = ([l, l'], none) ∧
      (file.Becomes (.literal "A") "A" ∧ Matching.kind.accepts "A" l.toToken = .ok true ∧
        l.text = "x") ∧
      file.Becomes (.name "A") "A" ∧ Matching.kind.accepts "A" l'.toToken = .ok true ∧
        (Lexer.ofFile file).Stands "x A".toList.toArray 1 s' l' ∧
        ∀ t ∈ file.tokens, t.regex.matchEnd? "x A".toList.toArray s'.start = none := by
  have hread : GrammarFile.read quotedToken = .ok
      { tokens := [⟨"A", ⟨"x", {}⟩⟩]
        ignores := [⟨" ", {}⟩], literals := ["A"], start := some "S"
        rules := [⟨"S", [.terminal "A", .terminal "A"]⟩] } := by
    decide +kernel
  refine ⟨_, ⟨"A", "x", 1, 1⟩, ⟨"A", "A", 1, 3⟩, ⟨2, 3⟩, hread, rfl, by decide +kernel,
    ⟨⟨0, rfl⟩, rfl, rfl⟩, ⟨0, rfl⟩, rfl, ?_, ?_⟩
  · exact ⟨by decide, by decide, by decide +kernel, by decide, by decide, by decide⟩
  · intro t ht
    cases List.mem_singleton.1 ht
    decide +kernel

end Earley
