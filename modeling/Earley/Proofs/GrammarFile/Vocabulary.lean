/-
Earley.Proofs.GrammarFile.Vocabulary — the names and the literals of a file that is read.

The literals of a file are what its quoted pieces stand for, each once, in the order in which they
first appear. The terminals of its rules and the kinds of its lexemes are literals or tokens.

- `firstAppearances_eraseDups`: leaving out repetitions keeps the order of first appearances.
- `eraseDups_quotedTexts`: the literals of statements are what the quoted pieces stand for.
- `read_vocabulary`: what names and literals have become, for every file that is read.
-/
import Earley.Proofs.GrammarFile.Order
import Earley.Proofs.GrammarFile.Resolution
import Earley.Proofs.Lexer.Terminals

namespace Earley.GrammarFile

open Cursor (isMark)

/-! ## Literals in order -/

section

variable {α : Type} [DecidableEq α] {xs xs' ys ys' : List α}

/-- The list has the elements of `xs`, each once, in the order in which they first appear there. -/
structure FirstAppearances (xs ys : List α) : Prop where
  mem_iff : ∀ x, x ∈ ys ↔ x ∈ xs
  nodup : ys.Nodup
  ordered : ys.Pairwise fun x y => xs.idxOf x < xs.idxOf y

theorem idxOf_cons_of_ne {x z : α} (h : z ≠ x) (zs : List α) :
    (z :: zs).idxOf x = zs.idxOf x + 1 := by
  rw [List.idxOf_cons, beq_false_of_ne h, cond_false]

/-- Leaving out some elements keeps the others in their order. -/
theorem idxOf_lt_of_filter {p : α → Bool} {x y : α} (hx : p x = true) (hy : p y = true)
    (h : (xs.filter p).idxOf x < (xs.filter p).idxOf y) : xs.idxOf x < xs.idxOf y := by
  induction xs with
  | nil => exact absurd h (Nat.lt_irrefl _)
  | cons z zs ih =>
    by_cases hz : p z = true
    · rw [List.filter_cons_of_pos hz] at h
      by_cases hzy : z = y
      · rw [hzy, List.idxOf_cons_self] at h
        exact absurd h (Nat.not_lt_zero _)
      by_cases hzx : z = x
      · rw [hzx, List.idxOf_cons_self, idxOf_cons_of_ne (hzx ▸ hzy)]
        exact Nat.succ_pos _
      · rw [idxOf_cons_of_ne hzx, idxOf_cons_of_ne hzy] at h ⊢
        exact Nat.succ_lt_succ (ih (Nat.lt_of_succ_lt_succ h))
    · have hzx : z ≠ x := fun heq => hz (heq ▸ hx)
      have hzy : z ≠ y := fun heq => hz (heq ▸ hy)
      rw [List.filter_cons_of_neg hz] at h
      rw [idxOf_cons_of_ne hzx, idxOf_cons_of_ne hzy]
      exact Nat.succ_lt_succ (ih h)

theorem firstAppearances_eraseDups (xs : List α) : FirstAppearances xs xs.eraseDups := by
  induction hn : xs.length using Nat.strongRecOn generalizing xs with
  | ind n ih =>
    cases xs with
    | nil => exact ⟨by simp, .nil, .nil⟩
    | cons x xs =>
      have hshorter : (xs.filter (!· == x)).length < n :=
        hn ▸ Nat.lt_succ_of_le (List.length_filter_le _ xs)
      obtain ⟨hmem, hnodup, hordered⟩ := ih _ hshorter _ rfl
      have hother (y : α) (hy : y ∈ (xs.filter (!· == x)).eraseDups) : x ≠ y := by
        have hne : (!y == x) = true := (List.mem_filter.1 ((hmem y).1 hy)).2
        exact Ne.symm (by simpa using hne)
      rw [List.eraseDups_cons]
      refine ⟨fun y => by rw [← List.eraseDups_cons, List.mem_eraseDups], ?_, ?_⟩
      · exact List.nodup_cons.2 ⟨fun hx => hother x hx rfl, hnodup⟩
      · refine List.pairwise_cons.2 ⟨fun y hy => ?_, hordered.imp_of_mem ?_⟩
        · rw [List.idxOf_cons_self, idxOf_cons_of_ne (hother y hy)]
          exact Nat.succ_pos _
        · intro y z hy hz hlt
          have hy' := (List.mem_filter.1 ((hmem y).1 hy)).2
          have hz' := (List.mem_filter.1 ((hmem z).1 hz)).2
          rw [idxOf_cons_of_ne (hother y hy), idxOf_cons_of_ne (hother z hz)]
          exact Nat.succ_lt_succ (idxOf_lt_of_filter hy' hz' hlt)

theorem eraseDups_filter (p : α → Bool) (xs : List α) :
    (xs.filter p).eraseDups = xs.eraseDups.filter p := by
  induction hn : xs.length using Nat.strongRecOn generalizing xs with
  | ind n ih =>
    cases xs with
    | nil => rfl
    | cons x xs =>
      have hshorter : (xs.filter (!· == x)).length < n :=
        hn ▸ Nat.lt_succ_of_le (List.length_filter_le _ xs)
      by_cases hx : p x = true
      · rw [List.filter_cons_of_pos hx, List.eraseDups_cons, List.eraseDups_cons,
          List.filter_cons_of_pos hx, ← ih _ hshorter _ rfl, List.filter_filter, List.filter_filter]
        simp only [Bool.and_comm]
      · -- `x` is left out in any case, so that it makes no difference to leave it out twice
        have hothers : (xs.filter (!· == x)).filter p = xs.filter p := by
          rw [List.filter_filter]
          refine List.filter_congr fun y _ => ?_
          by_cases hy : p y = true
          · have hne : y ≠ x := fun heq => hx (heq ▸ hy)
            simp [hy, hne]
          · simp [hy]
        rw [List.filter_cons_of_neg hx, List.eraseDups_cons, List.filter_cons_of_neg hx,
          ← ih _ hshorter _ rfl, hothers]

theorem eraseDups_append_congr (h : xs.eraseDups = xs'.eraseDups)
    (h' : ys.eraseDups = ys'.eraseDups) : (xs ++ ys).eraseDups = (xs' ++ ys').eraseDups := by
  have hmem (x : α) : x ∈ xs ↔ x ∈ xs' := by
    rw [← List.mem_eraseDups, h, List.mem_eraseDups]
  rw [List.eraseDups_append, List.eraseDups_append, h, List.removeAll, List.removeAll,
    eraseDups_filter, eraseDups_filter, h']
  simp [hmem]

end

/-! ## Quoted pieces -/

/-- The texts that the quoted pieces stand for, in order. -/
def quotedTexts [Literal.Decoder] (ps : List Piece) : List String :=
  ps.filterMap fun p => if p.kind = .string then p.literal.toOption else none

section

variable [Literal.Decoder] {p : Piece} {ps qs : List Piece}

@[simp] theorem quotedTexts_nil : quotedTexts [] = [] := rfl

@[simp] theorem quotedTexts_append : quotedTexts (ps ++ qs) = quotedTexts ps ++ quotedTexts qs :=
  List.filterMap_append

theorem quotedTexts_cons_of_ne (h : p.kind ≠ .string) : quotedTexts (p :: ps) = quotedTexts ps := by
  rw [quotedTexts, List.filterMap_cons, if_neg h]
  rfl

theorem quotedTexts_cons_of_isMark {mark : Char} (h : isMark mark p = true) :
    quotedTexts (p :: ps) = quotedTexts ps := by
  refine quotedTexts_cons_of_ne ?_
  rw [(isMark_eq_true_iff.1 h).1]
  exact nofun

theorem quotedTexts_cons_of_literal {text : String} (h : p.kind = .string)
    (hp : p.literal = .ok text) : quotedTexts (p :: ps) = text :: quotedTexts ps := by
  rw [quotedTexts, List.filterMap_cons, if_pos h, hp]
  rfl

mutual

theorem quotedTexts_of_spelled {t : Term} {ps : List Piece} (h : t.Spelled ps) :
    quotedTexts ps = t.literals := by
  cases t with
  | name s =>
    obtain ⟨p, rfl, hkind, -⟩ := h
    exact quotedTexts_cons_of_ne (hkind ▸ nofun)
  | literal text =>
    obtain ⟨p, rfl, hkind, hp⟩ := h
    exact quotedTexts_cons_of_literal hkind hp
  | group branches =>
    obtain ⟨p, qs, r, rfl, hp, hbranches, hr⟩ := h
    rw [List.cons_append, quotedTexts_cons_of_isMark hp, quotedTexts_append,
      quotedTexts_of_branchesSpelled hbranches, quotedTexts_cons_of_isMark hr, quotedTexts_nil,
      List.append_nil, Term.literals]
  | suffixed suffix t =>
    obtain ⟨-, qs, p, rfl, ht, hp⟩ := h
    rw [quotedTexts_append, quotedTexts_of_spelled ht, quotedTexts_cons_of_isMark hp,
      quotedTexts_nil, List.append_nil, Term.literals]

theorem quotedTexts_of_sequenceSpelled {ts : List Term} {ps : List Piece}
    (h : sequenceSpelled ts ps) : quotedTexts ps = sequenceLiterals ts := by
  cases ts with
  | nil =>
    cases h
    rfl
  | cons t ts =>
    obtain ⟨qs, rs, rfl, ht, hts⟩ := h
    rw [quotedTexts_append, quotedTexts_of_spelled ht, quotedTexts_of_sequenceSpelled hts,
      sequenceLiterals]

theorem quotedTexts_of_branchesSpelled {bs : List (List Term)} {ps : List Piece}
    (h : branchesSpelled bs ps) : quotedTexts ps = branchesLiterals bs := by
  cases bs with
  | nil => cases h
  | cons b bs =>
    rcases h with ⟨rfl, hb⟩ | ⟨qs, p, rs, rfl, hb, hp, hbs⟩
    · rw [quotedTexts_of_sequenceSpelled hb, branchesLiterals, branchesLiterals, List.append_nil]
    · rw [quotedTexts_append, quotedTexts_cons_of_isMark hp, quotedTexts_of_sequenceSpelled hb,
        quotedTexts_of_branchesSpelled hbs, branchesLiterals]

end

variable [Regex.Engine]

/-- A keyword is quoted twice. -/
theorem Statement.eraseDups_quotedTexts {s : Statement} {ps : List Piece} (h : s.Spelled ps) :
    (quotedTexts ps).eraseDups = (literalsOf s).eraseDups := by
  cases s with
  | token name regex =>
    obtain ⟨d, n, r, e, rfl, hd, -, hn, -, hr, -, he⟩ := h
    rw [quotedTexts_cons_of_ne (hd ▸ nofun), quotedTexts_cons_of_ne (hn ▸ nofun),
      quotedTexts_cons_of_ne (hr ▸ nofun), quotedTexts_cons_of_isMark he]
    rfl
  | ignore regex =>
    obtain ⟨d, r, e, rfl, hd, -, hr, -, he⟩ := h
    rw [quotedTexts_cons_of_ne (hd ▸ nofun), quotedTexts_cons_of_ne (hr ▸ nofun),
      quotedTexts_cons_of_isMark he]
    rfl
  | start name pos =>
    obtain ⟨d, n, e, rfl, hd, -, hn, -, -, he⟩ := h
    rw [quotedTexts_cons_of_ne (hd ▸ nofun), quotedTexts_cons_of_ne (hn ▸ nofun),
      quotedTexts_cons_of_isMark he]
    rfl
  | keyword text =>
    obtain ⟨l, m, r, e, rfl, hl, hleft, hm, hr, hright, he⟩ := h
    rw [quotedTexts_cons_of_literal hl hleft, quotedTexts_cons_of_isMark hm,
      quotedTexts_cons_of_literal hr hright, quotedTexts_cons_of_isMark he, quotedTexts_nil,
      literalsOf, List.eraseDups_cons, List.eraseDups_cons]
    simp
  | rule name pos branches =>
    obtain ⟨n, m, qs, e, rfl, hn, -, -, hm, hbranches, he⟩ := h
    rw [List.cons_append, List.cons_append, quotedTexts_cons_of_ne (hn ▸ nofun),
      quotedTexts_cons_of_isMark hm, quotedTexts_append, quotedTexts_cons_of_isMark he,
      quotedTexts_of_branchesSpelled hbranches, quotedTexts_nil, List.append_nil]
    rfl

/-- The literals of statements are what the quoted pieces stand for. -/
theorem eraseDups_quotedTexts {statements : List Statement}
    (h : statementsSpelled statements ps) :
    (quotedTexts ps).eraseDups = (statements.flatMap literalsOf).eraseDups := by
  induction statements generalizing ps with
  | nil =>
    cases h
    rfl
  | cons s statements ih =>
    obtain ⟨qs, rs, rfl, hs, hrest⟩ := h
    rw [quotedTexts_append, List.flatMap_cons]
    exact eraseDups_append_congr (Statement.eraseDups_quotedTexts hs) (ih hrest)

end

/-! ## Files -/

/-- Every kind of lexeme is the spelling of a literal or the name of a token. -/
theorem kind_mem_of_mem_take [Regex.Engine] [Literal.Decoder] {src : List Char}
    {file : GrammarFile} (hread : read src = .ok file) {text : String} {line : Int} {limit : Nat}
    {l : Lexeme} (hl : l ∈ ((Lexer.ofFile file).take limit text line).1) :
    l.kind ∈ file.literals ∨ l.kind ∈ file.tokens.map (·.name) := by
  have hliterals : ∀ l ∈ (Lexer.ofFile file).literals, l ≠ "" := fun l hl =>
    ne_empty_of_mem_literals hread (Lexer.mem_literals_make.1 hl)
  obtain ⟨s, hstands⟩ :=
    Lexer.exists_stands_of_mem_take hliterals (Lexer.boundedIn_make _ _ _ _) hl
  rcases hstands.spelled_or_matched with ⟨hmem, -⟩ | ⟨t, ht, hname, -⟩
  · exact .inl (Lexer.mem_literals_make.1 hmem)
  · obtain ⟨token, htoken, rfl⟩ := List.mem_map.1 ht
    exact .inr (List.mem_map.2 ⟨token, htoken, hname⟩)

/-- The literals of statements are those of keywords and those in rules. -/
theorem mem_flatMap_literalsOf_iff {statements : List Statement} {text : String} :
    text ∈ statements.flatMap literalsOf ↔
      .keyword text ∈ statements ∨ text ∈ quotedLiterals (bodiesOf statements) := by
  induction statements with
  | nil => simp [quotedLiterals, bodiesOf]
  | cons s statements ih =>
    rw [List.flatMap_cons, List.mem_append, ih, List.mem_cons]
    cases s with
    | token | ignore | start => simp [literalsOf, bodiesOf]
    | keyword => simp [literalsOf, bodiesOf, or_assoc]
    | rule => simp [literalsOf, bodiesOf, quotedLiterals, or_left_comm]

/-- What has become of the names and the literals of statements that were cut into pieces. -/
structure Vocabulary [Regex.Engine] [Literal.Decoder] (pieces : List Piece)
    (statements : List Statement) (file : GrammarFile) : Prop where
  tokens_eq : file.tokens.map (·.name) = tokenNames statements
  nodup_tokens : (tokenNames statements).Nodup
  heads_apart : ∀ name ∈ (bodiesOf statements).map (·.1), name ∉ tokenNames statements
  /-- Every term of a written rule has the symbol that stands for it, and beside the written rules
  there are just those of the helpers. -/
  resolved : ∃ written, file.rules.Perm ((helpersOf statements).flatMap Helper.rules ++ written) ∧
    rulesResolved (tokenNames statements) (helpersOf statements) (bodiesOf statements) written
  terminal_iff : ∀ pattern, .terminal pattern ∈ symbolsOf file.rules ↔
    pattern ∈ quotedLiterals (bodiesOf statements) ∨
      (pattern ∈ referredNames (bodiesOf statements) ∧ pattern ∈ tokenNames statements)
  nonterminal_iff : ∀ name, .nonterminal name ∈ symbolsOf file.rules ↔
    (name ∈ referredNames (bodiesOf statements) ∧ name ∉ tokenNames statements) ∨
      name ∈ (helpersOf statements).map (·.name)
  literals_appear : FirstAppearances (quotedTexts pieces) file.literals
  mem_literals_iff : ∀ text, text ∈ file.literals ↔
    .keyword text ∈ statements ∨ text ∈ quotedLiterals (bodiesOf statements)
  literals_ne_empty : ∀ text ∈ file.literals, text ≠ ""
  terminal_known : ∀ pattern, .terminal pattern ∈ symbolsOf file.rules →
    pattern ∈ file.literals ∨ pattern ∈ tokenNames statements
  kind_known : ∀ text line limit, ∀ l ∈ ((Lexer.ofFile file).take limit text line).1,
    l.kind ∈ file.literals ∨ l.kind ∈ tokenNames statements

/-- A text that is read is cut into pieces that spell exactly one sequence of statements. Its names
are resolved by the tokens that any of these declare, and its literals are those that are quoted.
-/
theorem read_vocabulary [Regex.Engine] [Literal.Decoder] {src : List Char} {file : GrammarFile}
    (hread : read src = .ok file) :
    ∃ pieces statements, scan src = .ok pieces ∧ statementsSpelled statements pieces ∧
      (∀ other, statementsSpelled other pieces → other = statements) ∧
      Vocabulary pieces statements file := by
  obtain ⟨pieces, statements, hscan, hall, hfile⟩ := exists_readAll_of_read hread
  have hspelled : statementsSpelled statements pieces := spelled_of_readAll hall
  have hrules : file.rules = lowerRules (tokenNames statements) 0 (bodiesOf statements) :=
    rules_of_ofStatements hfile
  obtain ⟨hseparate, -⟩ := exists_ofStatements_iff.1 ⟨file, hfile⟩
  obtain ⟨start, -, heq⟩ := exists_startOf_of_ofStatements hfile
  have htokens : file.tokens.map (·.name) = tokenNames statements := by rw [heq, tokenNames]
  have hliterals : file.literals = (statements.flatMap literalsOf).eraseDups := by rw [heq]
  have hmem (text : String) : text ∈ file.literals ↔
      .keyword text ∈ statements ∨ text ∈ quotedLiterals (bodiesOf statements) := by
    rw [hliterals, List.mem_eraseDups, mem_flatMap_literalsOf_iff]
  refine ⟨pieces, statements, hscan, hspelled, fun other hother => eq_of_readAll hall hother, ?_⟩
  exact
    { tokens_eq := htokens
      nodup_tokens := htokens ▸ nodup_tokens hread
      heads_apart := by rwa [map_fst_bodiesOf, tokenNames, map_name_tokensOf]
      resolved := by
        rw [hrules]
        exact ⟨_, lowerRules_perm _ 0, resolved_writtenRules fun _ hx => hx⟩
      terminal_iff := by
        rw [hrules]
        exact fun pattern => terminal_mem_symbols_iff
      nonterminal_iff := by
        rw [hrules]
        exact fun name => nonterminal_mem_symbols_iff
      literals_appear := by
        rw [hliterals, ← eraseDups_quotedTexts hspelled]
        exact firstAppearances_eraseDups _
      mem_literals_iff := hmem
      literals_ne_empty := fun text htext => ne_empty_of_mem_literals hread htext
      terminal_known := by
        intro pattern hpattern
        rw [hrules] at hpattern
        rw [hmem]
        exact (terminal_mem_symbols_iff.1 hpattern).imp .inr And.right
      kind_known := fun text line limit l hl => htokens ▸ kind_mem_of_mem_take hread hl }

/-- A file that declares a token behind the rule that refers to it, and quotes the name of a
rule. -/
def lateToken : List Char := "S:(N|\"S\")*\"-\"S;%token N/n/;".toList

theorem read_vocabulary_lateToken : ∃ file pieces statements, read lateToken = .ok file ∧
    scan lateToken = .ok pieces ∧ statementsSpelled statements pieces ∧
    Vocabulary pieces statements file ∧ file.literals = ["S", "-"] ∧
    file.rules = [⟨"__grp1", [.terminal "N"]⟩, ⟨"__grp1", [.terminal "S"]⟩, ⟨"__rep2", []⟩,
      ⟨"__rep2", [.nonterminal "__rep2", .nonterminal "__grp1"]⟩,
      ⟨"S", [.nonterminal "__rep2", .terminal "-", .nonterminal "S"]⟩] := by
  have hread : read lateToken = .ok
      { tokens := [⟨"N", ⟨"n", {}⟩⟩], ignores := []
        literals := ["S", "-"], start := some "S"
        rules := [⟨"__grp1", [.terminal "N"]⟩, ⟨"__grp1", [.terminal "S"]⟩, ⟨"__rep2", []⟩,
          ⟨"__rep2", [.nonterminal "__rep2", .nonterminal "__grp1"]⟩,
          ⟨"S", [.nonterminal "__rep2", .terminal "-", .nonterminal "S"]⟩] } := by
    decide +kernel
  obtain ⟨pieces, statements, hscan, hspelled, -, hvocabulary⟩ := read_vocabulary hread
  exact ⟨_, pieces, statements, hread, hscan, hspelled, hvocabulary, rfl, rfl⟩

end Earley.GrammarFile
