/-
Earley.Proofs.GrammarFile.Declarations — what holds of the literals and the tokens of a file.

- `ne_empty_of_mem_literals`: no literal is empty, since none is that a quoted piece stands for.
- `nodup_tokens`: the tokens have different names.
-/
import Earley.Proofs.GrammarFile.Acceptance

namespace Earley.GrammarFile

/-! ## Literals -/

variable [Literal.Decoder]

theorem Piece.ne_empty_of_literal {p : Piece} {text : String} (h : p.literal = .ok text) :
    text ≠ "" :=
  String.toList_eq_nil_iff.not.1 (Piece.literal_eq_ok_iff.1 h).1

mutual

theorem Term.ne_empty_of_mem_literals {t : Term} {ps : List Piece} (h : t.Spelled ps) {l : String}
    (hl : l ∈ t.literals) : l ≠ "" := by
  cases t with
  | name s => cases hl
  | literal text =>
    obtain ⟨p, -, -, hp⟩ := h
    cases List.mem_singleton.1 hl
    exact Piece.ne_empty_of_literal hp
  | group branches =>
    obtain ⟨p, qs, r, -, -, hbranches, -⟩ := h
    exact ne_empty_of_mem_branchesLiterals hbranches hl
  | suffixed suffix t =>
    obtain ⟨-, qs, p, -, ht, -⟩ := h
    exact t.ne_empty_of_mem_literals ht hl

theorem ne_empty_of_mem_sequenceLiterals {ts : List Term} {ps : List Piece}
    (h : sequenceSpelled ts ps) {l : String} (hl : l ∈ sequenceLiterals ts) : l ≠ "" := by
  cases ts with
  | nil => cases hl
  | cons t ts =>
    obtain ⟨qs, rs, -, ht, hts⟩ := h
    rcases List.mem_append.1 hl with hl | hl
    · exact t.ne_empty_of_mem_literals ht hl
    · exact ne_empty_of_mem_sequenceLiterals hts hl

theorem ne_empty_of_mem_branchesLiterals {bs : List (List Term)} {ps : List Piece}
    (h : branchesSpelled bs ps) {l : String} (hl : l ∈ branchesLiterals bs) : l ≠ "" := by
  cases bs with
  | nil => cases hl
  | cons b bs =>
    rcases h with ⟨rfl, hb⟩ | ⟨qs, p, rs, -, hb, -, hbs⟩ <;>
      rcases List.mem_append.1 hl with hl | hl
    · exact ne_empty_of_mem_sequenceLiterals hb hl
    · cases hl
    · exact ne_empty_of_mem_sequenceLiterals hb hl
    · exact ne_empty_of_mem_branchesLiterals hbs hl

end

variable [Regex.Engine]

theorem Statement.ne_empty_of_mem_literalsOf {s : Statement} {ps : List Piece} (h : s.Spelled ps)
    {l : String} (hl : l ∈ literalsOf s) : l ≠ "" := by
  cases s with
  | token | ignore | start => cases hl
  | keyword text =>
    obtain ⟨p, -, -, -, -, -, hp, -⟩ := h
    cases List.mem_singleton.1 hl
    exact Piece.ne_empty_of_literal hp
  | rule name pos branches =>
    obtain ⟨-, -, qs, -, -, -, -, -, -, hbranches, -⟩ := h
    exact ne_empty_of_mem_branchesLiterals hbranches hl

variable {src : List Char} {file : GrammarFile}

/-- The literals of a file that is read are not empty. -/
theorem ne_empty_of_mem_literals (h : read src = .ok file) {l : String} (hl : l ∈ file.literals) :
    l ≠ "" := by
  obtain ⟨statements, ⟨pieces, -, hspelled⟩, -, hfile⟩ := exists_spells_of_read h
  obtain ⟨start, -, rfl⟩ := exists_startOf_of_ofStatements hfile
  obtain ⟨s, hs, hl⟩ := List.mem_flatMap.1 (List.mem_eraseDups.1 hl)
  obtain ⟨qs, -, hqs⟩ := exists_spelled_of_mem hspelled hs
  exact s.ne_empty_of_mem_literalsOf hqs hl

/-! ## Tokens -/

/-- No two tokens of a file have one name. -/
theorem nodup_tokens (h : read src = .ok file) : (file.tokens.map (·.name)).Nodup := by
  obtain ⟨pieces, statements, -, hall, hfile⟩ := exists_readAll_of_read h
  obtain ⟨start, -, rfl⟩ := exists_startOf_of_ofStatements hfile
  rw [map_name_tokensOf]
  exact nodup_of_readAll hall List.nodup_nil

end Earley.GrammarFile
