/-
Earley.GrammarFile.Statement — the statements of a grammar file.

- `Statement.read` reads one statement. What can be checked as soon as it is read is checked here:
  that no token is declared twice, that patterns compile, that literals stand for a text, and that
  the two sides of a keyword agree.
- `Statement.readAll` reads statements up to the end of the file.

Whether a pattern compiles and what a literal stands for is left to an engine and to a decoder.
-/
import Earley.GrammarFile.Term

namespace Earley.GrammarFile

/-- A statement of a grammar file. -/
inductive Statement where
  /-- `%token name /regex/ ;` -/
  | token (name : String) (regex : Regex)
  /-- `%ignore /regex/ ;` -/
  | ignore (regex : Regex)
  /-- `%start name ;`, with the offset of the name. -/
  | start (name : String) (pos : Nat)
  /-- `"text" : "text" ;` -/
  | keyword (text : String)
  /-- `name : branches ;`, with the offset of the name. -/
  | rule (name : String) (pos : Nat) (branches : List (List Term))
  deriving Repr

namespace Statement

/-- The name of the token that a statement declares. -/
def declared? : Statement → Option String
  | .token name _ => some name
  | _ => none

/-! ## Progress of cursors -/

theorem length_expect {c c' : Cursor} {what : Expectation} {kind : PieceKind} {p : Piece}
    (h : c.expect what kind = .ok (p, c')) : c'.rest.length ≤ c.rest.length := by
  unfold Cursor.expect at h
  split at h
  next hr =>
    split at h
    · cases h; simp [Cursor.past, hr]
    · simp at h
  · simp at h

theorem length_expectMark {c c' : Cursor} {what : Expectation} {mark : Char}
    (h : c.expectMark what mark = .ok c') : c'.rest.length ≤ c.rest.length := by
  unfold Cursor.expectMark at h
  split at h
  next hr =>
    split at h
    · cases h; simp [Cursor.past, hr]
    · simp at h
  · simp at h

theorem length_semicolon {c c' : Cursor} {after : StatementKind}
    (h : c.semicolon after = .ok c') : c'.rest.length ≤ c.rest.length := by
  unfold Cursor.semicolon at h
  split at h
  next hr =>
    split at h
    · cases h; simp [Cursor.past, hr]
    · simp at h
  · simp at h

/-- The first step of a computation that succeeds has succeeded. -/
theorem ok_of_bind_ok {ε α β : Type} {m : Except ε α} {k : α → Except ε β} {b : β}
    (h : m >>= k = .ok b) : ∃ a, m = .ok a ∧ k a = .ok b := by
  cases m with
  | error e => cases h
  | ok a => exact ⟨a, rfl, h⟩

/-! ## Patterns -/

/-- The flags at the end of a pattern as it is written. -/
def writtenFlags (chars : List Char) : List Char := (chars.reverse.takeWhile (· != '/')).reverse

/-- The text between the slashes of a pattern as it is written. -/
def writtenPattern (chars : List Char) : List Char :=
  (chars.drop 1).take (chars.length - 2 - (writtenFlags chars).length)

section

variable [Regex.Engine]

/-- The pattern that a piece writes. -/
def compilePiece (p : Piece) : Except Error Regex :=
  match Regex.compile (String.ofList (writtenPattern p.chars))
      (Regex.Flags.ofLetters (writtenFlags p.chars)) with
  | .ok r => .ok r
  | .error reason => .error (.located (.invalidRegex p.text reason) p.start)

/-- Reads a pattern. -/
def readRegex (c : Cursor) (what : Expectation) : Except Error (Regex × Cursor) :=
  match c.expect what .regex with
  | .error e => .error e
  | .ok (p, c) => (compilePiece p).map (·, c)

theorem length_readRegex {c c' : Cursor} {what : Expectation} {r : Regex}
    (h : readRegex c what = .ok (r, c')) : c'.rest.length ≤ c.rest.length := by
  unfold readRegex at h
  split at h
  · simp at h
  next he =>
    rcases hc : compilePiece _ with e | r' <;> rw [hc] at h <;> cases h
    exact length_expect he

/-! ## Kinds of statements -/

/-- Reads a token declaration behind its directive. `declared` are the tokens that have been
declared already. -/
def readToken (declared : List String) (c : Cursor) : Except Error (Statement × Cursor) := do
  let (name, c) ← c.expect .tokenName .name
  if name.text ∈ declared then throw (.located (.duplicateToken name.text) name.start)
  let (regex, c) ← readRegex c (.tokenRegex name.text)
  return (.token name.text regex, ← c.semicolon .token)

/-- Reads the declaration of text to ignore, behind its directive. -/
def readIgnore (c : Cursor) : Except Error (Statement × Cursor) := do
  let (regex, c) ← readRegex c .ignoreRegex
  return (.ignore regex, ← c.semicolon .ignore)

/-- Reads the choice of the start symbol behind its directive. -/
def readStart (c : Cursor) : Except Error (Statement × Cursor) := do
  let (name, c) ← c.expect .startName .name
  return (.start name.text name.start, ← c.semicolon .start)

/-- Reads a statement that begins with a directive. -/
def readDirective (declared : List String) (p : Piece) (c : Cursor) :
    Except Error (Statement × Cursor) :=
  match p.text with
  | "%token" => readToken declared c
  | "%ignore" => readIgnore c
  | "%start" => readStart c
  | text => .error (.located (.unknownDirective text) p.start)

variable [Literal.Decoder]

/-- Reads a keyword behind its first literal. -/
def readKeyword (left : Piece) (c : Cursor) : Except Error (Statement × Cursor) := do
  let c ← c.expectMark .colon ':'
  let (right, c) ← c.expect .literal .string
  let a ← left.literal
  let b ← right.literal
  if a ≠ b then throw (.located (.keywordMismatch a b) left.start)
  return (.keyword a, ← c.semicolon (.keyword a))

/-- Reads a rule behind its name. -/
def readRule (head : Piece) (c : Cursor) : Except Error (Statement × Cursor) := do
  let c ← c.expectMark .colon ':'
  let (branches, c) ← Body.read c
  return (.rule head.text head.start branches, ← c.semicolon (.rule head.text))

/-- Reads the statement that begins with a piece, behind that piece. -/
def read (declared : List String) (p : Piece) (c : Cursor) : Except Error (Statement × Cursor) :=
  match p.kind with
  | .directive => readDirective declared p c
  | .string => readKeyword p c
  | .name => readRule p c
  | .regex | .punctuation => .error (.located (.unexpectedPiece p.text) p.start)

/-- Reading a statement never makes the rest longer. -/
theorem length_read {declared : List String} {p : Piece} {c c' : Cursor} {s : Statement}
    (h : read declared p c = .ok (s, c')) : c'.rest.length ≤ c.rest.length := by
  unfold read at h
  split at h
  · unfold readDirective at h
    split at h
    · obtain ⟨⟨name, c₁⟩, h₁, h⟩ := ok_of_bind_ok h
      simp only at h
      split at h
      · cases h
      obtain ⟨⟨r, c₂⟩, h₂, h⟩ := ok_of_bind_ok h
      obtain ⟨c₃, h₃, h⟩ := ok_of_bind_ok h
      cases h
      exact Nat.le_trans (length_semicolon h₃)
        (Nat.le_trans (length_readRegex h₂) (length_expect h₁))
    · obtain ⟨⟨r, c₁⟩, h₁, h⟩ := ok_of_bind_ok h
      obtain ⟨c₂, h₂, h⟩ := ok_of_bind_ok h
      cases h
      exact Nat.le_trans (length_semicolon h₂) (length_readRegex h₁)
    · obtain ⟨⟨name, c₁⟩, h₁, h⟩ := ok_of_bind_ok h
      obtain ⟨c₂, h₂, h⟩ := ok_of_bind_ok h
      cases h
      exact Nat.le_trans (length_semicolon h₂) (length_expect h₁)
    · cases h
  · obtain ⟨c₁, h₁, h⟩ := ok_of_bind_ok h
    obtain ⟨⟨right, c₂⟩, h₂, h⟩ := ok_of_bind_ok h
    obtain ⟨a, -, h⟩ := ok_of_bind_ok h
    obtain ⟨b, -, h⟩ := ok_of_bind_ok h
    simp only at h
    split at h
    · cases h
    obtain ⟨c₃, h₃, h⟩ := ok_of_bind_ok h
    cases h
    exact Nat.le_trans (length_semicolon h₃)
      (Nat.le_trans (length_expect h₂) (length_expectMark h₁))
  · obtain ⟨c₁, h₁, h⟩ := ok_of_bind_ok h
    obtain ⟨⟨bs, c₂⟩, h₂, h⟩ := ok_of_bind_ok h
    obtain ⟨c₃, h₃, h⟩ := ok_of_bind_ok h
    cases h
    exact Nat.le_trans (length_semicolon h₃)
      (Nat.le_trans (Body.length_readFrom h₂) (length_expectMark h₁))
  · cases h
  · cases h

/-! ## Whole files -/

/-- Reads statements up to the end of the file. -/
def readAll (declared : List String) (c : Cursor) : Except Error (List Statement) :=
  match _hc : c.rest with
  | [] => .ok []
  | p :: rest =>
    match _h : read declared p (c.past p rest) with
    | .error e => .error e
    | .ok (s, c') => (readAll (declared ++ s.declared?.toList) c').map (s :: ·)
  termination_by c.rest.length
  decreasing_by
    have hle : c'.rest.length ≤ rest.length := length_read _h
    rw [_hc, List.length_cons]
    exact Nat.lt_succ_of_le hle

theorem readAll_of_rest_eq_nil {declared : List String} {c : Cursor} (h : c.rest = []) :
    readAll declared c = .ok [] := by
  rw [readAll.eq_def]
  split
  · rfl
  next hcons => cases h.symm.trans hcons

/-- Reading goes on behind the first statement. -/
theorem readAll_of_rest_eq_cons {declared : List String} {c : Cursor} {p : Piece}
    {rest : List Piece} (h : c.rest = p :: rest) :
    readAll declared c = (do
      let (s, c) ← read declared p (c.past p rest)
      (readAll (declared ++ s.declared?.toList) c).map (s :: ·)) := by
  rw [readAll.eq_def]
  split
  next hnil => cases h.symm.trans hnil
  next hcons =>
    cases h.symm.trans hcons
    split
    next e he =>
      rw [he]
      rfl
    next s c' hok =>
      rw [hok]
      rfl

end

end Statement

end Earley.GrammarFile
