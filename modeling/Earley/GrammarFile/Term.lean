/-
Earley.GrammarFile.Term — the right-hand sides of rules.

A right-hand side has branches, a branch is a sequence of terms, and a term is a name, a literal or
a group, perhaps with a suffix. A name is not resolved here: whether it stands for a token or for
rules depends on the whole file.

- `Body.read` reads branches as far as they go. It is driven by the pieces, one by one, and keeps
  the groups that are open.
-/
import Earley.GrammarFile.Error
import Earley.GrammarFile.Piece

namespace Earley.GrammarFile

/-! ## Terms -/

/-- What may follow a name, a literal or a group. -/
inductive Suffix where
  /-- `?`: at most once. -/
  | optional
  /-- `*`: any number of times. -/
  | star
  /-- `+`: at least once. -/
  | plus
  deriving DecidableEq, Repr

/-- A part of a right-hand side. -/
inductive Term where
  | name (s : String)
  | literal (text : String)
  | group (branches : List (List Term))
  | suffixed (suffix : Suffix) (t : Term)
  deriving Repr

mutual

/-- The literals of a term, from left to right. -/
def Term.literals : Term → List String
  | .name _ => []
  | .literal text => [text]
  | .group branches => branchesLiterals branches
  | .suffixed _ t => t.literals

/-- The literals of a branch, from left to right. -/
def sequenceLiterals : List Term → List String
  | [] => []
  | t :: ts => t.literals ++ sequenceLiterals ts

/-- The literals of some branches, from left to right. -/
def branchesLiterals : List (List Term) → List String
  | [] => []
  | b :: bs => sequenceLiterals b ++ branchesLiterals bs

end

/-! ## Reading pieces -/

/-- A place among the pieces of a file: those that are left, the offset behind the last one that
was read, and the length of the file. -/
structure Cursor where
  rest : List Piece
  last : Nat
  size : Nat
  deriving DecidableEq, Repr

namespace Cursor

/-- The cursor behind a piece. -/
def past (c : Cursor) (p : Piece) (rest : List Piece) : Cursor := ⟨rest, p.stop, c.size⟩

/-- The fault that something else had to come at the cursor. -/
def unexpected (c : Cursor) (what : Expectation) : Error :=
  match c.rest with
  | [] => .located (.expected what none) c.size
  | p :: _ => .located (.expected what (some p.text)) p.start

/-- Whether a piece is a punctuation mark. -/
def isMark (mark : Char) (p : Piece) : Bool := p.kind == .punctuation && p.chars == [mark]

/-- Reads a piece of a kind. -/
def expect (c : Cursor) (what : Expectation) (kind : PieceKind) : Except Error (Piece × Cursor) :=
  match c.rest with
  | p :: rest => if p.kind = kind then .ok (p, c.past p rest) else .error (c.unexpected what)
  | [] => .error (c.unexpected what)

/-- Reads a punctuation mark. -/
def expectMark (c : Cursor) (what : Expectation) (mark : Char) : Except Error Cursor :=
  match c.rest with
  | p :: rest => if isMark mark p then .ok (c.past p rest) else .error (c.unexpected what)
  | [] => .error (c.unexpected what)

/-- Reads the semicolon that ends a statement. Where it is missing, the fault is behind the last
piece of the statement. -/
def semicolon (c : Cursor) (after : StatementKind) : Except Error Cursor :=
  match c.rest with
  | p :: rest =>
    if isMark ';' p then .ok (c.past p rest) else .error (.located (.missingSemicolon after) c.last)
  | [] => .error (.located (.missingSemicolon after) c.last)

end Cursor

/-- The text that a quoted piece stands for; it may not be empty. -/
def Piece.literal [Literal.Decoder] (p : Piece) : Except Error String :=
  match Literal.Decoder.decode p.chars with
  | .error fault => .error (.literal fault)
  | .ok [] => .error (.located .emptyLiteral p.start)
  | .ok (c :: cs) => .ok (String.ofList (c :: cs))

/-! ## Bodies -/

namespace Body

/-- A group that is being read: its finished branches and the terms of the last one, the latest
first, and whether a suffix may follow. -/
structure Level where
  branches : List (List Term)
  terms : List Term
  bare : Bool
  deriving Repr

namespace Level

/-- A group of which nothing has been read. -/
def start : Level := ⟨[], [], false⟩

/-- Adds a term that a suffix may follow. -/
def push (l : Level) (t : Term) : Level := ⟨l.branches, t :: l.terms, true⟩

/-- Begins another branch. -/
def divide (l : Level) : Level := ⟨l.terms.reverse :: l.branches, [], false⟩

/-- The branches from left to right. -/
def finish (l : Level) : List (List Term) := (l.terms.reverse :: l.branches).reverse

/-- Puts a suffix on the last term, if it may have one. -/
def suffix? (l : Level) (s : Suffix) : Option Level :=
  match l.terms, l.bare with
  | t :: ts, true => some ⟨l.branches, .suffixed s t :: ts, false⟩
  | _, _ => none

end Level

/-- Ends a body at a piece that does not belong to it: no group may be open. -/
def stop (level : Level) (outer : List Level) (c : Cursor) :
    Except Error (List (List Term) × Cursor) :=
  match outer with
  | [] => .ok (level.finish, c)
  | _ :: _ => .error (c.unexpected .closingParenthesis)

/-- What a piece means inside a body. -/
inductive Move where
  | push (t : Term)
  | suffix (s : Suffix)
  | openGroup
  | closeGroup
  | divide
  | leave
  deriving Repr

/-- The move that a piece asks for. -/
def move [Literal.Decoder] (p : Piece) : Except Error Move :=
  match p.kind, p.chars with
  | .name, _ => .ok (.push (.name p.text))
  | .string, _ => p.literal.map fun text => .push (.literal text)
  | .punctuation, ['('] => .ok .openGroup
  | .punctuation, [')'] => .ok .closeGroup
  | .punctuation, ['|'] => .ok .divide
  | .punctuation, ['?'] => .ok (.suffix .optional)
  | .punctuation, ['*'] => .ok (.suffix .star)
  | .punctuation, ['+'] => .ok (.suffix .plus)
  | _, _ => .ok .leave

/-- Reads on in the innermost group, `outer` being the groups around it. -/
def readFrom [Literal.Decoder] (size : Nat) (level : Level) (outer : List Level) (last : Nat) :
    (pieces : List Piece) → Except Error (List (List Term) × Cursor)
  | [] => stop level outer ⟨[], last, size⟩
  | p :: rest =>
    match move p with
    | .error e => .error e
    | .ok (.push t) => readFrom size (level.push t) outer p.stop rest
    | .ok .divide => readFrom size level.divide outer p.stop rest
    | .ok .openGroup => readFrom size .start (level :: outer) p.stop rest
    | .ok .closeGroup =>
      match outer with
      | [] => stop level [] ⟨p :: rest, last, size⟩
      | up :: outer => readFrom size (up.push (.group level.finish)) outer p.stop rest
    | .ok (.suffix s) =>
      match level.suffix? s with
      | some level => readFrom size level outer p.stop rest
      | none => stop level outer ⟨p :: rest, last, size⟩
    | .ok .leave => stop level outer ⟨p :: rest, last, size⟩

/-- Reads the branches that begin at a cursor, as far as they go. -/
def read [Literal.Decoder] (c : Cursor) : Except Error (List (List Term) × Cursor) :=
  readFrom c.size .start [] c.last c.rest

/-- Reading a body never makes the rest longer. -/
theorem length_readFrom [Literal.Decoder] {size : Nat} {level : Level} {outer : List Level}
    {last : Nat} {pieces : List Piece} {bs : List (List Term)} {c : Cursor}
    (h : readFrom size level outer last pieces = .ok (bs, c)) : c.rest.length ≤ pieces.length := by
  have length_stop {level : Level} {outer : List Level} {c' : Cursor}
      (h : stop level outer c' = .ok (bs, c)) : c.rest.length ≤ c'.rest.length := by
    cases outer with
    | nil => cases h; exact Nat.le_refl _
    | cons => simp [stop] at h
  fun_induction readFrom size level outer last pieces with
  | case1 => exact length_stop h
  | case2 => simp at h
  | case3 _ _ _ _ _ _ _ ih => exact Nat.le_succ_of_le (ih h)
  | case4 _ _ _ _ _ _ ih => exact Nat.le_succ_of_le (ih h)
  | case5 _ _ _ _ _ _ ih => exact Nat.le_succ_of_le (ih h)
  | case6 => exact length_stop h
  | case7 _ _ _ _ _ _ _ ih => exact Nat.le_succ_of_le (ih h)
  | case8 _ _ _ _ _ _ _ _ _ ih => exact Nat.le_succ_of_le (ih h)
  | case9 => exact length_stop h
  | case10 => exact length_stop h

end Body

end Earley.GrammarFile
