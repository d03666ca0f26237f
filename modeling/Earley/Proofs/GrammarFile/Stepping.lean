/-
Earley.Proofs.GrammarFile.Stepping — reading a file piece by piece.

Reading is cut into tasks, each of which looks at one piece and no further: a `Task` is what is to
be found next, together with what has been found of the statement so far, and an `Action` is what
is done with the piece. `Task.act` decides, and sees nothing but the next piece (`Task.act_sight`).

- `Task.readOn` says what the readers make of the rest of a file where a task is to be done, and
  `Task.readOn_eq` that they make the same of it behind the action of the task.
- `Task.suits_of_act`: an action takes a piece only where there is one, opens one group at most,
  and leaves a piece to another task only at the end of a right-hand side.
-/
import Earley.Proofs.GrammarFile.Reading

namespace Earley.GrammarFile

open Cursor (isMark)

/-! ## What stands at a cursor -/

namespace Cursor

/-- The piece at a cursor, which has to be of a kind. -/
def piece (c : Cursor) (what : Expectation) (kind : PieceKind) : Except Error Piece :=
  (·.1) <$> c.expect what kind

/-- Asks for a punctuation mark at a cursor. -/
def ask (c : Cursor) (what : Expectation) (mark : Char) : Except Error Unit :=
  (fun _ => ()) <$> c.expectMark what mark

/-- The cursor behind the next piece, if there is one. -/
def next (c : Cursor) : Cursor :=
  match c.rest with
  | [] => c
  | p :: rest => c.past p rest

/-- The cursor with nothing in sight but the next piece. -/
def sight (c : Cursor) : Cursor := ⟨c.rest.take 1, 0, c.size⟩

section

variable {c : Cursor} {what : Expectation} {kind : PieceKind} {mark : Char}

theorem expect_eq : c.expect what kind = (·, c.next) <$> c.piece what kind := by
  obtain ⟨_ | ⟨p, rest⟩, last, size⟩ := c
  · rfl
  · simp only [piece, expect]
    split <;> rfl

theorem expectMark_eq : c.expectMark what mark = (fun _ => c.next) <$> c.ask what mark := by
  obtain ⟨_ | ⟨p, rest⟩, last, size⟩ := c
  · rfl
  · simp only [ask, expectMark]
    split <;> rfl

theorem piece_sight : c.sight.piece what kind = c.piece what kind := by
  obtain ⟨_ | ⟨p, rest⟩, last, size⟩ := c
  · rfl
  · simp only [piece, expect, sight, unexpected, List.take_succ_cons]
    split <;> rfl

theorem ask_sight : c.sight.ask what mark = c.ask what mark := by
  obtain ⟨_ | ⟨p, rest⟩, last, size⟩ := c
  · rfl
  · simp only [ask, expectMark, sight, unexpected, List.take_succ_cons]
    split <;> rfl

theorem unexpected_sight : c.sight.unexpected what = c.unexpected what := by
  obtain ⟨_ | ⟨p, rest⟩, last, size⟩ := c <;> rfl

theorem rest_ne_nil_of_piece {p : Piece} (h : c.piece what kind = .ok p) : c.rest ≠ [] := by
  obtain ⟨⟨q, c'⟩, hexpect, rfl⟩ := exists_of_map_eq_ok h
  rw [(Statement.eq_of_expect hexpect).1]
  exact List.cons_ne_nil _ _

theorem rest_ne_nil_of_ask {u : Unit} (h : c.ask what mark = .ok u) : c.rest ≠ [] := by
  obtain ⟨c', hexpect, -⟩ := exists_of_map_eq_ok h
  obtain ⟨p, hrest, -⟩ := Statement.eq_of_expectMark hexpect
  rw [hrest]
  exact List.cons_ne_nil _ _

end

end Cursor

/-! ## Tasks -/

/-- What is to be found next. -/
inductive Task where
  /-- The first piece of a statement, or the end of the file. -/
  | statement
  | tokenName
  | tokenRegex (name : String)
  | ignoreRegex
  | startName
  | keywordColon (left : Piece)
  | keywordRight (left : Piece)
  | ruleColon (head : Piece)
  /-- A piece of a right-hand side, in the innermost of the groups that are open. -/
  | body (head : Piece) (level : Body.Level) (outer : List Body.Level)
  /-- The semicolon behind a statement. -/
  | semicolon (after : StatementKind) (s : Statement)
  deriving Repr

/-- What is done at a cursor. -/
inductive Action where
  /-- The next piece is taken. -/
  | take (next : Task)
  /-- The next piece is left to another task. -/
  | leave (next : Task)
  /-- The next piece is taken, and ends a statement. -/
  | complete (s : Statement)
  /-- The file has been read. -/
  | finish
  /-- A semicolon is missing, which is reported at the end of the piece before the cursor. -/
  | lookBehind (after : StatementKind)
  deriving Repr

namespace Task

/-- The number of groups around the innermost one that is open. -/
def depth : Task → Nat
  | .body _ _ outer => outer.length
  | _ => 0

/-- Whether a piece of a right-hand side is to be found. -/
def isBody : Task → Bool
  | .body _ _ _ => true
  | _ => false

/-- Whether the semicolon behind a statement is to be found. -/
def isSemicolon : Task → Bool
  | .semicolon _ _ => true
  | _ => false

/-- What is done with a directive. -/
def direct (p : Piece) : Except Error Action :=
  match p.text with
  | "%token" => .ok (.take .tokenName)
  | "%ignore" => .ok (.take .ignoreRegex)
  | "%start" => .ok (.take .startName)
  | text => .error (.located (.unknownDirective text) p.start)

/-- What is done with the first piece of a statement. -/
def begin (p : Piece) : Except Error Action :=
  match p.kind with
  | .directive => direct p
  | .string => .ok (.take (.keywordColon p))
  | .name => .ok (.take (.ruleColon p))
  | .regex | .punctuation => .error (.located (.unexpectedPiece p.text) p.start)

/-- What is done at the end of a right-hand side: no group may be open. -/
def endBody (head : Piece) (level : Body.Level) (outer : List Body.Level) (c : Cursor) :
    Except Error Action :=
  (Body.stop level outer c).map fun (branches, _) =>
    .leave (.semicolon (.rule head.text) (.rule head.text head.start branches))

variable [Regex.Engine] [Literal.Decoder]

/-- What is done in a right-hand side. -/
def inBody (head : Piece) (level : Body.Level) (outer : List Body.Level) (c : Cursor) :
    Except Error Action :=
  match c.rest with
  | [] => endBody head level outer c
  | p :: _ =>
    match Body.move p with
    | .error e => .error e
    | .ok (.push t) => .ok (.take (.body head (level.push t) outer))
    | .ok .divide => .ok (.take (.body head level.divide outer))
    | .ok .openGroup => .ok (.take (.body head .start (level :: outer)))
    | .ok .closeGroup =>
      match outer with
      | [] => endBody head level [] c
      | up :: outer => .ok (.take (.body head (up.push (.group level.finish)) outer))
    | .ok (.suffix s) =>
      match level.suffix? s with
      | some level => .ok (.take (.body head level outer))
      | none => endBody head level outer c
    | .ok .leave => endBody head level outer c

/-- What is done where a task comes to a cursor. -/
def act (declared : List String) (c : Cursor) : Task → Except Error Action
  | .statement =>
    match c.rest with
    | [] => .ok .finish
    | p :: _ => begin p
  | .tokenName => do
    let n ← c.piece .tokenName .name
    if n.text ∈ declared then throw (.located (.duplicateToken n.text) n.start)
    return .take (.tokenRegex n.text)
  | .tokenRegex name => do
    let p ← c.piece (.tokenRegex name) .regex
    return .take (.semicolon .token (.token name (← Statement.compilePiece p)))
  | .ignoreRegex => do
    let p ← c.piece .ignoreRegex .regex
    return .take (.semicolon .ignore (.ignore (← Statement.compilePiece p)))
  | .startName => do
    let n ← c.piece .startName .name
    return .take (.semicolon .start (.start n.text n.start))
  | .keywordColon left => do
    c.ask .colon ':'
    return .take (.keywordRight left)
  | .keywordRight left => do
    let right ← c.piece .literal .string
    let a ← left.literal
    let b ← right.literal
    if a ≠ b then throw (.located (.keywordMismatch a b) left.start)
    return .take (.semicolon (.keyword a) (.keyword a))
  | .ruleColon head => do
    c.ask .colon ':'
    return .take (.body head .start [])
  | .body head level outer => inBody head level outer c
  | .semicolon after s =>
    match c.rest with
    | p :: _ => if isMark ';' p then .ok (.complete s) else .ok (.lookBehind after)
    | [] => .ok (.lookBehind after)

/-! ## Tasks and readers -/

/-- A statement that has been read, and those that are read behind it. -/
def readBehind (declared : List String) (s : Statement) (c : Cursor) :
    Except Error (List Statement) :=
  (Statement.readAll (declared ++ s.declared?.toList) c).map (s :: ·)

/-- What the readers make of the rest of a file, if a task is to be done first. -/
def readOn (declared : List String) (c : Cursor) : Task → Except Error (List Statement)
  | .statement => Statement.readAll declared c
  | .tokenName => do
    let (s, c) ← Statement.readToken declared c
    readBehind declared s c
  | .tokenRegex name => do
    let (regex, c) ← Statement.readRegex c (.tokenRegex name)
    readBehind declared (.token name regex) (← c.semicolon .token)
  | .ignoreRegex => do
    let (s, c) ← Statement.readIgnore c
    readBehind declared s c
  | .startName => do
    let (s, c) ← Statement.readStart c
    readBehind declared s c
  | .keywordColon left => do
    let (s, c) ← Statement.readKeyword left c
    readBehind declared s c
  | .keywordRight left => do
    let (right, c) ← c.expect .literal .string
    let a ← left.literal
    let b ← right.literal
    if a ≠ b then throw (.located (.keywordMismatch a b) left.start)
    readBehind declared (.keyword a) (← c.semicolon (.keyword a))
  | .ruleColon head => do
    let (s, c) ← Statement.readRule head c
    readBehind declared s c
  | .body head level outer => do
    let (branches, c) ← Body.readFrom c.size level outer c.last c.rest
    readBehind declared (.rule head.text head.start branches) (← c.semicolon (.rule head.text))
  | .semicolon after s => do
    readBehind declared s (← c.semicolon after)

end Task

/-- What the readers make of the rest of a file behind an action. -/
def Action.readOn [Regex.Engine] [Literal.Decoder] (declared : List String) (c : Cursor) :
    Action → Except Error (List Statement)
  | .take t => t.readOn declared c.next
  | .leave t => t.readOn declared c
  | .complete s => Task.readBehind declared s c.next
  | .finish => .ok []
  | .lookBehind after => .error (.located (.missingSemicolon after) c.last)

namespace Task

section

variable {declared : List String} {c : Cursor} {head : Piece} {level : Body.Level}
  {outer : List Body.Level}

theorem endBody_sight : endBody head level outer c.sight = endBody head level outer c := by
  cases outer with
  | nil => rfl
  | cons up outer =>
    simp only [endBody, Body.stop, Cursor.unexpected_sight]

theorem readRegex_eq [Regex.Engine] {what : Expectation} : Statement.readRegex c what = (do
      let p ← c.piece what .regex
      return (← Statement.compilePiece p, c.next)) := by
  rw [Statement.readRegex, Cursor.expect_eq]
  cases c.piece what .regex with
  | error e => rfl
  | ok p =>
    change (Statement.compilePiece p).map _ = Statement.compilePiece p >>= _
    cases Statement.compilePiece p <;> rfl

variable [Regex.Engine] [Literal.Decoder]

theorem act_sight (t : Task) : t.act declared c.sight = t.act declared c := by
  obtain ⟨rest, last, size⟩ := c
  cases t with
  | body head level outer =>
    simp only [act, inBody, endBody_sight]
    cases rest <;> rfl
  | statement | semicolon => cases rest <;> rfl
  | tokenName | tokenRegex | ignoreRegex | startName | keywordRight =>
    simp only [act, Cursor.piece_sight]
  | keywordColon | ruleColon => simp only [act, Cursor.ask_sight]

theorem readOn_endBody : (do
      let (branches, c) ← Body.stop level outer c
      readBehind declared (.rule head.text head.start branches) (← c.semicolon (.rule head.text))) =
    endBody head level outer c >>= Action.readOn declared c := by
  cases outer <;> rfl

theorem readDirective_eq {p : Piece} : (do
      let (s, c) ← Statement.readDirective declared p c.next
      readBehind declared s c) = direct p >>= Action.readOn declared c := by
  unfold direct
  split
  next htext => rw [Statement.readDirective, htext]; rfl
  next htext => rw [Statement.readDirective, htext]; rfl
  next htext => rw [Statement.readDirective, htext]; rfl
  next htoken hignore hstart =>
    rw [Statement.readDirective]
    split
    next htext => exact absurd htext htoken
    next htext => exact absurd htext hignore
    next htext => exact absurd htext hstart
    · rfl

/-- Reading goes on as it does behind what is done at the cursor. -/
theorem readOn_eq (t : Task) :
    t.readOn declared c = t.act declared c >>= Action.readOn declared c := by
  cases t with
  | statement =>
    obtain ⟨_ | ⟨p, rest⟩, last, size⟩ := c
    · exact Statement.readAll_of_rest_eq_nil rfl
    · rw [readOn, Statement.readAll_of_rest_eq_cons rfl, act]
      cases hkind : p.kind with
      | directive =>
        simp only [Statement.read, begin, hkind]
        exact readDirective_eq (c := ⟨p :: rest, last, size⟩)
      | regex | string | name | punctuation =>
        simp only [Statement.read, begin, hkind]
        rfl
  | tokenName =>
    simp only [readOn, act, Statement.readToken, Cursor.expect_eq, bind_map_left, bind_assoc]
    refine bind_congr fun n => ?_
    split
    · rfl
    · simp [Action.readOn, readOn]
  | tokenRegex name =>
    simp [readOn, act, readRegex_eq, Action.readOn]
  | ignoreRegex =>
    simp [readOn, act, Statement.readIgnore, readRegex_eq, Action.readOn]
  | startName =>
    simp [readOn, act, Statement.readStart, Cursor.expect_eq, Action.readOn]
  | keywordColon left =>
    simp only [readOn, act, Statement.readKeyword, Cursor.expectMark_eq, Action.readOn, bind_assoc,
      bind_map_left, pure_bind]
    refine bind_congr fun _ => bind_congr fun _ => bind_congr fun a => bind_congr fun b => ?_
    split
    · rfl
    · simp
  | keywordRight left =>
    simp only [readOn, act, Cursor.expect_eq, bind_assoc, bind_map_left]
    refine bind_congr fun _ => bind_congr fun a => bind_congr fun b => ?_
    split <;> rfl
  | ruleColon head =>
    simp [readOn, act, Statement.readRule, Cursor.expectMark_eq, Action.readOn, Body.read]
  | body head level outer =>
    obtain ⟨_ | ⟨p, rest⟩, last, size⟩ := c
    · exact readOn_endBody
    · simp only [readOn, act, inBody, Body.readFrom]
      cases Body.move p with
      | error e => rfl
      | ok m =>
        cases m with
        | push | divide | openGroup => rfl
        | closeGroup =>
          cases outer with
          | nil => exact readOn_endBody
          | cons => rfl
        | suffix s =>
          dsimp only
          cases level.suffix? s with
          | none => exact readOn_endBody
          | some => rfl
        | leave => exact readOn_endBody
  | semicolon after s =>
    obtain ⟨_ | ⟨p, rest⟩, last, size⟩ := c
    · rfl
    · simp only [readOn, act, Cursor.semicolon]
      split <;> rfl

end

end Task

/-! ## What is taken and left -/

/-- What is known of a task, and of the cursor where it stands, by the action: only pieces are
taken, and one is left to the semicolon only, at the end of a right-hand side. -/
def Action.Suits (t : Task) (c : Cursor) : Action → Prop
  | .take t' => c.rest ≠ [] ∧ t'.depth ≤ t.depth + 1
  | .leave t' => t.isBody ∧ t'.isSemicolon
  | .complete _ => c.rest ≠ []
  | .finish => True
  | .lookBehind _ => t.isSemicolon

namespace Task

section

variable {declared : List String} {c : Cursor} {t : Task} {a : Action}

theorem suits_of_begin {p : Piece} {rest : List Piece} (hc : c.rest = p :: rest)
    (h : begin p = .ok a) : a.Suits .statement c := by
  have hne : c.rest ≠ [] := hc ▸ List.cons_ne_nil _ _
  unfold begin at h
  split at h
  · unfold direct at h
    split at h <;> cases h
    all_goals exact ⟨hne, Nat.zero_le _⟩
  all_goals cases h
  all_goals exact ⟨hne, Nat.zero_le _⟩

theorem suits_of_endBody {head : Piece} {level : Body.Level} {outer : List Body.Level}
    (h : endBody head level outer c = .ok a) : a.Suits (.body head level outer) c := by
  obtain ⟨_, -, rfl⟩ := exists_of_map_eq_ok h
  exact ⟨rfl, rfl⟩

theorem suits_of_inBody [Literal.Decoder] {head : Piece} {level : Body.Level}
    {outer : List Body.Level} (h : inBody head level outer c = .ok a) :
    a.Suits (.body head level outer) c := by
  unfold inBody at h
  split at h
  · exact suits_of_endBody h
  next p rest hrest =>
    have hne : c.rest ≠ [] := hrest ▸ List.cons_ne_nil _ _
    cases hmove : Body.move p with
    | error e =>
      rw [hmove] at h
      cases h
    | ok m =>
      rw [hmove] at h
      cases m with
      | push | divide =>
        cases h
        exact ⟨hne, Nat.le_succ _⟩
      | openGroup =>
        cases h
        exact ⟨hne, Nat.le_refl _⟩
      | closeGroup =>
        cases outer with
        | nil => exact suits_of_endBody h
        | cons up outer =>
          cases h
          exact ⟨hne, Nat.le_add_right _ 2⟩
      | suffix s =>
        dsimp only at h
        split at h
        · cases h
          exact ⟨hne, Nat.le_succ _⟩
        · exact suits_of_endBody h
      | leave => exact suits_of_endBody h

theorem suits_of_act [Regex.Engine] [Literal.Decoder] (h : t.act declared c = .ok a) :
    a.Suits t c := by
  cases t with
  | statement =>
    rw [act] at h
    split at h
    · cases h
      trivial
    next hrest => exact suits_of_begin hrest h
  | tokenName =>
    obtain ⟨p, hp, h⟩ := Statement.ok_of_bind_ok h
    dsimp only at h
    split at h
    · cases h
    · cases h
      exact ⟨Cursor.rest_ne_nil_of_piece hp, Nat.zero_le _⟩
  | tokenRegex | ignoreRegex =>
    obtain ⟨p, hp, h⟩ := Statement.ok_of_bind_ok h
    obtain ⟨_, -, h⟩ := Statement.ok_of_bind_ok h
    cases h
    exact ⟨Cursor.rest_ne_nil_of_piece hp, Nat.zero_le _⟩
  | startName =>
    obtain ⟨p, hp, h⟩ := Statement.ok_of_bind_ok h
    cases h
    exact ⟨Cursor.rest_ne_nil_of_piece hp, Nat.zero_le _⟩
  | keywordColon | ruleColon =>
    obtain ⟨_, hmark, h⟩ := Statement.ok_of_bind_ok h
    cases h
    exact ⟨Cursor.rest_ne_nil_of_ask hmark, Nat.zero_le _⟩
  | keywordRight =>
    obtain ⟨p, hp, h⟩ := Statement.ok_of_bind_ok h
    obtain ⟨_, -, h⟩ := Statement.ok_of_bind_ok h
    obtain ⟨_, -, h⟩ := Statement.ok_of_bind_ok h
    dsimp only at h
    split at h
    · cases h
    · cases h
      exact ⟨Cursor.rest_ne_nil_of_piece hp, Nat.zero_le _⟩
  | body => exact suits_of_inBody h
  | semicolon =>
    rw [act] at h
    split at h
    next p rest hrest =>
      have hne : c.rest ≠ [] := hrest ▸ List.cons_ne_nil _ _
      split at h
      · cases h
        exact hne
      · cases h
        rfl
    · cases h
      rfl

end

end Task

end Earley.GrammarFile
