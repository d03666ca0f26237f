/-
Earley.Proofs.GrammarFile.Indexing — reading a file by an index into its pieces.

The readers keep the pieces that are left. Here an index into all the pieces is kept instead, with
the end of the file behind the last one: what stands at the index is looked up, what is taken makes
the index greater by one, and for a missing semicolon the piece before the index is looked up. A
`Reader` does one task after the other, and has no step where nothing stands at an index
(`Reader.step`).

- `Reader.Tracks.step`: as long as a reader by an index stands where the readers' cursor does, each
  step ends with what they make of the file, or leads to such a reader again.
- `Reader.Tracks.run_eq`: a run ends, since each step takes a piece or leaves one to the semicolon
  behind a right-hand side.
- `read_in_range`: whatever the pieces are, reading them stays in range, gets further and ends.
-/
import Earley.GrammarFile.Escape
import Earley.Proofs.GrammarFile.Stepping
import Earley.Regex.Backtracking
import Mathlib.Logic.Relation

namespace Earley.GrammarFile

/-! ## Reading by an index -/

/-- What stands at an index: a piece, or the end of the file behind the last piece. Further on
there is nothing that can be looked up. -/
def lookUp (pieces : List Piece) (k : Nat) : Option (Option Piece) :=
  (pieces.map some ++ [none])[k]?

/-- Where the piece before an index ends. -/
def endBehind (pieces : List Piece) : Nat → Option Nat
  | 0 => none
  | k + 1 => (lookUp pieces k).join.map Piece.stop

/-- A reader by an index: the index, the statements that have been read, and what is to be found
next. -/
structure Reader where
  index : Nat
  done : List Statement
  task : Task
  deriving Repr

namespace Reader

/-- A reader at the beginning of a file. -/
def first : Reader := ⟨0, [], .statement⟩

/-- The tokens that have been declared. -/
def declared (r : Reader) : List String := r.done.filterMap Statement.declared?

/-- What a step leads to. -/
inductive Step where
  | on (r : Reader)
  | ends (outcome : Except Error (List Statement))
  deriving Repr

/-- Does what is to be done. There is no step if the piece before the index is looked up and there
is none. -/
def follow (pieces : List Piece) (r : Reader) : Action → Option Step
  | .take t => some (.on ⟨r.index + 1, r.done, t⟩)
  | .leave t => some (.on ⟨r.index, r.done, t⟩)
  | .complete s => some (.on ⟨r.index + 1, r.done ++ [s], .statement⟩)
  | .finish => some (.ends (.ok r.done))
  | .lookBehind after =>
    (endBehind pieces r.index).map fun stop =>
      .ends (.error (.located (.missingSemicolon after) stop))

variable [Regex.Engine] [Literal.Decoder]

/-- A step looks up what stands at the index, and nothing else but the piece before a semicolon
that is missing. There is no step if nothing stands there. -/
def step (pieces : List Piece) (size : Nat) (r : Reader) : Option Step := do
  let entry ← lookUp pieces r.index
  match r.task.act r.declared ⟨entry.toList, 0, size⟩ with
  | .error e => return .ends (.error e)
  | .ok a => r.follow pieces a

/-- At most so many steps. -/
def run (pieces : List Piece) (size : Nat) : Nat → Reader → Option (Except Error (List Statement))
  | 0, _ => none
  | fuel + 1, r => do
    match ← r.step pieces size with
    | .on r => run pieces size fuel r
    | .ends outcome => return outcome

end Reader

/-! ## Looking up -/

section

variable {pieces : List Piece} {k : Nat}

theorem lookUp_eq_head? (hk : k ≤ pieces.length) :
    lookUp pieces k = some (pieces.drop k).head? := by
  rcases Nat.lt_or_eq_of_le hk with hlt | rfl
  · rw [lookUp, List.getElem?_append_left (by rwa [List.length_map]), List.getElem?_map,
      List.head?_drop, List.getElem?_eq_getElem hlt]
    rfl
  · rw [lookUp, List.drop_length, List.getElem?_append_right (Nat.le_of_eq (List.length_map _)),
      List.length_map, Nat.sub_self]
    rfl

theorem exists_of_endBehind {stop : Nat} (h : endBehind pieces k = some stop) :
    ∃ i p, k = i + 1 ∧ lookUp pieces i = some (some p) ∧ p.stop = stop := by
  cases k with
  | zero => cases h
  | succ i =>
    obtain ⟨p, hp, hstop⟩ := Option.map_eq_some_iff.1 h
    exact ⟨i, p, rfl, Option.join_eq_some_iff.1 hp, hstop⟩

end

/-! ## Readers and cursors -/

namespace Reader

/-- A reader comes behind another one: it has taken the piece at the index, or it has left what
stands there, behind a right-hand side, to the semicolon. -/
def Advances (pieces : List Piece) (r r' : Reader) : Prop :=
  (∃ p, lookUp pieces r.index = some (some p)) ∧ r'.index = r.index + 1 ∨
    r'.index = r.index ∧ r.task.isBody ∧ r'.task.isSemicolon

/-- The readers' cursor where a reader by an index stands. -/
structure Tracks (pieces : List Piece) (size : Nat) (r : Reader) (c : Cursor) : Prop where
  index_le : r.index ≤ pieces.length
  rest_eq : c.rest = pieces.drop r.index
  size_eq : c.size = size
  behind : r = first ∨ endBehind pieces r.index = some c.last
  depth_le : r.task.depth ≤ r.index

section

variable {pieces : List Piece} {size : Nat} {r r' : Reader} {c : Cursor}

theorem tracks_first : Tracks pieces size first ⟨pieces, 0, size⟩ :=
  ⟨Nat.zero_le _, rfl, rfl, .inl rfl, Nat.zero_le _⟩

/-- In a right-hand side and behind it, the piece before the index is where the readers' cursor has
been last. -/
theorem Tracks.endBehind_eq (h : Tracks pieces size r c)
    (htask : r.task.isBody ∨ r.task.isSemicolon) : endBehind pieces r.index = some c.last := by
  refine h.behind.resolve_left ?_
  rintro rfl
  rcases htask with hbody | hsemicolon
  · cases hbody
  · cases hsemicolon

/-- Where there is a piece left, it stands at the index, and the cursor behind it is the cursor of
a reader that has taken it. -/
theorem Tracks.take (h : Tracks pieces size r c) (hne : c.rest ≠ []) {done : List Statement}
    {t : Task} (ht : t.depth ≤ r.task.depth + 1) :
    (∃ p, lookUp pieces r.index = some (some p)) ∧
      Tracks pieces size ⟨r.index + 1, done, t⟩ c.next := by
  obtain ⟨p, rest, hrest⟩ := List.exists_cons_of_ne_nil hne
  have hdrop : pieces.drop r.index = p :: rest := h.rest_eq ▸ hrest
  have hlt : r.index < pieces.length := by
    have hlength := congrArg List.length hdrop
    rw [List.length_drop, List.length_cons] at hlength
    omega
  have hlookUp : lookUp pieces r.index = some (some p) := by
    rw [lookUp_eq_head? h.index_le, hdrop]
    rfl
  have hnext : c.next = ⟨rest, p.stop, c.size⟩ := by
    rw [Cursor.next, hrest]
    rfl
  refine ⟨⟨p, hlookUp⟩, hlt, ?_, ?_, .inr ?_, Nat.le_trans ht (Nat.succ_le_succ h.depth_le)⟩
  · rw [hnext, ← List.tail_drop, hdrop]
    rfl
  · rw [hnext, ← h.size_eq]
  · rw [hnext, endBehind, hlookUp]
    rfl

/-- A bound for the steps that are left: each piece is taken once, and may be left once before. -/
def weight (pieces : List Piece) (r : Reader) : Nat :=
  2 * (pieces.length - r.index) + if r.task.isBody then 1 else 0

theorem Tracks.weight_lt (h : Tracks pieces size r' c) (hadvances : Advances pieces r r') :
    r'.weight pieces < r.weight pieces := by
  have hle := h.index_le
  rcases hadvances with ⟨-, hindex⟩ | ⟨hindex, hbody, hsemicolon⟩
  · unfold weight
    split <;> omega
  · have hbody' : r'.task.isBody = false := by
      cases htask : r'.task with
      | semicolon => rfl
      | _ => rw [htask] at hsemicolon; cases hsemicolon
    simp [weight, hindex, hbody, hbody']

/-! ## Steps -/

variable [Regex.Engine] [Literal.Decoder]

/-- One step leads on from one reader to another. -/
def Goes (pieces : List Piece) (size : Nat) (r r' : Reader) : Prop :=
  r.step pieces size = some (.on r')

/-- What the readers make of a file from there on. -/
def outcome (r : Reader) (c : Cursor) : Except Error (List Statement) :=
  (r.task.readOn r.declared c).map (r.done ++ ·)

theorem outcome_first : first.outcome c = Statement.readAll [] c := by
  change (Statement.readAll [] c).map (fun ss => ss) = Statement.readAll [] c
  cases Statement.readAll [] c <;> rfl

theorem outcome_eq {a : Action} (h : r.task.act r.declared c = .ok a) :
    r.outcome c = (a.readOn r.declared c).map (r.done ++ ·) := by
  rw [outcome, Task.readOn_eq, h]
  rfl

/-- A statement that is complete is one of those that have been read. -/
theorem outcome_complete {s : Statement} {k : Nat} :
    outcome ⟨k, r.done ++ [s], .statement⟩ c =
      (Task.readBehind r.declared s c).map (r.done ++ ·) := by
  have hdeclared : declared ⟨k, r.done ++ [s], .statement⟩ =
      r.declared ++ s.declared?.toList := by
    rw [declared, List.filterMap_append]
    cases h : s.declared? <;> simp [declared, h]
  rw [outcome, hdeclared]
  change (Statement.readAll (r.declared ++ s.declared?.toList) c).map _ =
    ((Statement.readAll (r.declared ++ s.declared?.toList) c).map _).map _
  cases Statement.readAll (r.declared ++ s.declared?.toList) c with
  | error e => rfl
  | ok ss => exact congrArg Except.ok (List.append_assoc _ _ _)

/-- What a task makes of the piece at the index is what it makes of the rest of the pieces. -/
theorem Tracks.step_eq (h : Tracks pieces size r c) : r.step pieces size =
    match r.task.act r.declared c with
    | .error e => some (.ends (.error e))
    | .ok a => r.follow pieces a := by
  have hsight : (⟨c.rest.head?.toList, 0, size⟩ : Cursor) = c.sight := by
    rw [Cursor.sight, List.take_one, h.size_eq]
  rw [step, lookUp_eq_head? h.index_le, ← h.rest_eq]
  change (match r.task.act r.declared ⟨c.rest.head?.toList, 0, size⟩ with
    | .error e => some (Step.ends (.error e))
    | .ok a => r.follow pieces a) = _
  rw [hsight, Task.act_sight]

/-- One step ends with what the readers make of the file, or leads to a reader of which they make
the same. -/
theorem Tracks.step (h : Tracks pieces size r c) :
    r.step pieces size = some (.ends (r.outcome c)) ∨
      ∃ r' c', Goes pieces size r r' ∧ Advances pieces r r' ∧ Tracks pieces size r' c' ∧
        r'.outcome c' = r.outcome c := by
  cases hact : r.task.act r.declared c with
  | error e =>
    refine .inl ?_
    rw [h.step_eq, hact, outcome, Task.readOn_eq, hact]
    rfl
  | ok a =>
    have hstep : r.step pieces size = r.follow pieces a := by rw [h.step_eq, hact]
    have hsuits := Task.suits_of_act hact
    have houtcome := outcome_eq hact
    cases a with
    | take t =>
      obtain ⟨hpiece, htracks⟩ := h.take hsuits.1 hsuits.2
      exact .inr ⟨_, _, hstep, .inl ⟨hpiece, rfl⟩, htracks, houtcome.symm⟩
    | leave t =>
      obtain ⟨hbody, hsemicolon⟩ := hsuits
      have hbehind := h.endBehind_eq (.inl hbody)
      have hdepth : t.depth ≤ r.index := by
        cases t with
        | semicolon => exact Nat.zero_le _
        | _ => cases hsemicolon
      exact .inr ⟨_, _, hstep, .inr ⟨rfl, hbody, hsemicolon⟩,
        ⟨h.index_le, h.rest_eq, h.size_eq, .inr hbehind, hdepth⟩, houtcome.symm⟩
    | complete s =>
      obtain ⟨hpiece, htracks⟩ := h.take (t := .statement) hsuits (Nat.zero_le _)
      exact .inr ⟨_, _, hstep, .inl ⟨hpiece, rfl⟩, htracks, outcome_complete.trans houtcome.symm⟩
    | finish =>
      refine .inl ?_
      rw [hstep, houtcome]
      exact congrArg (fun ss => some (Step.ends (.ok ss))) (List.append_nil _).symm
    | lookBehind after =>
      refine .inl ?_
      rw [hstep, houtcome, follow, h.endBehind_eq (.inr hsuits)]
      rfl

theorem Tracks.goes (h : Tracks pieces size r c) (hgoes : Goes pieces size r r') :
    Advances pieces r r' ∧ ∃ c', Tracks pieces size r' c' := by
  rcases h.step with hends | ⟨r'', c', hgoes', hadvances, htracks, -⟩
  · cases hgoes.symm.trans hends
  · cases hgoes.symm.trans hgoes'
    exact ⟨hadvances, c', htracks⟩

/-! ## Runs -/

/-- A run with enough fuel ends with what the readers make of the file. -/
theorem Tracks.run_eq (h : Tracks pieces size r c) {fuel : Nat} (hfuel : r.weight pieces < fuel) :
    r.run pieces size fuel = some (r.outcome c) := by
  -- the outcome is the same all along the run
  induction fuel generalizing r c with
  | zero => cases hfuel
  | succ fuel ih =>
    rcases h.step with hends | ⟨r', c', hgoes, hadvances, htracks, houtcome⟩
    · rw [run, hends]
      rfl
    · have hlt := htracks.weight_lt hadvances
      rw [run, hgoes, ← houtcome]
      exact ih htracks (by omega)

theorem Tracks.reaches (h : Tracks pieces size r c)
    (hreaches : Relation.ReflTransGen (Goes pieces size) r r') :
    r.index ≤ r'.index ∧ ∃ c', Tracks pieces size r' c' := by
  induction hreaches with
  | refl => exact ⟨Nat.le_refl _, c, h⟩
  | tail _ hgoes ih =>
    obtain ⟨hle, c', htracks⟩ := ih
    obtain ⟨hadvances, htracks'⟩ := htracks.goes hgoes
    refine ⟨Nat.le_trans hle ?_, htracks'⟩
    rcases hadvances with ⟨-, hindex⟩ | ⟨hindex, -⟩ <;> omega

/-- What is left to the semicolon apart, reading has got further. -/
theorem Tracks.index_lt (h : Tracks pieces size r c)
    (hgoes : Relation.TransGen (Goes pieces size) r r') (htask : r'.task.isSemicolon = false) :
    r.index < r'.index := by
  obtain ⟨b, hreaches, hlast⟩ := Relation.TransGen.tail'_iff.1 hgoes
  obtain ⟨hle, c', htracks⟩ := h.reaches hreaches
  rcases (htracks.goes hlast).1 with ⟨-, hindex⟩ | ⟨-, -, hsemicolon⟩
  · omega
  · cases htask.symm.trans hsemicolon

end

end Reader

/-! ## Whole files -/

/-- A reader that is come upon when pieces are read. -/
def Reached [Regex.Engine] [Literal.Decoder] (pieces : List Piece) (size : Nat) (r : Reader) :
    Prop :=
  Relation.ReflTransGen (Reader.Goes pieces size) .first r

/-- Reading pieces by an index stays in range, gets further and ends. -/
structure InRange [Regex.Engine] [Literal.Decoder] (pieces : List Piece) (size : Nat) :
    Prop where
  /-- The index is that of a piece or of the end of the file. -/
  index_le : ∀ {r}, Reached pieces size r → r.index ≤ pieces.length
  /-- Nothing is looked up where nothing stands. -/
  step_isSome : ∀ {r}, Reached pieces size r → (r.step pieces size).isSome
  /-- Only a piece is taken, never the end of the file. What is not taken is left, behind a
  right-hand side, to the semicolon. -/
  advances : ∀ {r r'}, Reached pieces size r → Reader.Goes pieces size r r' →
    Reader.Advances pieces r r'
  /-- Where a semicolon is to be found, there is a piece before the index. -/
  behind : ∀ {r}, Reached pieces size r → r.task.isSemicolon →
    ∃ k p, r.index = k + 1 ∧ lookUp pieces k = some (some p)
  /-- Wherever a statement, a branch, a group or a term begins, and wherever a loop or a recursion
  comes to again, at least one piece has been taken since any reader before. -/
  progress : ∀ {r r'}, Reached pieces size r → Relation.TransGen (Reader.Goes pieces size) r r' →
    r'.task.isSemicolon = false → r.index < r'.index
  /-- No more groups are open than pieces have been taken. -/
  depth_le : ∀ {r}, Reached pieces size r → r.task.depth ≤ r.index
  /-- After at most two steps for each piece, and one more, reading has ended, with what the readers
  make of the pieces. -/
  run_eq : Reader.run pieces size (2 * pieces.length + 1) .first =
    some (Statement.readAll [] ⟨pieces, 0, size⟩)

theorem inRange [Regex.Engine] [Literal.Decoder] (pieces : List Piece) (size : Nat) :
    InRange pieces size where
  index_le h := by
    obtain ⟨-, c, htracks⟩ := Reader.tracks_first.reaches h
    exact htracks.index_le
  step_isSome h := by
    obtain ⟨-, c, htracks⟩ := Reader.tracks_first.reaches h
    rcases htracks.step with hends | ⟨r', c', hgoes, -⟩
    · exact Option.isSome_of_eq_some hends
    · exact Option.isSome_of_eq_some hgoes
  advances h hgoes := by
    obtain ⟨-, c, htracks⟩ := Reader.tracks_first.reaches h
    exact (htracks.goes hgoes).1
  behind h hsemicolon := by
    obtain ⟨-, c, htracks⟩ := Reader.tracks_first.reaches h
    obtain ⟨k, p, hindex, hp, -⟩ := exists_of_endBehind (htracks.endBehind_eq (.inr hsemicolon))
    exact ⟨k, p, hindex, hp⟩
  progress h hgoes htask := by
    obtain ⟨-, c, htracks⟩ := Reader.tracks_first.reaches h
    exact htracks.index_lt hgoes htask
  depth_le h := by
    obtain ⟨-, c, htracks⟩ := Reader.tracks_first.reaches h
    exact htracks.depth_le
  run_eq := by
    have hfuel : Reader.weight pieces .first < 2 * pieces.length + 1 := Nat.lt_succ_self _
    rw [Reader.tracks_first.run_eq hfuel, Reader.outcome_first]

/-- Whatever the pieces are, reading them by an index stays in range and ends. A text is refused
where it does not split into pieces, or read in this way from its pieces. -/
theorem read_in_range [Regex.Engine] [Literal.Decoder] :
    (∀ pieces size, InRange pieces size) ∧
      ∀ src, (∃ e, scan src = .error e ∧ read src = .error e) ∨
        ∃ pieces outcome, scan src = .ok pieces ∧
          Reader.run pieces src.length (2 * pieces.length + 1) .first = some outcome ∧
          read src = outcome >>= ofStatements := by
  refine ⟨inRange, fun src => ?_⟩
  cases hscan : scan src with
  | error e => exact .inl ⟨e, rfl, by rw [read, hscan]⟩
  | ok pieces =>
    refine .inr ⟨pieces, _, rfl, (inRange pieces src.length).run_eq, ?_⟩
    rw [read, hscan]
    cases h : Statement.readAll [] ⟨pieces, 0, src.length⟩ <;> simp only [h] <;> rfl

/-- The pieces of a text that ends where a semicolon is missing: `%start a`. -/
def unfinished : List Piece := [⟨.directive, "%start".toList, 0⟩, ⟨.name, ['a'], 7⟩]

theorem read_in_range_unfinished :
    Reached unfinished 8 ⟨2, [], .semicolon .start (.start "a" 7)⟩ ∧
      (∃ k p, 2 = k + 1 ∧ lookUp unfinished k = some (some p)) ∧
      Reader.run unfinished 8 5 .first =
        some (.error (.located (.missingSemicolon .start) 8)) := by
  have hfirst : Reader.Goes unfinished 8 .first ⟨1, [], .startName⟩ := rfl
  have hname : Reader.Goes unfinished 8 ⟨1, [], .startName⟩
      ⟨2, [], .semicolon .start (.start "a" 7)⟩ := rfl
  have hreached : Reached unfinished 8 ⟨2, [], .semicolon .start (.start "a" 7)⟩ :=
    .tail (.single hfirst) hname
  exact ⟨hreached, (read_in_range.1 unfinished 8).behind hreached rfl, rfl⟩

end Earley.GrammarFile
