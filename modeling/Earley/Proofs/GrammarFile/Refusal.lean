/-
Earley.Proofs.GrammarFile.Refusal — how a text that is no grammar file is refused.

An error with a place points to what it is about: a character, the beginning of a piece, the end of
the piece before a missing semicolon, or the end of the file (`Cause.PointsTo`). Every reader is
given one law: if it starts among the pieces of a file, it either ends there or in an error that is
justified by these pieces. The laws are put together along the readers (`Ends.bind`).

- `justified_of_read_error`: the errors of whole files are justified.
- `located_exact`: a message names the place where its offset lies, and no other offset lies there.
- `read_ok_or_located`: a text is read, or refused with a message that shows a place of the text.
  What is refused without a place is a literal that stands for no text (`refused_without_place`).
-/
import Earley.GrammarFile.Escape
import Earley.Proofs.GrammarFile.Acceptance
import Earley.Proofs.Location
import Earley.Regex.Backtracking

namespace Earley.GrammarFile

open Cursor (isMark)

/-! ## Ends of computations -/

/-- A computation ends in an error with the property `E`, or in a value with the property `P`. -/
def Ends {ε α : Type} (E : ε → Prop) (P : α → Prop) : Except ε α → Prop
  | .error e => E e
  | .ok a => P a

section

variable {ε α β : Type} {E : ε → Prop} {P : α → Prop} {Q : β → Prop} {m : Except ε α}

theorem Ends.bind {k : α → Except ε β} (hm : Ends E P m) (hk : ∀ a, P a → Ends E Q (k a)) :
    Ends E Q (m >>= k) := by
  cases m with
  | error e => exact hm
  | ok a => exact hk a hm

theorem Ends.map {f : α → β} (hm : Ends E P m) (hf : ∀ a, P a → Q (f a)) :
    Ends E Q (m.map f) := by
  cases m with
  | error e => exact hm
  | ok a => exact hf a hm

end

/-! ## Justified errors -/

/-- What an error is about stands at its offset. -/
def Cause.PointsTo (src : List Char) (pieces : List Piece) (pos : Nat) : Cause → Prop
  | .unexpectedChar c => src[pos]? = some c
  | .expected _ none => pos = src.length
  | .missingSemicolon _ => ∃ p ∈ pieces, p.stop = pos
  | .emptyLiteral | .keywordMismatch _ _ => ∃ p ∈ pieces, p.start = pos ∧ p.kind = .string
  | .unexpectedPiece text | .expected _ (some text) | .unknownDirective text
  | .duplicateToken text | .invalidRegex text _ | .clash text | .startWithoutRules text =>
    ∃ p ∈ pieces, p.start = pos ∧ p.text = text

/-- An error points to what it is about, or is the fault of a literal of the file. -/
def Error.Justified [Literal.Decoder] (src : List Char) (pieces : List Piece) : Error → Prop
  | .located cause pos => cause.PointsTo src pieces pos
  | .literal fault => ∃ p ∈ pieces, p.kind = .string ∧ p.decoded = .error fault

/-! ## Reading pieces -/

/-- The cursor stands behind a piece of the file, and what is left are pieces of the file. -/
structure Cursor.Among (src : List Char) (pieces : List Piece) (c : Cursor) : Prop where
  rest : c.rest ⊆ pieces
  last : ∃ p ∈ pieces, p.stop = c.last
  size : c.size = src.length

/-- A reader ends in a justified error, or among the pieces of the file behind what it has read. -/
abbrev EndsAmong [Literal.Decoder] (src : List Char) (pieces : List Piece) {α : Type}
    (m : Except Error (α × Cursor)) : Prop :=
  Ends (Error.Justified src pieces) (fun r => r.2.Among src pieces) m

section

variable {src : List Char} {pieces : List Piece} {c : Cursor} {p : Piece} {rest : List Piece}
  {what : Expectation}

theorem Cursor.Among.past (hc : c.Among src pieces) (hrest : c.rest = p :: rest) :
    (c.past p rest).Among src pieces := by
  have hpieces : p :: rest ⊆ pieces := hrest ▸ hc.rest
  obtain ⟨hp, hrest⟩ := List.cons_subset.1 hpieces
  exact ⟨hrest, ⟨p, hp, rfl⟩, hc.size⟩

variable [Literal.Decoder]

theorem justified_unexpected (hc : c.Among src pieces) :
    (c.unexpected what).Justified src pieces := by
  unfold Cursor.unexpected
  split
  · exact hc.size
  next p rest hrest => exact ⟨p, hc.rest (hrest ▸ List.mem_cons_self), rfl, rfl⟩

theorem expect_ends {kind : PieceKind} (hc : c.Among src pieces) :
    Ends (Error.Justified src pieces)
      (fun r => r.1 ∈ pieces ∧ r.1.kind = kind ∧ r.2.Among src pieces) (c.expect what kind) := by
  unfold Cursor.expect
  split
  next p rest hrest =>
    split
    next hkind => exact ⟨hc.rest (hrest ▸ List.mem_cons_self), hkind, hc.past hrest⟩
    · exact justified_unexpected hc
  · exact justified_unexpected hc

theorem expectMark_ends {mark : Char} (hc : c.Among src pieces) :
    Ends (Error.Justified src pieces) (Cursor.Among src pieces) (c.expectMark what mark) := by
  unfold Cursor.expectMark
  split
  next p rest hrest =>
    split
    · exact hc.past hrest
    · exact justified_unexpected hc
  · exact justified_unexpected hc

theorem semicolon_ends {after : StatementKind} (hc : c.Among src pieces) :
    Ends (Error.Justified src pieces) (Cursor.Among src pieces) (c.semicolon after) := by
  unfold Cursor.semicolon
  split
  next p rest hrest =>
    split
    · exact hc.past hrest
    · exact hc.last
  · exact hc.last

theorem literal_ends (hp : p ∈ pieces) (hkind : p.kind = .string) :
    Ends (Error.Justified src pieces) (fun _ => True) p.literal := by
  unfold Piece.literal
  split
  next fault hfault => exact ⟨p, hp, hkind, hfault⟩
  · exact ⟨p, hp, rfl, hkind⟩
  · trivial

end

/-! ## Reading right-hand sides -/

section

variable [Literal.Decoder] {src : List Char} {pieces : List Piece} {c : Cursor} {p : Piece}
  {level : Body.Level} {outer : List Body.Level}

theorem move_ends (hp : p ∈ pieces) :
    Ends (Error.Justified src pieces) (fun _ => True) (Body.move p) := by
  unfold Body.move
  split
  case h_2 hkind => exact (literal_ends hp hkind).map fun _ _ => trivial
  all_goals trivial

theorem stop_ends (hc : c.Among src pieces) :
    EndsAmong src pieces (Body.stop level outer c) := by
  cases outer with
  | nil => exact hc
  | cons => exact justified_unexpected hc

theorem readFrom_ends {size last : Nat} {ps : List Piece}
    (hc : (⟨ps, last, size⟩ : Cursor).Among src pieces) :
    EndsAmong src pieces (Body.readFrom size level outer last ps) := by
  fun_induction Body.readFrom size level outer last ps with
  | case1 => exact stop_ends hc
  | case2 level outer last p rest e hmove =>
    have hjustified : Ends (Error.Justified src pieces) _ (Body.move p) :=
      move_ends (hc.rest List.mem_cons_self)
    rwa [hmove] at hjustified
  | case3 _ _ _ _ _ _ _ ih => exact ih (hc.past rfl)
  | case4 _ _ _ _ _ _ ih => exact ih (hc.past rfl)
  | case5 _ _ _ _ _ _ ih => exact ih (hc.past rfl)
  | case6 => exact stop_ends hc
  | case7 _ _ _ _ _ _ _ ih => exact ih (hc.past rfl)
  | case8 _ _ _ _ _ _ _ _ _ ih => exact ih (hc.past rfl)
  | case9 => exact stop_ends hc
  | case10 => exact stop_ends hc

end

/-! ## Reading statements -/

namespace Statement

section

variable [Literal.Decoder] {src : List Char} {pieces : List Piece} {declared : List String}
  {c : Cursor} {p : Piece} {what : Expectation}

theorem readStart_ends (hc : c.Among src pieces) :
    EndsAmong src pieces (readStart c) := by
  refine (expect_ends hc).bind fun ⟨n, c₁⟩ ⟨_, _, hc₁⟩ => ?_
  exact (semicolon_ends hc₁).bind fun c₂ hc₂ => hc₂

theorem readKeyword_ends (hp : p ∈ pieces) (hkind : p.kind = .string) (hc : c.Among src pieces) :
    EndsAmong src pieces (readKeyword p c) := by
  refine (expectMark_ends hc).bind fun c₁ hc₁ => ?_
  refine (expect_ends hc₁).bind fun ⟨right, c₂⟩ ⟨hright, hkind₂, hc₂⟩ => ?_
  refine (literal_ends hp hkind).bind fun a _ => ?_
  refine (literal_ends hright hkind₂).bind fun b _ => ?_
  dsimp only
  split
  · exact ⟨p, hp, rfl, hkind⟩
  · exact (semicolon_ends hc₂).bind fun c₃ hc₃ => hc₃

theorem readRule_ends (hc : c.Among src pieces) :
    EndsAmong src pieces (readRule p c) := by
  refine (expectMark_ends hc).bind fun c₁ hc₁ => ?_
  have hbody : EndsAmong src pieces (Body.read c₁) := readFrom_ends hc₁
  refine hbody.bind fun ⟨branches, c₂⟩ hc₂ => ?_
  exact (semicolon_ends hc₂).bind fun c₃ hc₃ => hc₃

variable [Regex.Engine]

theorem readRegex_ends (hc : c.Among src pieces) :
    EndsAmong src pieces (readRegex c what) := by
  have hexpect : Ends _ _ (c.expect what .regex) := expect_ends hc
  unfold readRegex
  split
  next e he => rwa [he] at hexpect
  next p c₁ hok =>
    rw [hok] at hexpect
    obtain ⟨hp, -, hc₁⟩ := hexpect
    have hcompile : Ends (Error.Justified src pieces) (fun _ => True) (compilePiece p) := by
      unfold compilePiece
      split
      · trivial
      · exact ⟨p, hp, rfl, rfl⟩
    exact hcompile.map fun _ _ => hc₁

theorem readToken_ends (hc : c.Among src pieces) :
    EndsAmong src pieces (readToken declared c) := by
  refine (expect_ends hc).bind fun ⟨n, c₁⟩ ⟨hn, _, hc₁⟩ => ?_
  dsimp only
  split
  · exact ⟨n, hn, rfl, rfl⟩
  · refine (readRegex_ends hc₁).bind fun ⟨regex, c₂⟩ hc₂ => ?_
    exact (semicolon_ends hc₂).bind fun c₃ hc₃ => hc₃

theorem readIgnore_ends (hc : c.Among src pieces) :
    EndsAmong src pieces (readIgnore c) := by
  refine (readRegex_ends hc).bind fun ⟨regex, c₁⟩ hc₁ => ?_
  exact (semicolon_ends hc₁).bind fun c₂ hc₂ => hc₂

theorem readDirective_ends (hp : p ∈ pieces) (hc : c.Among src pieces) :
    EndsAmong src pieces (readDirective declared p c) := by
  unfold readDirective
  split
  · exact readToken_ends hc
  · exact readIgnore_ends hc
  · exact readStart_ends hc
  · exact ⟨p, hp, rfl, rfl⟩

theorem read_ends (hp : p ∈ pieces) (hc : c.Among src pieces) :
    EndsAmong src pieces (read declared p c) := by
  unfold read
  split
  case h_1 => exact readDirective_ends hp hc
  case h_2 hkind => exact readKeyword_ends hp hkind hc
  case h_3 => exact readRule_ends hc
  all_goals exact ⟨p, hp, rfl, rfl⟩

/-- Nothing needs to stand before the first statement, so that only what is left matters here. -/
theorem readAll_ends (hrest : c.rest ⊆ pieces) (hsize : c.size = src.length) :
    Ends (Error.Justified src pieces) (fun ss => statementsSpelled ss c.rest)
      (readAll declared c) := by
  have hall : Ends (Error.Justified src pieces) (fun _ => True) (readAll declared c) := by
    fun_induction readAll declared c with
    | case1 => trivial
    | case2 declared c p rest hc e he =>
      obtain ⟨hp, hpast⟩ := List.cons_subset.1 (hc ▸ hrest)
      have hread : EndsAmong src pieces (read declared p (c.past p rest)) :=
        read_ends hp ⟨hpast, ⟨p, hp, rfl⟩, hsize⟩
      rwa [he] at hread
    | case3 declared c p rest hc s c' hok ih =>
      obtain ⟨hp, hpast⟩ := List.cons_subset.1 (hc ▸ hrest)
      have hread : EndsAmong src pieces (read declared p (c.past p rest)) :=
        read_ends hp ⟨hpast, ⟨p, hp, rfl⟩, hsize⟩
      rw [hok] at hread
      exact (ih hread.rest hread.size).map fun _ _ => trivial
  cases hok : readAll declared c with
  | error e => rwa [hok] at hall
  | ok ss => exact spelled_of_readAll hok

end

end Statement

/-! ## Whole files -/

section

variable [Regex.Engine] [Literal.Decoder] {src : List Char} {pieces : List Piece}
  {ss : List Statement} {name : String} {pos : Nat}

/-- The name of a rule is that of a piece. -/
theorem exists_piece_of_mem_headsOf (h : statementsSpelled ss pieces)
    (hname : (name, pos) ∈ headsOf ss) : ∃ p ∈ pieces, p.start = pos ∧ p.text = name := by
  obtain ⟨s, hs, hhead⟩ := List.mem_filterMap.1 hname
  cases s with
  | rule name' pos' branches =>
    cases hhead
    obtain ⟨ps, hps, n, m, qs, e, rfl, -, htext, hstart, -⟩ := exists_spelled_of_mem h hs
    exact ⟨n, hps (by simp), hstart, htext⟩
  | token | ignore | start | keyword => cases hhead

/-- The name that is chosen for the start is that of a piece. -/
theorem exists_piece_of_mem_startsOf (h : statementsSpelled ss pieces)
    (hname : (name, pos) ∈ startsOf ss) : ∃ p ∈ pieces, p.start = pos ∧ p.text = name := by
  obtain ⟨s, hs, hchoice⟩ := List.mem_filterMap.1 hname
  cases s with
  | start name' pos' =>
    cases hchoice
    obtain ⟨ps, hps, d, n, e, rfl, -, -, -, htext, hstart, -⟩ := exists_spelled_of_mem h hs
    exact ⟨n, hps (by simp), hstart, htext⟩
  | token | ignore | rule | keyword => cases hchoice

theorem startOf_ends (h : statementsSpelled ss pieces) :
    Ends (Error.Justified src pieces) (fun _ => True) (startOf ss) := by
  unfold startOf
  dsimp only
  split
  · trivial
  next name pos hlast =>
    split
    · trivial
    · exact exists_piece_of_mem_startsOf h (List.mem_of_getLast? hlast)

theorem ofStatements_ends (h : statementsSpelled ss pieces) :
    Ends (Error.Justified src pieces) (fun _ => True) (ofStatements ss) := by
  unfold ofStatements
  dsimp only
  split
  next name pos hclash => exact exists_piece_of_mem_headsOf h (List.mem_of_find?_eq_some hclash)
  · exact (startOf_ends h).map fun _ _ => trivial

end

/-! ## Whole texts -/

/-- A text that cannot be cut into pieces has a character where nothing begins. -/
theorem getElem?_of_scanFrom_error {pos pos' : Nat} {cs : List Char} {c : Char}
    (h : Piece.scanFrom pos cs = .error (pos', c)) : pos ≤ pos' ∧ cs[pos' - pos]? = some c := by
  fun_induction Piece.scanFrom pos cs with
  | case1 => cases h
  | case2 pos d rest hnone =>
    cases h
    simp
  | case3 => cases h
  | case4 pos d rest kind? n hsome _ ih =>
    obtain ⟨hle, hc⟩ := ih h
    have hoffset : pos' - pos = n + (pos' - (pos + 1 + n)) + 1 := by omega
    rw [List.getElem?_drop] at hc
    rw [hoffset, List.getElem?_cons_succ]
    exact ⟨by omega, hc⟩

theorem pos_le_of_pointsTo {src : List Char} {pieces : List Piece} {cause : Cause} {pos : Nat}
    (hpieces : ∀ p ∈ pieces, p.stop ≤ src.length) (h : cause.PointsTo src pieces pos) :
    pos ≤ src.length := by
  have hstart : ∀ p ∈ pieces, p.start ≤ src.length :=
    fun p hp => Nat.le_trans (Nat.le_add_right _ _) (hpieces p hp)
  cases cause with
  | unexpectedChar c =>
    obtain ⟨hlt, -⟩ := List.getElem?_eq_some_iff.1 h
    exact Nat.le_of_lt hlt
  | expected what got =>
    cases got with
    | none => exact Nat.le_of_eq h
    | some text =>
      obtain ⟨p, hp, rfl, -⟩ := h
      exact hstart p hp
  | missingSemicolon after =>
    obtain ⟨p, hp, rfl⟩ := h
    exact hpieces p hp
  | unexpectedPiece | unknownDirective | duplicateToken | invalidRegex | emptyLiteral
  | keywordMismatch | clash | startWithoutRules =>
    obtain ⟨p, hp, rfl, -⟩ := h
    exact hstart p hp

/-- A text that is not read is refused for a reason: a character that nothing begins with, or
something in the pieces that it splits into. -/
theorem justified_of_read_error [Regex.Engine] [Literal.Decoder] {src : List Char} {e : Error}
    (h : GrammarFile.read src = .error e) :
    (∃ pos c, e = .located (.unexpectedChar c) pos ∧ src[pos]? = some c) ∨
      ∃ pieces, Piece.Splits 0 src pieces ∧ e.Justified src pieces := by
  unfold GrammarFile.read at h
  split at h
  next hscan =>
    cases h
    unfold scan at hscan
    split at hscan
    · cases hscan
    next pos c hstuck =>
      cases hscan
      exact .inl ⟨pos, c, rfl, (getElem?_of_scanFrom_error hstuck).2⟩
  next pieces hscan =>
    refine .inr ⟨pieces, scan_eq_ok_iff_splits.1 hscan, ?_⟩
    have hall : Ends (Error.Justified src pieces) _
        (Statement.readAll [] ⟨pieces, 0, src.length⟩) :=
      Statement.readAll_ends (List.Subset.refl pieces) rfl
    split at h
    next e' he =>
      cases h
      rwa [he] at hall
    next ss hok =>
      rw [hok] at hall
      have hfile : Ends (Error.Justified src pieces) _ (ofStatements ss) := ofStatements_ends hall
      rwa [h] at hfile

/-- A text is read, or it is refused with a message that shows a place of the text: a line, a column
and a caret below it. The only exception is a literal that stands for no text, whose fault is
passed on as it is. -/
theorem read_ok_or_located [Regex.Engine] [Literal.Decoder] (src : List Char) :
    (∃ file, GrammarFile.read src = .ok file) ∨
      ∃ e, GrammarFile.read src = .error e ∧
        ((∃ cause pos line column l, e = .located cause pos ∧
            Text.LiesAt src pos line column l ∧
            e.message src = Text.placed cause.message line column l) ∨
          ∃ pieces p fault, Piece.Splits 0 src pieces ∧ p ∈ pieces ∧ p.kind = .string ∧
            p.decoded = .error fault ∧ e = .literal fault) := by
  cases hread : GrammarFile.read src with
  | ok file => exact .inl ⟨file, rfl⟩
  | error e =>
    refine .inr ⟨e, rfl, ?_⟩
    have hplaced (cause : Cause) {pos : Nat} (hpos : pos ≤ src.length) :
        ∃ line column l, Text.LiesAt src pos line column l ∧
          (Error.located cause pos).message src = Text.placed cause.message line column l :=
      ⟨_, _, _, Text.liesAt_ofOffset hpos, Text.located_eq_placed src pos cause.message⟩
    rcases justified_of_read_error hread with ⟨pos, c, rfl, hc⟩ | ⟨pieces, hsplits, hjustified⟩
    · obtain ⟨hlt, -⟩ := List.getElem?_eq_some_iff.1 hc
      obtain ⟨line, column, l, hlies, hmessage⟩ :=
        hplaced (.unexpectedChar c) (Nat.le_of_lt hlt)
      exact .inl ⟨_, pos, line, column, l, rfl, hlies, hmessage⟩
    · cases e with
      | located cause pos =>
        have hstop : ∀ p ∈ pieces, p.stop ≤ src.length := by
          intro p hp
          simpa using hsplits.stop_le hp
        obtain ⟨line, column, l, hlies, hmessage⟩ :=
          hplaced cause (pos_le_of_pointsTo hstop hjustified)
        exact .inl ⟨cause, pos, line, column, l, rfl, hlies, hmessage⟩
      | literal fault =>
        obtain ⟨p, hp, hkind, hfault⟩ := hjustified
        exact .inr ⟨pieces, p, fault, hsplits, hp, hkind, hfault, rfl⟩

/-- A message with a place names the line and the column where its offset lies, and no other offset
of the text lies there. Every offset that is told is one of the text: that of a character which
nothing begins with, or one that the pieces give. -/
theorem located_exact [Regex.Engine] [Literal.Decoder] (src : List Char) :
    (∀ pos ≤ src.length,
        (∀ message, Text.located src pos message =
          Text.placed message (Text.Location.ofOffset src pos).line
            (Text.Location.ofOffset src pos).column (Text.lineAt src pos)) ∧
        ∀ line column l, Text.LiesAt src pos line column l ↔
          line = (Text.Location.ofOffset src pos).line ∧
            column = (Text.Location.ofOffset src pos).column ∧ l = Text.lineAt src pos) ∧
      (∀ pos ≤ src.length, ∀ pos' ≤ src.length, pos ≠ pos' →
        Text.Location.ofOffset src pos ≠ Text.Location.ofOffset src pos' ∧
          ∀ message, Text.located src pos message ≠ Text.located src pos' message) ∧
      ∀ cause pos, GrammarFile.read src = .error (.located cause pos) →
        (Error.located cause pos).message src = Text.located src pos cause.message ∧
          pos ≤ src.length ∧
          ((∃ c, cause = .unexpectedChar c ∧ src[pos]? = some c) ∨
            ∃ pieces, Piece.Splits 0 src pieces ∧ cause.PointsTo src pieces pos) := by
  refine ⟨fun pos hpos => ⟨Text.located_eq_placed src pos, fun _ _ _ => Text.liesAt_iff hpos⟩,
    fun pos hpos pos' hpos' hne => ?_, fun cause pos herror => ⟨rfl, ?_⟩⟩
  · exact ⟨fun heq => hne (Text.eq_of_ofOffset_eq hpos hpos' heq),
      fun message heq => hne (Text.eq_of_located_eq hpos hpos' heq)⟩
  · rcases justified_of_read_error herror with ⟨pos', c, heq, hc⟩ | ⟨pieces, hsplits, hpoints⟩
    · cases heq
      obtain ⟨hlt, -⟩ := List.getElem?_eq_some_iff.1 hc
      exact ⟨Nat.le_of_lt hlt, .inl ⟨c, rfl, hc⟩⟩
    · have hstop : ∀ p ∈ pieces, p.stop ≤ src.length := by
        intro p hp
        simpa using hsplits.stop_le hp
      exact ⟨pos_le_of_pointsTo hstop hpoints, .inr ⟨pieces, hsplits, hpoints⟩⟩

/-- The semicolon is missing on the line feed, which is the ninth character of the first line. -/
theorem located_exact_lineFeed :
    GrammarFile.read "%start A\n".toList = .error (.located (.missingSemicolon .start) 8) ∧
      8 ≤ "%start A\n".toList.length ∧
      Text.LiesAt "%start A\n".toList 8 1 9 "%start A".toList ∧
      Text.Location.ofOffset "%start A\n".toList 8 ≠
        Text.Location.ofOffset "%start A\n".toList 9 := by
  obtain ⟨hplace, hdistinct, hpos⟩ := located_exact "%start A\n".toList
  have hread : GrammarFile.read "%start A\n".toList =
      .error (.located (.missingSemicolon .start) 8) := by decide +kernel
  have hle := (hpos _ _ hread).2.1
  exact ⟨hread, hle, ((hplace 8 hle).2 1 9 _).2 (by decide +kernel),
    (hdistinct 8 hle 9 (by decide) (by decide)).1⟩

/-- The escape `\\x` wants two digits. The message for it shows no place. -/
theorem refused_without_place :
    ∃ e, GrammarFile.read "S:\"\\x4\";".toList = .error e ∧
      ∀ message line column l,
        e.message "S:\"\\x4\";".toList ≠ Text.placed message line column l := by
  refine ⟨.literal (.escape (.truncated 'x' 2) 0 2 1), by decide +kernel, ?_⟩
  intro message line column l heq
  have hmem := Text.lineFeed_mem_placed message line column l
  rw [← heq] at hmem
  exact absurd hmem (by decide +kernel)

end Earley.GrammarFile
