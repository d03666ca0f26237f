/-
Earley.Proofs.GrammarFile.Tiling — cutting a text into pieces loses nothing of it, and it ends.

A text is taken apart into gaps, which are blanks and comments, and the pieces between them
(`Tiled`). Each piece stands where its offsets say, and is as long as it can be (`Stands`). This
holds up to the end of the text, or up to the first offset where nothing begins (`FirstStuck`).
Scanning is told as rounds, each of which takes one part off the text.

- `Round.lt_and_le` and `Round.rightUnique`: a round gets further, and there is one way to do it.
- `exists_tiling`: what scanning from an offset on has taken apart when it ends.
- `scan_tiles`: the same for whole texts.
-/
import Earley.Proofs.GrammarFile.Refusal
import Mathlib.Logic.Relation

namespace Earley.GrammarFile

namespace Piece

variable {src : List Char} {kind : PieceKind} {pos stop e e' : Nat} {pieces : List Piece}
  {p : Piece} {c : Char} {rest : List Char}

/-! ## Parts at offsets -/

/-- Blanks or a comment stand from one offset up to the other. -/
def SkippedAt (src : List Char) (pos e : Nat) : Prop :=
  ∃ part rest, src.drop pos = part ++ rest ∧ Skipped part rest ∧ e = pos + part.length

/-- A piece of a class stands from one offset up to the other. -/
def FormedAt (src : List Char) (kind : PieceKind) (pos e : Nat) : Prop :=
  ∃ part rest, src.drop pos = part ++ rest ∧ Formed kind part rest ∧ e = pos + part.length

/-- Blanks and comments, one behind the other. -/
abbrev Gap (src : List Char) : Nat → Nat → Prop := Relation.ReflTransGen (SkippedAt src)

/-- A round of scanning takes off what can be skipped, or else a piece. -/
inductive Round (src : List Char) (pos e : Nat) : Prop where
  | skip (hskip : SkippedAt src pos e)
  | piece {kind : PieceKind} (hnone : ∀ e', ¬ SkippedAt src pos e')
      (hpiece : FormedAt src kind pos e)

/-- Rounds of scanning lead from one offset to the other. -/
abbrev Leads (src : List Char) : Nat → Nat → Prop := Relation.ReflTransGen (Round src)

/-- From one offset up to another, a text consists of gaps with pieces between them. -/
inductive Tiled (src : List Char) : Nat → List Piece → Nat → Prop where
  | last {pos stop : Nat} (hgap : Gap src pos stop) : Tiled src pos [] stop
  | cons {pos stop : Nat} {p : Piece} {ps : List Piece} (hgap : Gap src pos p.start)
      (hrest : Tiled src p.stop ps stop) : Tiled src pos (p :: ps) stop

/-- A piece stands in a text: its characters are those between its offsets, of which there is at
least one, nothing can be skipped there, and a name or flags do not go on behind it. -/
structure Stands (src : List Char) (p : Piece) : Prop where
  lt : p.start < p.stop
  stop_le : p.stop ≤ src.length
  chars_eq : p.chars = src.extract p.start p.stop
  formed : FormedAt src p.kind p.start p.stop
  not_skipped : ∀ e, ¬ SkippedAt src p.start e
  name_ends : p.kind = .name ∨ p.kind = .directive → ∀ c, src[p.stop]? = some c →
    isNamePart c = false
  flags_end : p.kind = .regex → ∀ c, src[p.stop]? = some c → isFlag c = false

/-- A text is taken apart from one offset up to another. -/
structure Tiling (src : List Char) (pos : Nat) (pieces : List Piece) (stop : Nat) : Prop where
  tiled : Tiled src pos pieces stop
  stands : ∀ p ∈ pieces, Stands src p
  ascending : pieces.Pairwise fun p q => p.stop ≤ q.start
  leads : Leads src pos stop

/-- Nothing begins with the character at an offset. -/
structure Stuck (src : List Char) (pos : Nat) (c : Char) : Prop where
  char_eq : src[pos]? = some c
  not_skipped : ∀ e, ¬ SkippedAt src pos e
  not_formed : ∀ kind e, ¬ FormedAt src kind pos e

/-- Nothing begins at an offset, which scanning comes to, and something does at every other offset
that it comes to. -/
structure FirstStuck (src : List Char) (pos : Nat) (c : Char) : Prop where
  stuck : Stuck src pos c
  reached : Leads src 0 pos
  first : ∀ e, Leads src 0 e → e = pos ∨ e < pos ∧ ∃ e', Round src e e'

/-! ## Rounds -/

/-- What can be skipped at an offset is what is skipped there. -/
theorem skippedAt_iff (hdrop : src.drop pos = c :: rest) :
    SkippedAt src pos e ↔ ∃ n, skip? c rest = some n ∧ e = pos + (n + 1) := by
  constructor
  · rintro ⟨part, tail, heq, hpart, rfl⟩
    obtain ⟨d, body, rfl⟩ := hpart.exists_cons
    rw [hdrop] at heq
    cases heq
    exact ⟨body.length, skip?_eq_some_iff.2 ⟨body, tail, rfl, rfl, hpart⟩, rfl⟩
  · rintro ⟨n, hn, rfl⟩
    obtain ⟨body, tail, rfl, rfl, hpart⟩ := skip?_eq_some_iff.1 hn
    exact ⟨c :: body, tail, hdrop, hpart, rfl⟩

/-- A piece that stands at an offset is the one that is found there. -/
theorem formedAt_iff (hdrop : src.drop pos = c :: rest) :
    FormedAt src kind pos e ↔ ∃ n, length? kind c rest = some n ∧ e = pos + (n + 1) := by
  constructor
  · rintro ⟨part, tail, heq, hpart, rfl⟩
    obtain ⟨d, body, rfl⟩ := hpart.exists_cons
    rw [hdrop] at heq
    cases heq
    exact ⟨body.length, length?_eq_some_iff.2 ⟨body, tail, rfl, rfl, hpart⟩, rfl⟩
  · rintro ⟨n, hn, rfl⟩
    obtain ⟨body, tail, rfl, rfl, hpart⟩ := length?_eq_some_iff.1 hn
    exact ⟨c :: body, tail, hdrop, hpart, rfl⟩

theorem not_skippedAt (hdrop : src.drop pos = c :: rest) (hnone : skip? c rest = none) (e : Nat) :
    ¬ SkippedAt src pos e := by
  rintro hskip
  obtain ⟨n, hn, -⟩ := (skippedAt_iff hdrop).1 hskip
  cases hnone.symm.trans hn

/-- A part that is not empty ends behind the offset where it stands, and in the text. -/
theorem lt_and_le_of_drop {part : List Char} (hdrop : src.drop pos = part ++ rest)
    (hpart : ∃ c cs, part = c :: cs) :
    pos < pos + part.length ∧ pos + part.length ≤ src.length := by
  obtain ⟨c, cs, rfl⟩ := hpart
  have hlength := congrArg List.length hdrop
  rw [List.length_drop, List.length_append, List.length_cons] at hlength
  rw [List.length_cons]
  omega

theorem SkippedAt.lt_and_le (h : SkippedAt src pos e) : pos < e ∧ e ≤ src.length := by
  obtain ⟨part, rest, hdrop, hpart, rfl⟩ := h
  exact lt_and_le_of_drop hdrop hpart.exists_cons

theorem FormedAt.lt_and_le (h : FormedAt src kind pos e) : pos < e ∧ e ≤ src.length := by
  obtain ⟨part, rest, hdrop, hpart, rfl⟩ := h
  exact lt_and_le_of_drop hdrop hpart.exists_cons

/-- A round gets further, and not past the end. -/
theorem Round.lt_and_le (h : Round src pos e) : pos < e ∧ e ≤ src.length := by
  cases h with
  | skip hskip => exact hskip.lt_and_le
  | piece _ hpiece => exact hpiece.lt_and_le

/-- What a round takes off is determined by the offset. -/
theorem Round.rightUnique (src : List Char) : Relator.RightUnique (Round src) := by
  intro pos e e' h h'
  have hlt : pos < src.length := Nat.lt_of_lt_of_le h.lt_and_le.1 h.lt_and_le.2
  have hdrop := List.drop_eq_getElem_cons hlt
  cases h with
  | skip hskip =>
    cases h' with
    | skip hskip' =>
      obtain ⟨n, hn, rfl⟩ := (skippedAt_iff hdrop).1 hskip
      obtain ⟨n', hn', rfl⟩ := (skippedAt_iff hdrop).1 hskip'
      cases hn.symm.trans hn'
      rfl
    | piece hnone _ => exact absurd hskip (hnone e)
  | piece hnone hpiece =>
    cases h' with
    | skip hskip' => exact absurd hskip' (hnone e')
    | piece _ hpiece' =>
      obtain ⟨n, hn, rfl⟩ := (formedAt_iff hdrop).1 hpiece
      obtain ⟨n', hn', rfl⟩ := (formedAt_iff hdrop).1 hpiece'
      -- the character tells the class
      rw [← kindOf_of_length? hn, kindOf_of_length? hn'] at hn
      cases hn.symm.trans hn'
      rfl

theorem Leads.le (h : Leads src pos e) : pos ≤ e := by
  induction h with
  | refl => exact Nat.le_refl pos
  | tail _ hround ih => exact Nat.le_of_lt (Nat.lt_of_le_of_lt ih hround.lt_and_le.1)

theorem Stuck.not_round (h : Stuck src pos c) : ¬ Round src pos e := by
  rintro (hskip | ⟨-, hpiece⟩)
  · exact h.not_skipped e hskip
  · exact h.not_formed _ e hpiece

/-- Rounds that end where nothing begins have come there by every offset that scanning comes to. -/
theorem Stuck.isFirst (hstuck : Stuck src pos c) (hreached : Leads src 0 pos) :
    FirstStuck src pos c := by
  refine ⟨hstuck, hreached, fun e he => ?_⟩
  have hbefore : Leads src e pos := by
    rcases Relation.ReflTransGen.total_of_right_unique (Round.rightUnique src) he hreached with
      hle | hle
    · exact hle
    · rcases Relation.ReflTransGen.cases_head hle with rfl | ⟨e', hround, -⟩
      · exact .refl
      · exact absurd hround hstuck.not_round
  rcases Relation.ReflTransGen.cases_head hbefore with rfl | ⟨e', hround, hrest⟩
  · exact .inl rfl
  · exact .inr ⟨Nat.lt_of_lt_of_le hround.lt_and_le.1 (Leads.le hrest), e', hround⟩

/-! ## Gaps and pieces -/

theorem Gap.leads (h : Gap src pos e) : Leads src pos e :=
  Relation.ReflTransGen.mono (fun _ _ => Round.skip) pos e h

/-- What is skipped joins the gap behind it. -/
theorem Tiled.skip (hskip : SkippedAt src pos e) (h : Tiled src e pieces stop) :
    Tiled src pos pieces stop := by
  cases h with
  | last hgap => exact .last (hgap.head hskip)
  | cons hgap hrest => exact .cons (hgap.head hskip) hrest

theorem Tiling.skip (hskip : SkippedAt src pos e) (h : Tiling src e pieces stop) :
    Tiling src pos pieces stop :=
  ⟨h.tiled.skip hskip, h.stands, h.ascending, h.leads.head (.skip hskip)⟩

/-- The pieces of a tiled text come one after the other. -/
theorem Tiled.ascending (h : Tiled src pos pieces stop) (hstands : ∀ p ∈ pieces, Stands src p) :
    (∀ p ∈ pieces, pos ≤ p.start) ∧ pieces.Pairwise fun p q => p.stop ≤ q.start := by
  induction h with
  | last => simp
  | @cons pos stop p ps hgap hrest ih =>
    obtain ⟨hp, hps⟩ := List.forall_mem_cons.1 hstands
    obtain ⟨hle, hpairwise⟩ := ih hps
    have hbefore : pos ≤ p.stop := Nat.le_trans (Leads.le (Gap.leads hgap)) (Nat.le_of_lt hp.lt)
    exact ⟨List.forall_mem_cons.2 ⟨Leads.le (Gap.leads hgap), fun q hq =>
      Nat.le_trans hbefore (hle q hq)⟩, List.pairwise_cons.2 ⟨hle, hpairwise⟩⟩

theorem Tiling.cons (hp : Stands src p) (h : Tiling src p.stop pieces stop) :
    Tiling src p.start (p :: pieces) stop := by
  have htiled : Tiled src p.start (p :: pieces) stop := .cons .refl h.tiled
  have hstands : ∀ q ∈ p :: pieces, Stands src q := List.forall_mem_cons.2 ⟨hp, h.stands⟩
  exact ⟨htiled, hstands, (htiled.ascending hstands).2,
    h.leads.head (.piece hp.not_skipped hp.formed)⟩

/-- Names and flags end where their class says. -/
theorem Formed.runEnds {part : List Char} (h : Formed kind part rest) :
    (kind = .name ∨ kind = .directive → RunEnds isNamePart rest) ∧
      (kind = .regex → RunEnds isFlag rest) := by
  cases h with
  | directive _ _ hend | name _ _ hend => exact ⟨fun _ => hend, nofun⟩
  | regex _ _ _ hend => exact ⟨nofun, fun _ => hend⟩
  | string | punctuation => exact ⟨nofun, nofun⟩

theorem stands_of_formed {part : List Char} (hdrop : src.drop pos = part ++ rest)
    (hpart : Formed kind part rest) (hnone : ∀ e, ¬ SkippedAt src pos e) :
    Stands src ⟨kind, part, pos⟩ := by
  obtain ⟨hlt, hle⟩ := lt_and_le_of_drop hdrop hpart.exists_cons
  have hbehind : src.drop (pos + part.length) = rest := by
    rw [← List.drop_drop, hdrop, List.drop_left]
  have hhead (c : Char) (hc : src[pos + part.length]? = some c) : c ∈ rest.head? := by
    rw [← hbehind, List.head?_drop]
    exact hc
  refine ⟨hlt, hle, ?_, ⟨part, rest, hdrop, hpart, rfl⟩, hnone,
    fun hkind c hc => hpart.runEnds.1 hkind c (hhead c hc),
    fun hkind c hc => hpart.runEnds.2 hkind c (hhead c hc)⟩
  rw [List.extract_eq_take_drop, hdrop, Piece.stop, Nat.add_sub_cancel_left, List.take_left]

/-! ## Runs -/

/-- Scanning from an offset on has taken the text apart when it ends, and it ends at the end of the
text or where nothing begins. -/
theorem exists_tiling (hpos : pos ≤ src.length) :
    ∃ pieces stop, Tiling src pos pieces stop ∧
      (scanFrom pos (src.drop pos) = .ok pieces ∧ stop = src.length ∨
        ∃ c, scanFrom pos (src.drop pos) = .error (stop, c) ∧ Stuck src stop c) := by
  -- each round leaves less of the text
  induction hn : src.length - pos using Nat.strongRecOn generalizing pos with
  | ind n ih =>
    cases hdrop : src.drop pos with
    | nil =>
      have hend : pos = src.length := Nat.le_antisymm hpos (List.drop_eq_nil_iff.1 hdrop)
      exact ⟨[], pos, ⟨.last .refl, nofun, .nil, .refl⟩, .inl ⟨scanFrom_nil, hend⟩⟩
    | cons c rest =>
      have hcontinue {part tail : List Char} (hdrop : src.drop pos = part ++ tail)
          (hpart : ∃ c cs, part = c :: cs) :
          ∃ pieces stop, Tiling src (pos + part.length) pieces stop ∧
            (scanFrom (pos + part.length) tail = .ok pieces ∧ stop = src.length ∨
              ∃ c, scanFrom (pos + part.length) tail = .error (stop, c) ∧ Stuck src stop c) := by
        obtain ⟨hlt, hle⟩ := lt_and_le_of_drop hdrop hpart
        have hbehind : src.drop (pos + part.length) = tail := by
          rw [← List.drop_drop, hdrop, List.drop_left]
        exact hbehind ▸ ih _ (by omega) hle rfl
      rcases scanFrom_cons_cases pos c rest with ⟨body, tail, rfl, hpart, heq⟩ |
        ⟨hnone, ⟨kind, body, tail, rfl, hpart, heq⟩ | ⟨hnone', heq⟩⟩
      · obtain ⟨pieces, stop, htiling, hends⟩ := hcontinue hdrop hpart.exists_cons
        exact ⟨pieces, stop, htiling.skip ⟨_, tail, hdrop, hpart, rfl⟩, heq ▸ hends⟩
      · obtain ⟨pieces, stop, htiling, hends⟩ := hcontinue hdrop hpart.exists_cons
        have hstands := stands_of_formed hdrop hpart (not_skippedAt hdrop hnone)
        refine ⟨_ :: pieces, stop, Tiling.cons hstands htiling, ?_⟩
        rcases hends with ⟨hok, hstop⟩ | ⟨d, herror, hstuck⟩
        · exact .inl ⟨by rw [heq, hok]; rfl, hstop⟩
        · exact .inr ⟨d, by rw [heq, herror]; rfl, hstuck⟩
      · refine ⟨[], pos, ⟨.last .refl, nofun, .nil, .refl⟩, .inr ⟨c, heq, ?_⟩⟩
        refine ⟨by rw [← List.head?_drop, hdrop]; rfl, not_skippedAt hdrop hnone, ?_⟩
        rintro kind e hpiece
        obtain ⟨n, hn, -⟩ := (formedAt_iff hdrop).1 hpiece
        cases (hnone' kind).symm.trans hn

end Piece

/-! ## Whole texts -/

/-- An error that tells that the file ends tells so at the end of the text. -/
theorem pos_eq_of_read_endOfFile [Regex.Engine] [Literal.Decoder] {src : List Char}
    {what : Expectation} {pos : Nat} (h : read src = .error (.located (.expected what none) pos)) :
    pos = src.length := by
  rcases justified_of_read_error h with ⟨pos', c, heq, -⟩ | ⟨pieces, -, hpos⟩
  · cases heq
  · exact hpos

/-- Scanning a text ends: each round gets further, and not past the end. If the text splits into
pieces, it consists of them and of the gaps before, between and behind them, and the end of the
file is the end of the text. Otherwise it is taken apart in this way up to the offset that the error
tells, which is the first one where nothing begins. -/
theorem scan_tiles [Regex.Engine] [Literal.Decoder] (src : List Char) :
    (∀ pos e, Piece.Round src pos e → pos < e ∧ e ≤ src.length) ∧
      ((∃ pieces, scan src = .ok pieces ∧ Piece.Tiling src 0 pieces src.length ∧
          ∀ what pos, read src = .error (.located (.expected what none) pos) →
            pos = src.length) ∨
        ∃ pieces pos c, scan src = .error (.located (.unexpectedChar c) pos) ∧
          Piece.Tiling src 0 pieces pos ∧ Piece.FirstStuck src pos c) := by
  refine ⟨fun pos e => Piece.Round.lt_and_le, ?_⟩
  obtain ⟨pieces, stop, htiling, hends⟩ := Piece.exists_tiling (Nat.zero_le src.length)
  rcases hends with ⟨hok, rfl⟩ | ⟨c, herror, hstuck⟩
  · refine .inl ⟨pieces, ?_, htiling, fun what pos => pos_eq_of_read_endOfFile⟩
    rw [scan, Piece.scan, ← List.drop_zero (l := src), hok]
  · refine .inr ⟨pieces, stop, c, ?_, htiling, hstuck.isFirst htiling.leads⟩
    rw [scan, Piece.scan, ← List.drop_zero (l := src), herror]

/-- A comment that is not closed is a pattern if a slash stands on its line. -/
example : scan "/* ab /im x".toList =
    .ok [⟨.regex, "/* ab /im".toList, 0⟩, ⟨.name, ['x'], 10⟩] := by
  decide +kernel

end Earley.GrammarFile
