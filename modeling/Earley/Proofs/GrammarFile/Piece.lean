/-
Earley.Proofs.GrammarFile.Piece — how a text splits into pieces.

`Skipped` and `Formed` say what blanks, comments and the classes of pieces look like, and `Splits`
that a text consists of them, each as long as it can be. Nothing is said about how they are found.
What can be skipped is no piece, which decides between a comment and a pattern.

- `delimitedLength?_eq_some_iff` and `commentLength?_eq_some_iff`: the ends of quoted text and of
  block comments are found where they are.
- `skip?_eq_some_iff` and `length?_eq_some_iff`: so are blanks, comments and pieces of each class.
- `scanFrom_cons_cases`: what cutting a text does at a character.
- `scan_eq_ok_iff`: cutting a text gives just the pieces that it splits into.
- `Splits.blank_cons`: a blank in front of a text makes no difference to its pieces.
- `Formed.congr`, `skip?_insert_eq_none`: blanks behind a piece leave it as it is.
-/
import Earley.GrammarFile.Piece

namespace Earley.GrammarFile.Piece

/-! ## What parts look like -/

/-- No further character satisfies `p`, so that a run of such characters ends here. -/
def RunEnds (p : Char → Bool) (rest : List Char) : Prop := ∀ c ∈ rest.head?, p c = false

/-- Characters that may stand before a delimiter: the delimiter itself and a line feed only behind
a backslash, which takes along any character. -/
inductive Enclosed (stop : Char) : List Char → Prop where
  | nil : Enclosed stop []
  | escape {c : Char} {cs : List Char} (hcs : Enclosed stop cs) : Enclosed stop ('\\' :: c :: cs)
  | char {c : Char} {cs : List Char} (hescape : c ≠ '\\') (hstop : c ≠ stop) (hline : c ≠ '\n')
      (hcs : Enclosed stop cs) : Enclosed stop (c :: cs)

/-- Blanks or a comment, in front of the rest of a text. A run of blanks and a line comment go on as
far as they can; a block comment ends at the first end mark. -/
inductive Skipped : List Char → List Char → Prop where
  | blanks {c : Char} {cs rest : List Char} (hc : Text.isBlank c = true)
      (hcs : ∀ d ∈ cs, Text.isBlank d = true) (hend : RunEnds Text.isBlank rest) :
      Skipped (c :: cs) rest
  | lineComment {cs rest : List Char} (hcs : ∀ d ∈ cs, (d != '\n') = true)
      (hend : RunEnds (· != '\n') rest) : Skipped ('/' :: '/' :: cs) rest
  | blockComment {cs rest : List Char} (hcs : ¬ ['*', '/'] <:+: cs ++ ['*']) :
      Skipped ('/' :: '*' :: (cs ++ ['*', '/'])) rest

/-- A piece of a class, in front of the rest of a text. Names, also those of directives, and flags
go on as far as they can. -/
inductive Formed : PieceKind → List Char → List Char → Prop where
  | directive {c : Char} {cs rest : List Char} (hc : isNameStart c = true)
      (hcs : ∀ d ∈ cs, isNamePart d = true) (hend : RunEnds isNamePart rest) :
      Formed .directive ('%' :: c :: cs) rest
  | regex {body flags rest : List Char} (hbody : Enclosed '/' body) (hne : body ≠ [])
      (hflags : ∀ d ∈ flags, isFlag d = true) (hend : RunEnds isFlag rest) :
      Formed .regex ('/' :: (body ++ '/' :: flags)) rest
  | string {quote : Char} {body rest : List Char} (hquote : quote = '"' ∨ quote = '\'')
      (hbody : Enclosed quote body) : Formed .string (quote :: (body ++ [quote])) rest
  | name {c : Char} {cs rest : List Char} (hc : isNameStart c = true)
      (hcs : ∀ d ∈ cs, isNamePart d = true) (hend : RunEnds isNamePart rest) :
      Formed .name (c :: cs) rest
  | punctuation {c : Char} {rest : List Char} (hc : isPunctuation c = true) :
      Formed .punctuation [c] rest

theorem Skipped.exists_cons {part rest : List Char} (h : Skipped part rest) :
    ∃ c cs, part = c :: cs := by
  cases h <;> exact ⟨_, _, rfl⟩

theorem Formed.exists_cons {kind : PieceKind} {part rest : List Char} (h : Formed kind part rest) :
    ∃ c cs, part = c :: cs := by
  cases h <;> exact ⟨_, _, rfl⟩

/-- A text that stands at an offset consists of pieces and of parts to skip. -/
inductive Splits : Nat → List Char → List Piece → Prop where
  | nil {pos : Nat} : Splits pos [] []
  | skip {pos : Nat} {part rest : List Char} {ps : List Piece} (hpart : Skipped part rest)
      (hrest : Splits (pos + part.length) rest ps) : Splits pos (part ++ rest) ps
  | piece {pos : Nat} {kind : PieceKind} {part rest : List Char} {ps : List Piece}
      (hpart : Formed kind part rest)
      (hskip : ∀ part' rest', part ++ rest = part' ++ rest' → ¬ Skipped part' rest')
      (hrest : Splits (pos + part.length) rest ps) :
      Splits pos (part ++ rest) (⟨kind, part, pos⟩ :: ps)

/-! ## Runs -/

section

variable {p : Char → Bool} {c stop : Char} {cs rest part tail : List Char} {n : Nat}

theorem runLength_append (hcs : ∀ d ∈ cs, p d = true) (hend : RunEnds p rest) :
    runLength p (cs ++ rest) = cs.length := by
  have hnone : rest.takeWhile p = [] := by
    cases rest with
    | nil => rfl
    | cons d ds => rw [List.takeWhile_cons, hend d rfl]; rfl
  rw [runLength, List.takeWhile_append_of_pos hcs, hnone, List.append_nil]

/-- Each text begins with a run, perhaps an empty one. -/
theorem exists_run (p : Char → Bool) (cs : List Char) :
    ∃ run rest, cs = run ++ rest ∧ runLength p cs = run.length ∧ (∀ d ∈ run, p d = true) ∧
      RunEnds p rest := by
  have hend : RunEnds p (cs.dropWhile p) := by
    intro d hd
    have hfirst := List.head?_dropWhile_not p cs
    rwa [Option.mem_def.1 hd] at hfirst
  exact ⟨cs.takeWhile p, cs.dropWhile p, List.takeWhile_append_dropWhile.symm, rfl,
    List.all_eq_true.1 List.all_takeWhile, hend⟩

/-! ## Comments and quoted text -/

theorem commentLength?_append (hcs : ¬ ['*', '/'] <:+: cs ++ ['*']) (rest : List Char) :
    commentLength? (cs ++ '*' :: '/' :: rest) = some (cs.length + 2) := by
  induction cs with
  | nil => rfl
  | cons c cs ih =>
    rw [List.cons_append, List.infix_cons_iff, not_or] at hcs
    have hmark : ∀ ds, c = '*' → cs ++ '*' :: '/' :: rest ≠ '/' :: ds := by
      rintro ds rfl heq
      cases cs with
      | nil => cases heq
      | cons d cs =>
        cases heq
        exact hcs.1 ⟨cs ++ ['*'], rfl⟩
    rw [List.cons_append, commentLength?.eq_3 _ _ fun ds hc heq => hmark ds hc heq, ih hcs.2]
    rfl

theorem commentLength?_eq_some_iff :
    commentLength? cs = some n ↔
      ∃ body rest, cs = body ++ '*' :: '/' :: rest ∧ n = body.length + 2 ∧
        ¬ ['*', '/'] <:+: body ++ ['*'] := by
  constructor
  · intro h
    fun_induction commentLength? cs generalizing n with
    | case1 => cases h
    | case2 cs =>
      cases h
      exact ⟨[], cs, rfl, rfl, by decide⟩
    | case3 c cs hmark ih =>
      obtain ⟨m, hm, rfl⟩ := Option.map_eq_some_iff.1 h
      obtain ⟨body, rest, rfl, rfl, hbody⟩ := ih hm
      refine ⟨c :: body, rest, rfl, rfl, ?_⟩
      rw [List.cons_append, List.infix_cons_iff, not_or]
      refine ⟨fun hfirst => ?_, hbody⟩
      obtain ⟨rfl, hsecond⟩ := List.cons_prefix_cons.1 hfirst
      cases body with
      | nil => exact absurd hsecond (by decide)
      | cons d body =>
        obtain ⟨rfl, -⟩ := List.cons_prefix_cons.1 hsecond
        exact hmark _ rfl rfl
  · rintro ⟨body, rest, rfl, rfl, hbody⟩
    exact commentLength?_append hbody rest

theorem delimitedLength?_append (hstop : stop ≠ '\\') (hcs : Enclosed stop cs)
    (rest : List Char) : delimitedLength? stop (cs ++ stop :: rest) = some (cs.length + 1) := by
  induction hcs with
  | nil => simp [delimitedLength?]
  | escape _ ih => simp [delimitedLength?, ih]
  | char hescape hc hline _ ih => simp [delimitedLength?, hc, hline, ih]

/-- What stands before a delimiter shows where it ends. -/
theorem enclosed_append_inj {cs' rest' : List Char} (hstop : stop ≠ '\\') (hcs : Enclosed stop cs)
    (hcs' : Enclosed stop cs') (h : cs ++ stop :: rest = cs' ++ stop :: rest') :
    cs = cs' ∧ rest = rest' := by
  have hlength := delimitedLength?_append hstop hcs rest
  rw [h, delimitedLength?_append hstop hcs' rest', Option.some.injEq, Nat.succ_inj] at hlength
  obtain ⟨heq, htail⟩ := List.append_inj h hlength.symm
  exact ⟨heq, List.tail_eq_of_cons_eq htail⟩

theorem delimitedLength?_eq_some_iff (hstop : stop ≠ '\\') :
    delimitedLength? stop cs = some n ↔
      ∃ body rest, cs = body ++ stop :: rest ∧ n = body.length + 1 ∧ Enclosed stop body := by
  constructor
  · intro h
    fun_induction delimitedLength? stop cs generalizing n with
    | case1 => cases h
    | case2 => cases h
    | case3 c cs ih =>
      obtain ⟨m, hm, rfl⟩ := Option.map_eq_some_iff.1 h
      obtain ⟨body, rest, rfl, rfl, hbody⟩ := ih hm
      exact ⟨'\\' :: c :: body, rest, rfl, rfl, .escape hbody⟩
    | case4 cs =>
      cases h
      exact ⟨[], cs, rfl, rfl, .nil⟩
    | case5 => cases h
    | case6 c cs hescape hc hline ih =>
      obtain ⟨m, hm, rfl⟩ := Option.map_eq_some_iff.1 h
      obtain ⟨body, rest, rfl, rfl, hbody⟩ := ih hm
      exact ⟨c :: body, rest, rfl, rfl, .char hescape hc hline hbody⟩
  · rintro ⟨body, rest, rfl, rfl, hbody⟩
    exact delimitedLength?_append hstop hbody rest

end

/-! ## What begins at a character -/

/-- The character `c` and the `n` characters behind it are a part with the property `P`. -/
def Begins (P : List Char → List Char → Prop) (c : Char) (rest : List Char) (n : Nat) : Prop :=
  ∃ body tail, rest = body ++ tail ∧ n = body.length ∧ P (c :: body) tail

section

variable {c : Char} {rest : List Char} {n : Nat}

/-- What is skipped from a character on is what can be skipped there. -/
theorem skip?_eq_some_iff : skip? c rest = some n ↔ Begins Skipped c rest n := by
  constructor
  · intro h
    unfold skip? at h
    split at h
    next hblank =>
      obtain ⟨run, tail, rfl, hlength, hrun, hend⟩ := exists_run Text.isBlank rest
      cases h
      exact ⟨run, tail, rfl, hlength, .blanks hblank hrun hend⟩
    split at h
    next hslash =>
      subst hslash
      split at h
      next cs =>
        obtain ⟨run, tail, rfl, hlength, hrun, hend⟩ := exists_run (· != '\n') cs
        cases h
        exact ⟨'/' :: run, tail, rfl, by rw [hlength, List.length_cons, Nat.add_comm],
          .lineComment hrun hend⟩
      next cs =>
        obtain ⟨m, hm, rfl⟩ := Option.map_eq_some_iff.1 h
        obtain ⟨body, tail, rfl, rfl, hbody⟩ := commentLength?_eq_some_iff.1 hm
        refine ⟨'*' :: (body ++ ['*', '/']), tail, by simp, ?_, .blockComment hbody⟩
        rw [List.length_cons, List.length_append, Nat.add_comm]
        rfl
      · cases h
    · cases h
  · rintro ⟨body, tail, rfl, rfl, hpart⟩
    have hslash : ¬ Text.isBlank '/' = true := by decide
    unfold skip?
    cases hpart with
    | blanks hc hcs hend => rw [if_pos hc, runLength_append hcs hend]
    | lineComment hcs hend =>
      rw [if_neg hslash, if_pos rfl, List.cons_append]
      simp only [runLength_append hcs hend, List.length_cons, Nat.add_comm]
    | blockComment hcs =>
      rw [if_neg hslash, if_pos rfl, List.cons_append, List.append_assoc]
      simp [commentLength?_append hcs, Nat.add_comm]

theorem directive?_eq_some_iff :
    directive? c rest = some n ↔ Begins (Formed .directive) c rest n := by
  constructor
  · intro h
    unfold directive? at h
    split at h
    next d ds =>
      split at h
      next hc =>
        obtain ⟨rfl, hd⟩ := hc
        obtain ⟨run, tail, rfl, hlength, hrun, hend⟩ := exists_run isNamePart ds
        cases h
        exact ⟨d :: run, tail, rfl, by rw [hlength, List.length_cons, Nat.add_comm],
          .directive hd hrun hend⟩
      · cases h
    · cases h
  · rintro ⟨body, tail, rfl, rfl, hpart⟩
    cases hpart with
    | directive hd hcs hend => simp [directive?, hd, runLength_append hcs hend, Nat.add_comm]

theorem regex?_eq_some_iff : regex? c rest = some n ↔ Begins (Formed .regex) c rest n := by
  constructor
  · intro h
    unfold regex? at h
    split at h
    next hslash =>
      subst hslash
      split at h
      next m hm =>
        obtain ⟨body, ds, rfl, rfl, hbody⟩ := (delimitedLength?_eq_some_iff (by decide)).1 hm
        split at h
        next hlong =>
          obtain ⟨flags, tail, rfl, hlength, hflags, hend⟩ := exists_run isFlag ds
          have hne : body ≠ [] := by
            rintro rfl
            exact absurd hlong (by decide)
          have hdrop : (body ++ '/' :: (flags ++ tail)).drop (body.length + 1) = flags ++ tail := by
            simp [List.drop_append]
          rw [hdrop, hlength] at h
          cases h
          refine ⟨body ++ '/' :: flags, tail, by simp, ?_, .regex hbody hne hflags hend⟩
          rw [List.length_append, List.length_cons, Nat.add_right_comm, Nat.add_assoc]
        · cases h
      · cases h
    · cases h
  · rintro ⟨body, tail, rfl, rfl, hpart⟩
    cases hpart with
    | @regex body flags _ hbody hne hflags hend =>
      have hlong : 1 < body.length + 1 := Nat.succ_lt_succ (List.length_pos_iff.2 hne)
      have hdrop : (body ++ '/' :: (flags ++ tail)).drop (body.length + 1) = flags ++ tail := by
        simp [List.drop_append]
      have hfound := delimitedLength?_append (by decide) hbody (flags ++ tail)
      rw [regex?, if_pos rfl, List.append_assoc, List.cons_append, hfound]
      simp only [hdrop, if_pos hlong, runLength_append hflags hend, List.length_append,
        List.length_cons]
      rw [Nat.add_right_comm, Nat.add_assoc]

theorem string?_eq_some_iff : string? c rest = some n ↔ Begins (Formed .string) c rest n := by
  have hescape (hquote : c = '"' ∨ c = '\'') : c ≠ '\\' := by
    rcases hquote with rfl | rfl <;> decide
  constructor
  · intro h
    unfold string? at h
    split at h
    next hquote =>
      obtain ⟨body, tail, rfl, rfl, hbody⟩ :=
        (delimitedLength?_eq_some_iff (hescape hquote)).1 h
      exact ⟨body ++ [c], tail, by simp, by simp, .string hquote hbody⟩
    · cases h
  · rintro ⟨body, tail, rfl, rfl, hpart⟩
    cases hpart with
    | @string _ body _ hquote hbody =>
      have hfound := delimitedLength?_append (hescape hquote) hbody tail
      rw [string?, if_pos hquote, List.append_assoc, List.singleton_append, hfound,
        List.length_append, List.length_singleton]

theorem name?_eq_some_iff : name? c rest = some n ↔ Begins (Formed .name) c rest n := by
  constructor
  · intro h
    unfold name? at h
    split at h
    next hc =>
      obtain ⟨run, tail, rfl, hlength, hrun, hend⟩ := exists_run isNamePart rest
      cases h
      exact ⟨run, tail, rfl, hlength, .name hc hrun hend⟩
    · cases h
  · rintro ⟨body, tail, rfl, rfl, hpart⟩
    cases hpart with
    | name hc hcs hend => rw [name?, if_pos hc, runLength_append hcs hend]

/-- The number of characters, after the first one, of a piece of a class that begins with `c`. -/
def length? : PieceKind → Char → List Char → Option Nat
  | .directive, c, rest => directive? c rest
  | .regex, c, rest => regex? c rest
  | .string, c, rest => string? c rest
  | .name, c, rest => name? c rest
  | .punctuation, c, _ => if isPunctuation c then some 0 else none

/-- The piece of a class that is found at a character is one that stands there. -/
theorem length?_eq_some_iff {kind : PieceKind} :
    length? kind c rest = some n ↔ Begins (Formed kind) c rest n := by
  cases kind with
  | directive => exact directive?_eq_some_iff
  | regex => exact regex?_eq_some_iff
  | string => exact string?_eq_some_iff
  | name => exact name?_eq_some_iff
  | punctuation =>
    constructor
    · intro h
      rw [length?] at h
      split at h
      next hc =>
        cases h
        exact ⟨[], rest, rfl, rfl, .punctuation hc⟩
      · cases h
    · rintro ⟨body, tail, rfl, rfl, hpart⟩
      cases hpart with
      | punctuation hc => exact if_pos hc

/-- The class of a piece that begins with a character. -/
def kindOf (c : Char) : PieceKind :=
  if c = '%' then .directive
  else if c = '/' then .regex
  else if c = '"' ∨ c = '\'' then .string
  else if isNameStart c then .name
  else .punctuation

/-- The first character of a piece tells its class. -/
theorem kindOf_of_length? {kind : PieceKind} (h : length? kind c rest = some n) :
    kindOf c = kind := by
  obtain ⟨body, tail, -, -, hpart⟩ := length?_eq_some_iff.1 h
  cases hpart with
  | directive | regex => rfl
  | string hquote => rcases hquote with rfl | rfl <;> rfl
  | name hc =>
    have hother (d : Char) (hd : isNameStart d = false) : c ≠ d := by
      rintro rfl
      cases hc.symm.trans hd
    have hquote : ¬ (c = '"' ∨ c = '\'') := not_or.2 ⟨hother _ (by decide), hother _ (by decide)⟩
    rw [kindOf, if_neg (hother _ (by decide)), if_neg (hother _ (by decide)), if_neg hquote,
      if_pos hc]
  | punctuation hc =>
    simp only [isPunctuation, Bool.or_eq_true, beq_iff_eq] at hc
    rcases hc with ((((((rfl | rfl) | rfl) | rfl) | rfl) | rfl) | rfl) | rfl <;> decide

theorem recognize?_of_skip? (h : skip? c rest = some n) :
    recognize? c rest = some (none, n) := by
  simp [recognize?, h]

/-- Where nothing can be skipped, only the class that the character tells is found. -/
theorem recognize?_of_skip?_eq_none (h : skip? c rest = none) :
    recognize? c rest = (length? (kindOf c) c rest).map (some (kindOf c), ·) := by
  have hothers (kind : PieceKind) (hne : kind ≠ kindOf c) : length? kind c rest = none := by
    cases hfound : length? kind c rest with
    | none => rfl
    | some m => exact absurd (kindOf_of_length? hfound).symm hne
  have hpunctuation : (if isPunctuation c then some (some .punctuation, 0) else none) =
      (length? .punctuation c rest).map (some PieceKind.punctuation, ·) := by
    rw [length?]
    split <;> rfl
  have hchain : recognize? c rest =
      (((length? .directive c rest).map (some .directive, ·)).or <|
        ((length? .regex c rest).map (some .regex, ·)).or <|
        ((length? .string c rest).map (some .string, ·)).or <|
        ((length? .name c rest).map (some .name, ·)).or <|
        (length? .punctuation c rest).map (some .punctuation, ·)) := by
    rw [recognize?, h, hpunctuation]
    rfl
  rw [hchain]
  cases hkind : kindOf c with
  | directive | regex | string | name | punctuation =>
    rw [hkind] at hothers
    simp [hothers]

/-- Nothing is skipped just where nothing can be skipped. -/
theorem skip?_eq_none_iff :
    skip? c rest = none ↔ ∀ part tail, c :: rest = part ++ tail → ¬ Skipped part tail := by
  constructor
  · intro h part tail heq hpart
    obtain ⟨d, body, rfl⟩ := hpart.exists_cons
    cases heq
    cases h.symm.trans (skip?_eq_some_iff.2 ⟨body, tail, rfl, rfl, hpart⟩)
  · intro h
    cases hfound : skip? c rest with
    | none => rfl
    | some n =>
      obtain ⟨body, tail, rfl, -, hpart⟩ := skip?_eq_some_iff.1 hfound
      exact absurd hpart (h (c :: body) tail rfl)

/-! ## Cutting a text -/

variable {pos : Nat} {cs : List Char} {ps : List Piece}

theorem scanFrom_nil : scanFrom pos [] = .ok [] := by rw [scanFrom.eq_def]

theorem scanFrom_of_skip? {body tail : List Char} (h : skip? c (body ++ tail) = some body.length) :
    scanFrom pos (c :: (body ++ tail)) = scanFrom (pos + (c :: body).length) tail := by
  rw [scanFrom.eq_def]
  simp only [recognize?_of_skip? h, List.drop_left, List.length_cons]
  rw [Nat.add_assoc, Nat.add_comm 1]
  cases scanFrom (pos + (body.length + 1)) tail <;> rfl

theorem scanFrom_of_length? {kind : PieceKind} {body tail : List Char}
    (hskip : skip? c (body ++ tail) = none) (h : length? kind c (body ++ tail) = some body.length) :
    scanFrom pos (c :: (body ++ tail)) =
      (scanFrom (pos + (c :: body).length) tail).map (⟨kind, c :: body, pos⟩ :: ·) := by
  rw [scanFrom.eq_def]
  simp only [recognize?_of_skip?_eq_none hskip, kindOf_of_length? h, h, Option.map_some,
    List.drop_left, List.take_left, List.length_cons]
  rw [Nat.add_assoc, Nat.add_comm 1]
  cases scanFrom (pos + (body.length + 1)) tail <;> rfl

/-- Cutting a text passes over what can be skipped, or else takes a piece, or else stops where
nothing begins. -/
theorem scanFrom_cons_cases (pos : Nat) (c : Char) (rest : List Char) :
    (∃ body tail, rest = body ++ tail ∧ Skipped (c :: body) tail ∧
        scanFrom pos (c :: rest) = scanFrom (pos + (c :: body).length) tail) ∨
      skip? c rest = none ∧
        ((∃ kind body tail, rest = body ++ tail ∧ Formed kind (c :: body) tail ∧
            scanFrom pos (c :: rest) =
              (scanFrom (pos + (c :: body).length) tail).map (⟨kind, c :: body, pos⟩ :: ·)) ∨
          (∀ kind, length? kind c rest = none) ∧ scanFrom pos (c :: rest) = .error (pos, c)) := by
  cases hskip : skip? c rest with
  | some n =>
    obtain ⟨body, tail, rfl, rfl, hpart⟩ := skip?_eq_some_iff.1 hskip
    exact .inl ⟨body, tail, rfl, hpart, scanFrom_of_skip? hskip⟩
  | none =>
    refine .inr ⟨rfl, ?_⟩
    cases hlength : length? (kindOf c) c rest with
    | some n =>
      obtain ⟨body, tail, rfl, rfl, hpart⟩ := length?_eq_some_iff.1 hlength
      exact .inl ⟨_, body, tail, rfl, hpart, scanFrom_of_length? hskip hlength⟩
    | none =>
      refine .inr ⟨fun kind => Option.eq_none_iff_forall_ne_some.2 fun n hn => ?_, ?_⟩
      · rw [kindOf_of_length? hn, hn] at hlength
        cases hlength
      · rw [scanFrom.eq_def]
        simp only [recognize?_of_skip?_eq_none hskip, hlength, Option.map_none]

/-- The pieces that are found are what the text splits into. -/
theorem splits_of_scanFrom {pos : Nat} {cs : List Char} {ps : List Piece}
    (h : scanFrom pos cs = .ok ps) : Splits pos cs ps := by
  match cs with
  | [] =>
    rw [scanFrom_nil] at h
    cases h
    exact .nil
  | c :: rest =>
    rcases scanFrom_cons_cases pos c rest with ⟨body, tail, rfl, hpart, heq⟩ |
      ⟨hskip, ⟨kind, body, tail, rfl, hpart, heq⟩ | ⟨-, heq⟩⟩
    · exact .skip hpart (splits_of_scanFrom (heq ▸ h))
    · rw [heq] at h
      cases hrest : scanFrom (pos + (c :: body).length) tail with
      | error e =>
        rw [hrest] at h
        cases h
      | ok ps' =>
        rw [hrest] at h
        cases h
        exact .piece hpart (skip?_eq_none_iff.1 hskip) (splits_of_scanFrom hrest)
    · cases heq.symm.trans h
  termination_by cs.length

/-- What a text splits into is found. -/
theorem scanFrom_of_splits (h : Splits pos cs ps) : scanFrom pos cs = .ok ps := by
  induction h with
  | nil => exact scanFrom_nil
  | skip hpart _ ih =>
    obtain ⟨c, body, rfl⟩ := hpart.exists_cons
    have hskip := skip?_eq_some_iff.2 ⟨body, _, rfl, rfl, hpart⟩
    exact (scanFrom_of_skip? hskip).trans ih
  | piece hpart hskip _ ih =>
    obtain ⟨c, body, rfl⟩ := hpart.exists_cons
    have hlength := length?_eq_some_iff.2 ⟨body, _, rfl, rfl, hpart⟩
    refine (scanFrom_of_length? (skip?_eq_none_iff.2 hskip) hlength).trans ?_
    rw [ih]
    rfl

/-- Cutting a text succeeds with the pieces that it splits into, if it does. -/
theorem scan_eq_ok_iff : scan cs = .ok ps ↔ Splits 0 cs ps :=
  ⟨splits_of_scanFrom, scanFrom_of_splits⟩

/-! ## Blanks -/

theorem toNat_of_isNamePart (hc : isNamePart c = true) : 48 ≤ c.toNat ∧ c.toNat ≤ 122 := by
  rcases Bool.or_eq_true_iff.1 hc with halphanum | hmark
  · rcases Bool.or_eq_true_iff.1 halphanum with halpha | hdigit
    · rcases Bool.or_eq_true_iff.1 halpha with hupper | hlower
      · obtain ⟨hlow, hhigh⟩ := of_decide_eq_true hupper
        exact ⟨Nat.le_trans (by decide) hlow, Nat.le_trans hhigh (by decide)⟩
      · obtain ⟨hlow, hhigh⟩ := Bool.and_eq_true_iff.1 hlower
        exact ⟨Nat.le_trans (by decide) (of_decide_eq_true hlow), of_decide_eq_true hhigh⟩
    · obtain ⟨hlow, hhigh⟩ := Char.isDigit_iff_toNat.1 hdigit
      exact ⟨hlow, Nat.le_trans hhigh (by decide)⟩
  · cases beq_iff_eq.1 hmark
    decide

/-- A character of a name is neither a blank nor a slash. -/
theorem isBlank_of_isNamePart (hc : isNamePart c = true) :
    Text.isBlank c = false ∧ c ≠ '/' := by
  obtain ⟨hlow, hhigh⟩ := toNat_of_isNamePart hc
  constructor
  · simp [Text.isBlank]
    omega
  · rintro rfl
    exact absurd hlow (by decide)

theorem isNamePart_of_isFlag (hc : isFlag c = true) : isNamePart c = true := by
  simp only [isFlag, Bool.or_eq_true, beq_iff_eq] at hc
  rcases hc with (((rfl | rfl) | rfl) | rfl) | rfl <;> decide

/-- The marks of comments are no blanks. -/
theorem ne_mark_of_isBlank (hc : Text.isBlank c = true) : c ≠ '/' ∧ c ≠ '*' := by
  constructor <;> (rintro rfl; exact absurd hc (by decide))

/-- Where neither blanks nor a comment can begin, nothing is skipped. -/
theorem skip?_eq_none (hblank : Text.isBlank c = false) (hslash : c ≠ '/') :
    skip? c rest = none := by
  unfold skip?
  rw [if_neg (Bool.eq_false_iff.1 hblank), if_neg hslash]

/-- A blank in front of a text makes no difference to its pieces. -/
theorem Splits.blank_cons (hc : Text.isBlank c = true) (h : Splits (pos + 1) cs ps) :
    Splits pos (c :: cs) ps := by
  have halone (hend : RunEnds Text.isBlank cs) : Splits pos ([c] ++ cs) ps :=
    .skip (.blanks hc (List.forall_mem_nil _) hend) h
  cases h with
  | nil => exact halone nofun
  | @skip _ part rest _ hpart hrest =>
    cases hpart with
    | @blanks d ds _ hd hds hend =>
      -- the blank joins the run behind it
      have hpart : Skipped (c :: d :: ds) rest :=
        .blanks hc (List.forall_mem_cons.2 ⟨hd, hds⟩) hend
      have hlength : pos + (c :: d :: ds).length = pos + 1 + (d :: ds).length := by
        rw [List.length_cons, Nat.add_assoc, Nat.add_comm 1]
      exact .skip hpart (hlength ▸ hrest)
    | lineComment | blockComment =>
      refine halone fun d hd => ?_
      cases hd
      decide
  | piece hpart hskip hrest =>
    obtain ⟨d, body, rfl⟩ := hpart.exists_cons
    refine halone fun e he => ?_
    cases he
    have hnone := skip?_eq_none_iff.2 hskip
    unfold skip? at hnone
    split at hnone
    · cases hnone
    next hblank => exact Bool.eq_false_iff.2 hblank

/-! ### Blanks behind a piece -/

/-- Where a run ends, it also ends in front of a character that does not belong to it. -/
theorem RunEnds.congr {p : Char → Bool} {rest rest' : List Char} (h : RunEnds p rest)
    (hhead : ∀ c ∈ rest'.head?, c ∈ rest.head? ∨ p c = false) : RunEnds p rest' := by
  intro c hc
  rcases hhead c hc with hmem | hother
  · exact h c hmem
  · exact hother

/-- A piece stays a piece in front of a blank. -/
theorem Formed.congr {kind : PieceKind} {part rest rest' : List Char} (h : Formed kind part rest)
    (hhead : ∀ c ∈ rest'.head?, c ∈ rest.head? ∨ Text.isBlank c = true) :
    Formed kind part rest' := by
  have hname {c : Char} (hc : Text.isBlank c = true) : isNamePart c = false :=
    Bool.eq_false_iff.2 fun hpart => by cases hc.symm.trans (isBlank_of_isNamePart hpart).1
  have hflag {c : Char} (hc : Text.isBlank c = true) : isFlag c = false :=
    Bool.eq_false_iff.2 fun hpart => by cases (hname hc).symm.trans (isNamePart_of_isFlag hpart)
  cases h with
  | directive hc hcs hend =>
    exact .directive hc hcs (hend.congr fun c h => (hhead c h).imp_right hname)
  | regex hbody hne hflags hend =>
    exact .regex hbody hne hflags (hend.congr fun c h => (hhead c h).imp_right hflag)
  | string hquote hbody => exact .string hquote hbody
  | name hc hcs hend => exact .name hc hcs (hend.congr fun c h => (hhead c h).imp_right hname)
  | punctuation hc => exact .punctuation hc

/-- How far blanks and comments go depends on the next character only. -/
theorem Skipped.congr {part rest rest' : List Char} (h : Skipped part rest)
    (hhead : rest'.head? = rest.head?) : Skipped part rest' := by
  cases h with
  | blanks hc hcs hend => exact .blanks hc hcs (hend.congr fun c h => .inl (hhead ▸ h))
  | lineComment hcs hend => exact .lineComment hcs (hend.congr fun c h => .inl (hhead ▸ h))
  | blockComment hcs => exact .blockComment hcs

/-- A comment goes on to the end of the text if no end mark stands in it. -/
theorem commentLength?_eq_none_iff : commentLength? cs = none ↔ ¬ ['*', '/'] <:+: cs := by
  fun_induction commentLength? cs with
  | case1 => simp
  | case2 cs => simp [List.infix_cons_iff]
  | case3 c cs hmark ih =>
    have hfirst : ¬ ['*', '/'] <+: c :: cs := by
      rintro ⟨rest, heq⟩
      cases heq
      exact hmark rest rfl rfl
    rw [Option.map_eq_none_iff, ih, List.infix_cons_iff, not_or]
    exact (and_iff_right hfirst).symm

section

variable {front blanks back : List Char}

/-- Blanks do not bring the end mark of a comment about. -/
theorem infix_of_infix_insert (hblanks : ∀ d ∈ blanks, Text.isBlank d = true)
    (h : ['*', '/'] <:+: front ++ (blanks ++ back)) : ['*', '/'] <:+: front ++ back := by
  induction front with
  | nil =>
    induction blanks with
    | nil => exact h
    | cons b blanks ih =>
      obtain ⟨hb, hblanks⟩ := List.forall_mem_cons.1 hblanks
      rcases List.infix_cons_iff.1 h with hfirst | hlater
      · obtain ⟨heq, -⟩ := List.cons_prefix_cons.1 hfirst
        exact absurd heq.symm (ne_mark_of_isBlank hb).2
      · exact ih hblanks hlater
  | cons c front ih =>
    rw [List.cons_append, List.infix_cons_iff]
    rcases List.infix_cons_iff.1 h with hfirst | hlater
    · obtain ⟨rfl, hsecond⟩ := List.cons_prefix_cons.1 hfirst
      refine .inl (List.cons_prefix_cons.2 ⟨rfl, ?_⟩)
      rcases front with _ | ⟨d, front⟩
      · rcases blanks with _ | ⟨b, blanks⟩
        · exact hsecond
        · obtain ⟨heq, -⟩ := List.cons_prefix_cons.1 hsecond
          exact absurd heq.symm (ne_mark_of_isBlank (hblanks b List.mem_cons_self)).1
      · obtain ⟨rfl, -⟩ := List.cons_prefix_cons.1 hsecond
        exact List.cons_prefix_cons.2 ⟨rfl, List.nil_prefix⟩
    · exact .inr (ih hlater)

/-- Blanks do not bring about anything that could be skipped in front of them. -/
theorem skip?_insert_eq_none (hblanks : ∀ d ∈ blanks, Text.isBlank d = true)
    (h : skip? c (front ++ back) = none) : skip? c (front ++ (blanks ++ back)) = none := by
  unfold skip? at h ⊢
  split at h
  · cases h
  next hc =>
    rw [if_neg hc]
    split at h
    next hslash =>
      rw [if_pos hslash]
      rcases front with _ | ⟨d, front⟩
      · rcases blanks with _ | ⟨b, blanks⟩
        · exact h
        · obtain ⟨hline, hblock⟩ := ne_mark_of_isBlank (hblanks b List.mem_cons_self)
          simp [hline, hblock]
      · by_cases hline : d = '/'
        · subst hline
          cases h
        by_cases hblock : d = '*'
        · subst hblock
          have hnone : commentLength? (front ++ back) = none := Option.map_eq_none_iff.1 h
          rw [commentLength?_eq_none_iff] at hnone
          have hnone' : commentLength? (front ++ (blanks ++ back)) = none :=
            commentLength?_eq_none_iff.2 (mt (infix_of_infix_insert hblanks) hnone)
          exact Option.map_eq_none_iff.2 hnone'
        · simp [hline, hblock]
    next hslash => rw [if_neg hslash]

end

/-! ### Offsets of pieces -/

/-- The pieces of a text end behind the offset where it stands. -/
theorem Splits.lt_stop {p : Piece} (h : Splits pos cs ps) (hp : p ∈ ps) : pos < p.stop := by
  induction h with
  | nil => cases hp
  | skip hpart hrest ih => exact Nat.lt_of_le_of_lt (Nat.le_add_right _ _) (ih hp)
  | piece hpart hskip hrest ih =>
    rcases List.mem_cons.1 hp with rfl | hp
    · obtain ⟨c, cs, rfl⟩ := hpart.exists_cons
      exact Nat.lt_add_of_pos_right (Nat.succ_pos _)
    · exact Nat.lt_of_le_of_lt (Nat.le_add_right _ _) (ih hp)

/-- The pieces of a text end in it. -/
theorem Splits.stop_le {p : Piece} (h : Splits pos cs ps) (hp : p ∈ ps) :
    p.stop ≤ pos + cs.length := by
  induction h with
  | nil => cases hp
  | @skip pos part rest ps hpart hrest ih =>
    rw [List.length_append, ← Nat.add_assoc]
    exact ih hp
  | @piece pos kind part rest ps hpart hskip hrest ih =>
    rw [List.length_append, ← Nat.add_assoc]
    rcases List.mem_cons.1 hp with rfl | hp
    · exact Nat.le_add_right _ _
    · exact ih hp

end

end Earley.GrammarFile.Piece
