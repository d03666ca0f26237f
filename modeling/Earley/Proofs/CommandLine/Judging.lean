/-
Earley.Proofs.CommandLine.Judging — what the verdicts on lines depend on.

A line is judged by itself: its verdict depends on the language, its characters and its number. What
a run prints on the output channel, the summary and the exit code are put together from these
verdicts, and the flags only decide what else is shown.

- `exists_toText?`: the chart of any lexemes can be shown.
- `exists_judgeLine`: judging a line comes to its verdict.
- `exists_judgeLines`: judging lines adds up the verdicts on those that are not blank.
- `recognize_judges_lines`: the same for whole runs, with all that they print for verdicts.
-/
import Earley.Proofs.CommandLine.Loading
import Earley.Proofs.Recognition

namespace Earley

/-! ## Charts that can be shown -/

namespace Chart

variable {τ : Type} {g : Grammar} {c : Chart τ}

theorem exists_mapM {α β : Type} {f : α → Option β} {xs : List α}
    (h : ∀ x ∈ xs, ∃ b, f x = some b) : ∃ bs, xs.mapM f = some bs := by
  induction xs with
  | nil => exact ⟨[], rfl⟩
  | cons x xs ih =>
    obtain ⟨hx, hxs⟩ := List.forall_mem_cons.1 h
    obtain ⟨b, hb⟩ := hx
    obtain ⟨bs, hbs⟩ := ih hxs
    exact ⟨b :: bs, by simp [hb, hbs]⟩

/-- A chart can be shown if the rules of its items are known. -/
theorem exists_toText? (h : c.Known g) (showToken : τ → String) :
    ∃ shown, c.toText? showToken g = some shown := by
  have hentry : ∀ p ∈ c.entries.toList.zipIdx,
      ∃ lines, entryLines? showToken g p.1 p.2 = some lines := by
    rintro ⟨e, i⟩ hp
    have he : c.at? i = some e := by simpa [at?] using List.mem_zipIdx_iff_getElem?.1 hp
    obtain ⟨lines, hlines⟩ : ∃ lines, itemLines? g e.items.toList = some lines := by
      refine exists_mapM fun x hx => ?_
      obtain ⟨r, hr⟩ := h i x (itemsAt_of_at? he ▸ hx)
      exact ⟨_, by rw [hr]; rfl⟩
    exact ⟨_, by simp only [entryLines?, hlines]; rfl⟩
  obtain ⟨blocks, hblocks⟩ := exists_mapM hentry
  exact ⟨_, by simp only [toText?, hblocks]; rfl⟩

end Chart

namespace CommandLine

/-! ## Verdicts -/

section

variable [Regex.Engine]

/-- The verdict on a line with its number: it can be cut into lexemes, and these are recognised. -/
def verdict (l : Language) (p : List Char × Nat) : Bool :=
  match l.judge .kind (String.ofList p.1) p.2 with
  | .ok b => b
  | .error _ => false

theorem verdict_eq_true_iff {l : Language} {line : List Char} {number : Nat} :
    verdict l (line, number) = true ↔
      ∃ lexemes, l.lexer.tokenize (String.ofList line) number = .ok lexemes ∧
        recognize Matching.kind.accepts l.grammar (lexemes.map Lexeme.toToken) = .ok true := by
  unfold verdict Language.judge
  dsimp only
  cases htokenize : l.lexer.tokenize (String.ofList line) number with
  | error f => simp
  | ok lexemes =>
    cases hrecognize : recognize Matching.kind.accepts l.grammar (lexemes.map Lexeme.toToken) with
    | error f => simp [hrecognize]
    | ok b => simp [hrecognize]

/-- Judging a line comes to its verdict. The flag for debugging decides what is shown with it. -/
theorem exists_judgeLine (l : Language) (debug : Bool) (number : Nat) (line : List Char) :
    ∃ shown, judgeLine l debug number line = .ok (verdict l (line, number), shown) := by
  unfold judgeLine verdict Language.judge
  dsimp only
  cases htokenize : l.lexer.tokenize (String.ofList line) number with
  | error f => exact ⟨_, rfl⟩
  | ok lexemes =>
    have htest := Matching.totalOn (m := .kind) (by decide) l.grammar
      (lexemes.map Lexeme.toToken)
    obtain ⟨c, hbuild, hknown⟩ := Chart.exists_known_build htest
    obtain ⟨b, hb⟩ := Chart.exists_accepted? hknown
    obtain ⟨shown, hshown⟩ := Chart.exists_toText? hknown Token.toText
    simp only [recognize, hbuild, hb, hshown]
    exact ⟨_, rfl⟩

end

/-! ## Reports -/

/-- The text of some lines. -/
def unlines (lines : List String) : String := String.join (lines.map (· ++ "\n"))

theorem unlines_append (xs ys : List String) : unlines (xs ++ ys) = unlines xs ++ unlines ys := by
  simp [unlines]

theorem afterErrors_eq (lines : List String) (r : Report) :
    r.afterErrors lines = { r with errors := unlines lines ++ r.errors } := by
  induction lines with
  | nil => simp [Report.afterErrors, unlines]
  | cons x xs ih =>
    rw [Report.afterErrors] at ih
    simp [Report.afterErrors, ih, Report.afterError, unlines, String.append_assoc]

theorem afterOutputs_eq (lines : List String) (r : Report) :
    r.afterOutputs lines = { r with output := unlines lines ++ r.output } := by
  induction lines with
  | nil => simp [Report.afterOutputs, unlines]
  | cons x xs ih =>
    rw [Report.afterOutputs] at ih
    simp [Report.afterOutputs, ih, Report.afterOutput, unlines, String.append_assoc]

/-! ## Judging lines -/

/-- The lines that are judged, with their numbers: those with a character that is no blank. Blank
lines count for the numbers. -/
def judgedFrom (number : Nat) (lines : List (List Char)) : List (List Char × Nat) :=
  (lines.zipIdx number).filter fun p => !p.1.all Text.isBlankOrSeparator

theorem judgedFrom_cons (number : Nat) (line : List Char) (lines : List (List Char)) :
    judgedFrom number (line :: lines) =
      if isBlankLine line then judgedFrom (number + 1) lines
      else (line, number) :: judgedFrom (number + 1) lines := by
  have heq : isBlankLine line = line.all Text.isBlankOrSeparator := rfl
  by_cases hblank : isBlankLine line = true <;> rw [heq] at hblank ⊢ <;> simp [judgedFrom, hblank]

/-- Two counts taken together. -/
def Tally.plus (s t : Tally) : Tally := ⟨s.accepted + t.accepted, s.rejected + t.rejected⟩

section

variable [Regex.Engine]

/-- The verdicts counted. -/
def tallyOf (l : Language) (judged : List (List Char × Nat)) : Tally :=
  ⟨judged.countP (verdict l), judged.countP fun p => !verdict l p⟩

/-- What is printed for the verdicts: a line for each. -/
def verdictLines (l : Language) (judged : List (List Char × Nat)) : List String :=
  judged.map fun p => (if verdict l p then "[ACCEPT] " else "[REJECT] ") ++ String.ofList p.1

theorem unlines_verdictLines (l : Language) (judged : List (List Char × Nat)) :
    unlines (verdictLines l judged) = String.join (judged.map fun p =>
      (if verdict l p then "[ACCEPT] " else "[REJECT] ") ++ String.ofList p.1 ++ "\n") := by
  rw [unlines, verdictLines, List.map_map]
  rfl

theorem line_tallyOf (l : Language) (judged : List (List Char × Nat)) :
    (tallyOf l judged).line = "[SUMMARY] accepted=" ++ toString (judged.countP (verdict l)) ++
      " rejected=" ++ toString (judged.countP fun p => !verdict l p) :=
  rfl

theorem plus_tallyOf_cons (l : Language) (tally : Tally) (p : List Char × Nat)
    (judged : List (List Char × Nat)) :
    tally.plus (tallyOf l (p :: judged)) =
      (tally.add (verdict l p)).plus (tallyOf l judged) := by
  cases hp : verdict l p <;> simp [Tally.plus, tallyOf, Tally.add, hp] <;> omega

/-- Judging adds the verdicts to the tally, and shows them unless it is quiet. -/
theorem exists_judgeLines (l : Language) (quiet debug : Bool) (finish : Tally → Report)
    (number : Nat) (tally : Tally) (lines : List (List Char)) :
    ∃ shown, judgeLines l quiet debug finish number tally lines =
      ((finish (tally.plus (tallyOf l (judgedFrom number lines)))).afterOutputs
        (if quiet then [] else verdictLines l (judgedFrom number lines))).afterErrors shown := by
  induction lines generalizing number tally with
  | nil =>
    refine ⟨[], ?_⟩
    cases quiet <;> rfl
  | cons line lines ih =>
    unfold judgeLines
    rw [judgedFrom_cons]
    by_cases hblank : isBlankLine line = true
    · simp only [if_pos hblank]
      exact ih (number + 1) tally
    · simp only [if_neg hblank]
      obtain ⟨notes, hnotes⟩ := exists_judgeLine l debug number line
      obtain ⟨shown, hshown⟩ := ih (number + 1) (tally.add (verdict l (line, number)))
      refine ⟨notes ++ shown, ?_⟩
      rw [plus_tallyOf_cons]
      simp only [hnotes, hshown, afterErrors_eq, afterOutputs_eq, unlines_append]
      cases quiet
      · simp [Report.afterOutput, verdictLines, verdictLine, unlines, String.append_assoc]
      · simp [String.append_assoc]

end

/-! ## Whole runs -/

section

variable [Regex.Engine] {files : Files} {stdin bytes : List UInt8} {path : String}
  {input : Option String} {l : Language} {lines : List (List Char)}

/-- The bytes that lines are read from: a file, or else the standard input. -/
def inputBytes (files : Files) (stdin : List UInt8) :
    Option String → Except LoadFault (List UInt8)
  | none => .ok stdin
  | some path => readFile files path

theorem recognizeLines_eq (h : inputBytes files stdin input = .ok bytes) (quiet debug : Bool) :
    recognizeLines files stdin input quiet debug l = recognizeStream quiet debug bytes l := by
  cases input with
  | none =>
    cases h
    rfl
  | some path =>
    have h : readFile files path = .ok bytes := h
    simp only [recognizeLines, h]

/-- Judging a stream shows the verdicts on its lines, and ends as their count or the fault of the
stream says. -/
theorem exists_recognizeStream_eq {fault : Option Text.Utf8.Fault}
    (hlines : Text.Stream.lines bytes = (lines, fault)) (quiet debug : Bool) (l : Language) :
    ∃ shown, recognizeStream quiet debug bytes l =
      ((finishJudging fault (tallyOf l (judgedFrom 1 lines))).afterOutputs
        (if quiet then [] else verdictLines l (judgedFrom 1 lines))).afterErrors shown := by
  obtain ⟨shown, hjudge⟩ :=
    exists_judgeLines l quiet debug (finishJudging fault) 1 ⟨0, 0⟩ lines
  have hplus (t : Tally) : Tally.plus ⟨0, 0⟩ t = t := by simp [Tally.plus]
  rw [hplus] at hjudge
  exact ⟨shown, by rw [recognizeStream, hlines]; exact hjudge⟩

/-- The exit code tells whether some line is rejected. -/
theorem code_tallyOf (l : Language) (judged : List (List Char × Nat)) :
    (tallyOf l judged).code = if ∃ p ∈ judged, verdict l p = false then 1 else 0 := by
  unfold Tally.code tallyOf
  by_cases hrejected : ∃ p ∈ judged, verdict l p = false
  · have hpos : 0 < judged.countP fun p => !verdict l p := by
      simpa [List.countP_pos_iff] using hrejected
    rw [if_pos hrejected, if_neg (Nat.pos_iff_ne_zero.1 hpos)]
  · have hzero : judged.countP (fun p => !verdict l p) = 0 := by
      simpa [List.countP_eq_zero] using hrejected
    rw [if_neg hrejected, if_pos hzero]

/-- Lines are judged one by one, each by what it is and by its number alone. The output has one line
for each verdict unless it is quiet, the summary comes last on the error channel and counts the
verdicts, and the exit code is 1 just if a line is rejected. Any lines can be given to a command in
this way: they are read from the bytes that are written for them. -/
theorem recognize_judges_lines [GrammarFile.Literal.Decoder] (hload : load files path = .ok l)
    (hinput : inputBytes files stdin input = .ok bytes)
    (hlines : Text.Stream.lines bytes = (lines, none)) (quiet debug : Bool) :
    (∀ line number, verdict l (line, number) = true ↔
      ∃ lexemes, l.lexer.tokenize (String.ofList line) number = .ok lexemes ∧
        recognize Matching.kind.accepts l.grammar (lexemes.map Lexeme.toToken) = .ok true) ∧
    (∃ shown, (Command.recognize path input quiet debug).run files stdin =
      { output := if quiet then "" else String.join ((judgedFrom 1 lines).map fun p =>
          (if verdict l p then "[ACCEPT] " else "[REJECT] ") ++ String.ofList p.1 ++ "\n")
        errors := unlines shown ++ "[SUMMARY] accepted=" ++
          toString ((judgedFrom 1 lines).countP (verdict l)) ++ " rejected=" ++
          toString ((judgedFrom 1 lines).countP fun p => !verdict l p) ++ "\n"
        ending := .code (if ∃ p ∈ judgedFrom 1 lines, verdict l p = false then 1 else 0) }) ∧
    ∀ ls : List (List Char), (∀ line ∈ ls, '\n' ∉ line ∧ '\r' ∉ line) →
      Text.Stream.lines (Text.Utf8.encode (ls.flatMap (· ++ ['\n']))) = (ls, none) := by
  refine ⟨fun _ _ => verdict_eq_true_iff, ?_, fun ls => Text.Stream.lines_encode_flatMap⟩
  obtain ⟨shown, hjudge⟩ := exists_recognizeStream_eq hlines quiet debug l
  rw [← recognizeLines_eq hinput] at hjudge
  rw [← unlines_verdictLines]
  simp only [Command.run, withLanguage, hload, hjudge, finishJudging, afterErrors_eq,
    afterOutputs_eq, Report.afterError, Report.silent, code_tallyOf, line_tallyOf]
  refine ⟨(if debug then [loadedLine l] else []) ++ shown, ?_⟩
  cases quiet <;> cases debug <;> simp [unlines, String.append_assoc]

end

/-- A grammar for `a`, and the lines `a`, nothing and `b`, of which the last one has number 3. -/
theorem recognize_judges_lines_blankBetween :
    ∃ bytes, Text.Utf8.encode "a\n\nb\n".toList = bytes ∧ ∀ quiet debug, ∃ shown,
      (Command.recognize "g" none quiet debug).run letterFiles bytes =
        { output := if quiet then "" else "[ACCEPT] a\n[REJECT] b\n"
          errors := unlines shown ++ "[SUMMARY] accepted=1 rejected=1\n"
          ending := .code 1 } := by
  have hlines : Text.Stream.lines [97, 10, 10, 98, 10] = ([['a'], [], ['b']], none) := by
    decide +kernel
  have hjudged : judgedFrom 1 [['a'], [], ['b']] = [(['a'], 1), (['b'], 3)] := by decide +kernel
  have ha : verdict (.ofFile letterFile) (['a'], 1) = true := by decide +kernel
  have hb : verdict (.ofFile letterFile) (['b'], 3) = false := by decide +kernel
  have hrejected : ∃ p ∈ [(['a'], 1), (['b'], 3)], verdict (.ofFile letterFile) p = false :=
    ⟨(['b'], 3), by simp, hb⟩
  have hverdicts : String.join ([(['a'], 1), (['b'], 3)].map fun p =>
      (if verdict (.ofFile letterFile) p then "[ACCEPT] " else "[REJECT] ") ++
        String.ofList p.1 ++ "\n") = "[ACCEPT] a\n[REJECT] b\n" := by
    decide +kernel
  have haccepted : [(['a'], 1), (['b'], 3)].countP (verdict (.ofFile letterFile)) = 1 := by
    simp [ha, hb]
  have hothers :
      [(['a'], 1), (['b'], 3)].countP (fun p => !verdict (.ofFile letterFile) p) = 1 := by
    simp [ha, hb]
  have hsummary : "[SUMMARY] accepted=" ++ (toString 1 ++ (" rejected=" ++ (toString 1 ++ "\n"))) =
      "[SUMMARY] accepted=1 rejected=1\n" := by
    decide +kernel
  refine ⟨[97, 10, 10, 98, 10], by decide +kernel, fun quiet debug => ?_⟩
  obtain ⟨-, ⟨shown, hrun⟩, -⟩ := recognize_judges_lines load_letterFiles
    (rfl : inputBytes letterFiles _ none = _) hlines quiet debug
  refine ⟨shown, ?_⟩
  rw [hrun, hjudged, hverdicts, haccepted, hothers, if_pos hrejected]
  simp only [String.append_assoc, hsummary]

end CommandLine

end Earley
