/-
Earley.Proofs.CommandLine.Endings — how commands end.

As long as what a command reads is text, it ends with an exit code, whatever the text is and also
where a file is missing. Bytes that are no text are told apart from that: they break the command
down, and so do a path and a literal with a null character.

- `Command.Garbled`, `Command.Unusable`, `Command.Rejects`: what a command can come upon.
- `exists_run_eq`: what loading adds to the work of a command is shown on the error channel.
- `run_ending`: the ending of a run tells which of these it is.
-/
import Earley.Proofs.CommandLine.Judging

namespace Earley.CommandLine

open Text.Utf8 (IsText)

variable {files : Files} {stdin bytes : List UInt8} {path : String} {src : List Char}
  {l : Language}

/-! ## What a command can come upon -/

/-- The text that a command cuts into lexemes. -/
def sourceText (files : Files) : Source → Except LoadFault String
  | .text s => .ok s
  | .file path => (readText files path).map String.ofList

namespace Command

/-- The path of the grammar file. -/
def grammarPath : Command → String
  | .check path _ | .lex path _ | .recognize path _ _ _ => path

/-- The path of the file that a command reads besides. -/
def inputPath? : Command → Option String
  | .lex _ (.file path) | .recognize _ (some path) _ _ => some path
  | _ => none

/-- What the command reads is no text, or its grammar has a literal that is none. The input is not
read before the grammar has been loaded. Outside the model are the limits of an interpreter, such as
the depth to which calls may nest, and the error handler that a locale chooses for the standard
input: here nothing is nested too deeply, and a byte that spoils the standard input always counts.
-/
inductive Garbled [Regex.Engine] [GrammarFile.Literal.Decoder] (files : Files)
    (stdin : List UInt8) (command : Command) : Prop where
  | grammar (h : NoText files (normalizePath command.grammarPath))
  | literal {src : List Char} (hsrc : readText files (normalizePath command.grammarPath) = .ok src)
      (h : GrammarFile.read src = .error (.literal .nullCharacter))
  | input {l : Language} {path : String} (hload : load files command.grammarPath = .ok l)
      (hpath : command.inputPath? = some path) (h : NoText files path)
  | standardInput {l : Language} (hload : load files command.grammarPath = .ok l)
      (hreads : command.readsInput = true) (h : ¬ IsText stdin)

/-- A file is missing, the grammar is refused, or a text cannot be cut into lexemes. -/
inductive Unusable [Regex.Engine] [GrammarFile.Literal.Decoder] (files : Files)
    (command : Command) : Prop where
  | grammarFile (h : NoFile files (normalizePath command.grammarPath))
  | grammar {src : List Char} {e : GrammarFile.Error}
      (hsrc : readText files (normalizePath command.grammarPath) = .ok src)
      (h : GrammarFile.read src = .error e) (he : e ≠ .literal .nullCharacter)
  | inputFile {l : Language} {path : String} (hload : load files command.grammarPath = .ok l)
      (hpath : command.inputPath? = some path) (h : NoFile files path)
  | lexemes {l : Language} {path text : String} {source : Source} {f : Lexer.Fault}
      (hlex : command = .lex path source) (hload : load files command.grammarPath = .ok l)
      (htext : sourceText files source = .ok text) (h : l.lexer.tokenize text 1 = .error f)

/-- Some line of the input is rejected. -/
inductive Rejects [Regex.Engine] [GrammarFile.Literal.Decoder] (files : Files)
    (stdin : List UInt8) (command : Command) : Prop where
  | line {l : Language} {path : String} {input : Option String} {quiet debug : Bool}
      {bytes : List UInt8} {p : List Char × Nat}
      (hrecognize : command = .recognize path input quiet debug)
      (hload : load files command.grammarPath = .ok l)
      (hinput : inputBytes files stdin input = .ok bytes) (htext : IsText bytes)
      (hp : p ∈ judgedFrom 1 (Text.Stream.lines bytes).1) (h : verdict l p = false)

/-- What is done once the grammar has been loaded. -/
def work [Regex.Engine] (files : Files) (stdin : List UInt8) (l : Language) : Command → Report
  | .check _ debug => summarize debug l
  | .lex _ source => listSource files source l
  | .recognize _ input quiet debug => recognizeLines files stdin input quiet debug l

end Command

/-! ## Endings -/

section

variable {command : Command}

theorem ending_summarize (debug : Bool) (l : Language) :
    (summarize debug l).ending = .code 0 := by
  rw [summarize, afterErrors_eq]
  rfl

theorem listSource_eq {source : Source} {text : String} (h : sourceText files source = .ok text) :
    listSource files source l = listLexemes l text := by
  cases source with
  | text s =>
    cases h
    rfl
  | file path =>
    obtain ⟨cs, hcs, rfl⟩ : ∃ cs, readText files path = .ok cs ∧ String.ofList cs = text := by
      cases hread : readText files path with
      | ok cs => exact ⟨cs, rfl, by simpa [sourceText, hread, Except.map] using h⟩
      | error f => simp [sourceText, hread, Except.map] at h
    simp only [listSource, hcs]

theorem ending_listSource {source : Source} {text : String}
    (h : sourceText files source = .ok text) :
    (listSource files source l).ending =
      match l.lexer.tokenize text 1 with
      | .ok _ => .code 0
      | .error _ => .code 2 := by
  rw [listSource_eq h, listLexemes]
  split <;> simp_all [afterOutputs_eq, Report.afterError, Report.silent]

variable [Regex.Engine]

theorem ending_recognizeStream (quiet debug : Bool) (bytes : List UInt8) (l : Language) :
    (recognizeStream quiet debug bytes l).ending =
      match (Text.Stream.lines bytes).2 with
      | none => .code
          (if ∃ p ∈ judgedFrom 1 (Text.Stream.lines bytes).1, verdict l p = false then 1 else 0)
      | some f => .breakdown (.undecodable f) := by
  rcases hlines : Text.Stream.lines bytes with ⟨lines, fault⟩
  obtain ⟨shown, hjudge⟩ := exists_recognizeStream_eq hlines quiet debug l
  rw [hjudge]
  simp only [afterErrors_eq, afterOutputs_eq, finishJudging]
  cases fault with
  | none => simp only [Report.afterError, Report.silent, code_tallyOf]
  | some f => rfl

theorem ending_recognizeStream_of_isText (quiet debug : Bool) (l : Language) (h : IsText bytes) :
    (recognizeStream quiet debug bytes l).ending = .code
      (if ∃ p ∈ judgedFrom 1 (Text.Stream.lines bytes).1, verdict l p = false then 1 else 0) := by
  rw [ending_recognizeStream, Text.Stream.lines_fault_eq_none_iff.2 h]

theorem ending_recognizeStream_of_not_isText (quiet debug : Bool) (l : Language)
    (h : ¬ IsText bytes) :
    ∃ b, (recognizeStream quiet debug bytes l).ending = .breakdown b := by
  rw [ending_recognizeStream]
  cases hfault : (Text.Stream.lines bytes).2 with
  | none => exact absurd (Text.Stream.lines_fault_eq_none_iff.1 hfault) h
  | some f => exact ⟨_, rfl⟩

variable [GrammarFile.Literal.Decoder]

theorem run_of_load_error {f : LoadFault} (h : load files command.grammarPath = .error f) :
    command.run files stdin = f.report := by
  cases command <;>
    · simp only [Command.grammarPath] at h
      simp only [Command.run, withLanguage, h]

theorem ending_run_of_load_error {f : LoadFault} (h : load files command.grammarPath = .error f) :
    (command.run files stdin).ending = f.report.ending := by
  rw [run_of_load_error h]

/-- What loading adds to the work of a command is shown on the error channel. -/
theorem exists_run_eq (h : load files command.grammarPath = .ok l) :
    ∃ shown, command.run files stdin = (command.work files stdin l).afterErrors shown := by
  have hshown (debug : Bool) (r : Report) :
      ∃ shown, (if debug then r.afterError (loadedLine l) else r) = r.afterErrors shown := by
    cases debug
    · exact ⟨[], rfl⟩
    · exact ⟨[loadedLine l], rfl⟩
  cases command <;>
    · simp only [Command.grammarPath] at h
      simp only [Command.run, withLanguage, h, Command.work]
      exact hshown _ _

theorem ending_run_of_load (h : load files command.grammarPath = .ok l) :
    (command.run files stdin).ending = (command.work files stdin l).ending := by
  obtain ⟨shown, hrun⟩ := exists_run_eq h
  rw [hrun, afterErrors_eq]

theorem breakdown_of_garbled (h : command.Garbled files stdin) :
    ∃ b, (command.run files stdin).ending = .breakdown b := by
  cases h with
  | grammar htext =>
    obtain ⟨b, hload⟩ := load_of_noText htext
    exact ⟨b, ending_run_of_load_error hload⟩
  | literal hsrc hread =>
    exact ⟨_, ending_run_of_load_error (load_of_nullCharacter hsrc hread)⟩
  | @input l path hload hpath htext =>
    rw [ending_run_of_load hload]
    cases command with
    | check _ _ => cases hpath
    | lex _ source =>
      cases source with
      | text s => cases hpath
      | file input =>
        cases hpath
        obtain ⟨b, hread⟩ := readText_of_noText htext
        exact ⟨b, by simp only [Command.work, listSource, hread]; rfl⟩
    | recognize _ input quiet debug =>
      cases input with
      | none => cases hpath
      | some input =>
        cases hpath
        by_cases hnull : '\x00' ∈ path.toList
        · exact ⟨_, by simp only [Command.work, recognizeLines, readFile_of_null hnull]; rfl⟩
        · obtain ⟨bytes, hfile, hbytes⟩ := htext.resolve_left hnull
          simp only [Command.work, recognizeLines, readFile_of_ok hnull hfile]
          exact ending_recognizeStream_of_not_isText quiet debug l hbytes
  | @standardInput l hload hreads htext =>
    rw [ending_run_of_load hload]
    cases command with
    | check _ _ | lex _ _ => cases hreads
    | recognize _ input quiet debug =>
      cases input with
      | some path => cases hreads
      | none => exact ending_recognizeStream_of_not_isText quiet debug l htext

theorem code_two_of_unusable (h : command.Unusable files) :
    (command.run files stdin).ending = .code 2 := by
  cases h with
  | grammarFile hfile =>
    obtain ⟨f, hload, hending⟩ := load_of_noFile hfile
    exact (ending_run_of_load_error hload).trans hending
  | grammar hsrc hread he => exact ending_run_of_load_error (load_of_refused hsrc hread he)
  | @inputFile l path hload hpath hfile =>
    rw [ending_run_of_load hload]
    cases command with
    | check _ _ => cases hpath
    | lex _ source =>
      cases source with
      | text s => cases hpath
      | file input =>
        cases hpath
        obtain ⟨problem, hread⟩ := readText_of_noFile hfile
        simp only [Command.work, listSource, hread]
        rfl
    | recognize _ input quiet debug =>
      cases input with
      | none => cases hpath
      | some input =>
        cases hpath
        obtain ⟨problem, hread⟩ := readFile_of_noFile hfile
        simp only [Command.work, recognizeLines, hread]
        rfl
  | lexemes hlex hload htext hfault =>
    rw [ending_run_of_load hload, hlex, Command.work, ending_listSource htext, hfault]

theorem code_one_of_rejects (h : command.Rejects files stdin) :
    (command.run files stdin).ending = .code 1 := by
  obtain ⟨hrecognize, hload, hinput, htext, hp, hverdict⟩ := h
  rw [ending_run_of_load hload, hrecognize, Command.work, recognizeLines_eq hinput,
    ending_recognizeStream_of_isText _ _ _ htext, if_pos ⟨_, hp, hverdict⟩]

/-- If a command comes upon none of these, it ends with code 0. -/
theorem code_zero (hgarbled : ¬ command.Garbled files stdin) (hunusable : ¬ command.Unusable files)
    (hrejects : ¬ command.Rejects files stdin) : (command.run files stdin).ending = .code 0 := by
  obtain ⟨src, hsrc⟩ := exists_readText (fun h => hunusable (.grammarFile h))
    (fun h => hgarbled (.grammar h))
  obtain ⟨file, hread⟩ : ∃ file, GrammarFile.read src = .ok file := by
    cases hread : GrammarFile.read src with
    | ok file => exact ⟨file, rfl⟩
    | error e =>
      by_cases he : e = .literal .nullCharacter
      · exact absurd (.literal hsrc (he ▸ hread)) hgarbled
      · exact absurd (.grammar hsrc hread he) hunusable
  have hload := load_of_read hsrc hread
  rw [ending_run_of_load hload]
  cases command with
  | check _ debug => exact ending_summarize debug _
  | lex path source =>
    obtain ⟨text, htext⟩ : ∃ text, sourceText files source = .ok text := by
      cases source with
      | text s => exact ⟨s, rfl⟩
      | file input =>
        obtain ⟨cs, hcs⟩ := exists_readText (fun h => hunusable (.inputFile hload rfl h))
          (fun h => hgarbled (.input hload rfl h))
        exact ⟨.ofList cs, by rw [sourceText, hcs]; rfl⟩
    rw [Command.work, ending_listSource htext]
    split
    next => rfl
    next hfault => exact absurd (.lexemes rfl hload htext hfault) hunusable
  | recognize path input quiet debug =>
    obtain ⟨bytes, hinput, htext⟩ :
        ∃ bytes, inputBytes files stdin input = .ok bytes ∧ IsText bytes := by
      cases input with
      | none => exact ⟨stdin, rfl, by_contra fun h => hgarbled (.standardInput hload rfl h)⟩
      | some input =>
        exact exists_isText (fun h => hunusable (.inputFile hload rfl h))
          (fun h => hgarbled (.input hload rfl h))
    rw [Command.work, recognizeLines_eq hinput, ending_recognizeStream_of_isText _ _ _ htext,
      if_neg]
    rintro ⟨p, hp, hverdict⟩
    exact hrejects (.line rfl hload hinput htext hp hverdict)

end

/-- A command line that is well formed breaks down just if what it reads is no text, or a literal of
its grammar has a null character. Otherwise it ends with an exit code: 2 if a file is missing, if
the grammar is refused or if a text cannot be cut into lexemes, 1 if a line is rejected, and else
0. -/
theorem run_ending [Regex.Engine] [GrammarFile.Literal.Decoder] {arguments : List String}
    {command : Command} (files : Files) (stdin : List UInt8)
    (h : Command.ofArguments arguments = .ok command) :
    ((∃ b, (run files stdin arguments).ending = .breakdown b) ↔ command.Garbled files stdin) ∧
      ((run files stdin arguments).ending = .code 2 ↔ command.Unusable files) ∧
      ((run files stdin arguments).ending = .code 1 ↔ command.Rejects files stdin) ∧
      ((run files stdin arguments).ending = .code 0 ↔ ¬ command.Garbled files stdin ∧
        ¬ command.Unusable files ∧ ¬ command.Rejects files stdin) := by
  have hrun : run files stdin arguments = command.run files stdin := by rw [run, h]
  rw [hrun]
  by_cases hgarbled : command.Garbled files stdin
  · obtain ⟨b, hb⟩ := breakdown_of_garbled hgarbled
    have hunusable : ¬ command.Unusable files := fun h => by
      cases hb.symm.trans (code_two_of_unusable h)
    have hrejects : ¬ command.Rejects files stdin := fun h => by
      cases hb.symm.trans (code_one_of_rejects h)
    simp [hb, hgarbled, hunusable, hrejects]
  by_cases hunusable : command.Unusable files
  · have htwo : (command.run files stdin).ending = .code 2 := code_two_of_unusable hunusable
    have hrejects : ¬ command.Rejects files stdin := fun h => by
      cases htwo.symm.trans (code_one_of_rejects h)
    simp [htwo, hgarbled, hunusable, hrejects]
  by_cases hrejects : command.Rejects files stdin
  · simp [code_one_of_rejects hrejects, hgarbled, hunusable, hrejects]
  · simp [code_zero hgarbled hunusable hrejects, hgarbled, hunusable, hrejects]

/-- A grammar file that is missing, and one with a byte that begins no character. -/
theorem run_ending_missingOrGarbled :
    Command.ofArguments ["check", "g"] = .ok (.check "g" false) ∧
      (run (.ofList []) [] ["check", "g"]).ending = .code 2 ∧
      ∃ b, (run (.ofList [("g", .ok [0xFF])]) [] ["check", "g"]).ending = .breakdown b := by
  have hcommand : Command.ofArguments ["check", "g"] = .ok (.check "g" false) := by decide +kernel
  have hmissing : NoFile (.ofList []) (normalizePath "g") := by
    rw [normalizePath_g]
    exact ⟨by decide, .notFound, rfl⟩
  have hgarbled : NoText (.ofList [("g", .ok [0xFF])]) (normalizePath "g") := by
    rw [normalizePath_g]
    refine .inr ⟨[0xFF], by decide +kernel, fun htext => ?_⟩
    rw [← Text.Utf8.decode_fault_eq_none_iff] at htext
    exact absurd htext (by decide +kernel)
  exact ⟨hcommand, (run_ending _ _ hcommand).2.1.2 (.grammarFile hmissing),
    (run_ending _ _ hcommand).1.2 (.grammar hgarbled)⟩

/-- A grammar file with a byte that begins no character has no exit code. -/
theorem check_undecodable :
    Command.ofArguments ["check", "g"] = .ok (.check "g" false) ∧
      (run (.ofList [("g", .ok [0xFF])]) [] ["check", "g"]).ending =
        .breakdown (.undecodable ⟨.startByte, 0, [0xFF]⟩) ∧
      ∀ n, (run (.ofList [("g", .ok [0xFF])]) [] ["check", "g"]).ending ≠ .code n := by
  have hcommand : Command.ofArguments ["check", "g"] = .ok (.check "g" false) := by decide +kernel
  have hread : readText (.ofList [("g", .ok [0xFF])]) "g" =
      .error (.breakdown (.undecodable ⟨.startByte, 0, [0xFF]⟩)) := by decide +kernel
  have hending : (run (.ofList [("g", .ok [0xFF])]) [] ["check", "g"]).ending =
      .breakdown (.undecodable ⟨.startByte, 0, [0xFF]⟩) := by
    have hload : load (.ofList [("g", .ok [0xFF])]) (Command.check "g" false).grammarPath =
        .error (.breakdown (.undecodable ⟨.startByte, 0, [0xFF]⟩)) := by
      rw [Command.grammarPath, load, normalizePath_g, hread]
      rfl
    rw [run, hcommand]
    exact ending_run_of_load_error hload
  exact ⟨hcommand, hending, fun n hn => by cases hending.symm.trans hn⟩

end Earley.CommandLine
