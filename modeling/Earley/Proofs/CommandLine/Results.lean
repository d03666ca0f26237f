/-
Earley.Proofs.CommandLine.Results — a command that fails prints no results.

A command has results if it comes as far as to have them all (`Command.Results`): the grammar is
loaded, the input is found, and a text to list is cut into lexemes up to its end. Then it prints
them. Otherwise it prints nothing on the output channel, and it ends with code 2 or in a breakdown.

- `fails_listLexemes`: nothing is listed of a text with a fault, wherever that is.
- `prints_or_fails`: a command prints its results, or it has none and fails.
- `run_prints_results`: the same for command lines.
-/
import Earley.Proofs.CommandLine.Endings
import Earley.Proofs.GrammarFile.Declarations
import Earley.Proofs.Lexer.Lossless

namespace Earley.CommandLine

variable {files : Files} {stdin : List UInt8} {path : String} {l : Language}
  {command : Command} {lines : List String}

/-! ## Results -/

/-- The lines that a command prints when it can do its work. A summary counts the rules, the
terminals, the nonterminals and the nullable names of the grammar, and names its start symbol. A
text is listed with a line for each lexeme: its number, which has at least three digits, its kind,
with spaces up to a width of 12, its text between quotes, and its place. Otherwise there is a line
with the verdict for each line of the input, unless the command is quiet. -/
inductive Command.Results [Regex.Engine] [GrammarFile.Literal.Decoder] (files : Files)
    (stdin : List UInt8) : Command → List String → Prop where
  | check {path : String} {debug : Bool} {l : Language} (hload : load files path = .ok l) :
      Results files stdin (.check path debug)
        ["[CHECK OK] rules=" ++ toString l.grammar.rules.length ++
          " terms=" ++ toString l.file.terminals.length ++
          " nonterms=" ++ toString l.file.nonterminals.length ++
          " start=" ++ l.grammar.start?.getD "None" ++
          " nullable=" ++ toString l.grammar.nullable.length]
  | lex {path text : String} {source : Source} {l : Language} {lexemes : List Lexeme}
      (hload : load files path = .ok l) (htext : sourceText files source = .ok text)
      (hlexemes : l.lexer.tokenize text 1 = .ok lexemes) :
      Results files stdin (.lex path source) (lexemes.zipIdx.map fun (x, i) =>
        String.ofList (List.replicate (3 - (toString i).length) '0') ++ toString i ++ ": " ++
          x.kind ++ String.ofList (List.replicate (12 - x.kind.length) ' ') ++ " " ++
          Text.quoted x.text ++ "  @" ++ toString x.line ++ ":" ++ toString x.column)
  | recognize {path : String} {input : Option String} {quiet debug : Bool} {l : Language}
      {bytes : List UInt8} (hload : load files path = .ok l)
      (hinput : inputBytes files stdin input = .ok bytes) :
      Results files stdin (.recognize path input quiet debug)
        (if quiet then []
          else (judgedFrom 1 (Text.Stream.lines bytes).1).map fun p =>
            (if verdict l p then "[ACCEPT] " else "[REJECT] ") ++ String.ofList p.1)

/-- The report shows the lines as results, and not that the command failed. -/
structure Report.Prints (r : Report) (lines : List String) : Prop where
  output_eq : r.output = unlines lines
  ending_ne : r.ending ≠ .code 2

/-- The report shows no results, but that the command failed. -/
structure Report.Fails (r : Report) : Prop where
  output_eq : r.output = ""
  ending_eq : r.ending = .code 2 ∨ ∃ b, r.ending = .breakdown b

theorem fails_report (f : LoadFault) : f.report.Fails := by
  cases f with
  | file problem path => exact ⟨rfl, .inl rfl⟩
  | grammar message => exact ⟨rfl, .inl rfl⟩
  | breakdown b => exact ⟨rfl, .inr ⟨b, rfl⟩⟩

/-! ## Lines -/

theorem nameOrNone_eq (name : Option String) : nameOrNone name = name.getD "None" := by
  cases name <;> rfl

theorem summaryLine_eq (l : Language) : summaryLine l =
    "[CHECK OK] rules=" ++ toString l.grammar.rules.length ++
      " terms=" ++ toString l.file.terminals.length ++
      " nonterms=" ++ toString l.file.nonterminals.length ++
      " start=" ++ l.grammar.start?.getD "None" ++
      " nullable=" ++ toString l.grammar.nullable.length := by
  unfold summaryLine
  rw [nameOrNone_eq]

theorem lexemeLine_eq (i : Nat) (x : Lexeme) : lexemeLine i x =
    String.ofList (List.replicate (3 - (toString i).length) '0') ++ toString i ++ ": " ++
      x.kind ++ String.ofList (List.replicate (12 - x.kind.length) ' ') ++ " " ++
      Text.quoted x.text ++ "  @" ++ toString x.line ++ ":" ++ toString x.column := by
  rw [lexemeLine, Text.padLeft, Text.padRight, ← String.append_assoc]

/-! ## The work of commands -/

theorem prints_afterErrors {r : Report} (h : r.Prints lines) (shown : List String) :
    (r.afterErrors shown).Prints lines := by
  rw [afterErrors_eq]
  exact ⟨h.output_eq, h.ending_ne⟩

theorem fails_afterErrors {r : Report} (h : r.Fails) (shown : List String) :
    (r.afterErrors shown).Fails := by
  rw [afterErrors_eq]
  exact ⟨h.output_eq, h.ending_eq⟩

theorem prints_summarize (debug : Bool) (l : Language) :
    (summarize debug l).Prints [summaryLine l] := by
  refine ⟨?_, by simp [ending_summarize]⟩
  rw [summarize, afterErrors_eq]
  simp [Report.afterOutput, Report.silent, unlines]

theorem prints_listLexemes {text : String} {lexemes : List Lexeme}
    (h : l.lexer.tokenize text 1 = .ok lexemes) :
    (listLexemes l text).Prints (lexemes.zipIdx.map fun (x, i) => lexemeLine i x) := by
  rw [listLexemes, h]
  dsimp only
  rw [afterOutputs_eq]
  exact ⟨String.append_empty, by simp [Report.silent]⟩

/-- Nothing is listed of a text with a fault, however many lexemes come before it. -/
theorem fails_listLexemes {text : String} {f : Lexer.Fault}
    (h : l.lexer.tokenize text 1 = .error f) : (listLexemes l text).Fails := by
  rw [listLexemes, h]
  exact ⟨rfl, .inl rfl⟩

theorem listSource_of_error {source : Source} {f : LoadFault}
    (h : sourceText files source = .error f) : listSource files source l = f.report := by
  cases source with
  | text s => cases h
  | file path =>
    cases hread : readText files path with
    | ok cs => simp [sourceText, hread, Except.map] at h
    | error f' =>
      obtain rfl : f' = f := by simpa [sourceText, hread, Except.map] using h
      simp only [listSource, hread]

section

variable [Regex.Engine]

theorem prints_recognizeStream (quiet debug : Bool) (bytes : List UInt8) (l : Language) :
    (recognizeStream quiet debug bytes l).Prints
      (if quiet then [] else verdictLines l (judgedFrom 1 (Text.Stream.lines bytes).1)) := by
  rcases hlines : Text.Stream.lines bytes with ⟨lines, fault⟩
  obtain ⟨shown, hjudge⟩ := exists_recognizeStream_eq hlines quiet debug l
  rw [hjudge]
  refine prints_afterErrors ?_ shown
  rw [afterOutputs_eq]
  cases fault with
  | none =>
    refine ⟨String.append_empty, fun hcode => ?_⟩
    have hcode : (tallyOf l (judgedFrom 1 lines)).code = 2 := Ending.code.inj hcode
    rw [code_tallyOf] at hcode
    split at hcode <;> cases hcode
  | some f => exact ⟨String.append_empty, nofun⟩

theorem recognizeLines_of_error {input : Option String} {f : LoadFault}
    (h : inputBytes files stdin input = .error f) (quiet debug : Bool) :
    recognizeLines files stdin input quiet debug l = f.report := by
  cases input with
  | none => cases h
  | some path =>
    have h : readFile files path = .error f := h
    simp only [recognizeLines, h]

end

/-! ## Whole runs -/

section

variable [Regex.Engine] [GrammarFile.Literal.Decoder]

/-- A command whose grammar has been loaded prints its results, or it has none and fails. -/
theorem work_prints_or_fails (hload : load files command.grammarPath = .ok l) :
    (∃ lines, command.Results files stdin lines ∧ (command.work files stdin l).Prints lines) ∨
      (∀ lines, ¬ command.Results files stdin lines) ∧ (command.work files stdin l).Fails := by
  cases command with
  | check path debug =>
    refine .inl ⟨_, .check hload, ?_⟩
    rw [← summaryLine_eq]
    exact prints_summarize debug l
  | lex path source =>
    cases htext : sourceText files source with
    | error f =>
      rw [Command.work, listSource_of_error htext]
      refine .inr ⟨?_, fails_report f⟩
      rintro lines (_ | ⟨-, htext', -⟩ | _)
      cases htext.symm.trans htext'
    | ok text =>
      rw [Command.work, listSource_eq htext]
      cases htokenize : l.lexer.tokenize text 1 with
      | ok lexemes =>
        have hprints := prints_listLexemes htokenize
        simp only [lexemeLine_eq] at hprints
        exact .inl ⟨_, .lex hload htext htokenize, hprints⟩
      | error f =>
        refine .inr ⟨?_, fails_listLexemes htokenize⟩
        rintro lines (_ | ⟨hload', htext', htokenize'⟩ | _)
        cases hload.symm.trans hload'
        cases htext.symm.trans htext'
        cases htokenize.symm.trans htokenize'
  | recognize path input quiet debug =>
    cases hinput : inputBytes files stdin input with
    | ok bytes =>
      rw [Command.work, recognizeLines_eq hinput]
      exact .inl ⟨_, .recognize hload hinput, prints_recognizeStream quiet debug bytes l⟩
    | error f =>
      rw [Command.work, recognizeLines_of_error hinput]
      refine .inr ⟨?_, fails_report f⟩
      rintro lines (_ | _ | ⟨-, hinput'⟩)
      cases hinput.symm.trans hinput'

/-- A command that has results has loaded its grammar. -/
theorem Command.Results.exists_load (h : command.Results files stdin lines) :
    ∃ l, load files command.grammarPath = .ok l := by
  cases h with
  | check hload | lex hload | recognize hload => exact ⟨_, hload⟩

/-- A command prints its results, or it has none and fails. -/
theorem prints_or_fails (files : Files) (stdin : List UInt8) (command : Command) :
    (∃ lines, command.Results files stdin lines ∧ (command.run files stdin).Prints lines) ∨
      (∀ lines, ¬ command.Results files stdin lines) ∧ (command.run files stdin).Fails := by
  cases hload : load files command.grammarPath with
  | error f =>
    rw [run_of_load_error hload]
    refine .inr ⟨fun lines hresults => ?_, fails_report f⟩
    obtain ⟨l, hload'⟩ := hresults.exists_load
    cases hload.symm.trans hload'
  | ok l =>
    obtain ⟨shown, hrun⟩ := exists_run_eq hload
    rw [hrun]
    rcases work_prints_or_fails hload with ⟨lines, hresults, hprints⟩ | ⟨hnone, hfails⟩
    · exact .inl ⟨lines, hresults, prints_afterErrors hprints shown⟩
    · exact .inr ⟨hnone, fails_afterErrors hfails shown⟩

/-- Only judging lines can end with code 1. -/
theorem exists_recognize_of_code_one (h : (command.run files stdin).ending = .code 1) :
    ∃ path input quiet debug, command = .recognize path input quiet debug := by
  have hfault (f : LoadFault) : f.report.ending ≠ .code 1 := by
    rcases (fails_report f).ending_eq with heq | ⟨b, heq⟩ <;> simp [heq]
  cases hload : load files command.grammarPath with
  | error f =>
    rw [run_of_load_error hload] at h
    exact absurd h (hfault f)
  | ok l =>
    rw [ending_run_of_load hload] at h
    cases command with
    | check path debug =>
      rw [Command.work, ending_summarize] at h
      cases h
    | lex path source =>
      rw [Command.work] at h
      cases htext : sourceText files source with
      | error f =>
        rw [listSource_of_error htext] at h
        exact absurd h (hfault f)
      | ok text =>
        rw [ending_listSource htext] at h
        split at h <;> cases h
    | recognize path input quiet debug => exact ⟨path, input, quiet, debug, rfl⟩

/-- The lexer of a language that has been loaded takes a text apart as a whole, if it can be cut
into lexemes. -/
theorem exists_lossless_of_load {text : String} {lexemes : List Lexeme}
    (hload : load files path = .ok l) (h : l.lexer.tokenize text 1 = .ok lexemes) :
    ∃ spans, l.lexer.Lossless text.toList.toArray 1 0 spans text.length lexemes none := by
  obtain ⟨src, file, hread, rfl⟩ := exists_read_of_load hload
  have hliterals : ∀ text ∈ (Language.ofFile file).lexer.literals, text ≠ "" := fun text htext =>
    GrammarFile.ne_empty_of_mem_literals hread (Lexer.mem_literals_make.1 htext)
  exact Lexer.exists_lossless_of_tokenize hliterals (Lexer.boundedIn_make _ _ _ _) h

/-- A command line that is well formed prints its results, or it has none and fails with nothing
printed on the output channel; so code 2 comes without results, and code 1 only with verdicts on
lines. What is listed of a text are the lexemes of the whole text. -/
theorem run_prints_results {arguments : List String} {command : Command} (files : Files)
    (stdin : List UInt8) (h : Command.ofArguments arguments = .ok command) :
    ((run files stdin arguments).ending = .code 2 → (run files stdin arguments).output = "") ∧
      ((run files stdin arguments).ending = .code 1 →
        ∃ path input quiet debug, command = .recognize path input quiet debug) ∧
      ((∃ lines, command.Results files stdin lines ∧
          (run files stdin arguments).Prints lines) ∨
        (∀ lines, ¬ command.Results files stdin lines) ∧ (run files stdin arguments).Fails) ∧
      ∀ path l text lexemes, load files path = .ok l → l.lexer.tokenize text 1 = .ok lexemes →
        ∃ spans, l.lexer.Lossless text.toList.toArray 1 0 spans text.length lexemes none := by
  have hrun : run files stdin arguments = command.run files stdin := by rw [run, h]
  rw [hrun]
  have hcases := prints_or_fails files stdin command
  refine ⟨fun htwo => ?_, exists_recognize_of_code_one, hcases,
    fun path l text lexemes => exists_lossless_of_load⟩
  rcases hcases with ⟨lines, -, hprints⟩ | ⟨-, hfails⟩
  · exact absurd htwo hprints.ending_ne
  · exact hfails.output_eq

end

/-- A grammar is summed up, a text is listed, and nothing is listed of one with a fault behind its
first lexeme. -/
theorem run_prints_results_lateFault :
    (run letterFiles [] ["check", "g"]).output =
        "[CHECK OK] rules=1 terms=1 nonterms=1 start=S nullable=0\n" ∧
      (run letterFiles [] ["lex", "g", "--text", "a"]).output =
        "000: a            'a'  @1:1\n" ∧
      ∃ l good f, load letterFiles "g" = .ok l ∧ l.lexer.lexemes "a?" 1 = ([good], some f) ∧
        (run letterFiles [] ["lex", "g", "--text", "a?"]).ending = .code 2 ∧
        (run letterFiles [] ["lex", "g", "--text", "a?"]).output = "" := by
  have hcheck : Command.ofArguments ["check", "g"] = .ok (.check "g" false) := by decide +kernel
  have hgood : Command.ofArguments ["lex", "g", "--text", "a"] =
      .ok (.lex "g" (.text "a")) := by decide +kernel
  have hfaulty : Command.ofArguments ["lex", "g", "--text", "a?"] =
      .ok (.lex "g" (.text "a?")) := by decide +kernel
  have htokenize : (Language.ofFile letterFile).lexer.tokenize "a" 1 =
      .ok [⟨"a", "a", 1, 1⟩] := by decide +kernel
  have hlexemes : (Language.ofFile letterFile).lexer.lexemes "a?" 1 =
      ([⟨"a", "a", 1, 1⟩], some ⟨'?', 1, 2⟩) := by decide +kernel
  have hending : (run letterFiles [] ["lex", "g", "--text", "a?"]).ending = .code 2 := by
    rw [run, hfaulty]
    exact code_two_of_unusable
      (.lexemes rfl load_letterFiles rfl (by rw [Lexer.tokenize, hlexemes]))
  refine ⟨?_, ?_, _, _, _, load_letterFiles, hlexemes, hending,
    (run_prints_results letterFiles [] hfaulty).1 hending⟩
  · rcases (run_prints_results letterFiles [] hcheck).2.2.1 with
      ⟨lines, hlines, hprints⟩ | ⟨hnone, -⟩
    · obtain hload | _ | _ := hlines
      cases load_letterFiles.symm.trans hload
      rw [hprints.output_eq]
      decide +kernel
    · exact absurd (.check load_letterFiles) (hnone _)
  · rcases (run_prints_results letterFiles [] hgood).2.2.1 with
      ⟨lines, hlines, hprints⟩ | ⟨hnone, -⟩
    · obtain _ | ⟨hload, htext, htokenize'⟩ | _ := hlines
      cases load_letterFiles.symm.trans hload
      cases htext
      cases htokenize.symm.trans htokenize'
      rw [hprints.output_eq]
      decide +kernel
    · exact absurd (.lex load_letterFiles rfl htokenize) (hnone _)

end Earley.CommandLine
