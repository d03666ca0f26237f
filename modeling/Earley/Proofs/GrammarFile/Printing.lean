/-
Earley.Proofs.GrammarFile.Printing — rules that are printed are read back.

`rulesShown` says which texts print flat rules: the name of each, a colon, its components as they
are shown, with blanks between any two of them, and a semicolon. Elsewhere blanks may stand or not.
`printRules` makes one of these texts.

- `cuts_of_rulesShown`: what is printed splits into the words of the rules.
- `worded_statementOf`: the words of a rule say that rule.
- `read_printed`: whatever rules are printed, they are read back as they were, in their order.
-/
import Earley.Proofs.GrammarFile.Layout
import Earley.Proofs.GrammarFile.Order
import Earley.Proofs.GrammarFile.Quoting

namespace Earley.GrammarFile

open Piece (Formed RunEnds isBlank_of_isNamePart isNamePart isNameStart isPunctuation)
open Text (isBlank quotedChars)

/-! ## Printing -/

/-- The name begins like a name and goes on like one. -/
def IsName (name : String) : Prop :=
  ∃ c cs, name.toList = c :: cs ∧ isNameStart c = true ∧ ∀ d ∈ cs, isNamePart d = true

/-- A symbol that can be written in a file: a terminal that is not empty, or a name. -/
def Writable : Symbol → Prop
  | .terminal pattern => pattern ≠ ""
  | .nonterminal name => IsName name

/-- A rule that can be written in a file. -/
structure WritableRule (r : Rule) : Prop where
  name : IsName r.name
  components : ∀ x ∈ r.components, Writable x

/-- The text shows some components. Behind each of them comes a blank, or the text ends. -/
def componentsShown : List Symbol → List Char → Prop
  | [], cs => Blank cs
  | x :: xs, cs => ∃ gap rest, cs = gap ++ x.toText.toList ++ rest ∧ Blank gap ∧
      (∀ d ∈ rest.head?, isBlank d = true) ∧ componentsShown xs rest

/-- The text shows a rule. -/
def ruleShown (r : Rule) (cs : List Char) : Prop :=
  ∃ gap gap' body, cs = gap ++ r.name.toList ++ gap' ++ ':' :: body ++ [';'] ∧ Blank gap ∧
    Blank gap' ∧ componentsShown r.components body

/-- The text shows rules, one after the other. -/
def rulesShown : List Rule → List Char → Prop
  | [], cs => Blank cs
  | r :: rs, cs => ∃ first rest, cs = first ++ rest ∧ ruleShown r first ∧ rulesShown rs rest

/-- A rule as it is written in a file, with a space between two components. -/
def printRule (r : Rule) : String :=
  r.name ++ ":" ++ " ".intercalate (r.components.map Symbol.toText) ++ ";"

/-- Rules as they are written in a file. -/
def printRules (rules : List Rule) : List Char := rules.flatMap fun r => (printRule r).toList

theorem blank_space : Blank [' '] := List.forall_mem_singleton.2 (by decide)

theorem componentsShown_intercalate (xs : List Symbol) :
    componentsShown xs (" ".intercalate (xs.map Symbol.toText)).toList := by
  rw [String.toList_intercalate, List.map_map]
  -- what stands in front of the first component is the space behind the one before
  suffices hgap : ∀ gap, Blank gap →
      componentsShown xs (gap ++ [' '].intercalate (xs.map (String.toList ∘ Symbol.toText))) from
    hgap [] blank_nil
  induction xs with
  | nil =>
    intro gap hgap
    rwa [List.map_nil, List.intercalate_nil, List.append_nil]
  | cons x xs ih =>
    intro gap hgap
    cases xs with
    | nil => exact ⟨gap, [], by simp, hgap, nofun, blank_nil⟩
    | cons y ys =>
      refine ⟨gap, [' '] ++ _, ?_, hgap, ?_, ih [' '] blank_space⟩
      · simp [List.intercalate_cons_cons]
      · rintro d ⟨⟩
        rfl

/-- A printed text shows the rules. -/
theorem rulesShown_printRules (rules : List Rule) : rulesShown rules (printRules rules) := by
  induction rules with
  | nil => exact blank_nil
  | cons r rules ih =>
    refine ⟨(printRule r).toList, printRules rules, rfl, ?_, ih⟩
    refine ⟨[], [], _, ?_, blank_nil, blank_nil, componentsShown_intercalate _⟩
    simp [printRule]

/-! ## Words -/

/-- The word that shows a symbol. -/
def wordOf : Symbol → Word
  | .terminal pattern => (.string, quotedChars pattern.toList)
  | .nonterminal name => (.name, name.toList)

/-- The words that show a rule. -/
def wordsOf (r : Rule) : List Word :=
  (.name, r.name.toList) :: (.punctuation, [':']) :: r.components.map wordOf ++ [semicolon]

section

variable {c : Char} {cs gap rest tail : List Char} {kind : PieceKind} {ws : List Word}
  {xs : List Symbol}

/-- A piece in front of a text is cut off, unless blanks or a comment can begin with its first
character. -/
theorem Cuts.piece (h : Cuts rest ws) (hpart : Formed kind (c :: cs) rest)
    (hblank : isBlank c = false) (hslash : c ≠ '/') :
    Cuts (c :: cs ++ rest) ((kind, c :: cs) :: ws) := by
  have hskip : Piece.skip? c (cs ++ rest) = none := Piece.skip?_eq_none hblank hslash
  exact h.cons hpart (Piece.skip?_eq_none_iff.1 hskip)

theorem Cuts.mark (h : Cuts rest ws) (hc : isPunctuation c = true) (hblank : isBlank c = false)
    (hslash : c ≠ '/') : Cuts (c :: rest) ((.punctuation, [c]) :: ws) :=
  h.piece (.punctuation hc) hblank hslash

theorem isNamePart_of_isNameStart (hc : isNameStart c = true) : isNamePart c = true := by
  rcases Bool.or_eq_true_iff.1 hc with halpha | hmark
  · exact Bool.or_eq_true_iff.2 (.inl (Bool.or_eq_true_iff.2 (.inl halpha)))
  · exact Bool.or_eq_true_iff.2 (.inr hmark)

theorem Cuts.name {name : String} (h : Cuts rest ws) (hname : IsName name)
    (hend : RunEnds isNamePart rest) : Cuts (name.toList ++ rest) ((.name, name.toList) :: ws) := by
  obtain ⟨c, cs, heq, hc, hcs⟩ := hname
  obtain ⟨hblank, hslash⟩ := isBlank_of_isNamePart (isNamePart_of_isNameStart hc)
  rw [heq]
  exact h.piece (.name hc hcs hend) hblank hslash

theorem Cuts.quoted (h : Cuts rest ws) (text : List Char) :
    Cuts (quotedChars text ++ rest) ((.string, quotedChars text) :: ws) := by
  have hquote : isBlank (Text.quoteFor text) = false ∧ Text.quoteFor text ≠ '/' := by
    rcases Literal.isQuote_quoteFor text with heq | heq <;> rw [heq] <;> decide
  exact h.piece (Piece.formed_quotedChars text rest) hquote.1 hquote.2

theorem runEnds_of_blank (h : ∀ d ∈ rest.head?, isBlank d = true) (hc : isNamePart c = false) :
    RunEnds isNamePart (rest ++ c :: tail) := by
  cases rest with
  | nil =>
    rintro d ⟨⟩
    exact hc
  | cons e rest =>
    rintro d ⟨⟩
    refine Bool.eq_false_iff.2 fun hname => ?_
    cases (isBlank_of_isNamePart hname).1.symm.trans (h e rfl)

theorem cuts_of_componentsShown (h : Cuts tail ws) (hxs : ∀ x ∈ xs, Writable x)
    (hcs : componentsShown xs cs) :
    Cuts (cs ++ ';' :: tail) (xs.map wordOf ++ semicolon :: ws) := by
  induction xs generalizing cs with
  | nil => exact (h.mark (by decide) (by decide) (by decide)).blanks hcs
  | cons x xs ih =>
    obtain ⟨gap, rest, rfl, hgap, hseparate, hrest⟩ := hcs
    obtain ⟨hx, hxs⟩ := List.forall_mem_cons.1 hxs
    have htail := ih hxs hrest
    rw [List.append_assoc, List.append_assoc]
    refine Cuts.blanks ?_ hgap
    cases x with
    | terminal pattern =>
      rw [Symbol.toText, Text.quoted, String.toList_ofList]
      exact htail.quoted pattern.toList
    | nonterminal name => exact htail.name hx (runEnds_of_blank hseparate (by decide))

theorem cuts_of_ruleShown {r : Rule} (h : Cuts tail ws) (hr : WritableRule r)
    (hcs : ruleShown r cs) : Cuts (cs ++ tail) (wordsOf r ++ ws) := by
  obtain ⟨gap, gap', body, rfl, hgap, hgap', hbody⟩ := hcs
  have hcolon : Cuts (':' :: body ++ ';' :: tail)
      ((.punctuation, [':']) :: r.components.map wordOf ++ semicolon :: ws) :=
    (cuts_of_componentsShown h hr.components hbody).mark (by decide) (by decide) (by decide)
  have hend : RunEnds isNamePart (gap' ++ ':' :: (body ++ ';' :: tail)) :=
    runEnds_of_blank (fun d hd => hgap' d (List.mem_of_head? hd)) (by decide)
  have hname := ((hcolon.blanks hgap').name hr.name hend).blanks hgap
  simpa [wordsOf] using hname

/-- What is printed splits into the words of the rules. -/
theorem cuts_of_rulesShown {rules : List Rule} (hrules : ∀ r ∈ rules, WritableRule r)
    (hcs : rulesShown rules cs) : Cuts cs (rules.flatMap wordsOf) := by
  induction rules generalizing cs with
  | nil =>
    have hblank := cuts_nil.blanks hcs
    rwa [List.append_nil] at hblank
  | cons r rules ih =>
    obtain ⟨first, rest, rfl, hfirst, hrest⟩ := hcs
    obtain ⟨hr, hrules⟩ := List.forall_mem_cons.1 hrules
    exact cuts_of_ruleShown (ih hrules hrest) hr hfirst

end

/-! ## Statements -/

/-- The term that a symbol is written as. -/
def termOf : Symbol → Term
  | .terminal pattern => .literal pattern
  | .nonterminal name => .name name

/-- The statement that a rule is written as, at the beginning of a file. -/
def statementOf (r : Rule) : Statement := .rule r.name 0 [r.components.map termOf]

/-- A piece with a word. -/
def pieceOf (w : Word) : Piece := ⟨w.1, w.2, 0⟩

section

variable {r : Rule} {rules : List Rule} {xs : List Symbol} {ss : List Statement}

@[simp] theorem word_pieceOf (w : Word) : (pieceOf w).word = w := rfl

theorem sequenceSpelled_termOf [Literal.Names] (hxs : ∀ x ∈ xs, Writable x) :
    sequenceSpelled (xs.map termOf) (xs.map fun x => pieceOf (wordOf x)) := by
  induction xs with
  | nil => rfl
  | cons x xs ih =>
    obtain ⟨hx, hxs⟩ := List.forall_mem_cons.1 hxs
    refine ⟨[pieceOf (wordOf x)], _, rfl, ?_, ih hxs⟩
    cases x with
    | terminal pattern => exact ⟨_, rfl, rfl, Piece.literal_quotedChars hx rfl⟩
    | nonterminal name => exact ⟨_, rfl, rfl, String.ofList_toList⟩

/-- The words of a rule say that rule. -/
theorem worded_statementOf [Regex.Engine] [Literal.Names] (hr : WritableRule r) :
    (statementOf r).Worded (wordsOf r) := by
  have hbody : branchesSpelled [r.components.map termOf]
      (r.components.map fun x => pieceOf (wordOf x)) :=
    .inl ⟨rfl, sequenceSpelled_termOf hr.components⟩
  refine ⟨statementOf r, (wordsOf r).map pieceOf, ?_, ?_, rfl⟩
  · exact ⟨pieceOf (.name, r.name.toList), pieceOf (.punctuation, [':']),
      r.components.map fun x => pieceOf (wordOf x), pieceOf semicolon, by simp [wordsOf], rfl,
      String.ofList_toList, rfl, rfl, hbody, rfl⟩
  · simp [Function.comp_def]

/-! ## Lowering -/

theorem lowerSequence_termOf (h : Nat) : lowerSequence [] h (xs.map termOf) = ⟨xs, h, []⟩ := by
  induction xs with
  | nil => rfl
  | cons x xs ih =>
    have hx : lowerTerm [] h (termOf x) = ⟨x, h, []⟩ := by cases x <;> rfl
    rw [List.map_cons, lowerSequence, hx, ih]
    rfl

theorem lowerRules_termOf (h : Nat) :
    lowerRules [] h (rules.map fun r => (r.name, [r.components.map termOf])) = rules := by
  induction rules generalizing h with
  | nil => rfl
  | cons r rules ih =>
    simp [lowerRules, lowerBranches, lowerSequence_termOf, ih]

/-! ## Files -/

/-- What is collected from the statements of printed rules. -/
theorem filterMap_eq_of_statementOf {α : Type} {f : Statement → Option α}
    (hplace : ∀ s, f s.unplaced = f s) (hss : ss.map Statement.unplaced = rules.map statementOf) :
    ss.filterMap f = rules.filterMap (f ∘ statementOf) := by
  rw [← filterMap_unplaced hplace, hss, List.filterMap_map]

theorem filterMap_eq_nil_of_statementOf {α : Type} {f : Statement → Option α}
    (hplace : ∀ s, f s.unplaced = f s) (hnone : ∀ r, f (statementOf r) = none)
    (hss : ss.map Statement.unplaced = rules.map statementOf) : ss.filterMap f = [] := by
  rw [filterMap_eq_of_statementOf hplace hss]
  exact List.filterMap_eq_nil_iff.2 fun r _ => hnone r

/-- The statements of printed rules make a file of just these rules. -/
theorem exists_ofStatements_of_statementOf
    (hss : ss.map Statement.unplaced = rules.map statementOf) :
    ∃ file, ofStatements ss = .ok file ∧ file.rules = rules ∧
      file.start = rules.head?.map (·.name) ∧ file.tokens = [] ∧ file.ignores = [] := by
  have htokens : tokensOf ss = [] :=
    filterMap_eq_nil_of_statementOf (by rintro (_ | _) <;> rfl) (fun _ => rfl) hss
  have hignores : ignoresOf ss = [] :=
    filterMap_eq_nil_of_statementOf (by rintro (_ | _) <;> rfl) (fun _ => rfl) hss
  have hbodies : bodiesOf ss = rules.map fun r => (r.name, [r.components.map termOf]) := by
    rw [bodiesOf, filterMap_eq_of_statementOf (by rintro (_ | _) <;> rfl) hss,
      ← List.filterMap_eq_map]
    rfl
  have hstarts : (startsOf ss).map (·.1) = [] := by
    rw [startsOf, List.map_filterMap]
    exact filterMap_eq_nil_of_statementOf (by rintro (_ | _) <;> rfl) (fun _ => rfl) hss
  have hheads : (headsOf ss).map (·.1) = rules.map (·.name) := by
    rw [← map_fst_bodiesOf, hbodies, List.map_map]
    rfl
  obtain ⟨file, hfile⟩ : ∃ file, ofStatements ss = .ok file := by
    rw [exists_ofStatements_iff, ← map_name_tokensOf, htokens, hstarts]
    simp
  obtain ⟨start, hstart, rfl⟩ := exists_startOf_of_ofStatements hfile
  refine ⟨_, hfile, ?_, ?_, htokens, hignores⟩
  · simp only [htokens, hbodies, List.map_nil, lowerRules_termOf]
  · simp only [eq_of_startOf hstart, hstarts, hheads, List.getLast?_nil, Option.none_or,
      List.head?_map]

/-- Rules that can be written in a file are printed as texts that show them, and every text that
shows them is read as a file of just these rules, in their order, with the name of the first one as
its start symbol. -/
theorem read_printed [Regex.Engine] [Literal.Names] (hrules : ∀ r ∈ rules, WritableRule r) :
    rulesShown rules (printRules rules) ∧ ∀ src, rulesShown rules src →
      ∃ file, read src = .ok file ∧ file.rules = rules ∧
        file.start = rules.head?.map (·.name) ∧ file.tokens = [] ∧ file.ignores = [] := by
  refine ⟨rulesShown_printRules rules, fun src hsrc => ?_⟩
  obtain ⟨pieces, hsplits, hwords⟩ := cuts_of_rulesShown hrules hsrc 0
  -- words say the same statement wherever they stand, so one at the beginning of a file will do
  have hworded : List.Forall₂ Statement.Worded (rules.map statementOf) (rules.map wordsOf) := by
    rw [List.forall₂_map_left_iff, List.forall₂_map_right_iff, List.forall₂_same]
    exact fun r hr => worded_statementOf (hrules r hr)
  obtain ⟨ss, hspelled, hss⟩ :=
    exists_statementsSpelled_of_worded hworded (hwords.trans List.flatMap_def)
  obtain ⟨file, hfile, hcontents⟩ := exists_ofStatements_of_statementOf hss
  have hdistinct : ([] ++ ss.filterMap Statement.declared?).Nodup := by
    rw [filterMap_eq_nil_of_statementOf (by rintro (_ | _) <;> rfl) (fun _ => rfl) hss]
    exact List.nodup_nil
  have hall := readAll_of_statementsSpelled hspelled hdistinct 0 src.length
  exact ⟨file, by simp only [GrammarFile.read, scan_eq_ok_iff_splits.2 hsplits, hall, hfile],
    hcontents⟩

end

/-- Rules with both quotes, a backslash, a line feed and a null character in their terminals. -/
def awkwardRules : List Rule :=
  [⟨"S", [.terminal "'\"\\\n", .nonterminal "_x1"]⟩, ⟨"S", []⟩, ⟨"_x1", [.terminal "'\x00é"]⟩]

theorem read_printed_awkwardRules : (∀ r ∈ awkwardRules, WritableRule r) ∧
    printRules awkwardRules =
      "S:'\\'\"\\\\\\n' _x1;S:;_x1:\"'\\x00é\";".toList ∧
    ∃ file, read (printRules awkwardRules) = .ok file ∧ file.rules = awkwardRules ∧
      file.start = some "S" ∧ file.tokens = [] ∧ file.ignores = [] := by
  have hfirst : IsName "S" := ⟨'S', [], by decide, rfl, List.forall_mem_nil _⟩
  have hsecond : IsName "_x1" := ⟨'_', ['x', '1'], by decide, rfl, by simp [isNamePart]⟩
  have hmarks : "'\"\\\n" ≠ "" := by decide
  have hnull : "'\x00é" ≠ "" := by decide
  have hrules : ∀ r ∈ awkwardRules, WritableRule r := by
    rintro r hr
    simp only [awkwardRules, List.mem_cons, List.not_mem_nil, or_false] at hr
    rcases hr with rfl | rfl | rfl
    · exact ⟨hfirst, List.forall_mem_cons.2 ⟨hmarks, List.forall_mem_singleton.2 hsecond⟩⟩
    · exact ⟨hfirst, List.forall_mem_nil _⟩
    · exact ⟨hsecond, List.forall_mem_singleton.2 hnull⟩
  obtain ⟨hshown, hread⟩ := read_printed hrules
  exact ⟨hrules, by decide +kernel, hread _ hshown⟩

end Earley.GrammarFile
