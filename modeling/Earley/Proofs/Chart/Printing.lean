/-
Earley.Proofs.Chart.Printing — items that are printed can be told apart.

Behind the name of the rule and an arrow, an item is printed as marks: its components, and a dot
where the cursor stands. A blank follows each mark, another one follows the last, and then comes the
start in parentheses. Each mark shows where it ends: a quoted text ends at its quote, whatever
characters it has, and a name or the dot ends at the first blank.

- `markText_append_inj`: a mark in front of a blank is the only one that is printed like this.
- `eq_of_flatMap_markText`: so are the marks in front of the second blank.
- `Item.eq_of_toText_eq`: an item shows its start, its cursor and its rule.
- `toText_tells_items`: this holds in every grammar with plain names, such as that of any file.
-/
import Earley.Chart.Item
import Earley.Proofs.GrammarFile.Identifiers
import Earley.Proofs.Location

namespace Earley

open GrammarFile (IsName)
open GrammarFile.Literal (IsQuote)
open GrammarFile.Piece (isNamePart)

/-! ## Names -/

/-- A text that ends where a blank follows, and does not begin like a quoted one. -/
structure Bare (cs : List Char) : Prop where
  ne_nil : cs ≠ []
  no_blank : ' ' ∉ cs
  unquoted : ∀ c ∈ cs.head?, ¬ IsQuote c

/-- A name that can be told from whatever else is printed. Identifiers are such names, of whatever
letters they are. -/
structure PlainName (name : String) : Prop where
  bare : Bare name.toList
  ne_dot : name.toList ≠ ['•']

/-- The names in a rule are plain. Its terminals may be any texts. -/
structure Rule.Plain (r : Rule) : Prop where
  name : PlainName r.name
  components : ∀ name, .nonterminal name ∈ r.components → PlainName name

/-- The names in the rules of a grammar are plain. -/
def Grammar.Plain (g : Grammar) : Prop := ∀ r ∈ g.rules, r.Plain

theorem plainName_of_isName {name : String} (h : IsName name) : PlainName name := by
  obtain ⟨c, cs, heq, hc, hcs⟩ := h
  have hpart : ∀ d ∈ name.toList, isNamePart d = true := by
    rw [heq]
    exact List.forall_mem_cons.2 ⟨GrammarFile.isNamePart_of_isNameStart hc, hcs⟩
  refine ⟨⟨heq ▸ List.cons_ne_nil c cs, fun hmem => ?_, fun d hd hquote => ?_⟩, fun hdot => ?_⟩
  · exact absurd (hpart _ hmem) (by decide)
  · have hd' := hpart d (List.mem_of_head? hd)
    rcases hquote with rfl | rfl <;> exact absurd hd' (by decide)
  · rw [hdot] at hpart
    exact absurd (hpart '•' List.mem_cons_self) (by decide)

/-- The names in the rules of a grammar are identifiers. -/
def Grammar.HasIdentifiers (g : Grammar) : Prop :=
  ∀ r ∈ g.rules, IsName r.name ∧ ∀ name, .nonterminal name ∈ r.components → IsName name

theorem Grammar.HasIdentifiers.plain {g : Grammar} (h : g.HasIdentifiers) : g.Plain :=
  fun r hr => ⟨plainName_of_isName (h r hr).1,
    fun name hname => plainName_of_isName ((h r hr).2 name hname)⟩

theorem hasIdentifiers_toGrammar [Regex.Engine] [GrammarFile.Literal.Decoder] {src : List Char}
    {file : GrammarFile} (hread : GrammarFile.read src = .ok file) :
    file.toGrammar.HasIdentifiers := by
  intro r hr
  refine GrammarFile.isName_of_read hread ?_
  rcases List.mem_append.1 hr with hr | hr <;> exact (List.mem_filter.1 hr).1

/-! ## Marks -/

/-- What is printed for a mark: a component, or else the dot. -/
def markText : Option Symbol → List Char
  | none => ['•']
  | some x => x.toText.toList

/-- The components of a rule, with the dot where the cursor of an item stands. -/
def Item.marks (x : Item) (r : Rule) : List (Option Symbol) :=
  (r.components.take x.cursor).map some ++ none :: (r.components.drop x.cursor).map some

/-- The name in a mark, if there is one, is plain. -/
def PlainMark (m : Option Symbol) : Prop := ∀ name, m = some (.nonterminal name) → PlainName name

/-- A blank between any two texts and one behind the last make a blank behind each. -/
theorem intercalate_append_blank {α : Type} (f : α → List Char) {xs : List α} (hne : xs ≠ [])
    (rest : List Char) :
    [' '].intercalate (xs.map f) ++ ' ' :: rest = xs.flatMap (f · ++ [' ']) ++ rest := by
  induction xs with
  | nil => exact absurd rfl hne
  | cons x xs ih =>
    cases xs with
    | nil => simp
    | cons y ys =>
      have htail := ih (List.cons_ne_nil y ys)
      rw [List.map_cons] at htail
      rw [List.map_cons, List.map_cons, List.intercalate_cons_cons, List.flatMap_cons,
        List.append_assoc, List.append_assoc, List.append_assoc, List.append_assoc, htail]

theorem toList_toText (x : Item) (r : Rule) : (x.toText r).toList =
    r.name.toList ++ ' ' :: '-' :: '>' :: ' ' ::
      ((x.marks r).flatMap (markText · ++ [' ']) ++
        ' ' :: '(' :: (x.start.repr.toList ++ [')'])) := by
  have hmarks : x.marks r ≠ [] := List.append_ne_nil_of_right_ne_nil _ (List.cons_ne_nil _ _)
  rw [← intercalate_append_blank markText hmarks]
  simp [Item.toText, Item.marks, String.toList_intercalate, markText, Function.comp_def]

/-! ## Telling marks apart -/

section

variable {cs cs' u v : List Char} {m m' : Option Symbol} {ms ms' : List (Option Symbol)}

theorem bare_dot : Bare ['•'] := by
  refine ⟨List.cons_ne_nil _ _, by decide, ?_⟩
  rintro c ⟨⟩ (h | h) <;> cases h

theorem Bare.append_inj (h : Bare cs) (h' : Bare cs') (heq : cs ++ ' ' :: u = cs' ++ ' ' :: v) :
    cs = cs' ∧ u = v :=
  Text.eq_of_append_cons h.no_blank h'.no_blank heq

theorem Bare.append_ne_quoted (h : Bare cs) (text : List Char) :
    cs ++ u ≠ Text.quotedChars text ++ v := by
  intro heq
  obtain ⟨c, cs, rfl⟩ := List.exists_cons_of_ne_nil h.ne_nil
  obtain ⟨rfl, -⟩ := List.cons_eq_cons.1 heq
  exact h.unquoted _ rfl (GrammarFile.Literal.isQuote_quoteFor text)

theorem markText_terminal (pattern : String) :
    markText (some (.terminal pattern)) = Text.quotedChars pattern.toList :=
  String.toList_ofList

/-- A mark in front of a blank is the only one that is printed like this. -/
theorem markText_append_inj (hm : PlainMark m) (hm' : PlainMark m')
    (h : markText m ++ ' ' :: u = markText m' ++ ' ' :: v) : m = m' ∧ u = v := by
  rcases m with _ | ⟨pattern⟩ | ⟨name⟩ <;> rcases m' with _ | ⟨pattern'⟩ | ⟨name'⟩
  case none.none => exact ⟨rfl, (bare_dot.append_inj bare_dot h).2⟩
  case none.some.nonterminal =>
    have hname := hm' name' rfl
    exact absurd (bare_dot.append_inj hname.bare h).1.symm hname.ne_dot
  case some.nonterminal.none =>
    have hname := hm name rfl
    exact absurd (hname.bare.append_inj bare_dot h).1 hname.ne_dot
  case some.nonterminal.some.nonterminal =>
    obtain ⟨hname, hrest⟩ := (hm name rfl).bare.append_inj (hm' name' rfl).bare h
    rw [String.toList_injective hname]
    exact ⟨rfl, hrest⟩
  case none.some.terminal =>
    rw [markText_terminal] at h
    exact absurd h (bare_dot.append_ne_quoted _)
  case some.terminal.none =>
    rw [markText_terminal] at h
    exact absurd h.symm (bare_dot.append_ne_quoted _)
  case some.nonterminal.some.terminal =>
    rw [markText_terminal] at h
    exact absurd h ((hm name rfl).bare.append_ne_quoted _)
  case some.terminal.some.nonterminal =>
    rw [markText_terminal] at h
    exact absurd h.symm ((hm' name' rfl).bare.append_ne_quoted _)
  case some.terminal.some.terminal =>
    rw [markText_terminal, markText_terminal] at h
    obtain ⟨hpattern, hrest⟩ := GrammarFile.Literal.quotedChars_append_inj h
    rw [String.toList_injective hpattern]
    exact ⟨rfl, (List.cons_eq_cons.1 hrest).2⟩

theorem Bare.append_ne_blank (h : Bare cs) : cs ++ u ≠ ' ' :: v := by
  intro heq
  obtain ⟨c, cs, rfl⟩ := List.exists_cons_of_ne_nil h.ne_nil
  obtain ⟨rfl, -⟩ := List.cons_eq_cons.1 heq
  exact h.no_blank List.mem_cons_self

/-- No mark begins with a blank. -/
theorem markText_append_ne_blank (hm : PlainMark m) : markText m ++ u ≠ ' ' :: v := by
  rcases m with _ | ⟨pattern⟩ | ⟨name⟩
  case none => exact bare_dot.append_ne_blank
  case some.nonterminal => exact (hm name rfl).bare.append_ne_blank
  case some.terminal =>
    intro heq
    rw [markText_terminal] at heq
    have hquote := GrammarFile.Literal.isQuote_quoteFor pattern.toList
    rw [(List.cons_eq_cons.1 heq).1] at hquote
    rcases hquote with h | h <;> cases h

/-- Marks with a blank behind each, in front of one more blank, are the only ones that are printed
like this. -/
theorem eq_of_flatMap_markText (hms : ∀ m ∈ ms, PlainMark m) (hms' : ∀ m ∈ ms', PlainMark m)
    (h : ms.flatMap (markText · ++ [' ']) ++ ' ' :: u =
      ms'.flatMap (markText · ++ [' ']) ++ ' ' :: v) : ms = ms' ∧ u = v := by
  induction ms generalizing ms' with
  | nil =>
    cases ms' with
    | nil => exact ⟨rfl, (List.cons_eq_cons.1 h).2⟩
    | cons m' ms' =>
      rw [List.flatMap_cons, List.append_assoc, List.append_assoc] at h
      exact absurd h.symm (markText_append_ne_blank (hms' m' List.mem_cons_self))
  | cons m ms ih =>
    obtain ⟨hm, hms⟩ := List.forall_mem_cons.1 hms
    cases ms' with
    | nil =>
      rw [List.flatMap_cons, List.append_assoc, List.append_assoc] at h
      exact absurd h (markText_append_ne_blank hm)
    | cons m' ms' =>
      obtain ⟨hm', hothers⟩ := List.forall_mem_cons.1 hms'
      simp only [List.flatMap_cons, List.append_assoc, List.singleton_append] at h
      obtain ⟨rfl, hrest⟩ := markText_append_inj hm hm' h
      obtain ⟨rfl, huv⟩ := ih hms hothers hrest
      exact ⟨rfl, huv⟩

end

/-! ## Telling items apart -/

section

variable {x y : Item} {r r' : Rule}

theorem Rule.Plain.marks (h : r.Plain) (x : Item) : ∀ m ∈ x.marks r, PlainMark m := by
  rintro m hm name rfl
  refine h.components name ?_
  rw [← List.take_append_drop x.cursor r.components, List.mem_append]
  simpa [Item.marks, -List.map_take, -List.map_drop] using hm

/-- The dot stands where the cursor does, and what stands around it are the components. -/
theorem Item.eq_of_marks_eq (hx : x.cursor ≤ r.components.length)
    (hy : y.cursor ≤ r'.components.length) (h : x.marks r = y.marks r') :
    x.cursor = y.cursor ∧ r.components = r'.components := by
  have hnone (xs : List Symbol) : none ∉ xs.map some := by simp
  have hsome {xs ys : List Symbol} (heq : xs.map some = ys.map some) : xs = ys :=
    (List.map_inj_right fun _ _ => Option.some.inj).1 heq
  obtain ⟨hbefore, hbehind⟩ := Text.eq_of_append_cons (hnone _) (hnone _) h
  have htake := hsome hbefore
  constructor
  · have hlength := congrArg List.length htake
    rwa [List.length_take, List.length_take, Nat.min_eq_left hx, Nat.min_eq_left hy] at hlength
  · rw [← List.take_append_drop x.cursor r.components, htake, hsome hbehind,
      List.take_append_drop]

/-- An item shows its start, its cursor and its rule. -/
theorem Item.eq_of_toText_eq (hr : r.Plain) (hr' : r'.Plain) (hx : x.cursor ≤ r.components.length)
    (hy : y.cursor ≤ r'.components.length) (h : x.toText r = y.toText r') :
    x.start = y.start ∧ x.cursor = y.cursor ∧ r = r' := by
  have hlist := congrArg String.toList h
  rw [toList_toText, toList_toText] at hlist
  obtain ⟨hname, hmarks⟩ := hr.name.bare.append_inj hr'.name.bare hlist
  simp only [List.cons.injEq, true_and] at hmarks
  obtain ⟨hmarks, hstart⟩ := eq_of_flatMap_markText (hr.marks x) (hr'.marks y) hmarks
  obtain ⟨hcursor, hcomponents⟩ := Item.eq_of_marks_eq hx hy hmarks
  obtain ⟨hstart, -⟩ := Text.eq_of_repr_append (c := ')') rfl (List.cons_eq_cons.1 hstart).2
  obtain ⟨name, components⟩ := r
  obtain ⟨name', components'⟩ := r'
  cases String.toList_injective hname
  cases hcomponents
  exact ⟨hstart, hcursor, rfl⟩

end

/-- In a grammar whose names are plain, items that are printed alike have the same start, the same
cursor and equal rules, whatever texts its terminals are. Identifiers are plain names, and the
grammar of a file that is read has no other names. -/
theorem toText_tells_items [Regex.Engine] [GrammarFile.Literal.Decoder] :
    (∀ g : Grammar, g.Plain → ∀ (x y : Item) (r r' : Rule),
      g.rules[x.rule]? = some r → g.rules[y.rule]? = some r' →
      x.cursor ≤ r.components.length → y.cursor ≤ r'.components.length →
      x.toText r = y.toText r' → x.start = y.start ∧ x.cursor = y.cursor ∧ r = r') ∧
    (∀ g : Grammar, g.HasIdentifiers → g.Plain) ∧
    ∀ src file, GrammarFile.read src = .ok file → file.toGrammar.HasIdentifiers := by
  refine ⟨fun g hg x y r r' hr hr' hx hy h => ?_, fun g hg => hg.plain,
    fun src file hread => hasIdentifiers_toGrammar hread⟩
  have hplain := hg r (List.mem_of_getElem? hr)
  have hplain' := hg r' (List.mem_of_getElem? hr')
  exact Item.eq_of_toText_eq hplain hplain' hx hy h

/-- Two terminals, then one whose text looks like both of them and the dot between, then the two
again. -/
def lookalikes : Grammar :=
  ⟨[⟨"A", [.terminal "a", .terminal "b"]⟩, ⟨"A", [.terminal "a' • 'b"]⟩,
    ⟨"A", [.terminal "a", .terminal "b"]⟩]⟩

theorem toText_tells_items_lookalikes : lookalikes.Plain ∧
    (∃ r r', lookalikes.rules[0]? = some r ∧ lookalikes.rules[2]? = some r' ∧
      (Item.mk 0 3 1).toText r = (Item.mk 2 3 1).toText r' ∧ r = r') ∧
    ∃ r r', lookalikes.rules[0]? = some r ∧ lookalikes.rules[1]? = some r' ∧
      (Item.mk 0 3 1).toText r ≠ (Item.mk 1 3 1).toText r' := by
  obtain ⟨htell, hplain, -⟩ := toText_tells_items
  have hname : IsName "A" := ⟨'A', [], rfl, rfl, nofun⟩
  have hg : lookalikes.Plain := hplain _ (by simp [Grammar.HasIdentifiers, lookalikes, hname])
  have htold := htell _ hg
  have hsame (r : Rule) : (Item.mk 0 3 1).toText r = (Item.mk 2 3 1).toText r := rfl
  have hfirst : lookalikes.rules[0]? = some ⟨"A", [.terminal "a", .terminal "b"]⟩ := rfl
  have hsecond : lookalikes.rules[1]? = some ⟨"A", [.terminal "a' • 'b"]⟩ := rfl
  have hthird : lookalikes.rules[2]? = some ⟨"A", [.terminal "a", .terminal "b"]⟩ := rfl
  refine ⟨hg, ⟨_, _, hfirst, hthird, hsame _, ?_⟩, ⟨_, _, hfirst, hsecond, fun heq => ?_⟩⟩
  · exact (htold (.mk 0 3 1) (.mk 2 3 1) _ _ hfirst hthird (by decide) (by decide) (hsame _)).2.2
  · have hrules :=
      (htold (.mk 0 3 1) (.mk 1 3 1) _ _ hfirst hsecond (by decide) (by decide) heq).2.2
    exact absurd hrules (by decide)

end Earley
