/-
Earley.Proofs.GrammarFile.Identifiers — the names in a file that is read are identifiers.

- `isName_of_mem_names`: the names in right-hand sides are texts of name pieces.
- `isName_of_isHelper`: the names of helpers look like names that are written.
- `isName_of_mem_lowerRules`: whatever is lowered, no other names come up.
- `isName_of_read`: the flat rules of a file have identifiers for names, and refer to identifiers.
-/
import Earley.Proofs.GrammarFile.Printing
import Earley.Proofs.GrammarFile.Resolution

namespace Earley.GrammarFile

/-! ## Pieces -/

/-- Each piece of a text has the form of its kind. -/
theorem Piece.Splits.exists_formed {pos : Nat} {cs : List Char} {ps : List Piece} {p : Piece}
    (h : Piece.Splits pos cs ps) (hp : p ∈ ps) : ∃ rest, Piece.Formed p.kind p.chars rest := by
  induction h with
  | nil => cases hp
  | skip hpart hrest ih => exact ih hp
  | piece hpart hskip hrest ih =>
    rcases List.mem_cons.1 hp with rfl | hp
    · exact ⟨_, hpart⟩
    · exact ih hp

theorem isName_text {p : Piece} {rest : List Char} (h : Piece.Formed p.kind p.chars rest)
    (hkind : p.kind = .name) : IsName p.text := by
  obtain ⟨kind, chars, start⟩ := p
  cases hkind
  cases h with
  | name hc hcs hend => exact ⟨_, _, String.toList_ofList, hc, hcs⟩

/-! ## Names that are written -/

/-- The name pieces are identifiers. -/
def Named (ps : List Piece) : Prop := ∀ p ∈ ps, p.kind = .name → IsName p.text

theorem named_of_splits {pos : Nat} {cs : List Char} {ps : List Piece}
    (h : Piece.Splits pos cs ps) : Named ps := by
  intro p hp hkind
  obtain ⟨rest, hformed⟩ := h.exists_formed hp
  exact isName_text hformed hkind

section

variable {ps qs : List Piece} {name : String}

theorem Named.of_subset (h : Named ps) (hsub : qs ⊆ ps) : Named qs := fun p hp => h p (hsub hp)

variable [Literal.Decoder]

mutual

theorem isName_of_mem_names {t : Term} {ps : List Piece} (h : t.Spelled ps) (hps : Named ps)
    (hname : name ∈ t.names) : IsName name := by
  cases t with
  | name s =>
    obtain ⟨p, rfl, hkind, rfl⟩ := h
    cases List.mem_singleton.1 hname
    exact hps p List.mem_cons_self hkind
  | literal text => cases hname
  | group branches =>
    obtain ⟨p, qs, r, rfl, -, hbranches, -⟩ := h
    refine isName_of_mem_branchesNames hbranches (hps.of_subset ?_) hname
    exact List.subset_append_of_subset_left _ (List.subset_cons_self p qs)
  | suffixed suffix t =>
    obtain ⟨-, qs, p, rfl, ht, -⟩ := h
    exact isName_of_mem_names ht (hps.of_subset (List.subset_append_left qs [p])) hname

theorem isName_of_mem_sequenceNames {ts : List Term} {ps : List Piece}
    (h : sequenceSpelled ts ps) (hps : Named ps) (hname : name ∈ sequenceNames ts) :
    IsName name := by
  cases ts with
  | nil => cases hname
  | cons t ts =>
    obtain ⟨qs, rs, rfl, ht, hts⟩ := h
    rcases List.mem_append.1 hname with hfirst | hrest
    · exact isName_of_mem_names ht (hps.of_subset (List.subset_append_left qs rs)) hfirst
    · exact isName_of_mem_sequenceNames hts (hps.of_subset (List.subset_append_right qs rs)) hrest

theorem isName_of_mem_branchesNames {bs : List (List Term)} {ps : List Piece}
    (h : branchesSpelled bs ps) (hps : Named ps) (hname : name ∈ branchesNames bs) :
    IsName name := by
  cases bs with
  | nil => cases h
  | cons b bs =>
    rcases h with ⟨rfl, hb⟩ | ⟨qs, p, rs, rfl, hb, -, hbs⟩
    · rcases List.mem_append.1 hname with hfirst | hrest
      · exact isName_of_mem_sequenceNames hb hps hfirst
      · cases hrest
    · rcases List.mem_append.1 hname with hfirst | hrest
      · have hsub : qs ⊆ qs ++ p :: rs := List.subset_append_left _ _
        exact isName_of_mem_sequenceNames hb (hps.of_subset hsub) hfirst
      · have hsub : rs ⊆ qs ++ p :: rs :=
          List.subset_append_of_subset_right qs (List.subset_cons_self p rs)
        exact isName_of_mem_branchesNames hbs (hps.of_subset hsub) hrest

end

/-- The rules among statements have identifiers for names, and refer to identifiers. -/
theorem isName_of_mem_writtenNames [Regex.Engine] {statements : List Statement}
    (h : statementsSpelled statements ps) (hps : Named ps)
    (hname : name ∈ writtenNames (bodiesOf statements)) : IsName name := by
  obtain ⟨⟨head, branches⟩, hbody, hmem⟩ := List.mem_flatMap.1 hname
  obtain ⟨s, hs, heq⟩ := List.mem_filterMap.1 hbody
  cases s with
  | token | ignore | start | keyword => cases heq
  | rule head pos branches =>
    cases heq
    obtain ⟨rs, hsub, n, m, qs, e, rfl, hkind, rfl, -, -, hbranches, -⟩ :=
      exists_spelled_of_mem h hs
    rcases List.mem_cons.1 hmem with rfl | hmem
    · exact hps n (hsub List.mem_cons_self) hkind
    · refine isName_of_mem_branchesNames hbranches (hps.of_subset fun p hp => hsub ?_) hmem
      exact List.mem_append_left _ (List.mem_cons_of_mem _ (List.mem_cons_of_mem _ hp))

end

/-! ## Names of helpers -/

theorem isNamePart_of_isDigit {c : Char} (hc : c.isDigit = true) : Piece.isNamePart c = true :=
  Bool.or_eq_true_iff.2 (.inl (Bool.or_eq_true_iff.2 (.inr hc)))

theorem isName_of_isHelper {n : Nat} {name : String} (h : IsHelper n name) : IsName name := by
  have hdigits : ∀ d ∈ n.repr.toList, Piece.isNamePart d = true := by
    intro d hd
    rw [Nat.toList_repr] at hd
    exact isNamePart_of_isDigit (Nat.isDigit_of_mem_toDigits (by decide) (by decide) hd)
  have hmarked (a b c : Char) (hmark : ['_', a, b, c].all Piece.isNamePart = true) :
      IsName (String.ofList ['_', '_', a, b, c] ++ n.repr) := by
    refine ⟨'_', ['_', a, b, c] ++ n.repr.toList, by simp, rfl, fun d hd => ?_⟩
    exact (List.mem_append.1 hd).elim (List.all_eq_true.1 hmark d) (hdigits d)
  rcases h with rfl | ⟨s, rfl⟩
  · exact hmarked 'g' 'r' 'p' rfl
  · cases s with
    | optional => exact hmarked 'o' 'p' 't' rfl
    | star | plus => exact hmarked 'r' 'e' 'p' rfl

/-! ## Flat rules -/

section

variable {tokens : List String} {h : Nat} {written : List (String × List (List Term))}

theorem name_mem_of_mem_writtenRules {r : Rule} (hr : r ∈ writtenRules tokens h written) :
    r.name ∈ writtenNames written := by
  induction written generalizing h with
  | nil => cases hr
  | cons w rest ih =>
    rcases List.mem_append.1 hr with hfirst | hrest
    · rw [name_of_mem_map _ hfirst]
      exact fst_mem_writtenNames List.mem_cons_self
    · exact List.mem_append_right (w.1 :: branchesNames w.2) (ih hrest)

theorem referredNames_subset : referredNames written ⊆ writtenNames written := by
  intro name hname
  obtain ⟨w, hw, hmem⟩ := List.mem_flatMap.1 hname
  exact List.mem_flatMap.2 ⟨w, hw, List.mem_cons_of_mem _ hmem⟩

/-- Where identifiers are written, flat rules have identifiers for names and refer to
identifiers. -/
theorem isName_of_mem_lowerRules (hwritten : ∀ name ∈ writtenNames written, IsName name) {r : Rule}
    (hr : r ∈ lowerRules tokens h written) :
    IsName r.name ∧ ∀ name, .nonterminal name ∈ r.components → IsName name := by
  have hhelper {x : Helper} (hx : x ∈ rulesHelpers tokens h written) : IsName x.name := by
    obtain ⟨n, hn, -⟩ := counted_rulesHelpers.exists_isHelper hx
    exact isName_of_isHelper hn
  constructor
  · rcases List.mem_append.1 ((lowerRules_perm written h).mem_iff.1 hr) with hmade | hmem
    · obtain ⟨x, hx, hrule⟩ := List.mem_flatMap.1 hmade
      rw [name_of_mem_map _ hrule]
      exact hhelper hx
    · exact hwritten _ (name_mem_of_mem_writtenRules hmem)
  · intro name hname
    have hsymbol : .nonterminal name ∈ symbolsOf (lowerRules tokens h written) :=
      List.mem_flatMap.2 ⟨r, hr, hname⟩
    rcases nonterminal_mem_symbols_iff.1 hsymbol with ⟨hreferred, -⟩ | hmade
    · exact hwritten name (referredNames_subset hreferred)
    · obtain ⟨x, hx, rfl⟩ := List.mem_map.1 hmade
      exact hhelper hx

end

/-- The flat rules of a file that is read have identifiers for names, and refer to identifiers. -/
theorem isName_of_read [Regex.Engine] [Literal.Decoder] {src : List Char} {file : GrammarFile}
    (hread : read src = .ok file) {r : Rule} (hr : r ∈ file.rules) :
    IsName r.name ∧ ∀ name, .nonterminal name ∈ r.components → IsName name := by
  obtain ⟨pieces, statements, hscan, hall, hfile⟩ := exists_readAll_of_read hread
  have hnamed : Named pieces := named_of_splits (scan_eq_ok_iff_splits.1 hscan)
  rw [rules_of_ofStatements hfile] at hr
  refine isName_of_mem_lowerRules (fun name hname => ?_) hr
  exact isName_of_mem_writtenNames (spelled_of_readAll hall) hnamed hname

end Earley.GrammarFile
