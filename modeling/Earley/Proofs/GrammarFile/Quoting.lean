/-
Earley.Proofs.GrammarFile.Quoting — a quoted text is a literal that stands for this text.

Quoting and reading literals know different escapes. `Shown` says in which three ways a character
is written between quotes, and `Encodes` collects what characters between quotes must satisfy to be
read as a text: they are enclosed by the quotes, they have no null character and no bare line end,
and their escapes stand for the text at any offset.

- `shown_escape`: a character between quotes is written in one of these ways.
- `Encodes.cons`: each of them can be put in front of characters that stand for a text.
- `Literal.quotedChars_append_inj`: a quoted text shows where it ends, and which text it is.
- `Piece.formed_quotedChars` and `Piece.literal_quotedChars`: a quoted text is a literal piece, and
  stands for the text.
-/
import Earley.GrammarFile.Escape
import Earley.Proofs.GrammarFile.Acceptance
import Earley.Text.Quoted
import Mathlib.Data.List.TakeWhile

namespace Earley.GrammarFile

namespace Literal

open Piece (Enclosed)
open Text (escape hexDigits hexDigit hexRange isHexDigit isPrintable numberOf quoteFor quotedChars)

/-! ## Characters between quotes -/

/-- The ways to write a character between two quotes: as it is, as a mark behind a backslash, or as
a number. -/
inductive Shown (quote c : Char) : List Char → Prop where
  | plain (hescape : c ≠ '\\') (hquote : c ≠ quote) (hprintable : isPrintable c = true) :
      Shown quote c [c]
  | mark {d : Char} (hd : simpleEscape? d = some c) : Shown quote c ['\\', d]
  | number {letter : Char} {width : Nat} (hletter : hexLength? letter = some width)
      (hc : c.toNat < hexRange width) : Shown quote c ('\\' :: letter :: hexDigits width c.toNat)

/-- The characters between two quotes stand for a text. -/
structure Encodes [Names] (quote : Char) (cs text : List Char) : Prop where
  enclosed : Enclosed quote cs
  no_null : '\x00' ∉ cs
  no_line_end : ∀ line, bareLineEnd? line cs = none
  unescaped : ∀ pos, unescapeFrom pos cs = .ok text

/-- A character that is a quotation mark. -/
def IsQuote (quote : Char) : Prop := quote = '"' ∨ quote = '\''

section

variable {quote c d letter : Char} {width pos n : Nat} {cs ds text : List Char}

theorem toNat_lt (c : Char) : c.toNat < 0x110000 := by
  have hvalid := c.valid
  rcases hvalid with hlow | ⟨-, hhigh⟩
  · exact Nat.lt_trans hlow (by decide)
  · exact hhigh

theorem shown_escape (hquote : IsQuote quote) (c : Char) : Shown quote c (escape quote c) := by
  unfold escape
  split
  next hmark =>
    refine .mark ?_
    rcases hmark with rfl | rfl
    · rcases hquote with rfl | rfl <;> rfl
    · rfl
  next hplain =>
  obtain ⟨hnotquote, hnotescape⟩ := not_or.1 hplain
  split
  next heq => exact heq ▸ .mark rfl
  split
  next heq => exact heq ▸ .mark rfl
  split
  next heq => exact heq ▸ .mark rfl
  split
  next hprintable => exact .plain hnotescape hnotquote hprintable
  split
  next hsmall => exact .number rfl hsmall
  split
  next hsmall => exact .number rfl hsmall
  · exact .number rfl (Nat.lt_trans (toNat_lt c) (by decide))

theorem isQuote_quoteFor (text : List Char) : IsQuote (quoteFor text) := by
  unfold quoteFor
  split
  · exact .inl rfl
  · exact .inr rfl

/-! ## Digits and marks -/

theorem isHexDigit_of_mem_hexDigits (h : d ∈ hexDigits width n) : isHexDigit d = true := by
  have hall : ∀ e ∈ List.range 16, isHexDigit (hexDigit e) = true := by decide
  induction width generalizing n with
  | zero => cases h
  | succ width ih =>
    rcases List.mem_append.1 h with h | h
    · exact ih h
    · cases List.mem_singleton.1 h
      exact hall _ (List.mem_range.2 (Nat.mod_lt _ (by decide)))

/-- Characters of which only one belongs to a class are different. -/
theorem ne_of_class {p : Char → Bool} (hd : p d = true) (hc : p c = false) : d ≠ c := by
  rintro rfl
  cases hd.symm.trans hc

theorem isLineEnd_eq_false (hfeed : c ≠ '\n') (hreturn : c ≠ '\r') : isLineEnd c = false := by
  simp [isLineEnd, hfeed, hreturn]

theorem enclosed_append_hexDigits (hquote : IsQuote quote) (h : Enclosed quote cs)
    (hds : ∀ d ∈ ds, isHexDigit d = true) : Enclosed quote (ds ++ cs) := by
  induction ds with
  | nil => exact h
  | cons d ds ih =>
    obtain ⟨hd, hds⟩ := List.forall_mem_cons.1 hds
    refine .char (ne_of_class hd (by decide)) ?_ (ne_of_class hd (by decide)) (ih hds)
    rcases hquote with rfl | rfl <;> exact ne_of_class hd (by decide)

theorem bareLineEnd?_cons_of_ne {line : Nat} (hescape : c ≠ '\\') (hline : isLineEnd c = false) :
    bareLineEnd? line (c :: cs) = bareLineEnd? line cs := by
  rw [bareLineEnd?.eq_2 _ _ _ fun _ _ h _ => hescape h, if_neg (by simp [hline])]

theorem bareLineEnd?_append_hexDigits (h : ∀ line, bareLineEnd? line cs = none)
    (hds : ∀ d ∈ ds, isHexDigit d = true) (line : Nat) : bareLineEnd? line (ds ++ cs) = none := by
  induction ds with
  | nil => exact h line
  | cons d ds ih =>
    obtain ⟨hd, hds⟩ := List.forall_mem_cons.1 hds
    have hline : isLineEnd d = false := isLineEnd_eq_false
      (ne_of_class hd (by decide)) (ne_of_class hd (by decide))
    rw [List.cons_append, bareLineEnd?_cons_of_ne (ne_of_class hd (by decide)) hline, ih hds]

theorem simpleEscape?_cases (hd : simpleEscape? d = some c) :
    hexLength? d = none ∧ d ≠ 'N' ∧ isLineEnd d = false ∧ Text.isOctalDigit d = false ∧
      d ≠ '\x00' := by
  unfold simpleEscape? at hd
  split at hd <;> cases hd <;> decide

/-! ## Reading back -/

theorem charOf_toNat (c : Char) : charOf c.toNat = .ok c := by
  have hvalid : c.toNat.isValidChar := c.valid
  rw [charOf, if_neg (Nat.not_le.2 (toNat_lt c)), dif_pos hvalid]
  rfl

variable [Names]

theorem readEscape_of_simpleEscape? (hd : simpleEscape? d = some c) (rest : List Char) :
    readEscape pos d rest = .ok ([c], 0) := by
  obtain ⟨hhex, hname, hline, hoctal, -⟩ := simpleEscape?_cases hd
  simp [readEscape, hhex, hname, hline, hoctal, hd]

theorem readEscape_of_hexDigits (hletter : hexLength? letter = some width)
    (hc : c.toNat < hexRange width) (rest : List Char) :
    readEscape pos letter (hexDigits width c.toNat ++ rest) = .ok ([c], width) := by
  have hlength : (hexDigits width c.toNat).length = width := Text.length_hexDigits _ _
  have hdigits : ((hexDigits width c.toNat ++ rest).take width).takeWhile isHexDigit =
      hexDigits width c.toNat := by
    rw [List.take_left' hlength, List.takeWhile_eq_self_iff]
    exact fun d hd => isHexDigit_of_mem_hexDigits hd
  have hnumber : numberOf 16 (hexDigits width c.toNat) = c.toNat := by
    rw [Text.numberOf_hexDigits, Nat.mod_eq_of_lt hc]
  simp only [readEscape, hletter, hdigits, hlength, hnumber]
  rw [if_neg (Nat.lt_irrefl _), charOf_toNat]

/-! ## Characters in front of others -/

theorem Encodes.nil : Encodes quote [] [] where
  enclosed := .nil
  no_null := List.not_mem_nil
  no_line_end _ := rfl
  unescaped _ := unescapeFrom.eq_1 _

theorem Encodes.plain (h : Encodes quote cs text) (hescape : c ≠ '\\') (hquote : c ≠ quote)
    (hprintable : isPrintable c = true) : Encodes quote (c :: cs) (c :: text) where
  enclosed := .char hescape hquote (ne_of_class hprintable (by decide)) h.enclosed
  no_null := List.not_mem_cons_of_ne_of_not_mem
    (ne_of_class hprintable (by decide)).symm h.no_null
  no_line_end line := by
    have hline : isLineEnd c = false := isLineEnd_eq_false
      (ne_of_class hprintable (by decide)) (ne_of_class hprintable (by decide))
    rw [bareLineEnd?_cons_of_ne hescape hline, h.no_line_end]
  unescaped pos := by
    rw [unescapeFrom.eq_4 _ _ _ (fun heq _ => hescape heq) fun _ _ heq _ => hescape heq,
      h.unescaped]
    rfl

theorem Encodes.mark (h : Encodes quote cs text) (hd : simpleEscape? d = some c) :
    Encodes quote ('\\' :: d :: cs) (c :: text) where
  enclosed := .escape h.enclosed
  no_null := by
    have hnull : d ≠ '\x00' := (simpleEscape?_cases hd).2.2.2.2
    simp [hnull.symm, h.no_null]
  no_line_end line := h.no_line_end _
  unescaped pos := by
    rw [unescapeFrom.eq_3, readEscape_of_simpleEscape? hd]
    simp only [List.drop_zero, h.unescaped]
    rfl

theorem Encodes.number (h : Encodes quote cs text) (hquote : IsQuote quote)
    (hletter : hexLength? letter = some width) (hc : c.toNat < hexRange width) :
    Encodes quote ('\\' :: letter :: hexDigits width c.toNat ++ cs) (c :: text) where
  enclosed := .escape <|
    enclosed_append_hexDigits hquote h.enclosed fun _ hd => isHexDigit_of_mem_hexDigits hd
  no_null := by
    have hnull : letter ≠ '\x00' := by
      rintro rfl
      cases hletter
    have hdigits : '\x00' ∉ hexDigits width c.toNat := fun hd =>
      ne_of_class (isHexDigit_of_mem_hexDigits hd) (by decide) rfl
    simp [hnull.symm, hdigits, h.no_null]
  no_line_end line :=
    bareLineEnd?_append_hexDigits h.no_line_end (fun _ hd => isHexDigit_of_mem_hexDigits hd) _
  unescaped pos := by
    have hdrop : (hexDigits width c.toNat ++ cs).drop width = cs :=
      List.drop_left' (Text.length_hexDigits _ _)
    rw [List.cons_append, List.cons_append, unescapeFrom.eq_3, readEscape_of_hexDigits hletter hc]
    simp only [hdrop, h.unescaped]
    rfl

/-- A character between quotes can be put in front of others. -/
theorem Encodes.cons (h : Encodes quote cs text) (hquote : IsQuote quote)
    (hds : Shown quote c ds) : Encodes quote (ds ++ cs) (c :: text) := by
  cases hds with
  | plain hescape hne hprintable => exact h.plain hescape hne hprintable
  | mark hd => exact h.mark hd
  | number hletter hc => exact h.number hquote hletter hc

/-! ## Texts -/

/-- A text between quotes stands for itself. -/
theorem encodes_escape (hquote : IsQuote quote) (text : List Char) :
    Encodes quote (text.flatMap (escape quote)) text := by
  induction text with
  | nil => exact .nil
  | cons c text ih =>
    rw [List.flatMap_cons]
    exact ih.cons hquote (shown_escape hquote c)

theorem Encodes.decode (h : Encodes quote cs text) : decode cs = .ok text := by
  rw [Literal.decode, if_neg h.no_null, h.no_line_end]
  simp only [h.unescaped]

end

/-- A quoted text shows where it ends, whatever follows, and which text it is. -/
theorem quotedChars_append_inj {text text' rest rest' : List Char}
    (h : quotedChars text ++ rest = quotedChars text' ++ rest') : text = text' ∧ rest = rest' := by
  -- no escape in a quoted text is one by name, so that any table of names will do
  have hcs := encodes_escape (isQuote_quoteFor text) text
  have hcs' := encodes_escape (isQuote_quoteFor text') text'
  have hstop : quoteFor text ≠ '\\' := by
    rcases isQuote_quoteFor text with heq | heq <;> rw [heq] <;> decide
  obtain ⟨hquote, hbody⟩ : quoteFor text = quoteFor text' ∧
      text.flatMap (escape (quoteFor text)) ++ quoteFor text :: rest =
        text'.flatMap (escape (quoteFor text')) ++ quoteFor text' :: rest' := by
    simpa [quotedChars] using h
  rw [← hquote] at hcs' hbody
  obtain ⟨heq, hrest⟩ := Piece.enclosed_append_inj hstop hcs.enclosed hcs'.enclosed hbody
  have hdecode := hcs.decode
  rw [heq, hcs'.decode, Except.ok.injEq] at hdecode
  exact ⟨hdecode.symm, hrest⟩

end Literal

/-! ## Pieces -/

/-- A quoted text is a literal piece, whatever follows. -/
theorem Piece.formed_quotedChars (text rest : List Char) :
    Formed .string (Text.quotedChars text) rest :=
  .string (Literal.isQuote_quoteFor text)
    (Literal.encodes_escape (Literal.isQuote_quoteFor text) text).enclosed

/-- A quoted text that is not empty stands for itself. -/
theorem Piece.literal_quotedChars [Literal.Names] {p : Piece} {text : String} (hne : text ≠ "")
    (hp : p.chars = Text.quotedChars text.toList) : p.literal = .ok text := by
  have hquote := Literal.isQuote_quoteFor text.toList
  have hbody : (p.chars.drop 1).dropLast =
      text.toList.flatMap (Text.escape (Text.quoteFor text.toList)) := by
    rw [hp, Text.quotedChars, List.cons_append, List.drop_one, List.tail_cons,
      List.dropLast_concat]
  refine Piece.literal_eq_ok_iff.2 ⟨String.toList_eq_nil_iff.not.2 hne, ?_⟩
  change Literal.decode (p.chars.drop 1).dropLast = _
  rw [hbody, (Literal.encodes_escape hquote _).decode]

end Earley.GrammarFile
