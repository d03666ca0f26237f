/-
Earley.Proofs.Text.Utf8 — which bytes can be decoded.

Decoding undoes encoding: it comes to its end without a fault exactly on the bytes of a text, and
then with the text. In blocks they can be decoded just as well, since what a block breaks off is
left over for the next one, and what it spoils no further block can mend.

- `exists_char_of_complete`, `exists_complete_of_char`: the sequences that are complete are the
  bytes of the characters.
- `decodeFrom_split`: where decoding stops.
- `decode_eq_ok_iff`: decoding undoes encoding.
- `Stream.lines_fault_eq_none_iff`: a stream ends without a fault just if its bytes are a text.
- `Stream.lines_encode_flatMap`: the lines that are written to a stream are read from it.
-/
import Earley.Text.Stream

namespace Earley.Text

namespace Utf8

/-! ## One character -/

section

variable {c : Char} {value n : Nat} {lo hi b b₁ b₂ b₃ : UInt8} {bounds : List (UInt8 × UInt8)}
  {bs rest : List UInt8}

theorem ofNat_eq_iff {m : Nat} (hm : m < 0x100) : UInt8.ofNat m = b ↔ b.toNat = m := by
  rw [← UInt8.toNat_inj, UInt8.toNat_ofNat', Nat.mod_eq_of_lt hm]
  exact eq_comm

/-- The bytes of a character, by its code point. -/
theorem utf8EncodeChar_eq (c : Char) :
    String.utf8EncodeChar c =
      if c.toNat ≤ 0x7F then [.ofNat c.toNat]
      else if c.toNat ≤ 0x7FF then
        [.ofNat (c.toNat / 0x40 % 0x20 + 0xC0), .ofNat (c.toNat % 0x40 + 0x80)]
      else if c.toNat ≤ 0xFFFF then
        [.ofNat (c.toNat / 0x1000 % 0x10 + 0xE0), .ofNat (c.toNat / 0x40 % 0x40 + 0x80),
          .ofNat (c.toNat % 0x40 + 0x80)]
      else
        [.ofNat (c.toNat / 0x40000 % 0x08 + 0xF0), .ofNat (c.toNat / 0x1000 % 0x40 + 0x80),
          .ofNat (c.toNat / 0x40 % 0x40 + 0x80), .ofNat (c.toNat % 0x40 + 0x80)] :=
  rfl

theorem toNat_valid (c : Char) :
    c.toNat < 0xD800 ∨ 0xDFFF < c.toNat ∧ c.toNat < 0x110000 := c.valid

theorem utf8EncodeChar_eq_one_iff :
    String.utf8EncodeChar c = [b] ↔ c.toNat < 0x80 ∧ c.toNat = b.toNat := by
  rw [utf8EncodeChar_eq]
  generalize c.toNat = v
  split
  · rw [List.cons.injEq, ofNat_eq_iff (by omega)]
    simp only [and_true]
    omega
  · split
    · simp; omega
    · split <;> simp <;> omega

theorem utf8EncodeChar_eq_two_iff :
    String.utf8EncodeChar c = [b, b₁] ↔ 0x80 ≤ c.toNat ∧ c.toNat < 0x800 ∧
      0xC0 ≤ b.toNat ∧ 0x80 ≤ b₁.toNat ∧ b₁.toNat < 0xC0 ∧
      c.toNat = (b.toNat - 0xC0) * 0x40 + (b₁.toNat - 0x80) := by
  rw [utf8EncodeChar_eq]
  generalize c.toNat = v
  split
  · simp; omega
  split
  next h =>
    simp only [List.cons.injEq, and_true]
    rw [ofNat_eq_iff (by omega), ofNat_eq_iff (by omega)]
    omega
  · split <;> simp <;> omega

theorem utf8EncodeChar_eq_three_iff :
    String.utf8EncodeChar c = [b, b₁, b₂] ↔ 0x800 ≤ c.toNat ∧ c.toNat < 0x10000 ∧
      0xE0 ≤ b.toNat ∧ 0x80 ≤ b₁.toNat ∧ b₁.toNat < 0xC0 ∧ 0x80 ≤ b₂.toNat ∧ b₂.toNat < 0xC0 ∧
      c.toNat = ((b.toNat - 0xE0) * 0x40 + (b₁.toNat - 0x80)) * 0x40 + (b₂.toNat - 0x80) := by
  rw [utf8EncodeChar_eq]
  generalize c.toNat = v
  split
  · simp; omega
  split
  · simp; omega
  split
  next h =>
    simp only [List.cons.injEq, and_true]
    rw [ofNat_eq_iff (by omega), ofNat_eq_iff (by omega), ofNat_eq_iff (by omega)]
    omega
  · simp; omega

theorem utf8EncodeChar_eq_four_iff :
    String.utf8EncodeChar c = [b, b₁, b₂, b₃] ↔ 0x10000 ≤ c.toNat ∧
      0xF0 ≤ b.toNat ∧ 0x80 ≤ b₁.toNat ∧ b₁.toNat < 0xC0 ∧ 0x80 ≤ b₂.toNat ∧ b₂.toNat < 0xC0 ∧
      0x80 ≤ b₃.toNat ∧ b₃.toNat < 0xC0 ∧
      c.toNat = (((b.toNat - 0xF0) * 0x40 + (b₁.toNat - 0x80)) * 0x40 + (b₂.toNat - 0x80)) * 0x40 +
        (b₃.toNat - 0x80) := by
  rw [utf8EncodeChar_eq]
  have hvalid := toNat_valid c
  generalize c.toNat = v at hvalid ⊢
  split
  · simp; omega
  split
  · simp; omega
  split
  · simp; omega
  · simp only [List.cons.injEq, and_true]
    rw [ofNat_eq_iff (by omega), ofNat_eq_iff (by omega), ofNat_eq_iff (by omega),
      ofNat_eq_iff (by omega)]
    omega

theorem tail_nil_eq_complete_iff : tail value [] bs = .complete n ↔ value = n := by
  simp [tail]

theorem tail_cons_eq_complete_iff :
    tail value ((lo, hi) :: bounds) bs = .complete n ↔ ∃ b rest, bs = b :: rest ∧
      lo.toNat ≤ b.toNat ∧ b.toNat ≤ hi.toNat ∧
      tail (value * 0x40 + (b.toNat - 0x80)) bounds rest = .complete n := by
  cases bs with
  | nil => simp [tail]
  | cons b rest =>
    simp only [tail, isBetween, Bool.and_eq_true, decide_eq_true_eq, UInt8.le_iff_toNat_le]
    split
    next hb =>
      split
      next k hk => simp [hk]
      next hno =>
        constructor
        · intro h
          exact ⟨b, rest, rfl, hb.1, hb.2, h⟩
        · rintro ⟨_, _, h, -, -, htail⟩
          cases h
          exact htail
    next hb =>
      constructor
      · intro h
        cases h
      · rintro ⟨_, _, h, hlo, hhi, -⟩
        cases h
        exact absurd ⟨hlo, hhi⟩ hb

/-- What a first byte announces, by the length of the sequence that it begins. -/
theorem lead?_eq (b : UInt8) :
    lead? b =
      if b.toNat < 0x80 then some (b.toNat, [])
      else if b.toNat < 0xC2 then none
      else if b.toNat < 0xE0 then some (b.toNat - 0xC0, [(0x80, 0xBF)])
      else if b.toNat < 0xF0 then
        some (b.toNat - 0xE0, [(if b.toNat = 0xE0 then 0xA0 else 0x80,
          if b.toNat = 0xED then 0x9F else 0xBF), (0x80, 0xBF)])
      else if b.toNat < 0xF5 then
        some (b.toNat - 0xF0, [(if b.toNat = 0xF0 then 0x90 else 0x80,
          if b.toNat = 0xF4 then 0x8F else 0xBF), (0x80, 0xBF), (0x80, 0xBF)])
      else none := by
  unfold lead?
  dsimp only
  generalize b.toNat = n
  simp only [beq_iff_eq]
  grind

theorem exists_char (h : n < 0xD800 ∨ 0xDFFF < n ∧ n < 0x110000) : ∃ c : Char, c.toNat = n :=
  ⟨Char.ofNatAux n h, rfl⟩

theorem toNat_ite (p : Prop) [Decidable p] (x y : UInt8) :
    (if p then x else y).toNat = if p then x.toNat else y.toNat := by
  split <;> rfl

/-- A sequence that is complete is the bytes of a character. -/
theorem exists_char_of_complete (hlead : lead? b = some (value, bounds))
    (htail : tail value bounds bs = .complete n) :
    ∃ c : Char, c.toNat = n ∧ (String.utf8EncodeChar c).length = bounds.length + 1 ∧
      b :: bs = String.utf8EncodeChar c ++ bs.drop bounds.length := by
  rw [lead?_eq] at hlead
  split at hlead
  · simp only [Option.some.injEq, Prod.mk.injEq] at hlead
    obtain ⟨rfl, rfl⟩ := hlead
    have hn := tail_nil_eq_complete_iff.1 htail
    obtain ⟨c, hc⟩ := exists_char (n := n) (by omega)
    have hbytes : String.utf8EncodeChar c = [b] := utf8EncodeChar_eq_one_iff.2 (by omega)
    exact ⟨c, hc, by rw [hbytes]; rfl, by rw [hbytes]; rfl⟩
  split at hlead
  · cases hlead
  split at hlead
  · simp only [Option.some.injEq, Prod.mk.injEq] at hlead
    obtain ⟨rfl, rfl⟩ := hlead
    simp only [tail_cons_eq_complete_iff, tail_nil_eq_complete_iff, UInt8.reduceToNat] at htail
    obtain ⟨b₁, rest, rfl, hlo, hhi, hn⟩ := htail
    obtain ⟨c, hc⟩ := exists_char (n := n) (by omega)
    have hbytes : String.utf8EncodeChar c = [b, b₁] := utf8EncodeChar_eq_two_iff.2 (by omega)
    exact ⟨c, hc, by rw [hbytes]; rfl, by rw [hbytes]; rfl⟩
  split at hlead
  · simp only [Option.some.injEq, Prod.mk.injEq] at hlead
    obtain ⟨rfl, rfl⟩ := hlead
    simp only [tail_cons_eq_complete_iff, tail_nil_eq_complete_iff, UInt8.reduceToNat,
      toNat_ite] at htail
    obtain ⟨b₁, _, rfl, hlo, hhi, b₂, rest, rfl, hlo', hhi', hn⟩ := htail
    have hrange : 0x800 ≤ n ∧ (n < 0xD800 ∨ 0xDFFF < n) ∧ 0x80 ≤ b₁.toNat ∧ b₁.toNat < 0xC0 := by
      split at hlo <;> split at hhi <;> omega
    obtain ⟨c, hc⟩ := exists_char (n := n) (by omega)
    have hbytes : String.utf8EncodeChar c = [b, b₁, b₂] :=
      utf8EncodeChar_eq_three_iff.2 (by omega)
    exact ⟨c, hc, by rw [hbytes]; rfl, by rw [hbytes]; rfl⟩
  split at hlead
  · simp only [Option.some.injEq, Prod.mk.injEq] at hlead
    obtain ⟨rfl, rfl⟩ := hlead
    simp only [tail_cons_eq_complete_iff, tail_nil_eq_complete_iff, UInt8.reduceToNat,
      toNat_ite] at htail
    obtain ⟨b₁, _, rfl, hlo, hhi, b₂, _, rfl, hlo', hhi', b₃, rest, rfl, hlo'', hhi'', hn⟩ := htail
    have hrange : 0x10000 ≤ n ∧ n < 0x110000 ∧ 0x80 ≤ b₁.toNat ∧ b₁.toNat < 0xC0 := by
      split at hlo <;> split at hhi <;> omega
    obtain ⟨c, hc⟩ := exists_char (n := n) (by omega)
    have hbytes : String.utf8EncodeChar c = [b, b₁, b₂, b₃] :=
      utf8EncodeChar_eq_four_iff.2 (by omega)
    exact ⟨c, hc, by rw [hbytes]; rfl, by rw [hbytes]; rfl⟩
  · cases hlead

/-- The bytes of a character are a sequence that is complete, whatever follows them. -/
theorem exists_complete_of_char (c : Char) :
    ∃ b bs value bounds, String.utf8EncodeChar c = b :: bs ∧ lead? b = some (value, bounds) ∧
      bounds.length = bs.length ∧ ∀ rest, tail value bounds (bs ++ rest) = .complete c.toNat := by
  have hvalid := toNat_valid c
  obtain ⟨b, hc⟩ | ⟨b, b₁, hc⟩ | ⟨b, b₁, b₂, hc⟩ | ⟨b, b₁, b₂, b₃, hc⟩ :
      (∃ b, String.utf8EncodeChar c = [b]) ∨ (∃ b b₁, String.utf8EncodeChar c = [b, b₁]) ∨
        (∃ b b₁ b₂, String.utf8EncodeChar c = [b, b₁, b₂]) ∨
        ∃ b b₁ b₂ b₃, String.utf8EncodeChar c = [b, b₁, b₂, b₃] := by
    rw [utf8EncodeChar_eq]
    split
    · exact .inl ⟨_, rfl⟩
    split
    · exact .inr (.inl ⟨_, _, rfl⟩)
    split
    · exact .inr (.inr (.inl ⟨_, _, _, rfl⟩))
    · exact .inr (.inr (.inr ⟨_, _, _, _, rfl⟩))
  · obtain ⟨hlt, hn⟩ := utf8EncodeChar_eq_one_iff.1 hc
    refine ⟨b, _, _, _, hc, by rw [lead?_eq, if_pos (by omega)], rfl, fun rest => ?_⟩
    rw [tail_nil_eq_complete_iff, hn]
  · have h := utf8EncodeChar_eq_two_iff.1 hc
    refine ⟨b, _, _, _, hc, by rw [lead?_eq, if_neg (by omega), if_neg (by omega),
      if_pos (by omega)], rfl, fun rest => ?_⟩
    simp only [tail_cons_eq_complete_iff, tail_nil_eq_complete_iff, UInt8.reduceToNat]
    exact ⟨b₁, rest, rfl, by omega, by omega, by omega⟩
  · have h := utf8EncodeChar_eq_three_iff.1 hc
    refine ⟨b, _, _, _, hc, by rw [lead?_eq, if_neg (by omega), if_neg (by omega),
      if_neg (by omega), if_pos (by omega)], rfl, fun rest => ?_⟩
    simp only [tail_cons_eq_complete_iff, tail_nil_eq_complete_iff, UInt8.reduceToNat, toNat_ite]
    exact ⟨b₁, _, rfl, by split <;> omega, by split <;> omega, b₂, rest, rfl, by omega, by omega,
      by omega⟩
  · have h := utf8EncodeChar_eq_four_iff.1 hc
    refine ⟨b, _, _, _, hc, by rw [lead?_eq, if_neg (by omega), if_neg (by omega),
      if_neg (by omega), if_neg (by omega), if_pos (by omega)], rfl, fun rest => ?_⟩
    simp only [tail_cons_eq_complete_iff, tail_nil_eq_complete_iff, UInt8.reduceToNat, toNat_ite]
    exact ⟨b₁, _, rfl, by split <;> omega, by split <;> omega, b₂, _, rfl, by omega, by omega, b₃,
      rest, rfl, by omega, by omega, by omega⟩

end

/-! ## Texts -/

/-- The bytes of a text. -/
def encode (cs : List Char) : List UInt8 := cs.flatMap String.utf8EncodeChar

/-- The bytes are those of some text. -/
def IsText (bytes : List UInt8) : Prop := ∃ cs, bytes = encode cs

theorem encode_cons (c : Char) (cs : List Char) :
    encode (c :: cs) = String.utf8EncodeChar c ++ encode cs := List.flatMap_cons

theorem encode_append (cs ds : List Char) : encode (cs ++ ds) = encode cs ++ encode ds :=
  List.flatMap_append

section

variable {b : UInt8} {bs : List UInt8}

/-- Decoding takes a text from the front and goes on with what follows. -/
theorem decodeFrom_encode_append (p : Nat) (cs : List Char) (rest : List UInt8) :
    decodeFrom p (encode cs ++ rest) =
      (cs ++ (decodeFrom (p + (encode cs).length) rest).1,
        (decodeFrom (p + (encode cs).length) rest).2) := by
  induction cs generalizing p with
  | nil => rfl
  | cons c cs ih =>
    obtain ⟨b, bs, value, bounds, hc, hlead, hlength, htail⟩ := exists_complete_of_char c
    have hdrop : (bs ++ (encode cs ++ rest)).drop bounds.length = encode cs ++ rest := by
      rw [hlength, List.drop_left]
    rw [encode_cons, hc, List.append_assoc, List.cons_append, decodeFrom, hlead]
    have hposition : p + 1 + bounds.length + (encode cs).length =
        p + ((bs ++ encode cs).length + 1) := by
      rw [hlength, List.length_append]
      omega
    simp only [htail, hdrop, ih, Char.ofNat_toNat, hposition, List.cons_append, List.length_cons]

/-- A text that is not empty begins with a sequence that is complete. -/
theorem IsText.exists_complete (h : IsText (b :: bs)) :
    ∃ value bounds n, lead? b = some (value, bounds) ∧ tail value bounds bs = .complete n := by
  obtain ⟨cs, hcs⟩ := h
  cases cs with
  | nil => cases hcs
  | cons c cs =>
    obtain ⟨b', bs', value, bounds, hc, hlead, -, htail⟩ := exists_complete_of_char c
    rw [encode_cons, hc, List.cons_append] at hcs
    cases hcs
    exact ⟨value, bounds, _, hlead, htail _⟩

/-- More bytes do not mend a sequence with a byte that may not stand there. -/
theorem tail_append_of_broken {value k : Nat} {bounds : List (UInt8 × UInt8)}
    (h : tail value bounds bs = .broken k) (more : List UInt8) :
    tail value bounds (bs ++ more) = .broken k := by
  induction bounds generalizing value bs k with
  | nil => cases h
  | cons bound bounds ih =>
    cases bs with
    | nil => cases h
    | cons b bs =>
      obtain ⟨lo, hi⟩ := bound
      simp only [tail, List.cons_append] at h ⊢
      split at h
      next hb =>
        rw [if_pos hb]
        split at h
        next k' hk =>
          cases h
          rw [ih hk]
        next hno => exact absurd h (hno _)
      next hb => rw [if_neg hb, h]

/-- Decoding gives the longest text at the front. Where it stops before the end, what follows is not
the beginning of a text either, unless the bytes break off within a sequence. -/
theorem decodeFrom_split (p : Nat) (bytes : List UInt8) :
    ∃ cs rest, bytes = encode cs ++ rest ∧
      (decodeFrom p bytes = (cs, none) ∧ rest = [] ∨
        ∃ f, decodeFrom p bytes = (cs, some f) ∧ f.position = p + (encode cs).length ∧
          (f.defect ≠ .endOfData → ∀ more, ¬ IsText (rest ++ more))) := by
  fun_induction decodeFrom p bytes with
  | case1 => exact ⟨[], [], rfl, .inl ⟨rfl, rfl⟩⟩
  | case2 p b bs hlead =>
    refine ⟨[], b :: bs, rfl, .inr ⟨_, rfl, rfl, fun _ more h => ?_⟩⟩
    obtain ⟨_, _, _, hlead', -⟩ := h.exists_complete
    cases hlead.symm.trans hlead'
  | case3 p b bs value bounds hlead n htail cs fault hrest ih =>
    obtain ⟨c, rfl, hlength, hc⟩ := exists_char_of_complete hlead htail
    obtain ⟨cs', rest, hbytes, hends⟩ := ih
    rw [hbytes, ← List.append_assoc, ← encode_cons] at hc
    refine ⟨c :: cs', rest, hc, ?_⟩
    rw [Char.ofNat_toNat, encode_cons, List.length_append, hlength]
    obtain ⟨hdecode, rfl⟩ | ⟨f, hdecode, hposition, hstays⟩ := hends
    · cases hrest.symm.trans hdecode
      exact .inl ⟨rfl, rfl⟩
    · cases hrest.symm.trans hdecode
      exact .inr ⟨f, rfl, by omega, hstays⟩
  | case4 p b bs value bounds hlead k htail =>
    refine ⟨[], b :: bs, rfl, .inr ⟨_, rfl, rfl, fun _ more h => ?_⟩⟩
    obtain ⟨_, _, _, hlead', htail'⟩ := h.exists_complete
    cases hlead.symm.trans hlead'
    cases (tail_append_of_broken htail more).symm.trans htail'
  | case5 p b bs value bounds hlead htail =>
    exact ⟨[], b :: bs, rfl, .inr ⟨_, rfl, rfl, fun h => absurd rfl h⟩⟩

theorem decodeFrom_eq_ok_iff {p : Nat} {cs : List Char} {bytes : List UInt8} :
    decodeFrom p bytes = (cs, none) ↔ bytes = encode cs := by
  constructor
  · intro h
    obtain ⟨cs', rest, hbytes, ⟨hdecode, rfl⟩ | ⟨f, hdecode, -⟩⟩ := decodeFrom_split p bytes
    · cases h.symm.trans hdecode
      rw [hbytes, List.append_nil]
    · cases h.symm.trans hdecode
  · rintro rfl
    have h := decodeFrom_encode_append p cs []
    rw [List.append_nil, decodeFrom, List.append_nil] at h
    exact h

theorem decodeFrom_fault_eq_none_iff {p : Nat} {bytes : List UInt8} :
    (decodeFrom p bytes).2 = none ↔ IsText bytes := by
  constructor
  · intro h
    exact ⟨(decodeFrom p bytes).1, decodeFrom_eq_ok_iff.1 (Prod.ext rfl h)⟩
  · rintro ⟨cs, hcs⟩
    rw [decodeFrom_eq_ok_iff.2 hcs]

theorem decode_eq_ok_iff {cs : List Char} {bytes : List UInt8} :
    decode bytes = (cs, none) ↔ bytes = encode cs := decodeFrom_eq_ok_iff

theorem decode_fault_eq_none_iff {bytes : List UInt8} :
    (decode bytes).2 = none ↔ IsText bytes := decodeFrom_fault_eq_none_iff

/-- What is decoded behind some characters. -/
theorem append_fst_eq_iff {ε : Type} {p : List Char × Option ε} {front cs : List Char} :
    (front ++ p.1, p.2) = (cs, none) ↔ ∃ more, p = (more, none) ∧ front ++ more = cs := by
  obtain ⟨more, fault⟩ := p
  simp only [Prod.mk.injEq]
  constructor
  · rintro ⟨hcs, hfault⟩
    exact ⟨more, ⟨rfl, hfault⟩, hcs⟩
  · rintro ⟨_, ⟨rfl, hfault⟩, hcs⟩
    exact ⟨hcs, hfault⟩

/-- Behind a text, bytes make a longer text if they are one. -/
theorem encode_append_eq_iff {front cs : List Char} {rest : List UInt8} :
    encode front ++ rest = encode cs ↔ ∃ more, rest = encode more ∧ front ++ more = cs := by
  rw [← decodeFrom_eq_ok_iff (p := 0), decodeFrom_encode_append, append_fst_eq_iff]
  simp only [decodeFrom_eq_ok_iff]

end

end Utf8

/-! ## Streams -/

namespace Stream

open Utf8

/-- Cut into blocks, bytes are decoded to a text just if they are its bytes, together with what the
block before has left over. -/
theorem decodeFrom_eq_ok_iff {held bytes : List UInt8} {fuel : Nat} {cs : List Char}
    (hfuel : bytes.length + 8192 ≤ 8192 * fuel) :
    decodeFrom held fuel bytes = (cs, none) ↔ held ++ bytes = encode cs := by
  induction fuel generalizing held bytes cs with
  | zero => omega
  | succ fuel ih =>
    have hbytes : bytes = bytes.take blockSize ++ bytes.drop blockSize :=
      (List.take_append_drop blockSize bytes).symm
    have hempty : bytes.take blockSize = [] → bytes.drop blockSize = [] := by
      intro h
      have hnil : bytes = [] := by simpa [blockSize] using h
      rw [hnil, List.drop_nil]
    have hrest : bytes.take blockSize ≠ [] →
        (bytes.drop blockSize).length + 8192 ≤ 8192 * fuel := by
      intro h
      have hpos : bytes.length ≠ 0 := fun hzero => h (by simp [List.eq_nil_of_length_eq_zero hzero])
      rw [List.length_drop, blockSize]
      omega
    unfold decodeFrom
    generalize bytes.take blockSize = block at hbytes hempty hrest ⊢
    generalize bytes.drop blockSize = more at hbytes hempty hrest ⊢
    obtain ⟨front, rest, hsplit, hends⟩ := Utf8.decodeFrom_split 0 (held ++ block)
    rw [hbytes, ← List.append_assoc, hsplit, List.append_assoc, encode_append_eq_iff]
    obtain ⟨hdecode, rfl⟩ | ⟨f, hdecode, hposition, hstays⟩ := hends
    · simp only [Utf8.decode, hdecode]
      by_cases hblock : block = []
      · have hnil {ds : List Char} : [] = encode ds ↔ ds = [] := by
          rw [← Utf8.decodeFrom_eq_ok_iff (p := 0), Utf8.decodeFrom]
          simp [eq_comm]
        simp [hblock, hempty hblock, hnil]
      · simp only [List.isEmpty_iff, if_neg hblock, append_fst_eq_iff, ih (hrest hblock)]
    · simp only [Utf8.decode, hdecode]
      split
      next hmay =>
        -- the bytes that are left over belong to the next block
        have hblock : block ≠ [] := by
          rintro rfl
          cases hmay
        have hheld : (held ++ block).drop f.position = rest := by
          rw [hsplit, hposition, Nat.zero_add, List.drop_left]
        simp only [hheld, append_fst_eq_iff, ih (hrest hblock)]
      next hnot =>
        refine iff_of_false (by simp) ?_
        rintro ⟨ds, htext, -⟩
        by_cases hblock : block = []
        · have hwhole : held ++ block = encode (front ++ ds) := by
            rw [hsplit, encode_append, ← htext, hempty hblock, List.append_nil]
          rw [← Utf8.decodeFrom_eq_ok_iff (p := 0), hdecode] at hwhole
          cases congrArg Prod.snd hwhole
        · refine hstays (fun hdefect => hnot ?_) more ⟨ds, htext⟩
          simp [hblock, Fault.mayComplete, hdefect]

theorem decode_eq_ok_iff {bytes : List UInt8} {cs : List Char} :
    decode bytes = (cs, none) ↔ bytes = encode cs :=
  decodeFrom_eq_ok_iff (by omega : bytes.length + 8192 ≤ 8192 * (bytes.length / 8192 + 2))

theorem lines_encode (cs : List Char) :
    lines (encode cs) = (Text.lines (unifyNewlines cs), none) := by
  rw [lines, decode_eq_ok_iff.2 rfl]

theorem lines_fault_eq_none_iff {bytes : List UInt8} : (lines bytes).2 = none ↔ IsText bytes := by
  constructor
  · intro h
    rw [lines] at h
    split at h
    next cs hcs => exact ⟨cs, decode_eq_ok_iff.1 hcs⟩
    next => cases h
  · rintro ⟨cs, rfl⟩
    rw [lines_encode]

/-- The lines of a stream that is written line by line are those that were written. -/
theorem lines_encode_flatMap {ls : List (List Char)} (h : ∀ l ∈ ls, '\n' ∉ l ∧ '\r' ∉ l) :
    lines (encode (ls.flatMap (· ++ ['\n']))) = (ls, none) := by
  have hreturn : '\r' ∉ ls.flatMap (· ++ ['\n']) := by
    intro hmem
    obtain ⟨l, hl, hreturn⟩ := List.mem_flatMap.1 hmem
    exact (h l hl).2 (by simpa using hreturn)
  rw [lines_encode, unifyNewlines_of_notMem hreturn, lines_flatMap fun l hl => (h l hl).1]

end Stream

end Earley.Text
