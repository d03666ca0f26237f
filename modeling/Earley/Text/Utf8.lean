/-
Earley.Text.Utf8 — bytes read as UTF-8.

`Utf8.decode` reads as far as the bytes are well formed and says why it stopped. A sequence that
the bytes break off in the middle of is told apart from one that no further byte can complete, so
that a text that arrives in blocks can be decoded block by block.
-/
namespace Earley.Text

namespace Utf8

/-- Why bytes are no UTF-8. -/
inductive Defect where
  /-- A byte that begins no sequence. -/
  | startByte
  /-- A sequence with a byte that may not stand there. -/
  | continuationByte
  /-- A sequence that the end of the bytes cuts off. -/
  | endOfData
  deriving DecidableEq, Repr

/-- A defect, where it begins, and the well-formed bytes of the sequence it spoils. -/
structure Fault where
  defect : Defect
  position : Nat
  bytes : List UInt8
  deriving DecidableEq, Repr

/-- A byte between `lo` and `hi`. -/
def isBetween (lo hi : UInt8) (b : UInt8) : Bool := decide (lo ≤ b) && decide (b ≤ hi)

/-- What a first byte announces: the bits it contributes, and the bounds of each byte that has to
follow. The narrower second bounds shut out overlong forms, surrogates and code points beyond
U+10FFFF. -/
def lead? (b : UInt8) : Option (Nat × List (UInt8 × UInt8)) :=
  let n := b.toNat
  if n < 0x80 then some (n, [])
  else if n < 0xC2 then none
  else if n < 0xE0 then some (n - 0xC0, [(0x80, 0xBF)])
  else if n == 0xE0 then some (0, [(0xA0, 0xBF), (0x80, 0xBF)])
  else if n == 0xED then some (0xD, [(0x80, 0x9F), (0x80, 0xBF)])
  else if n < 0xF0 then some (n - 0xE0, [(0x80, 0xBF), (0x80, 0xBF)])
  else if n == 0xF0 then some (0, [(0x90, 0xBF), (0x80, 0xBF), (0x80, 0xBF)])
  else if n < 0xF4 then some (n - 0xF0, [(0x80, 0xBF), (0x80, 0xBF), (0x80, 0xBF)])
  else if n == 0xF4 then some (4, [(0x80, 0x8F), (0x80, 0xBF), (0x80, 0xBF)])
  else none

/-- How the bytes after a first byte go on. -/
inductive Tail where
  /-- All of them are there; together they give this code point. -/
  | complete (codePoint : Nat)
  /-- Byte number `index` of them, counted from 0, may not stand there. -/
  | broken (index : Nat)
  /-- The bytes end first. -/
  | cutOff
  deriving DecidableEq, Repr

/-- Follows a sequence: `value` is the code point as far as it is known. -/
def tail (value : Nat) : List (UInt8 × UInt8) → List UInt8 → Tail
  | [], _ => .complete value
  | _ :: _, [] => .cutOff
  | (lo, hi) :: bounds, b :: bs =>
    if isBetween lo hi b then
      match tail (value * 0x40 + (b.toNat - 0x80)) bounds bs with
      | .broken k => .broken (k + 1)
      | t => t
    else .broken 0

/-- The characters before the first fault, and the fault if there is one. Positions count from
`position`. -/
def decodeFrom (position : Nat) (bytes : List UInt8) : List Char × Option Fault :=
  match bytes with
  | [] => ([], none)
  | b :: bs =>
    match lead? b with
    | none => ([], some ⟨.startByte, position, [b]⟩)
    | some (value, bounds) =>
      match tail value bounds bs with
      | .complete n =>
        let (cs, fault) := decodeFrom (position + 1 + bounds.length) (bs.drop bounds.length)
        (Char.ofNat n :: cs, fault)
      | .broken k => ([], some ⟨.continuationByte, position, b :: bs.take k⟩)
      | .cutOff => ([], some ⟨.endOfData, position, b :: bs⟩)
  termination_by bytes.length
  decreasing_by simp only [List.length_drop, List.length_cons]; omega

/-- The characters before the first fault, and the fault if there is one. -/
def decode (bytes : List UInt8) : List Char × Option Fault := decodeFrom 0 bytes

end Utf8

end Earley.Text
