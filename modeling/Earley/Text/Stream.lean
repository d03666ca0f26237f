/-
Earley.Text.Stream — the lines of bytes that arrive in blocks.

A stream is decoded block by block. A block with a byte that cannot be decoded yields nothing; a
sequence that a block breaks off is completed by the next block. A line is delivered as soon as its
end has been decoded, so that a fault in a later block does not take back the lines before it.
-/
import Earley.Text.Digit
import Earley.Text.Line
import Earley.Text.Utf8

namespace Earley.Text

namespace Utf8

/-- Whether a fault may go away when more bytes arrive: the bytes end within a sequence. The two
bytes that begin the form of a surrogate count as such a beginning, although no byte completes
it. -/
def Fault.mayComplete (f : Fault) (bytes : List UInt8) : Bool :=
  f.defect == .endOfData ||
    (f.defect == .continuationByte && f.bytes == [0xED] && f.position + 2 == bytes.length)

/-- The words for a defect. -/
def Defect.message : Defect → String
  | .startByte => "invalid start byte"
  | .continuationByte => "invalid continuation byte"
  | .endOfData => "unexpected end of data"

/-- The message for a fault. -/
def Fault.message (f : Fault) : String :=
  let place := match f.bytes with
    | [b] => "byte 0x" ++ String.ofList (hexDigits 2 b.toNat) ++ " in position " ++
        toString f.position
    | bytes => "bytes in position " ++ toString f.position ++ "-" ++
        toString (f.position + bytes.length - 1)
  "'utf-8' codec can't decode " ++ place ++ ": " ++ f.defect.message

end Utf8

namespace Stream

/-- The number of bytes in a block. -/
def blockSize : Nat := 8192

/-- The characters of the blocks of some bytes, as far as they can be decoded, and the fault that
stopped the decoding. `held` are the bytes of a sequence that the block before broke off. The fuel
bounds the number of blocks. -/
def decodeFrom (held : List UInt8) :
    (fuel : Nat) → (bytes : List UInt8) → List Char × Option Utf8.Fault
  | 0, _ => ([], none)
  | fuel + 1, bytes =>
    let block := bytes.take blockSize
    let pending := held ++ block
    match Utf8.decode pending with
    | (cs, none) =>
      if block.isEmpty then (cs, none)
      else
        let (more, fault) := decodeFrom [] fuel (bytes.drop blockSize)
        (cs ++ more, fault)
    | (cs, some f) =>
      if !block.isEmpty && f.mayComplete pending then
        let (more, fault) :=
          decodeFrom (pending.drop f.position) fuel (bytes.drop blockSize)
        (cs ++ more, fault)
      else ([], some f)

/-- The characters that can be decoded, and the fault that stopped the decoding. One block more
than the bytes fill is needed to notice the end. -/
def decode (bytes : List UInt8) : List Char × Option Utf8.Fault :=
  decodeFrom [] (bytes.length / blockSize + 2) bytes

/-- A carriage return at the end of what has been decoded does not end a line yet, for a line feed
may follow. -/
def withoutPending (cs : List Char) : List Char :=
  if cs.getLast? = some '\r' then cs.dropLast else cs

/-- The lines of a stream, and the fault that ended it. After a fault the line that was not
complete is lost. -/
def lines (bytes : List UInt8) : List (List Char) × Option Utf8.Fault :=
  match decode bytes with
  | (cs, none) => (Text.lines (unifyNewlines cs), none)
  | (cs, some f) => ((splitLines (unifyNewlines (withoutPending cs))).1, some f)

end Stream

end Earley.Text
