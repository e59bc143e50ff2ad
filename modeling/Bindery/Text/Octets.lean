/-!
# Texts as bytes

Programs that were made for bytes see a text as the bytes of its UTF-8 form. Here such a sequence
of bytes is a string too, each byte being the character of its number. `encode` gives the bytes of
a text, `decode` the text of bytes; bytes that are no UTF-8 are shown one by one.
-/

namespace Bindery.Text.Octets

/-- Bytes as characters. -/
def ofBytes (bytes : ByteArray) : String :=
  bytes.foldl (fun s b => s.push (Char.ofNat b.toNat)) ""

/-- The bytes that characters below 256 stand for. -/
def toBytes (s : String) : ByteArray :=
  s.foldl (fun bytes c => bytes.push (UInt8.ofNat c.toNat)) .empty

/-- The bytes of a text, as characters. -/
def encode (s : String) : String := ofBytes s.toUTF8

/-- The text of bytes. -/
def decode (s : String) : String := (String.fromUTF8? (toBytes s)).getD s

/-! ## Texts with gaps -/

/-- The ranges in which the bytes after a first one must be. -/
def continuations (first : UInt8) : List (UInt8 × UInt8) :=
  let plain : UInt8 × UInt8 := (0x80, 0xbf)
  if first < 0xc2 then []
  else if first < 0xe0 then [plain]
  else if first = 0xe0 then [(0xa0, 0xbf), plain]
  else if first = 0xed then [(0x80, 0x9f), plain]
  else if first < 0xf0 then [plain, plain]
  else if first = 0xf0 then [(0x90, 0xbf), plain, plain]
  else if first < 0xf4 then [plain, plain, plain]
  else if first = 0xf4 then [(0x80, 0x8f), plain, plain]
  else []

/-- How many bytes at the front are in the ranges, one after the other. -/
def matching : List (UInt8 × UInt8) → List UInt8 → Nat
  | (low, high) :: ranges, b :: bytes =>
    if low ≤ b && b ≤ high then matching ranges bytes + 1 else 0
  | _, _ => 0

/-- The bytes of a text in pieces, each of one character, or of none if it is no UTF-8. -/
def pieces : Nat → List UInt8 → List (List UInt8 × Bool) → List (List UInt8 × Bool)
  | 0, _, done | _, [], done => done.reverse
  | fuel + 1, b :: bytes, done =>
    if b < 0x80 then pieces fuel bytes (([b], true) :: done)
    else
      let ranges := continuations b
      let count := matching ranges bytes
      let isWhole := !ranges.isEmpty && count = ranges.length
      pieces fuel (bytes.drop count) ((b :: bytes.take count, isWhole) :: done)

/-- The text of bytes, with a mark in the place of each part that is no UTF-8. -/
def lossy (bytes : ByteArray) : String :=
  match String.fromUTF8? bytes with
  | some text => text
  | none =>
    let parts := pieces bytes.size bytes.toList []
    let mark := "\uFFFD".toUTF8
    let text := parts.foldl (fun (text : ByteArray) (piece, isWhole) =>
      text ++ if isWhole then piece.toByteArray else mark) .empty
    (String.fromUTF8? text).getD ""

end Bindery.Text.Octets
