/-!
# Digests

Digests take bytes in blocks of sixteen words. After the last byte stands a bit by itself, and the
last words hold the number of bits. `Bindery.Digest.Md5` stirs four words with the words of each
block in four rounds of sixteen steps, the low byte of a word being first. The others have the high
byte first, and stir with words that each block is drawn out to: five words with 80 of them
(`Bindery.Digest.Sha1`), eight words of 32 bits with 64 (`Bindery.Digest.Sha256`), or eight words of
64 bits with 80 (`Bindery.Digest.Sha512`). `Bindery.Digest.Checksum` has the sums over bytes: a
remainder of a division of polynomials, over the bytes and then their number, and two plain sums.
-/

/-! ## Blocks -/

namespace Bindery.Digest

def turnLeft (x : UInt32) (n : UInt32) : UInt32 := (x <<< n) ||| (x >>> (32 - n))

def turnRight (x : UInt32) (n : UInt32) : UInt32 := (x >>> n) ||| (x <<< (32 - n))

def turnRight64 (x : UInt64) (n : UInt64) : UInt64 := (x >>> n) ||| (x <<< (64 - n))

/-- So many bytes of a number, the high one first. -/
def bytesOf : Nat → Nat → List UInt8
  | 0, _ => []
  | count + 1, n => bytesOf count (n / 256) ++ [UInt8.ofNat (n % 256)]

/-- Bytes in hexadecimal digits. -/
def hexOf (bytes : List UInt8) : String :=
  let digit (n : Nat) : Char := Nat.digitChar n
  bytes.foldl (fun text b => (text.push (digit (b.toNat / 16))).push (digit (b.toNat % 16))) ""

/-- Bytes with the bit after them, and their number in so many bytes, in blocks of a size. -/
def padded (bytes : ByteArray) (block width : Nat) (highFirst : Bool) : ByteArray :=
  let filled := (bytes.size + 1 + width) % block
  let gap := if filled = 0 then 0 else block - filled
  let number := bytesOf width (8 * bytes.size)
  let number := if highFirst then number else number.reverse
  bytes.push 0x80 ++ (List.replicate gap (0 : UInt8)).toByteArray ++ number.toByteArray

/-- The number that so many bytes from a place on make up. -/
def wordAt (bytes : ByteArray) (highFirst : Bool) (place width : Nat) : Nat :=
  (List.range width).foldl (fun n i =>
    let k := if highFirst then i else width - 1 - i
    n * 256 + ((bytes[place + k]?).getD 0).toNat) 0

/-- The blocks of bytes, each of sixteen words of four bytes. -/
def blocks32 (highFirst : Bool) (bytes : ByteArray) : List (Array UInt32) :=
  let all := padded bytes 64 8 highFirst
  (List.range (all.size / 64)).map fun i =>
    ((List.range 16).map fun j =>
      UInt32.ofNat (wordAt all highFirst (64 * i + 4 * j) 4)).toArray

/-- The blocks of bytes, each of sixteen words of eight bytes. -/
def blocks64 (bytes : ByteArray) : List (Array UInt64) :=
  let all := padded bytes 128 16 true
  (List.range (all.size / 128)).map fun i =>
    ((List.range 16).map fun j => UInt64.ofNat (wordAt all true (128 * i + 8 * j) 8)).toArray

end Bindery.Digest

/-! ## Sums over bytes -/

namespace Bindery.Digest.Checksum

/-- A remainder and the next eight bits. -/
def divide (crc : UInt32) (b : UInt8) : UInt32 :=
  (List.range 8).foldl (fun x _ =>
    if x &&& 0x80000000 != 0 then (x <<< 1) ^^^ 0x04c11db7 else x <<< 1)
    (crc ^^^ (b.toUInt32 <<< 24))

/-- The bytes of a number, the low one first, without zeros at the end. -/
def lengthBytes : Nat → Nat → List UInt8
  | 0, _ | _, 0 => []
  | fuel + 1, n => UInt8.ofNat (n % 256) :: lengthBytes fuel (n / 256)

/-- The remainder of bytes and their number. -/
def crc (bytes : ByteArray) : Nat :=
  let body := bytes.foldl divide 0
  (~~~((lengthBytes 16 bytes.size).foldl divide body)).toNat

/-- The sum of bytes, turned by a bit before each of them, in 16 bits. -/
def turned (bytes : ByteArray) : Nat :=
  bytes.foldl (fun sum b =>
    ((sum / 2 + if sum % 2 = 1 then 0x8000 else 0) + b.toNat) % 0x10000) 0

/-- The sum of bytes, folded into 16 bits. -/
def plain (bytes : ByteArray) : Nat :=
  let sum := bytes.foldl (fun sum b => (sum + b.toNat) % 0x100000000) 0
  let folded := sum % 0x10000 + sum / 0x10000
  folded % 0x10000 + folded / 0x10000

end Bindery.Digest.Checksum

/-! ## A digest of 128 bits -/

namespace Bindery.Digest.Md5

/-- What is added in each step: the sines of 1 to 64, as parts of 2 to the power of 32. -/
def sines : Array UInt32 :=
  #[
    0xd76aa478, 0xe8c7b756, 0x242070db, 0xc1bdceee, 0xf57c0faf, 0x4787c62a, 0xa8304613,
    0xfd469501, 0x698098d8, 0x8b44f7af, 0xffff5bb1, 0x895cd7be, 0x6b901122, 0xfd987193,
    0xa679438e, 0x49b40821, 0xf61e2562, 0xc040b340, 0x265e5a51, 0xe9b6c7aa, 0xd62f105d,
    0x02441453, 0xd8a1e681, 0xe7d3fbc8, 0x21e1cde6, 0xc33707d6, 0xf4d50d87, 0x455a14ed,
    0xa9e3e905, 0xfcefa3f8, 0x676f02d9, 0x8d2a4c8a, 0xfffa3942, 0x8771f681, 0x6d9d6122,
    0xfde5380c, 0xa4beea44, 0x4bdecfa9, 0xf6bb4b60, 0xbebfbc70, 0x289b7ec6, 0xeaa127fa,
    0xd4ef3085, 0x04881d05, 0xd9d4d039, 0xe6db99e5, 0x1fa27cf8, 0xc4ac5665, 0xf4292244,
    0x432aff97, 0xab9423a7, 0xfc93a039, 0x655b59c3, 0x8f0ccc92, 0xffeff47d, 0x85845dd1,
    0x6fa87e4f, 0xfe2ce6e0, 0xa3014314, 0x4e0811a1, 0xf7537e82, 0xbd3af235, 0x2ad7d2bb,
    0xeb86d391]

/-- How far words are turned in each round. -/
def turns : List (List UInt32) :=
  [[7, 12, 17, 22], [5, 9, 14, 20], [4, 11, 16, 23], [6, 10, 15, 21]]

/-- The four words. -/
structure State where
  a : UInt32 := 0x67452301
  b : UInt32 := 0xefcdab89
  c : UInt32 := 0x98badcfe
  d : UInt32 := 0x10325476

/-- One step with a word of the block. -/
def State.step (words : Array UInt32) (s : State) (i : Nat) : State :=
  let (mixed, word) := match i / 16 with
    | 0 => ((s.b &&& s.c) ||| (~~~s.b &&& s.d), i)
    | 1 => ((s.d &&& s.b) ||| (~~~s.d &&& s.c), (5 * i + 1) % 16)
    | 2 => (s.b ^^^ s.c ^^^ s.d, (3 * i + 5) % 16)
    | _ => (s.c ^^^ (s.b ||| ~~~s.d), (7 * i) % 16)
  let sum := s.a + mixed + sines.getD i 0 + words.getD word 0
  let turn := ((turns.getD (i / 16) []).getD (i % 4) 0)
  { a := s.d, b := s.b + turnLeft sum turn, c := s.b, d := s.c }

/-- Takes a block in. -/
def State.take (s : State) (words : Array UInt32) : State :=
  let after := (List.range 64).foldl (State.step words) s
  { a := s.a + after.a, b := s.b + after.b, c := s.c + after.c, d := s.d + after.d }

/-- The digest of bytes, in hexadecimal digits. -/
def hex (bytes : ByteArray) : String :=
  let s := (blocks32 false bytes).foldl State.take {}
  hexOf ([s.a, s.b, s.c, s.d].flatMap fun word => (bytesOf 4 word.toNat).reverse)

end Bindery.Digest.Md5

/-! ## A digest of 160 bits -/

namespace Bindery.Digest.Sha1

/-- The five words. -/
structure State where
  a : UInt32 := 0x67452301
  b : UInt32 := 0xefcdab89
  c : UInt32 := 0x98badcfe
  d : UInt32 := 0x10325476
  e : UInt32 := 0xc3d2e1f0

/-- The words that a block is drawn out to. -/
def drawn (words : Array UInt32) : Array UInt32 :=
  (List.range 64).foldl (fun w i =>
    let at_ (k : Nat) : UInt32 := w.getD k 0
    w.push (turnLeft (at_ (i + 13) ^^^ at_ (i + 8) ^^^ at_ (i + 2) ^^^ at_ i) 1)) words

/-- One step with a word. -/
def State.step (words : Array UInt32) (s : State) (i : Nat) : State :=
  let (mixed, constant) : UInt32 × UInt32 := match i / 20 with
    | 0 => ((s.b &&& s.c) ||| (~~~s.b &&& s.d), 0x5a827999)
    | 1 => (s.b ^^^ s.c ^^^ s.d, 0x6ed9eba1)
    | 2 => ((s.b &&& s.c) ||| (s.b &&& s.d) ||| (s.c &&& s.d), 0x8f1bbcdc)
    | _ => (s.b ^^^ s.c ^^^ s.d, 0xca62c1d6)
  { a := turnLeft s.a 5 + mixed + s.e + constant + words.getD i 0
    b := s.a, c := turnLeft s.b 30, d := s.c, e := s.d }

/-- Takes a block in. -/
def State.take (s : State) (words : Array UInt32) : State :=
  let after := (List.range 80).foldl (State.step (drawn words)) s
  { a := s.a + after.a, b := s.b + after.b, c := s.c + after.c, d := s.d + after.d
    e := s.e + after.e }

/-- The digest of bytes, in hexadecimal digits. -/
def hex (bytes : ByteArray) : String :=
  let s := (blocks32 true bytes).foldl State.take {}
  hexOf ([s.a, s.b, s.c, s.d, s.e].flatMap fun word => bytesOf 4 word.toNat)

end Bindery.Digest.Sha1

/-! ## Digests of 256 and 224 bits -/

namespace Bindery.Digest.Sha256

/-- What is added in each step: the places after the point of the cube roots of the first primes. -/
def roots : Array UInt32 :=
  #[
    0x428a2f98, 0x71374491, 0xb5c0fbcf, 0xe9b5dba5, 0x3956c25b, 0x59f111f1, 0x923f82a4, 0xab1c5ed5,
    0xd807aa98, 0x12835b01, 0x243185be, 0x550c7dc3, 0x72be5d74, 0x80deb1fe, 0x9bdc06a7, 0xc19bf174,
    0xe49b69c1, 0xefbe4786, 0x0fc19dc6, 0x240ca1cc, 0x2de92c6f, 0x4a7484aa, 0x5cb0a9dc, 0x76f988da,
    0x983e5152, 0xa831c66d, 0xb00327c8, 0xbf597fc7, 0xc6e00bf3, 0xd5a79147, 0x06ca6351, 0x14292967,
    0x27b70a85, 0x2e1b2138, 0x4d2c6dfc, 0x53380d13, 0x650a7354, 0x766a0abb, 0x81c2c92e, 0x92722c85,
    0xa2bfe8a1, 0xa81a664b, 0xc24b8b70, 0xc76c51a3, 0xd192e819, 0xd6990624, 0xf40e3585, 0x106aa070,
    0x19a4c116, 0x1e376c08, 0x2748774c, 0x34b0bcb5, 0x391c0cb3, 0x4ed8aa4a, 0x5b9cca4f, 0x682e6ff3,
    0x748f82ee, 0x78a5636f, 0x84c87814, 0x8cc70208, 0x90befffa, 0xa4506ceb, 0xbef9a3f7, 0xc67178f2]

/-- The words at the start of a digest of 256 bits. -/
def start256 : Array UInt32 :=
  #[
    0x6a09e667, 0xbb67ae85, 0x3c6ef372, 0xa54ff53a, 0x510e527f, 0x9b05688c, 0x1f83d9ab, 0x5be0cd19]

/-- The words at the start of a digest of 224 bits. -/
def start224 : Array UInt32 :=
  #[
    0xc1059ed8, 0x367cd507, 0x3070dd17, 0xf70e5939, 0xffc00b31, 0x68581511, 0x64f98fa7, 0xbefa4fa4]

/-- The words that a block is drawn out to. -/
def drawn (words : Array UInt32) : Array UInt32 :=
  (List.range 48).foldl (fun w i =>
    let at_ (k : Nat) : UInt32 := w.getD k 0
    let x := at_ (i + 1)
    let y := at_ (i + 14)
    let first := turnRight x 7 ^^^ turnRight x 18 ^^^ (x >>> 3)
    let second := turnRight y 17 ^^^ turnRight y 19 ^^^ (y >>> 10)
    w.push (at_ i + first + at_ (i + 9) + second)) words

/-- One step of the eight words with a word of the block. -/
def step (words : Array UInt32) (s : Array UInt32) (i : Nat) : Array UInt32 :=
  let at_ (k : Nat) : UInt32 := s.getD k 0
  let a := at_ 0
  let e := at_ 4
  let turnedE := turnRight e 6 ^^^ turnRight e 11 ^^^ turnRight e 25
  let chosen := (e &&& at_ 5) ^^^ (~~~e &&& at_ 6)
  let one := at_ 7 + turnedE + chosen + roots.getD i 0 + words.getD i 0
  let turnedA := turnRight a 2 ^^^ turnRight a 13 ^^^ turnRight a 22
  let most := (a &&& at_ 1) ^^^ (a &&& at_ 2) ^^^ (at_ 1 &&& at_ 2)
  #[one + turnedA + most, a, at_ 1, at_ 2, at_ 3 + one, e, at_ 5, at_ 6]

/-- Takes a block in. -/
def take (s words : Array UInt32) : Array UInt32 :=
  let after := (List.range 64).foldl (step (drawn words)) s
  s.zipWith (· + ·) after

/-- The digest of bytes, in so many bytes as hexadecimal digits. -/
def hex (start : Array UInt32) (size : Nat) (bytes : ByteArray) : String :=
  let s := (blocks32 true bytes).foldl take start
  hexOf ((s.toList.flatMap fun word => bytesOf 4 word.toNat).take size)

end Bindery.Digest.Sha256

/-! ## Digests of 512 and 384 bits -/

namespace Bindery.Digest.Sha512

/-- What is added in each step: the places after the point of the cube roots of the first primes. -/
def roots : Array UInt64 :=
  #[
    0x428a2f98d728ae22, 0x7137449123ef65cd, 0xb5c0fbcfec4d3b2f, 0xe9b5dba58189dbbc,
    0x3956c25bf348b538, 0x59f111f1b605d019, 0x923f82a4af194f9b, 0xab1c5ed5da6d8118,
    0xd807aa98a3030242, 0x12835b0145706fbe, 0x243185be4ee4b28c, 0x550c7dc3d5ffb4e2,
    0x72be5d74f27b896f, 0x80deb1fe3b1696b1, 0x9bdc06a725c71235, 0xc19bf174cf692694,
    0xe49b69c19ef14ad2, 0xefbe4786384f25e3, 0x0fc19dc68b8cd5b5, 0x240ca1cc77ac9c65,
    0x2de92c6f592b0275, 0x4a7484aa6ea6e483, 0x5cb0a9dcbd41fbd4, 0x76f988da831153b5,
    0x983e5152ee66dfab, 0xa831c66d2db43210, 0xb00327c898fb213f, 0xbf597fc7beef0ee4,
    0xc6e00bf33da88fc2, 0xd5a79147930aa725, 0x06ca6351e003826f, 0x142929670a0e6e70,
    0x27b70a8546d22ffc, 0x2e1b21385c26c926, 0x4d2c6dfc5ac42aed, 0x53380d139d95b3df,
    0x650a73548baf63de, 0x766a0abb3c77b2a8, 0x81c2c92e47edaee6, 0x92722c851482353b,
    0xa2bfe8a14cf10364, 0xa81a664bbc423001, 0xc24b8b70d0f89791, 0xc76c51a30654be30,
    0xd192e819d6ef5218, 0xd69906245565a910, 0xf40e35855771202a, 0x106aa07032bbd1b8,
    0x19a4c116b8d2d0c8, 0x1e376c085141ab53, 0x2748774cdf8eeb99, 0x34b0bcb5e19b48a8,
    0x391c0cb3c5c95a63, 0x4ed8aa4ae3418acb, 0x5b9cca4f7763e373, 0x682e6ff3d6b2b8a3,
    0x748f82ee5defb2fc, 0x78a5636f43172f60, 0x84c87814a1f0ab72, 0x8cc702081a6439ec,
    0x90befffa23631e28, 0xa4506cebde82bde9, 0xbef9a3f7b2c67915, 0xc67178f2e372532b,
    0xca273eceea26619c, 0xd186b8c721c0c207, 0xeada7dd6cde0eb1e, 0xf57d4f7fee6ed178,
    0x06f067aa72176fba, 0x0a637dc5a2c898a6, 0x113f9804bef90dae, 0x1b710b35131c471b,
    0x28db77f523047d84, 0x32caab7b40c72493, 0x3c9ebe0a15c9bebc, 0x431d67c49c100d4c,
    0x4cc5d4becb3e42b6, 0x597f299cfc657e2a, 0x5fcb6fab3ad6faec, 0x6c44198c4a475817]

/-- The words at the start of a digest of 512 bits. -/
def start512 : Array UInt64 :=
  #[
    0x6a09e667f3bcc908, 0xbb67ae8584caa73b, 0x3c6ef372fe94f82b, 0xa54ff53a5f1d36f1,
    0x510e527fade682d1, 0x9b05688c2b3e6c1f, 0x1f83d9abfb41bd6b, 0x5be0cd19137e2179]

/-- The words at the start of a digest of 384 bits. -/
def start384 : Array UInt64 :=
  #[
    0xcbbb9d5dc1059ed8, 0x629a292a367cd507, 0x9159015a3070dd17, 0x152fecd8f70e5939,
    0x67332667ffc00b31, 0x8eb44a8768581511, 0xdb0c2e0d64f98fa7, 0x47b5481dbefa4fa4]

/-- The words that a block is drawn out to. -/
def drawn (words : Array UInt64) : Array UInt64 :=
  (List.range 64).foldl (fun w i =>
    let at_ (k : Nat) : UInt64 := w.getD k 0
    let x := at_ (i + 1)
    let y := at_ (i + 14)
    let first := turnRight64 x 1 ^^^ turnRight64 x 8 ^^^ (x >>> 7)
    let second := turnRight64 y 19 ^^^ turnRight64 y 61 ^^^ (y >>> 6)
    w.push (at_ i + first + at_ (i + 9) + second)) words

/-- One step of the eight words with a word of the block. -/
def step (words : Array UInt64) (s : Array UInt64) (i : Nat) : Array UInt64 :=
  let at_ (k : Nat) : UInt64 := s.getD k 0
  let a := at_ 0
  let e := at_ 4
  let turnedE := turnRight64 e 14 ^^^ turnRight64 e 18 ^^^ turnRight64 e 41
  let chosen := (e &&& at_ 5) ^^^ (~~~e &&& at_ 6)
  let one := at_ 7 + turnedE + chosen + roots.getD i 0 + words.getD i 0
  let turnedA := turnRight64 a 28 ^^^ turnRight64 a 34 ^^^ turnRight64 a 39
  let most := (a &&& at_ 1) ^^^ (a &&& at_ 2) ^^^ (at_ 1 &&& at_ 2)
  #[one + turnedA + most, a, at_ 1, at_ 2, at_ 3 + one, e, at_ 5, at_ 6]

/-- Takes a block in. -/
def take (s words : Array UInt64) : Array UInt64 :=
  let after := (List.range 80).foldl (step (drawn words)) s
  s.zipWith (· + ·) after

/-- The digest of bytes, in so many bytes as hexadecimal digits. -/
def hex (start : Array UInt64) (size : Nat) (bytes : ByteArray) : String :=
  let s := (blocks64 bytes).foldl take start
  hexOf ((s.toList.flatMap fun word => bytesOf 8 word.toNat).take size)

end Bindery.Digest.Sha512
