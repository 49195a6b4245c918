set_option relaxedAutoImplicit false
set_option autoImplicit false

/-!
# A 256-bit digest

The secure hash with 32-bit words and a 256-bit state: the message is padded to blocks of 64
bytes, every block is stretched to 64 words, and each word drives one round over eight registers.

## Main definitions

* `QueryGate.Digest.sha256` — the digest of a list of bytes.
* `QueryGate.Digest.hex` — bytes in lower-case hexadecimal.
-/

namespace QueryGate.Digest

/-- The eight registers. -/
structure Registers where
  a : UInt32
  b : UInt32
  c : UInt32
  d : UInt32
  e : UInt32
  f : UInt32
  g : UInt32
  h : UInt32

/-- The registers before the first block. -/
def Registers.start : Registers :=
  ⟨0x6a09e667, 0xbb67ae85, 0x3c6ef372, 0xa54ff53a, 0x510e527f, 0x9b05688c, 0x1f83d9ab,
    0x5be0cd19⟩

/-- The round constants. -/
def roundConstants : List UInt32 := [
  0x428a2f98, 0x71374491, 0xb5c0fbcf, 0xe9b5dba5, 0x3956c25b, 0x59f111f1, 0x923f82a4, 0xab1c5ed5,
  0xd807aa98, 0x12835b01, 0x243185be, 0x550c7dc3, 0x72be5d74, 0x80deb1fe, 0x9bdc06a7, 0xc19bf174,
  0xe49b69c1, 0xefbe4786, 0x0fc19dc6, 0x240ca1cc, 0x2de92c6f, 0x4a7484aa, 0x5cb0a9dc, 0x76f988da,
  0x983e5152, 0xa831c66d, 0xb00327c8, 0xbf597fc7, 0xc6e00bf3, 0xd5a79147, 0x06ca6351, 0x14292967,
  0x27b70a85, 0x2e1b2138, 0x4d2c6dfc, 0x53380d13, 0x650a7354, 0x766a0abb, 0x81c2c92e, 0x92722c85,
  0xa2bfe8a1, 0xa81a664b, 0xc24b8b70, 0xc76c51a3, 0xd192e819, 0xd6990624, 0xf40e3585, 0x106aa070,
  0x19a4c116, 0x1e376c08, 0x2748774c, 0x34b0bcb5, 0x391c0cb3, 0x4ed8aa4a, 0x5b9cca4f, 0x682e6ff3,
  0x748f82ee, 0x78a5636f, 0x84c87814, 0x8cc70208, 0x90befffa, 0xa4506ceb, 0xbef9a3f7, 0xc67178f2]

/-- A word turned right by `n` bits, for `n` from 1 to 31. -/
def turn (x : UInt32) (n : UInt32) : UInt32 := (x >>> n) ||| (x <<< (32 - n))

/-- The words of a block, stretched to `n` words; the window holds the next sixteen. -/
def stretch : Nat → List UInt32 → List UInt32
  | 0, _ => []
  | n + 1, window =>
    let w0 := window.getD 0 0
    let w1 := window.getD 1 0
    let w9 := window.getD 9 0
    let w14 := window.getD 14 0
    let s0 := turn w1 7 ^^^ turn w1 18 ^^^ (w1 >>> 3)
    let s1 := turn w14 17 ^^^ turn w14 19 ^^^ (w14 >>> 10)
    w0 :: stretch n (window.drop 1 ++ [w0 + s0 + w9 + s1])

/-- One round. -/
def round (r : Registers) (kw : UInt32 × UInt32) : Registers :=
  let s1 := turn r.e 6 ^^^ turn r.e 11 ^^^ turn r.e 25
  let choice := (r.e &&& r.f) ^^^ ((r.e ^^^ 0xffffffff) &&& r.g)
  let t1 := r.h + s1 + choice + kw.1 + kw.2
  let s0 := turn r.a 2 ^^^ turn r.a 13 ^^^ turn r.a 22
  let majority := (r.a &&& r.b) ^^^ (r.a &&& r.c) ^^^ (r.b &&& r.c)
  ⟨t1 + (s0 + majority), r.a, r.b, r.c, r.d + t1, r.e, r.f, r.g⟩

/-- The registers after one block of sixteen words. -/
def absorb (r : Registers) (block : List UInt32) : Registers :=
  let s := (roundConstants.zip (stretch 64 block)).foldl round r
  ⟨r.a + s.a, r.b + s.b, r.c + s.c, r.d + s.d, r.e + s.e, r.f + s.f, r.g + s.g, r.h + s.h⟩

/-- Bytes as big-endian words. -/
def wordsOf : List UInt8 → List UInt32
  | a :: b :: c :: d :: rest =>
    ((a.toUInt32 <<< 24) ||| (b.toUInt32 <<< 16) ||| (c.toUInt32 <<< 8) ||| d.toUInt32) ::
      wordsOf rest
  | _ => []

/-- A word as big-endian bytes. -/
def bytesOf (w : UInt32) : List UInt8 :=
  [(w >>> 24).toUInt8, (w >>> 16).toUInt8, (w >>> 8).toUInt8, w.toUInt8]

/-- A message with its padding: a one bit, zeros, and the length in bits in the last eight
bytes. -/
def padded (message : List UInt8) : List UInt8 :=
  let bits := 8 * message.length
  let zeros := (119 - message.length % 64) % 64
  message ++ [0x80] ++ List.replicate zeros 0 ++
    (List.range 8).map fun i => UInt8.ofNat (Nat.shiftRight bits (8 * (7 - i)))

/-- The registers after `n` blocks. -/
def absorbAll : Nat → List UInt32 → Registers → Registers
  | 0, _, r => r
  | n + 1, words, r => absorbAll n (words.drop 16) (absorb r (words.take 16))

/-- The digest of a message. -/
def sha256 (message : List UInt8) : List UInt8 :=
  let words := wordsOf (padded message)
  let r := absorbAll (words.length / 16) words Registers.start
  [r.a, r.b, r.c, r.d, r.e, r.f, r.g, r.h].flatMap bytesOf

/-- Bytes in lower-case hexadecimal, two digits each. -/
def hex (bytes : List UInt8) : String :=
  String.ofList (bytes.flatMap fun b =>
    [Nat.digitChar (b.toNat / 16), Nat.digitChar (b.toNat % 16)])

end QueryGate.Digest
