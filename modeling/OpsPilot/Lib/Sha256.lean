import Mathlib.Data.List.Basic
/-!
# SHA-256

`hashlib.sha256(data).hexdigest()`, on bytes as `UInt8`s and 32-bit words.
-/
namespace Sha256

/-- Round constants. -/
def k : List UInt32 :=
  [0x428a2f98, 0x71374491, 0xb5c0fbcf, 0xe9b5dba5, 0x3956c25b, 0x59f111f1, 0x923f82a4, 0xab1c5ed5,
   0xd807aa98, 0x12835b01, 0x243185be, 0x550c7dc3, 0x72be5d74, 0x80deb1fe, 0x9bdc06a7, 0xc19bf174,
   0xe49b69c1, 0xefbe4786, 0x0fc19dc6, 0x240ca1cc, 0x2de92c6f, 0x4a7484aa, 0x5cb0a9dc, 0x76f988da,
   0x983e5152, 0xa831c66d, 0xb00327c8, 0xbf597fc7, 0xc6e00bf3, 0xd5a79147, 0x06ca6351, 0x14292967,
   0x27b70a85, 0x2e1b2138, 0x4d2c6dfc, 0x53380d13, 0x650a7354, 0x766a0abb, 0x81c2c92e, 0x92722c85,
   0xa2bfe8a1, 0xa81a664b, 0xc24b8b70, 0xc76c51a3, 0xd192e819, 0xd6990624, 0xf40e3585, 0x106aa070,
   0x19a4c116, 0x1e376c08, 0x2748774c, 0x34b0bcb5, 0x391c0cb3, 0x4ed8aa4a, 0x5b9cca4f, 0x682e6ff3,
   0x748f82ee, 0x78a5636f, 0x84c87814, 0x8cc70208, 0x90befffa, 0xa4506ceb, 0xbef9a3f7, 0xc67178f2]

/-- The eight chaining words. -/
structure Digest where
  a : UInt32
  b : UInt32
  c : UInt32
  d : UInt32
  e : UInt32
  f : UInt32
  g : UInt32
  h : UInt32

def init : Digest :=
  ⟨0x6a09e667, 0xbb67ae85, 0x3c6ef372, 0xa54ff53a, 0x510e527f, 0x9b05688c, 0x1f83d9ab, 0x5be0cd19⟩

def rotr (x : UInt32) (n : UInt32) : UInt32 := (x >>> n) ||| (x <<< (32 - n))

def round (s : Digest) (kw : UInt32) : Digest :=
  let s1 := rotr s.e 6 ^^^ rotr s.e 11 ^^^ rotr s.e 25
  let ch := (s.e &&& s.f) ^^^ (~~~s.e &&& s.g)
  let t1 := s.h + s1 + ch + kw
  let s0 := rotr s.a 2 ^^^ rotr s.a 13 ^^^ rotr s.a 22
  let maj := (s.a &&& s.b) ^^^ (s.a &&& s.c) ^^^ (s.b &&& s.c)
  ⟨t1 + (s0 + maj), s.a, s.b, s.c, s.d + t1, s.e, s.f, s.g⟩

/-- One more word of the message schedule, the words so far latest first. -/
def extend (w : List UInt32) : List UInt32 :=
  let x := w.getD 14 0
  let y := w.getD 1 0
  let s0 := rotr x 7 ^^^ rotr x 18 ^^^ (x >>> 3)
  let s1 := rotr y 17 ^^^ rotr y 19 ^^^ (y >>> 10)
  (w.getD 15 0 + s0 + w.getD 6 0 + s1) :: w

/-- The message schedule of a block of sixteen words. -/
def schedule (block : List UInt32) : List UInt32 := (Nat.repeat extend 48 block.reverse).reverse

def compress (s : Digest) (block : List UInt32) : Digest :=
  let t := (List.zipWith (· + ·) k (schedule block)).foldl round s
  ⟨s.a + t.a, s.b + t.b, s.c + t.c, s.d + t.d, s.e + t.e, s.f + t.f, s.g + t.g, s.h + t.h⟩

/-- The message, a one bit, zeros up to 56 bytes modulo 64, and the bit length in eight bytes. -/
def pad (data : List UInt8) : List UInt8 :=
  let n := data.length
  let zeros := (119 - n % 64) % 64
  let size : List UInt8 := (List.range 8).map fun i => UInt8.ofNat ((8 * n) >>> (8 * (7 - i)))
  data ++ [0x80] ++ List.replicate zeros 0 ++ size

def words : List UInt8 → List UInt32
  | a :: b :: c :: d :: bs =>
    ((a.toUInt32 <<< 24) ||| (b.toUInt32 <<< 16) ||| (c.toUInt32 <<< 8) ||| d.toUInt32) :: words bs
  | _ => []

def digest (data : List UInt8) : Digest := ((words (pad data)).toChunks 16).foldl compress init

/-- Eight hexadecimal digits, most significant first. -/
def hexWord (w : UInt32) : List Char :=
  [28, 24, 20, 16, 12, 8, 4, 0].map fun i => Nat.digitChar (w.toNat >>> i % 16)

def hexdigest (data : List UInt8) : String :=
  let s := digest data
  String.ofList ([s.a, s.b, s.c, s.d, s.e, s.f, s.g, s.h].flatMap hexWord)

theorem length_hexdigest (data : List UInt8) : (hexdigest data).length = 64 := by
  simp [hexdigest, hexWord]

end Sha256
