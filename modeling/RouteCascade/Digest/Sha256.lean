import RouteCascade.Text.Blank

/-!
# SHA-256

The digest of FIPS 180-4 for whole bytes. A message is padded to blocks of sixteen words, each
block is expanded to a schedule of sixty-four words, and one round per word mixes it into the
chaining state.
-/
namespace RouteCascade.Digest

open Text (Bytes)

/-- The chaining state: the eight words that a block is mixed into. -/
structure Chain where
  a : UInt32
  b : UInt32
  c : UInt32
  d : UInt32
  e : UInt32
  f : UInt32
  g : UInt32
  h : UInt32
  deriving DecidableEq, Repr

def Chain.initial : Chain :=
  ⟨0x6a09e667, 0xbb67ae85, 0x3c6ef372, 0xa54ff53a, 0x510e527f, 0x9b05688c, 0x1f83d9ab, 0x5be0cd19⟩

def roundConstants : List UInt32 :=
  [0x428a2f98, 0x71374491, 0xb5c0fbcf, 0xe9b5dba5, 0x3956c25b, 0x59f111f1, 0x923f82a4, 0xab1c5ed5,
   0xd807aa98, 0x12835b01, 0x243185be, 0x550c7dc3, 0x72be5d74, 0x80deb1fe, 0x9bdc06a7, 0xc19bf174,
   0xe49b69c1, 0xefbe4786, 0x0fc19dc6, 0x240ca1cc, 0x2de92c6f, 0x4a7484aa, 0x5cb0a9dc, 0x76f988da,
   0x983e5152, 0xa831c66d, 0xb00327c8, 0xbf597fc7, 0xc6e00bf3, 0xd5a79147, 0x06ca6351, 0x14292967,
   0x27b70a85, 0x2e1b2138, 0x4d2c6dfc, 0x53380d13, 0x650a7354, 0x766a0abb, 0x81c2c92e, 0x92722c85,
   0xa2bfe8a1, 0xa81a664b, 0xc24b8b70, 0xc76c51a3, 0xd192e819, 0xd6990624, 0xf40e3585, 0x106aa070,
   0x19a4c116, 0x1e376c08, 0x2748774c, 0x34b0bcb5, 0x391c0cb3, 0x4ed8aa4a, 0x5b9cca4f, 0x682e6ff3,
   0x748f82ee, 0x78a5636f, 0x84c87814, 0x8cc70208, 0x90befffa, 0xa4506ceb, 0xbef9a3f7, 0xc67178f2]

def rotr (x n : UInt32) : UInt32 := (x >>> n) ||| (x <<< (32 - n))

/-- The next word of a schedule, from the sixteen latest words, newest first. -/
def nextWord (w : List UInt32) : UInt32 :=
  match w with
  | [_, w2, _, _, _, _, w7, _, _, _, _, _, _, _, w15, w16] =>
    let s0 := rotr w15 7 ^^^ rotr w15 18 ^^^ (w15 >>> 3)
    let s1 := rotr w2 17 ^^^ rotr w2 19 ^^^ (w2 >>> 10)
    w16 + s0 + w7 + s1
  | _ => 0

/-- Continues a schedule by `n` words; `latest` holds the sixteen latest, newest first. -/
def extend (latest : List UInt32) : Nat → List UInt32
  | 0 => []
  | n + 1 =>
    let w := nextWord latest
    w :: extend (w :: latest.take 15) n

/-- The sixty-four words of a block of sixteen. -/
def schedule (block : List UInt32) : List UInt32 := block ++ extend block.reverse 48

/-- One round: a constant and a schedule word are mixed in. -/
def round (s : Chain) (kw : UInt32 × UInt32) : Chain :=
  let s1 := rotr s.e 6 ^^^ rotr s.e 11 ^^^ rotr s.e 25
  let ch := (s.e &&& s.f) ^^^ ((~~~s.e) &&& s.g)
  let t1 := s.h + s1 + ch + kw.1 + kw.2
  let s0 := rotr s.a 2 ^^^ rotr s.a 13 ^^^ rotr s.a 22
  let maj := (s.a &&& s.b) ^^^ (s.a &&& s.c) ^^^ (s.b &&& s.c)
  ⟨t1 + (s0 + maj), s.a, s.b, s.c, s.d + t1, s.e, s.f, s.g⟩

/-- The chaining state after a block. -/
def compress (s : Chain) (block : List UInt32) : Chain :=
  let t := (roundConstants.zip (schedule block)).foldl round s
  ⟨s.a + t.a, s.b + t.b, s.c + t.c, s.d + t.d, s.e + t.e, s.f + t.f, s.g + t.g, s.h + t.h⟩

/-- A number as `n` bytes, the most significant first. -/
def bigEndian : Nat → Nat → Bytes
  | 0, _ => []
  | n + 1, x => bigEndian n (x / 256) ++ [UInt8.ofNat x]

/-- The message followed by a one bit, zero bits, and its length in bits as eight bytes, up to a
whole number of blocks. -/
def padded (message : Bytes) : Bytes :=
  message ++ [0x80] ++ List.replicate ((119 - message.length % 64) % 64) 0 ++
    bigEndian 8 (8 * message.length)

/-- Four bytes make a word, the most significant first. -/
def words : Bytes → List UInt32
  | a :: b :: c :: d :: rest =>
    ((a.toUInt32 <<< 24) ||| (b.toUInt32 <<< 16) ||| (c.toUInt32 <<< 8) ||| d.toUInt32) :: words rest
  | _ => []

/-- Mixes in `n` blocks of sixteen words, one after another. -/
def mix (s : Chain) : Nat → List UInt32 → Chain
  | 0, _ => s
  | n + 1, ws => mix (compress s (ws.take 16)) n (ws.drop 16)

def wordBytes (w : UInt32) : Bytes := bigEndian 4 w.toNat

def Chain.bytes (s : Chain) : Bytes :=
  wordBytes s.a ++ wordBytes s.b ++ wordBytes s.c ++ wordBytes s.d ++
    wordBytes s.e ++ wordBytes s.f ++ wordBytes s.g ++ wordBytes s.h

def sha256 (message : Bytes) : Bytes :=
  let ws := words (padded message)
  (mix .initial (ws.length / 16) ws).bytes

theorem length_bigEndian (n x : Nat) : (bigEndian n x).length = n := by
  induction n generalizing x with
  | zero => rfl
  | succ n ih => simp [bigEndian, ih]

/-- A digest has thirty-two bytes. -/
theorem length_sha256 (message : Bytes) : (sha256 message).length = 32 := by
  simp [sha256, Chain.bytes, wordBytes, length_bigEndian]

end RouteCascade.Digest
