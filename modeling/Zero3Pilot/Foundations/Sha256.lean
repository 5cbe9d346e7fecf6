import Mathlib.Data.List.Basic

/-! # SHA-256

The hash function of FIPS 180-4, on lists of bytes: a message is padded to blocks of 64 bytes, each block
is spread over 64 words, and the words are mixed into a state of eight words, one after the other.

* `sha256` — the digest of a message. -/

namespace Zero3Pilot

namespace Sha256

/-- The first 32 bits of the fractional parts of the cube roots of the first 64 primes. -/
def roundConstants : List UInt32 :=
  [0x428a2f98, 0x71374491, 0xb5c0fbcf, 0xe9b5dba5, 0x3956c25b, 0x59f111f1, 0x923f82a4, 0xab1c5ed5,
    0xd807aa98, 0x12835b01, 0x243185be, 0x550c7dc3, 0x72be5d74, 0x80deb1fe, 0x9bdc06a7, 0xc19bf174,
    0xe49b69c1, 0xefbe4786, 0x0fc19dc6, 0x240ca1cc, 0x2de92c6f, 0x4a7484aa, 0x5cb0a9dc, 0x76f988da,
    0x983e5152, 0xa831c66d, 0xb00327c8, 0xbf597fc7, 0xc6e00bf3, 0xd5a79147, 0x06ca6351, 0x14292967,
    0x27b70a85, 0x2e1b2138, 0x4d2c6dfc, 0x53380d13, 0x650a7354, 0x766a0abb, 0x81c2c92e, 0x92722c85,
    0xa2bfe8a1, 0xa81a664b, 0xc24b8b70, 0xc76c51a3, 0xd192e819, 0xd6990624, 0xf40e3585, 0x106aa070,
    0x19a4c116, 0x1e376c08, 0x2748774c, 0x34b0bcb5, 0x391c0cb3, 0x4ed8aa4a, 0x5b9cca4f, 0x682e6ff3,
    0x748f82ee, 0x78a5636f, 0x84c87814, 0x8cc70208, 0x90befffa, 0xa4506ceb, 0xbef9a3f7, 0xc67178f2]

/-- The eight words that are mixed. -/
structure State where
  (a b c d e f g h : UInt32)

/-- The first 32 bits of the fractional parts of the square roots of the first eight primes. -/
def State.initial : State :=
  ⟨0x6a09e667, 0xbb67ae85, 0x3c6ef372, 0xa54ff53a, 0x510e527f, 0x9b05688c, 0x1f83d9ab, 0x5be0cd19⟩

def rotateRight (word bits : UInt32) : UInt32 := (word >>> bits) ||| (word <<< (32 - bits))

/-- A number as bytes, the most significant one first. -/
def bigEndian (count value : Nat) : List UInt8 :=
  ((List.range count).map fun index => UInt8.ofNat (value >>> (8 * index))).reverse

/-- The padding of a message: one bit, zeros, and the length in bits. -/
def pad (message : List UInt8) : List UInt8 :=
  message ++ [0x80] ++ List.replicate ((119 - message.length % 64) % 64) 0 ++
    bigEndian 8 (8 * message.length)

def words : List UInt8 → List UInt32
  | first :: second :: third :: fourth :: bytes =>
    ((first.toUInt32 <<< 24) ||| (second.toUInt32 <<< 16) ||| (third.toUInt32 <<< 8) |||
      fourth.toUInt32) :: words bytes
  | _ => []

def nextWord (schedule : List UInt32) : UInt32 :=
  let word (back : Nat) := schedule.getD (schedule.length - back) 0
  let early := word 15
  let late := word 2
  let small := rotateRight early 7 ^^^ rotateRight early 18 ^^^ (early >>> 3)
  let large := rotateRight late 17 ^^^ rotateRight late 19 ^^^ (late >>> 10)
  word 16 + small + word 7 + large

def schedule (block : List UInt8) : List UInt32 :=
  (List.range 48).foldl (fun schedule _ => schedule ++ [nextWord schedule]) (words block)

def State.round (state : State) (word : UInt32) : State :=
  let large := rotateRight state.e 6 ^^^ rotateRight state.e 11 ^^^ rotateRight state.e 25
  let choice := (state.e &&& state.f) ^^^ ((state.e ^^^ 0xffffffff) &&& state.g)
  let first := state.h + large + choice + word
  let small := rotateRight state.a 2 ^^^ rotateRight state.a 13 ^^^ rotateRight state.a 22
  let majority := (state.a &&& state.b) ^^^ (state.a &&& state.c) ^^^ (state.b &&& state.c)
  ⟨first + (small + majority), state.a, state.b, state.c, state.d + first, state.e, state.f, state.g⟩

def State.add (left right : State) : State :=
  ⟨left.a + right.a, left.b + right.b, left.c + right.c, left.d + right.d, left.e + right.e,
    left.f + right.f, left.g + right.g, left.h + right.h⟩

def State.compress (state : State) (block : List UInt8) : State :=
  state.add (((schedule block).zipWith (· + ·) roundConstants).foldl State.round state)

def State.words (state : State) : List UInt32 :=
  [state.a, state.b, state.c, state.d, state.e, state.f, state.g, state.h]

end Sha256

/-- **The digest of a message.** -/
def sha256 (message : List UInt8) : List UInt8 :=
  let padded := Sha256.pad message
  let blocks := (List.range (padded.length / 64)).map fun index => (padded.drop (64 * index)).take 64
  (blocks.foldl Sha256.State.compress .initial).words.flatMap fun word =>
    Sha256.bigEndian 4 word.toNat

-- the first bytes of the digest of "abc"
example : (sha256 [0x61, 0x62, 0x63]).take 4 = [0xba, 0x78, 0x16, 0xbf] := by decide +kernel

end Zero3Pilot
