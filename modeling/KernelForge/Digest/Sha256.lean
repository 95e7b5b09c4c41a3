import KernelForge.Bytes

/-!
Contract: the SHA-256 digest of a byte string, as FIPS 180-4 defines it.

Owns: padding, the message schedule kept as a window of sixteen words, the
compression of one block, and the digest in bytes and in hexadecimal.

Does not own: what is digested.
-/

namespace KernelForge.Sha256

/-- The first thirty-two fractional bits of the cube roots of the first
sixty-four primes. -/
def roundConstants : List UInt32 :=
  [0x428a2f98, 0x71374491, 0xb5c0fbcf, 0xe9b5dba5, 0x3956c25b, 0x59f111f1, 0x923f82a4, 0xab1c5ed5,
   0xd807aa98, 0x12835b01, 0x243185be, 0x550c7dc3, 0x72be5d74, 0x80deb1fe, 0x9bdc06a7, 0xc19bf174,
   0xe49b69c1, 0xefbe4786, 0x0fc19dc6, 0x240ca1cc, 0x2de92c6f, 0x4a7484aa, 0x5cb0a9dc, 0x76f988da,
   0x983e5152, 0xa831c66d, 0xb00327c8, 0xbf597fc7, 0xc6e00bf3, 0xd5a79147, 0x06ca6351, 0x14292967,
   0x27b70a85, 0x2e1b2138, 0x4d2c6dfc, 0x53380d13, 0x650a7354, 0x766a0abb, 0x81c2c92e, 0x92722c85,
   0xa2bfe8a1, 0xa81a664b, 0xc24b8b70, 0xc76c51a3, 0xd192e819, 0xd6990624, 0xf40e3585, 0x106aa070,
   0x19a4c116, 0x1e376c08, 0x2748774c, 0x34b0bcb5, 0x391c0cb3, 0x4ed8aa4a, 0x5b9cca4f, 0x682e6ff3,
   0x748f82ee, 0x78a5636f, 0x84c87814, 0x8cc70208, 0x90befffa, 0xa4506ceb, 0xbef9a3f7, 0xc67178f2]

structure State where
  a : UInt32
  b : UInt32
  c : UInt32
  d : UInt32
  e : UInt32
  f : UInt32
  g : UInt32
  h : UInt32
deriving DecidableEq, Repr

/-- The first thirty-two fractional bits of the square roots of the first eight
primes. -/
def initialState : State :=
  ⟨0x6a09e667, 0xbb67ae85, 0x3c6ef372, 0xa54ff53a,
   0x510e527f, 0x9b05688c, 0x1f83d9ab, 0x5be0cd19⟩

/-- Rotation to the right by an amount strictly between zero and thirty-two. -/
def rotateRight (amount word : UInt32) : UInt32 :=
  (word >>> amount) ||| (word <<< (32 - amount))

def smallSigma0 (word : UInt32) : UInt32 :=
  rotateRight 7 word ^^^ rotateRight 18 word ^^^ (word >>> 3)

def smallSigma1 (word : UInt32) : UInt32 :=
  rotateRight 17 word ^^^ rotateRight 19 word ^^^ (word >>> 10)

def bigSigma0 (word : UInt32) : UInt32 :=
  rotateRight 2 word ^^^ rotateRight 13 word ^^^ rotateRight 22 word

def bigSigma1 (word : UInt32) : UInt32 :=
  rotateRight 6 word ^^^ rotateRight 11 word ^^^ rotateRight 25 word

def State.round (state : State) (constant word : UInt32) : State :=
  let choice := (state.e &&& state.f) ^^^ (~~~state.e &&& state.g)
  let majority := (state.a &&& state.b) ^^^ (state.a &&& state.c) ^^^ (state.b &&& state.c)
  let first := state.h + bigSigma1 state.e + choice + constant + word
  let second := bigSigma0 state.a + majority
  ⟨first + second, state.a, state.b, state.c, state.d + first, state.e, state.f, state.g⟩

/-- The rounds of one block. The window holds the next sixteen schedule words;
the word that enters it depends on the first, second, tenth and fifteenth. -/
def rounds : List UInt32 → List UInt32 → State → State
  | constant :: constants, word :: window, state =>
      let next := smallSigma1 (window.getD 13 0) + window.getD 8 0 +
        smallSigma0 (window.getD 0 0) + word
      rounds constants (window ++ [next]) (state.round constant word)
  | _, _, state => state

def compress (state : State) (block : List UInt32) : State :=
  let after := rounds roundConstants block state
  ⟨state.a + after.a, state.b + after.b, state.c + after.c, state.d + after.d,
   state.e + after.e, state.f + after.f, state.g + after.g, state.h + after.h⟩

/-- Bytes as big-endian words; a last incomplete word is dropped. -/
def wordsOf : Bytes → List UInt32
  | first :: second :: third :: fourth :: rest =>
      ((first.toUInt32 <<< 24) ||| (second.toUInt32 <<< 16) |||
        (third.toUInt32 <<< 8) ||| fourth.toUInt32) :: wordsOf rest
  | _ => []

/-- The eight big-endian bytes of a bit count modulo 2^64. -/
def bitCount (byteCount : Nat) : Bytes :=
  [56, 48, 40, 32, 24, 16, 8, 0].map fun shift => UInt8.ofNat (8 * byteCount / Nat.pow 2 shift)

/-- The message with the marking bit, zeros up to eight bytes before the end of
a block, and the message length in bits. -/
def pad (message : Bytes) : Bytes :=
  let length := message.length
  message ++ (0x80 :: List.replicate ((119 - length % 64) % 64) 0) ++ bitCount length

/-- The chaining words after the given number of sixteen-word blocks. -/
def absorb : Nat → List UInt32 → State → State
  | 0, _, state => state
  | count + 1, words, state =>
      absorb count (words.drop 16) (compress state (words.take 16))

/-- The four big-endian bytes of a word. -/
def bytesOf (word : UInt32) : Bytes :=
  [(word >>> 24).toUInt8, (word >>> 16).toUInt8, (word >>> 8).toUInt8, word.toUInt8]

def digest (message : Bytes) : Bytes :=
  let words := wordsOf (pad message)
  let final := absorb (words.length / 16) words initialState
  [final.a, final.b, final.c, final.d, final.e, final.f, final.g, final.h].flatMap bytesOf

def hexDigest (message : Bytes) : String :=
  (digest message).toHex

end KernelForge.Sha256
