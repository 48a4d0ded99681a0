/-!
# SHA-256

The digest of a text: its UTF-8 bytes are padded to blocks of sixteen words, and each block stirs a
state of eight words in 64 rounds. `Sha256.hex` writes the digest in lowercase hexadecimal digits.
-/

namespace Telemetry.Digest.Sha256

/-- The round constants: the first 32 bits behind the point of the cube roots of the first 64
primes. -/
def roundConstants : List UInt32 := [
  0x428a2f98, 0x71374491, 0xb5c0fbcf, 0xe9b5dba5, 0x3956c25b, 0x59f111f1, 0x923f82a4, 0xab1c5ed5,
  0xd807aa98, 0x12835b01, 0x243185be, 0x550c7dc3, 0x72be5d74, 0x80deb1fe, 0x9bdc06a7, 0xc19bf174,
  0xe49b69c1, 0xefbe4786, 0x0fc19dc6, 0x240ca1cc, 0x2de92c6f, 0x4a7484aa, 0x5cb0a9dc, 0x76f988da,
  0x983e5152, 0xa831c66d, 0xb00327c8, 0xbf597fc7, 0xc6e00bf3, 0xd5a79147, 0x06ca6351, 0x14292967,
  0x27b70a85, 0x2e1b2138, 0x4d2c6dfc, 0x53380d13, 0x650a7354, 0x766a0abb, 0x81c2c92e, 0x92722c85,
  0xa2bfe8a1, 0xa81a664b, 0xc24b8b70, 0xc76c51a3, 0xd192e819, 0xd6990624, 0xf40e3585, 0x106aa070,
  0x19a4c116, 0x1e376c08, 0x2748774c, 0x34b0bcb5, 0x391c0cb3, 0x4ed8aa4a, 0x5b9cca4f, 0x682e6ff3,
  0x748f82ee, 0x78a5636f, 0x84c87814, 0x8cc70208, 0x90befffa, 0xa4506ceb, 0xbef9a3f7, 0xc67178f2]

/-- The eight words that the blocks stir. -/
structure State where
  a : UInt32
  b : UInt32
  c : UInt32
  d : UInt32
  e : UInt32
  f : UInt32
  g : UInt32
  h : UInt32
  deriving DecidableEq, Repr

/-- The state before the first block: the first 32 bits behind the point of the square roots of the
first eight primes. -/
def State.initial : State :=
  ⟨0x6a09e667, 0xbb67ae85, 0x3c6ef372, 0xa54ff53a, 0x510e527f, 0x9b05688c, 0x1f83d9ab, 0x5be0cd19⟩

/-- The words of a state. -/
def State.words (s : State) : List UInt32 := [s.a, s.b, s.c, s.d, s.e, s.f, s.g, s.h]

/-- The sums of two states, word by word. -/
def State.add (s t : State) : State :=
  ⟨s.a + t.a, s.b + t.b, s.c + t.c, s.d + t.d, s.e + t.e, s.f + t.f, s.g + t.g, s.h + t.h⟩

/-- A word turned right by less than 32 bits. -/
def rotateRight (w : UInt32) (n : UInt32) : UInt32 := (w >>> n) ||| (w <<< (32 - n))

/-- One round with its constant and its word of the message. -/
def State.round (s : State) (constant word : UInt32) : State :=
  let mixE := rotateRight s.e 6 ^^^ rotateRight s.e 11 ^^^ rotateRight s.e 25
  let chosen := (s.e &&& s.f) ^^^ (~~~s.e &&& s.g)
  let mixA := rotateRight s.a 2 ^^^ rotateRight s.a 13 ^^^ rotateRight s.a 22
  let majority := (s.a &&& s.b) ^^^ (s.a &&& s.c) ^^^ (s.b &&& s.c)
  let added := s.h + mixE + chosen + constant + word
  ⟨added + mixA + majority, s.a, s.b, s.c, s.d + added, s.e, s.f, s.g⟩

/-- The word that follows sixteen words of a message schedule. -/
def nextWord (window : List UInt32) : UInt32 :=
  let w1 := window.getD 1 0
  let w14 := window.getD 14 0
  window.getD 0 0 + (rotateRight w1 7 ^^^ rotateRight w1 18 ^^^ (w1 >>> 3)) + window.getD 9 0 +
    (rotateRight w14 17 ^^^ rotateRight w14 19 ^^^ (w14 >>> 10))

/-- The rounds of a block: one for each constant, with the words of a schedule of which `window`
holds the next sixteen. -/
def State.rounds (s : State) : List UInt32 → List UInt32 → State
  | [], _ => s
  | constant :: constants, window =>
    (s.round constant (window.getD 0 0)).rounds constants (window.tail ++ [nextWord window])

/-- The state after a block of sixteen words. -/
def State.absorb (s : State) (block : List UInt32) : State :=
  s.add (s.rounds roundConstants block)

/-- A word of four bytes, the first most significant. -/
def wordOfBytes (bytes : List UInt8) : UInt32 :=
  bytes.foldl (fun w b => (w <<< 8) ||| b.toUInt32) 0

/-- A list in pieces of a given length. -/
def pieces (size : Nat) : Nat → List α → List (List α)
  | 0, _ => []
  | n + 1, items => items.take size :: pieces size n (items.drop size)

/-- The bytes of a message, a one bit, as few zeros as fill the last block, and the length of the
message in 64 bits. -/
def padded (bytes : List UInt8) : List UInt8 :=
  let length := bytes.length
  let zeros : List UInt8 := List.replicate ((119 - length % 64) % 64) 0
  bytes ++ 0x80 :: zeros ++
    (List.range 8).map (fun i => UInt8.ofNat ((length * 8) >>> (8 * (7 - i))))

/-- The state after all blocks of a message. -/
def digest (bytes : List UInt8) : State :=
  let all := padded bytes
  let words := (pieces 4 (all.length / 4) all).map wordOfBytes
  (pieces 16 (words.length / 16) words).foldl State.absorb .initial

/-- A hexadecimal digit. -/
def hexDigit (n : Nat) : Char := Nat.digitChar (n % 16)

/-- The eight hexadecimal digits of a word. -/
def hexWord (w : UInt32) : List Char :=
  (List.range 8).map (fun i => hexDigit (w.toNat >>> (4 * (7 - i))))

/-- The digest of a text in hexadecimal digits. -/
def hex (text : String) : String :=
  String.ofList ((digest text.toUTF8.toList).words.flatMap hexWord)

end Telemetry.Digest.Sha256
