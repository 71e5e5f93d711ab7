import Formwright.Json.Quoted

/-!
# SHA-256

The 256-bit secure hash (FIPS 180-4) of a list of bytes, on 32-bit words.
-/
namespace Formwright.Sha256

/-- The constants of the 64 rounds. -/
def roundConstants : List UInt32 := [
  0x428a2f98, 0x71374491, 0xb5c0fbcf, 0xe9b5dba5, 0x3956c25b, 0x59f111f1, 0x923f82a4, 0xab1c5ed5,
  0xd807aa98, 0x12835b01, 0x243185be, 0x550c7dc3, 0x72be5d74, 0x80deb1fe, 0x9bdc06a7, 0xc19bf174,
  0xe49b69c1, 0xefbe4786, 0x0fc19dc6, 0x240ca1cc, 0x2de92c6f, 0x4a7484aa, 0x5cb0a9dc, 0x76f988da,
  0x983e5152, 0xa831c66d, 0xb00327c8, 0xbf597fc7, 0xc6e00bf3, 0xd5a79147, 0x06ca6351, 0x14292967,
  0x27b70a85, 0x2e1b2138, 0x4d2c6dfc, 0x53380d13, 0x650a7354, 0x766a0abb, 0x81c2c92e, 0x92722c85,
  0xa2bfe8a1, 0xa81a664b, 0xc24b8b70, 0xc76c51a3, 0xd192e819, 0xd6990624, 0xf40e3585, 0x106aa070,
  0x19a4c116, 0x1e376c08, 0x2748774c, 0x34b0bcb5, 0x391c0cb3, 0x4ed8aa4a, 0x5b9cca4f, 0x682e6ff3,
  0x748f82ee, 0x78a5636f, 0x84c87814, 0x8cc70208, 0x90befffa, 0xa4506ceb, 0xbef9a3f7, 0xc67178f2]

/-- The eight words that a digest is made of. -/
structure State where
  a : UInt32
  b : UInt32
  c : UInt32
  d : UInt32
  e : UInt32
  f : UInt32
  g : UInt32
  h : UInt32
deriving DecidableEq, Repr

/-- The state before the first block. -/
def initial : State :=
  ⟨0x6a09e667, 0xbb67ae85, 0x3c6ef372, 0xa54ff53a, 0x510e527f, 0x9b05688c, 0x1f83d9ab, 0x5be0cd19⟩

/-- A word rotated to the right. -/
def rotate (word count : UInt32) : UInt32 := (word >>> count) ||| (word <<< (32 - count))

/-- The word that follows sixteen others in the schedule of a block. -/
def expand (word1 word2 word3 word4 : UInt32) : UInt32 :=
  let low := rotate word2 7 ^^^ rotate word2 18 ^^^ (word2 >>> 3)
  let high := rotate word4 17 ^^^ rotate word4 19 ^^^ (word4 >>> 10)
  word1 + low + word3 + high

/-- One round. -/
def round (state : State) (constant word : UInt32) : State :=
  let ⟨a, b, c, d, e, f, g, h⟩ := state
  let sum1 := rotate e 6 ^^^ rotate e 11 ^^^ rotate e 25
  let choice := (e &&& f) ^^^ ((~~~e) &&& g)
  let first := h + sum1 + choice + constant + word
  let sum0 := rotate a 2 ^^^ rotate a 13 ^^^ rotate a 22
  let majority := (a &&& b) ^^^ (a &&& c) ^^^ (b &&& c)
  ⟨first + (sum0 + majority), a, b, c, d + first, e, f, g⟩

/-- The rounds of a block, with the sixteen words of the schedule that come next. -/
def rounds : List UInt32 → List UInt32 → State → State
  | constant :: constants, word :: window, state =>
    let next := expand word (window[0]?.getD 0) (window[8]?.getD 0) (window[13]?.getD 0)
    rounds constants (window ++ [next]) (round state constant word)
  | _, _, state => state

/-- The state after a block of sixteen words. -/
def compress (state : State) (block : List UInt32) : State :=
  let mixed := rounds roundConstants block state
  ⟨state.a + mixed.a, state.b + mixed.b, state.c + mixed.c, state.d + mixed.d,
    state.e + mixed.e, state.f + mixed.f, state.g + mixed.g, state.h + mixed.h⟩

/-- Bytes as words, the most significant byte first; an incomplete word at the end is dropped. -/
def wordsOf : List UInt8 → List UInt32
  | a :: b :: c :: d :: rest =>
    ((a.toUInt32 <<< 24) ||| (b.toUInt32 <<< 16) ||| (c.toUInt32 <<< 8) ||| d.toUInt32)
      :: wordsOf rest
  | _ => []

/-- Some bytes of a number, the most significant first. -/
def bytesOf (count value : Nat) : List UInt8 :=
  (List.range count).reverse.map fun place => UInt8.ofNat (value >>> (8 * place))

/-- A message with its padding: a one bit, zeros, and the length in bits. -/
def pad (message : List UInt8) : List UInt8 :=
  let zeros := (119 - message.length % 64) % 64
  message ++ [0x80] ++ List.replicate zeros 0 ++ bytesOf 8 (8 * message.length)

/-- The blocks of sixteen words in a list of words; `fuel` bounds their number. -/
def blocks : Nat → List UInt32 → List (List UInt32)
  | 0, _ => []
  | fuel + 1, words =>
    if words.isEmpty then [] else words.take 16 :: blocks fuel (words.drop 16)

/-- The words of a state. -/
def State.words (state : State) : List UInt32 :=
  [state.a, state.b, state.c, state.d, state.e, state.f, state.g, state.h]

/-- The words of the digest of a message. -/
def digestWords (message : List UInt8) : List UInt32 :=
  let words := wordsOf (pad message)
  ((blocks words.length words).foldl compress initial).words

/-- The eight half bytes of a word, the most significant first. -/
def nibbles (word : UInt32) : List (Fin 16) :=
  (List.range 8).reverse.map fun place =>
    ⟨(word.toNat >>> (4 * place)) % 16, Nat.mod_lt _ (by decide)⟩

/-- The digest of a message as half bytes. -/
def digest (message : List UInt8) : List (Fin 16) := (digestWords message).flatMap nibbles

/-- A word has eight half bytes. -/
theorem length_nibbles (word : UInt32) : (nibbles word).length = 8 := by simp [nibbles]

/-- A digest has 64 half bytes. -/
theorem length_digest (message : List UInt8) : (digest message).length = 64 := by
  simp [digest, digestWords, State.words, length_nibbles]

/-- The digest of the UTF-8 bytes of a text as half bytes. -/
def digestText (text : String) : List (Fin 16) := digest text.toUTF8.toList

/-- The digest of a text in hexadecimal digits. -/
def hexDigest (text : String) : String :=
  String.ofList ((digestText text).map fun nibble => Json.hexDigit nibble.val)

/-- A digest has 64 hexadecimal digits. -/
theorem length_hexDigest (text : String) : (hexDigest text).toList.length = 64 := by
  simp [hexDigest, digestText, length_digest]

end Formwright.Sha256
