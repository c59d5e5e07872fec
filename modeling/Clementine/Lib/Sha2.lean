import Clementine.Lib.ByteNumeral

/-!
# SHA-256

The hash function of FIPS 180-4, on byte strings.  Words are natural numbers below
`2 ^ 32`, so that digests of concrete strings evaluate quickly.
-/

namespace Sha2

open ByteNumeral

/-- The constants of the 64 rounds. -/
def roundConstants : List Nat := [
  0x428A2F98, 0x71374491, 0xB5C0FBCF, 0xE9B5DBA5, 0x3956C25B, 0x59F111F1, 0x923F82A4, 0xAB1C5ED5,
  0xD807AA98, 0x12835B01, 0x243185BE, 0x550C7DC3, 0x72BE5D74, 0x80DEB1FE, 0x9BDC06A7, 0xC19BF174,
  0xE49B69C1, 0xEFBE4786, 0x0FC19DC6, 0x240CA1CC, 0x2DE92C6F, 0x4A7484AA, 0x5CB0A9DC, 0x76F988DA,
  0x983E5152, 0xA831C66D, 0xB00327C8, 0xBF597FC7, 0xC6E00BF3, 0xD5A79147, 0x06CA6351, 0x14292967,
  0x27B70A85, 0x2E1B2138, 0x4D2C6DFC, 0x53380D13, 0x650A7354, 0x766A0ABB, 0x81C2C92E, 0x92722C85,
  0xA2BFE8A1, 0xA81A664B, 0xC24B8B70, 0xC76C51A3, 0xD192E819, 0xD6990624, 0xF40E3585, 0x106AA070,
  0x19A4C116, 0x1E376C08, 0x2748774C, 0x34B0BCB5, 0x391C0CB3, 0x4ED8AA4A, 0x5B9CCA4F, 0x682E6FF3,
  0x748F82EE, 0x78A5636F, 0x84C87814, 0x8CC70208, 0x90BEFFFA, 0xA4506CEB, 0xBEF9A3F7, 0xC67178F2]

/-- The eight words of the state. -/
structure Registers where
  a : Nat
  b : Nat
  c : Nat
  d : Nat
  e : Nat
  f : Nat
  g : Nat
  h : Nat

/-- The state before the first block. -/
def Registers.initial : Registers :=
  ⟨0x6A09E667, 0xBB67AE85, 0x3C6EF372, 0xA54FF53A, 0x510E527F, 0x9B05688C, 0x1F83D9AB, 0x5BE0CD19⟩

/-- Rotation of a word to the right. -/
def rotateRight (word amount : Nat) : Nat :=
  (word >>> amount) ||| ((word <<< (32 - amount)) % 2 ^ 32)

/-- One round. -/
def Registers.round (state : Registers) (constant word : Nat) : Registers :=
  let choice := (state.e &&& state.f) ^^^ ((0xFFFFFFFF - state.e) &&& state.g)
  let majority := (state.a &&& state.b) ^^^ (state.a &&& state.c) ^^^ (state.b &&& state.c)
  let mixedE := rotateRight state.e 6 ^^^ rotateRight state.e 11 ^^^ rotateRight state.e 25
  let mixedA := rotateRight state.a 2 ^^^ rotateRight state.a 13 ^^^ rotateRight state.a 22
  let first := state.h + mixedE + choice + constant + word
  ⟨(first + mixedA + majority) % 2 ^ 32, state.a, state.b, state.c,
    (state.d + first) % 2 ^ 32, state.e, state.f, state.g⟩

/-- The word that follows a window of sixteen words in the message schedule. -/
def nextWord (window : List Nat) : Nat :=
  let second := window.getD 1 0
  let fifteenth := window.getD 14 0
  (window.getD 0 0 +
    (rotateRight second 7 ^^^ rotateRight second 18 ^^^ (second >>> 3)) + window.getD 9 0 +
    (rotateRight fifteenth 17 ^^^ rotateRight fifteenth 19 ^^^ (fifteenth >>> 10))) % 2 ^ 32

/-- The rounds for the given constants; the window holds the next words of the schedule. -/
def rounds : List Nat → List Nat → Registers → Registers
  | [], _, state => state
  | constant :: constants, window, state =>
    rounds constants (window.tail ++ [nextWord window]) (state.round constant (window.getD 0 0))

/-- The state after a block of sixteen words. -/
def Registers.compress (state : Registers) (block : List Nat) : Registers :=
  let mixed := rounds roundConstants block state
  ⟨(state.a + mixed.a) % 2 ^ 32, (state.b + mixed.b) % 2 ^ 32, (state.c + mixed.c) % 2 ^ 32,
    (state.d + mixed.d) % 2 ^ 32, (state.e + mixed.e) % 2 ^ 32, (state.f + mixed.f) % 2 ^ 32,
    (state.g + mixed.g) % 2 ^ 32, (state.h + mixed.h) % 2 ^ 32⟩

/-- The big-endian words of a byte string. -/
def words : List UInt8 → List Nat
  | first :: second :: third :: fourth :: rest =>
    beNat [first, second, third, fourth] :: words rest
  | _ => []

/-- The string with a one bit, zeros and its length in bits. -/
def padded (input : List UInt8) : List UInt8 :=
  input ++ 0x80 :: (List.replicate ((119 - input.length % 64) % 64) 0 ++
    (beBytes 8 (8 * input.length)).toList)

/-- The state after a number of blocks. -/
def absorb : Nat → List Nat → Registers → Registers
  | 0, _, state => state
  | blocks + 1, words, state => absorb blocks (words.drop 16) (state.compress (words.take 16))

/-- SHA-256 of a byte string. -/
def sha256 (input : List UInt8) : Vector UInt8 32 :=
  let message := words (padded input)
  let state := absorb (message.length / 16) message .initial
  beBytes 32 ([state.a, state.b, state.c, state.d, state.e, state.f, state.g, state.h].foldl
    (fun number word => number * 2 ^ 32 + word) 0)

example : beNat (sha256 [97, 98, 99]).toList =
    0xBA7816BF8F01CFEA414140DE5DAE2223B00361A396177A9CB410FF61F20015AD := by
  decide +kernel

end Sha2
