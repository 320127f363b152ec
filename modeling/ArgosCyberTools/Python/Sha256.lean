import ArgosCyberTools.Python.Text

/-!
# SHA-256

`hashlib.sha256(data).hexdigest()`, from the padding to the 64 hexadecimal
digits.  No theorem depends on how the compression works: the results about
signatures assume, for the few messages they compare, that `sha256` is
injective on them.
-/

namespace Python

namespace Sha256

abbrev Word := BitVec 32

/-- The eight chaining words. -/
structure State where
  a : Word
  b : Word
  c : Word
  d : Word
  e : Word
  f : Word
  g : Word
  h : Word

def initial : State where
  a := 0x6a09e667
  b := 0xbb67ae85
  c := 0x3c6ef372
  d := 0xa54ff53a
  e := 0x510e527f
  f := 0x9b05688c
  g := 0x1f83d9ab
  h := 0x5be0cd19

def roundConstants : List Word :=
  [0x428a2f98, 0x71374491, 0xb5c0fbcf, 0xe9b5dba5,
    0x3956c25b, 0x59f111f1, 0x923f82a4, 0xab1c5ed5,
    0xd807aa98, 0x12835b01, 0x243185be, 0x550c7dc3,
    0x72be5d74, 0x80deb1fe, 0x9bdc06a7, 0xc19bf174,
    0xe49b69c1, 0xefbe4786, 0x0fc19dc6, 0x240ca1cc,
    0x2de92c6f, 0x4a7484aa, 0x5cb0a9dc, 0x76f988da,
    0x983e5152, 0xa831c66d, 0xb00327c8, 0xbf597fc7,
    0xc6e00bf3, 0xd5a79147, 0x06ca6351, 0x14292967,
    0x27b70a85, 0x2e1b2138, 0x4d2c6dfc, 0x53380d13,
    0x650a7354, 0x766a0abb, 0x81c2c92e, 0x92722c85,
    0xa2bfe8a1, 0xa81a664b, 0xc24b8b70, 0xc76c51a3,
    0xd192e819, 0xd6990624, 0xf40e3585, 0x106aa070,
    0x19a4c116, 0x1e376c08, 0x2748774c, 0x34b0bcb5,
    0x391c0cb3, 0x4ed8aa4a, 0x5b9cca4f, 0x682e6ff3,
    0x748f82ee, 0x78a5636f, 0x84c87814, 0x8cc70208,
    0x90befffa, 0xa4506ceb, 0xbef9a3f7, 0xc67178f2]

/-- One round, fed with a constant and a schedule word. -/
def round (state : State) (input : Word × Word) : State :=
  let mixE := state.e.rotateRight 6 ^^^ state.e.rotateRight 11 ^^^
    state.e.rotateRight 25
  let choice := (state.e &&& state.f) ^^^ (~~~state.e &&& state.g)
  let first := state.h + mixE + choice + input.1 + input.2
  let mixA := state.a.rotateRight 2 ^^^ state.a.rotateRight 13 ^^^
    state.a.rotateRight 22
  let majority := (state.a &&& state.b) ^^^ (state.a &&& state.c) ^^^
    (state.b &&& state.c)
  { a := first + (mixA + majority), b := state.a, c := state.b, d := state.c,
    e := state.d + first, f := state.e, g := state.f, h := state.g }

/-- The next `count` schedule words, from a window of the last sixteen. -/
def schedule : Nat → List Word → List Word
  | 0, _ => []
  | count + 1, window =>
      let oldest := window.getD 0 0
      let early := window.getD 1 0
      let late := window.getD 14 0
      let small0 := early.rotateRight 7 ^^^ early.rotateRight 18 ^^^ (early >>> 3)
      let small1 := late.rotateRight 17 ^^^ late.rotateRight 19 ^^^ (late >>> 10)
      oldest ::
        schedule count
          (window.tail ++ [oldest + small0 + window.getD 9 0 + small1])

def compress (state : State) (block : List Word) : State :=
  let final := (roundConstants.zip (schedule 64 block)).foldl round state
  { a := state.a + final.a, b := state.b + final.b, c := state.c + final.c,
    d := state.d + final.d, e := state.e + final.e, f := state.f + final.f,
    g := state.g + final.g, h := state.h + final.h }

/-- Big-endian words of a byte string whose length is a multiple of four. -/
def toWords : List UInt8 → List Word
  | b3 :: b2 :: b1 :: b0 :: rest =>
      BitVec.ofNat 32
          (b3.toNat * 0x1000000 + b2.toNat * 0x10000 +
            b1.toNat * 0x100 + b0.toNat) ::
        toWords rest
  | _ => []

/-- The message, a one bit, zeros, and the length in bits. -/
def pad (message : List UInt8) : List UInt8 :=
  let zeros := (119 - message.length % 64) % 64
  let bits := message.length * 8
  message ++ [0x80] ++ List.replicate zeros 0 ++
    (List.range 8).reverse.map fun position =>
      UInt8.ofNat (bits / 256 ^ position)

/-- Fold the compression over `count` blocks of sixteen words. -/
def absorb : Nat → State → List Word → State
  | 0, state, _ => state
  | count + 1, state, words =>
      absorb count (compress state (words.take 16)) (words.drop 16)

def wordBytes (word : Word) : List UInt8 :=
  [.ofNat (word.toNat / 0x1000000), .ofNat (word.toNat / 0x10000),
    .ofNat (word.toNat / 0x100), .ofNat word.toNat]

end Sha256

open Sha256 in
/-- `hashlib.sha256(message).digest()`. -/
def sha256 (message : List UInt8) : List UInt8 :=
  let words := toWords (pad message)
  let final := absorb (words.length / 16) initial words
  [final.a, final.b, final.c, final.d, final.e, final.f, final.g,
    final.h].flatMap wordBytes

example :
    (sha256 []).take 4 = [0xe3, 0xb0, 0xc4, 0x42] ∧
      (sha256 [0x61, 0x62, 0x63]).take 4 = [0xba, 0x78, 0x16, 0xbf] := by
  decide +kernel

/-- `.hexdigest()`. -/
def hexdigest (digest : List UInt8) : PyStr :=
  digest.flatMap fun byte =>
    [lowerHexDigit (byte.toNat / 16), lowerHexDigit (byte.toNat % 16)]

/-- `hashlib.sha256(message).hexdigest()`. -/
def sha256Hex (message : List UInt8) : PyStr := hexdigest (sha256 message)

theorem sha256_length (message : List UInt8) :
    (sha256 message).length = 32 := by
  simp [sha256, Sha256.wordBytes]

theorem length_hexdigest (digest : List UInt8) :
    (hexdigest digest).length = 2 * digest.length := by
  induction digest with
  | nil => rfl
  | cons byte rest induction =>
      simp only [hexdigest, List.flatMap_cons, List.length_append,
        List.length_cons, List.length_nil] at induction ⊢
      omega

/-- A digest is written with 64 digits. -/
@[simp]
theorem length_sha256Hex (message : List UInt8) :
    (sha256Hex message).length = 64 := by
  rw [sha256Hex, length_hexdigest, sha256_length]

theorem surrogateFree_hexdigest (digest : List UInt8) :
    SurrogateFree (hexdigest digest) := by
  intro point member
  obtain ⟨byte, -, digit⟩ := List.mem_flatMap.mp member
  have bound := byte.toNat_lt
  simp only [List.mem_cons, List.not_mem_nil, or_false] at digit
  rcases digit with rfl | rfl
  · exact surrogateFree_lowerHexDigit (by omega)
  · exact surrogateFree_lowerHexDigit (by omega)

theorem hexdigest_injective : Function.Injective hexdigest := by
  intro left right equal
  induction left generalizing right with
  | nil =>
      cases right with
      | nil => rfl
      | cons byte rest => simp [hexdigest] at equal
  | cons byte rest induction =>
      cases right with
      | nil => simp [hexdigest] at equal
      | cons other otherRest =>
          simp only [hexdigest, List.flatMap_cons, List.cons_append,
            List.nil_append, List.cons.injEq] at equal
          obtain ⟨high, low, tails⟩ := equal
          have byteBound := byte.toNat_lt
          have otherBound := other.toNat_lt
          have high :=
            lowerHexDigit_injective (by omega) (by omega) high
          have low :=
            lowerHexDigit_injective (by omega) (by omega) low
          have bytes : byte = other := UInt8.toNat_inj.mp (by omega)
          rw [bytes, induction tails]

/-- Messages without a collision have different hexadecimal digests. -/
theorem sha256Hex_injOn {messages : Set (List UInt8)}
    (collisionFree : Set.InjOn sha256 messages) :
    Set.InjOn sha256Hex messages :=
  hexdigest_injective.comp_injOn collisionFree

end Python
