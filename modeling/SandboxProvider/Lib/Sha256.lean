import Mathlib.Data.List.Basic

/-!
# SHA-256 and hexadecimal text

The hash of FIPS 180-4 over lists of bytes, written with structural recursion so that it can be
evaluated, and the lower-case hexadecimal rendering of bytes. Nothing here depends on the strength
of the hash: the lemmas are about lengths and alphabets only.
-/

namespace SandboxProvider.Lib

/-! ## Hexadecimal text -/

/-- The lower-case digit of a number below sixteen. -/
def hexDigit (n : Nat) : Char :=
  if n < 10 then Char.ofNat (48 + n) else Char.ofNat (87 + n)

/-- Lower-case hexadecimal rendering, two digits a byte. -/
def hexEncode (bytes : List UInt8) : List Char :=
  bytes.flatMap fun b => [hexDigit (b.toNat / 16), hexDigit (b.toNat % 16)]

/-- `0`–`9` and `a`–`f`. -/
def IsHexDigit (c : Char) : Prop :=
  ∃ n < 16, c = hexDigit n

theorem hexEncode_isHex {bytes : List UInt8} {c : Char} (h : c ∈ hexEncode bytes) :
    IsHexDigit c := by
  unfold hexEncode at h
  obtain ⟨b, -, hc⟩ := List.mem_flatMap.mp h
  have hb : b.toNat < 256 := b.toNat_lt
  rcases List.mem_cons.mp hc with rfl | hc
  · exact ⟨b.toNat / 16, by omega, rfl⟩
  · rw [List.mem_singleton] at hc
    exact ⟨b.toNat % 16, by omega, hc⟩

/-! ## SHA-256 -/

namespace Sha256

abbrev Word := BitVec 32

/-- The round constants. -/
def roundConstants : List Word := [
  0x428a2f98, 0x71374491, 0xb5c0fbcf, 0xe9b5dba5, 0x3956c25b, 0x59f111f1, 0x923f82a4, 0xab1c5ed5,
  0xd807aa98, 0x12835b01, 0x243185be, 0x550c7dc3, 0x72be5d74, 0x80deb1fe, 0x9bdc06a7, 0xc19bf174,
  0xe49b69c1, 0xefbe4786, 0x0fc19dc6, 0x240ca1cc, 0x2de92c6f, 0x4a7484aa, 0x5cb0a9dc, 0x76f988da,
  0x983e5152, 0xa831c66d, 0xb00327c8, 0xbf597fc7, 0xc6e00bf3, 0xd5a79147, 0x06ca6351, 0x14292967,
  0x27b70a85, 0x2e1b2138, 0x4d2c6dfc, 0x53380d13, 0x650a7354, 0x766a0abb, 0x81c2c92e, 0x92722c85,
  0xa2bfe8a1, 0xa81a664b, 0xc24b8b70, 0xc76c51a3, 0xd192e819, 0xd6990624, 0xf40e3585, 0x106aa070,
  0x19a4c116, 0x1e376c08, 0x2748774c, 0x34b0bcb5, 0x391c0cb3, 0x4ed8aa4a, 0x5b9cca4f, 0x682e6ff3,
  0x748f82ee, 0x78a5636f, 0x84c87814, 0x8cc70208, 0x90befffa, 0xa4506ceb, 0xbef9a3f7, 0xc67178f2]

/-- The eight chaining words. -/
structure Chain where
  a : Word
  b : Word
  c : Word
  d : Word
  e : Word
  f : Word
  g : Word
  h : Word

/-- The initial chaining words. -/
def Chain.initial : Chain :=
  ⟨0x6a09e667, 0xbb67ae85, 0x3c6ef372, 0xa54ff53a, 0x510e527f, 0x9b05688c, 0x1f83d9ab, 0x5be0cd19⟩

def Chain.add (x y : Chain) : Chain :=
  ⟨x.a + y.a, x.b + y.b, x.c + y.c, x.d + y.d, x.e + y.e, x.f + y.f, x.g + y.g, x.h + y.h⟩

def bigSigma0 (x : Word) : Word := x.rotateRight 2 ^^^ x.rotateRight 13 ^^^ x.rotateRight 22
def bigSigma1 (x : Word) : Word := x.rotateRight 6 ^^^ x.rotateRight 11 ^^^ x.rotateRight 25
def smallSigma0 (x : Word) : Word := x.rotateRight 7 ^^^ x.rotateRight 18 ^^^ (x >>> 3)
def smallSigma1 (x : Word) : Word := x.rotateRight 17 ^^^ x.rotateRight 19 ^^^ (x >>> 10)
def choose (x y z : Word) : Word := (x &&& y) ^^^ (~~~x &&& z)
def majority (x y z : Word) : Word := (x &&& y) ^^^ (x &&& z) ^^^ (y &&& z)

/-- One round with round constant `k` and schedule word `w`. -/
def round (s : Chain) (k w : Word) : Chain :=
  let t₁ := s.h + bigSigma1 s.e + choose s.e s.f s.g + k + w
  let t₂ := bigSigma0 s.a + majority s.a s.b s.c
  ⟨t₁ + t₂, s.a, s.b, s.c, s.d + t₁, s.e, s.f, s.g⟩

/-- The rounds of one block. `ws` are the next sixteen schedule words, the nearest first. -/
def rounds : List Word → List Word → Chain → Chain
  | k :: ks, w :: ws, s =>
    let next := smallSigma1 (ws.getD 13 0) + ws.getD 8 0 + smallSigma0 (ws.getD 0 0) + w
    rounds ks (ws ++ [next]) (round s k w)
  | _, _, s => s

/-- Four bytes as a big-endian word. -/
def wordOf (bytes : List UInt8) : Word :=
  bytes.foldl (fun w b => (w <<< 8) ||| BitVec.ofNat 32 b.toNat) 0

/-- Splits a list into pieces of `n` elements. -/
def pieces {α : Type} (n : Nat) : Nat → List α → List (List α)
  | 0, _ => []
  | fuel + 1, l => if l.isEmpty then [] else l.take n :: pieces n fuel (l.drop n)

/-- Compresses one block of 64 bytes into the chaining words. -/
def compress (s : Chain) (block : List UInt8) : Chain :=
  s.add (rounds roundConstants ((pieces 4 16 block).map wordOf) s)

/-- The bytes of a number, big-endian. -/
def bytesBE : Nat → Nat → List UInt8
  | 0, _ => []
  | count + 1, n => bytesBE count (n / 256) ++ [UInt8.ofNat n]

/-- The message followed by a one bit, zeros and its length in bits. -/
def pad (message : List UInt8) : List UInt8 :=
  message ++ [0x80] ++ List.replicate ((119 - message.length % 64) % 64) 0 ++
    bytesBE 8 (8 * message.length)

/-- The bytes of the chaining words. -/
def Chain.digest (s : Chain) : List UInt8 :=
  [s.a, s.b, s.c, s.d, s.e, s.f, s.g, s.h].flatMap fun w => bytesBE 4 w.toNat

end Sha256

open Sha256 in
/-- The SHA-256 digest of a message. -/
def sha256 (message : List UInt8) : List UInt8 :=
  ((pieces 64 (message.length / 64 + 2) (pad message)).foldl compress Chain.initial).digest

end SandboxProvider.Lib
