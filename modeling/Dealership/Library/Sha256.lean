import Mathlib.Data.List.Basic

/-!
# SHA-256

The digest of a list of bytes, over natural numbers below 2³² so that it runs in
the kernel.  The message schedule is a sliding window of sixteen words: round
`t` reads its head and appends word `t + 16`.
-/

namespace Dealership.Library.Sha256

/-- Addition of 32-bit words. -/
def add (a b : Nat) : Nat := (a + b) % 0x100000000

/-- Rotation of a 32-bit word to the right. -/
def rotr (n x : Nat) : Nat := (x >>> n) ||| (x <<< (32 - n)) % 0x100000000

def bigSigma0 (x : Nat) : Nat := rotr 2 x ^^^ rotr 13 x ^^^ rotr 22 x

def bigSigma1 (x : Nat) : Nat := rotr 6 x ^^^ rotr 11 x ^^^ rotr 25 x

def smallSigma0 (x : Nat) : Nat := rotr 7 x ^^^ rotr 18 x ^^^ (x >>> 3)

def smallSigma1 (x : Nat) : Nat := rotr 17 x ^^^ rotr 19 x ^^^ (x >>> 10)

/-- Where `e` has a one the bit of `f`, elsewhere that of `g`. -/
def ch (e f g : Nat) : Nat := (e &&& f) ^^^ ((0xffffffff ^^^ e) &&& g)

def maj (a b c : Nat) : Nat := (a &&& b) ^^^ (a &&& c) ^^^ (b &&& c)

/-- The round constants: the fractional parts of the cube roots of the first 64 primes. -/
def roundConstants : List Nat :=
  [0x428a2f98, 0x71374491, 0xb5c0fbcf, 0xe9b5dba5, 0x3956c25b, 0x59f111f1,
   0x923f82a4, 0xab1c5ed5, 0xd807aa98, 0x12835b01, 0x243185be, 0x550c7dc3,
   0x72be5d74, 0x80deb1fe, 0x9bdc06a7, 0xc19bf174, 0xe49b69c1, 0xefbe4786,
   0x0fc19dc6, 0x240ca1cc, 0x2de92c6f, 0x4a7484aa, 0x5cb0a9dc, 0x76f988da,
   0x983e5152, 0xa831c66d, 0xb00327c8, 0xbf597fc7, 0xc6e00bf3, 0xd5a79147,
   0x06ca6351, 0x14292967, 0x27b70a85, 0x2e1b2138, 0x4d2c6dfc, 0x53380d13,
   0x650a7354, 0x766a0abb, 0x81c2c92e, 0x92722c85, 0xa2bfe8a1, 0xa81a664b,
   0xc24b8b70, 0xc76c51a3, 0xd192e819, 0xd6990624, 0xf40e3585, 0x106aa070,
   0x19a4c116, 0x1e376c08, 0x2748774c, 0x34b0bcb5, 0x391c0cb3, 0x4ed8aa4a,
   0x5b9cca4f, 0x682e6ff3, 0x748f82ee, 0x78a5636f, 0x84c87814, 0x8cc70208,
   0x90befffa, 0xa4506ceb, 0xbef9a3f7, 0xc67178f2]

/-- The eight working words. -/
structure Words where
  a : Nat
  b : Nat
  c : Nat
  d : Nat
  e : Nat
  f : Nat
  g : Nat
  h : Nat

/-- The initial hash value: the fractional parts of the square roots of the first 8 primes. -/
def Words.initial : Words :=
  ⟨0x6a09e667, 0xbb67ae85, 0x3c6ef372, 0xa54ff53a, 0x510e527f, 0x9b05688c, 0x1f83d9ab, 0x5be0cd19⟩

/-- `k n`, with `n` evaluated first: a digest of a fixed text is checked by
evaluation, and every word is shared by many later ones. -/
def strict {α : Type} (n : Nat) (k : Nat → α) : α :=
  match n with
  | 0 => k 0
  | m + 1 => k (m + 1)

theorem strict_eq {α : Type} (n : Nat) (k : Nat → α) : strict n k = k n := by
  cases n with
  | zero => rfl
  | succ m => rfl

/-- One round with round constant `k` and schedule word `w`. -/
def Words.round (s : Words) (k w : Nat) : Words :=
  strict (add (add (add s.h (bigSigma1 s.e)) (add (ch s.e s.f s.g) k)) w) fun t₁ =>
    strict (add t₁ (add (bigSigma0 s.a) (maj s.a s.b s.c))) fun a =>
      strict (add s.d t₁) fun e => ⟨a, s.a, s.b, s.c, e, s.e, s.f, s.g⟩

def Words.add (s t : Words) : Words :=
  strict (Sha256.add s.a t.a) fun a => strict (Sha256.add s.b t.b) fun b =>
    strict (Sha256.add s.c t.c) fun c => strict (Sha256.add s.d t.d) fun d =>
      strict (Sha256.add s.e t.e) fun e => strict (Sha256.add s.f t.f) fun f =>
        strict (Sha256.add s.g t.g) fun g => strict (Sha256.add s.h t.h) fun h =>
          ⟨a, b, c, d, e, f, g, h⟩

/-- One round for each constant; the window of sixteen schedule words moves on by
one word each time. -/
def rounds : List Nat → List Nat → Words → Words
  | k :: ks, w₀ :: w₁ :: ws, s =>
    strict (Sha256.add (Sha256.add (smallSigma1 (ws.getD 12 0)) (ws.getD 7 0))
      (Sha256.add (smallSigma0 w₁) w₀)) fun w₁₆ =>
        rounds ks (w₁ :: (ws ++ [w₁₆])) (s.round k w₀)
  | _, _, s => s

def compress (s : Words) (block : List Nat) : Words := s.add (rounds roundConstants block s)

/-- Big-endian words of four bytes. -/
def words : List Nat → List Nat
  | a :: b :: c :: d :: bs => strict (((a * 256 + b) * 256 + c) * 256 + d) fun w => w :: words bs
  | _ => []

/-- Blocks of sixteen words, at most `fuel` of them. -/
def blocks : Nat → List Nat → List (List Nat)
  | 0, _ => []
  | fuel + 1, ws => ws.take 16 :: blocks fuel (ws.drop 16)

/-- The message with its bit length, filled up to a multiple of 64 bytes. -/
def pad (m : List Nat) : List Nat :=
  m ++ 0x80 :: (List.replicate ((119 - m.length % 64) % 64) 0 ++
    [56, 48, 40, 32, 24, 16, 8, 0].map fun i => (8 * m.length) >>> i % 256)

def digest (m : List Nat) : Words :=
  let p := pad m
  (blocks (p.length / 64) (words p)).foldl compress .initial

/-- The eight hexadecimal digits of a word. -/
def hexWord (w : Nat) : List Char :=
  strict w fun w => [28, 24, 20, 16, 12, 8, 4, 0].map fun i => Nat.digitChar (w >>> i % 16)

/-- `createHash('sha256').update(m).digest('hex')`. -/
def hex (m : List Nat) : String :=
  match digest m with
  | ⟨a, b, c, d, e, f, g, h⟩ =>
    String.ofList (hexWord a ++ hexWord b ++ hexWord c ++ hexWord d ++
      hexWord e ++ hexWord f ++ hexWord g ++ hexWord h)

def utf8Char (c : Char) : List Nat :=
  let n := c.toNat
  if n < 0x80 then [n]
  else if n < 0x800 then [0xc0 + n / 0x40, 0x80 + n % 0x40]
  else if n < 0x10000 then [0xe0 + n / 0x1000, 0x80 + n / 0x40 % 0x40, 0x80 + n % 0x40]
  else [0xf0 + n / 0x40000, 0x80 + n / 0x1000 % 0x40, 0x80 + n / 0x40 % 0x40, 0x80 + n % 0x40]

/-- The UTF-8 bytes of a text. -/
def utf8 (cs : List Char) : List Nat := cs.flatMap utf8Char

def hexText (cs : List Char) : String := hex (utf8 cs)

example : hexText ['a', 'b', 'c'] =
    "ba7816bf8f01cfea414140de5dae2223b00361a396177a9cb410ff61f20015ad" := by
  decide +kernel

end Dealership.Library.Sha256
