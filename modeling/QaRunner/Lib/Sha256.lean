import Mathlib.Algebra.Group.Nat.Defs

/-! SHA-256 (FIPS 180-4) on byte lists, with words as natural numbers below `2 ^ 32`. -/
namespace Sha256

def word (n : ℕ) : ℕ := n % 4294967296

/-- Evaluate a word before it is passed on: matching on it forces the kernel to a literal. -/
def force {α : Type} (n : ℕ) (k : ℕ → α) : α :=
  match n with
  | 0 => k 0
  | m + 1 => k (m + 1)

@[simp] theorem force_eq {α : Type} (n : ℕ) (k : ℕ → α) : force n k = k n := by
  cases n <;> rfl

def rotr (k x : ℕ) : ℕ := word ((x >>> k) ||| (x <<< (32 - k)))

/-- The sixty-four round constants. -/
def roundConstants : List ℕ := [
  0x428a2f98, 0x71374491, 0xb5c0fbcf, 0xe9b5dba5, 0x3956c25b, 0x59f111f1, 0x923f82a4, 0xab1c5ed5,
  0xd807aa98, 0x12835b01, 0x243185be, 0x550c7dc3, 0x72be5d74, 0x80deb1fe, 0x9bdc06a7, 0xc19bf174,
  0xe49b69c1, 0xefbe4786, 0x0fc19dc6, 0x240ca1cc, 0x2de92c6f, 0x4a7484aa, 0x5cb0a9dc, 0x76f988da,
  0x983e5152, 0xa831c66d, 0xb00327c8, 0xbf597fc7, 0xc6e00bf3, 0xd5a79147, 0x06ca6351, 0x14292967,
  0x27b70a85, 0x2e1b2138, 0x4d2c6dfc, 0x53380d13, 0x650a7354, 0x766a0abb, 0x81c2c92e, 0x92722c85,
  0xa2bfe8a1, 0xa81a664b, 0xc24b8b70, 0xc76c51a3, 0xd192e819, 0xd6990624, 0xf40e3585, 0x106aa070,
  0x19a4c116, 0x1e376c08, 0x2748774c, 0x34b0bcb5, 0x391c0cb3, 0x4ed8aa4a, 0x5b9cca4f, 0x682e6ff3,
  0x748f82ee, 0x78a5636f, 0x84c87814, 0x8cc70208, 0x90befffa, 0xa4506ceb, 0xbef9a3f7, 0xc67178f2]

/-- The eight working variables. -/
structure Chain where
  a : ℕ
  b : ℕ
  c : ℕ
  d : ℕ
  e : ℕ
  f : ℕ
  g : ℕ
  h : ℕ

def initial : Chain :=
  ⟨0x6a09e667, 0xbb67ae85, 0x3c6ef372, 0xa54ff53a,
    0x510e527f, 0x9b05688c, 0x1f83d9ab, 0x5be0cd19⟩

def Chain.add (s t : Chain) : Chain :=
  ⟨word (s.a + t.a), word (s.b + t.b), word (s.c + t.c), word (s.d + t.d),
    word (s.e + t.e), word (s.f + t.f), word (s.g + t.g), word (s.h + t.h)⟩

/-- One round, with the round constant already added to the schedule word. -/
def Chain.round (s : Chain) (kw : ℕ) : Chain :=
  let sum1 := rotr 6 s.e ^^^ rotr 11 s.e ^^^ rotr 25 s.e
  let choose := (s.e &&& s.f) ^^^ ((4294967295 - s.e) &&& s.g)
  let temp1 := s.h + sum1 + choose + kw
  let sum0 := rotr 2 s.a ^^^ rotr 13 s.a ^^^ rotr 22 s.a
  let majority := (s.a &&& s.b) ^^^ (s.a &&& s.c) ^^^ (s.b &&& s.c)
  force (word (temp1 + (sum0 + majority))) fun a =>
    force (word (s.d + temp1)) fun e => ⟨a, s.a, s.b, s.c, e, s.e, s.f, s.g⟩

/-- The schedule word that follows a window of sixteen, oldest first. -/
def nextWord : List ℕ → ℕ
  | [w0, w1, _, _, _, _, _, _, _, w9, _, _, _, _, w14, _] =>
    let s0 := rotr 7 w1 ^^^ rotr 18 w1 ^^^ (w1 >>> 3)
    let s1 := rotr 17 w14 ^^^ rotr 19 w14 ^^^ (w14 >>> 10)
    word (w0 + s0 + w9 + s1)
  | _ => 0

/-- Run the rounds, sliding the sixteen-word window of the message schedule. -/
def rounds : List ℕ → List ℕ → Chain → Chain
  | [], _, s => s
  | _, [], s => s
  | k :: ks, w :: ws, s =>
    force (nextWord (w :: ws)) fun next => rounds ks (ws ++ [next]) (s.round (k + w))

def Chain.block (s : Chain) (window : List ℕ) : Chain :=
  s.add (rounds roundConstants window s)

def words : List ℕ → List ℕ
  | a :: b :: c :: d :: rest => (((a * 256 + b) * 256 + c) * 256 + d) :: words rest
  | _ => []

/-- One bit, zeros up to 56 modulo 64, then the length in bits as eight bytes. -/
def pad (bytes : List ℕ) : List ℕ :=
  let n := bytes.length
  bytes ++ [128] ++ List.replicate ((119 - n % 64) % 64) 0 ++
    (List.range 8).map fun i => (n * 8) / 256 ^ (7 - i) % 256

def blocks : ℕ → Chain → List ℕ → Chain
  | 0, s, _ => s
  | n + 1, s, ws => blocks n (s.block (ws.take 16)) (ws.drop 16)

def hash (bytes : List ℕ) : ℕ :=
  let ws := words (pad bytes)
  let s := blocks (ws.length / 16) initial ws
  [s.a, s.b, s.c, s.d, s.e, s.f, s.g, s.h].foldl (fun n w => n * 4294967296 + w) 0

/-- The sixty-four lowercase hexadecimal digits of a number below `2 ^ 256`. -/
def hexDigits (n : ℕ) : List Char :=
  (List.range 64).map fun i => Nat.digitChar (n / 16 ^ (63 - i) % 16)

def hexdigest (bytes : List ℕ) : List Char := hexDigits (hash bytes)

example : hash [97, 98, 99] =
    0xba7816bf8f01cfea414140de5dae2223b00361a396177a9cb410ff61f20015ad := by decide +kernel

/-- A lowercase hexadecimal digit. -/
def isHex (c : Char) : Bool := ('0' ≤ c && c ≤ '9') || ('a' ≤ c && c ≤ 'f')

theorem isHex_digitChar {n : ℕ} (h : n < 16) : isHex (Nat.digitChar n) = true := by
  have hall : ∀ k < 16, isHex (Nat.digitChar k) = true := by decide
  exact hall n h

theorem length_hexDigits (n : ℕ) : (hexDigits n).length = 64 := by
  simp [hexDigits]

theorem isHex_hexDigits (n : ℕ) : (hexDigits n).all isHex = true := by
  simp only [hexDigits, List.all_map, List.all_eq_true, Function.comp_apply]
  intro i _
  exact isHex_digitChar (Nat.mod_lt _ (by omega))

end Sha256
