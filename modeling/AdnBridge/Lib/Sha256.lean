import Mathlib.Algebra.Order.Ring.Int
import Mathlib.Data.Nat.NthRoot.Defs
import Mathlib.Tactic.Common

namespace AdnBridge
set_option autoImplicit true

namespace Sha256

def rotr (x n : UInt32) : UInt32 := x >>> n ||| x <<< (32 - n)

def ch (x y z : UInt32) : UInt32 := x &&& y ^^^ ~~~x &&& z

def maj (x y z : UInt32) : UInt32 := x &&& y ^^^ x &&& z ^^^ y &&& z

def bigSigma0 (x : UInt32) : UInt32 := rotr x 2 ^^^ rotr x 13 ^^^ rotr x 22

def bigSigma1 (x : UInt32) : UInt32 := rotr x 6 ^^^ rotr x 11 ^^^ rotr x 25

def smallSigma0 (x : UInt32) : UInt32 := rotr x 7 ^^^ rotr x 18 ^^^ x >>> 3

def smallSigma1 (x : UInt32) : UInt32 := rotr x 17 ^^^ rotr x 19 ^^^ x >>> 10

/-- The first 32 bits of the fraction of the `k`-th root of `p`. -/
def rootWord (k p : Nat) : UInt32 := (Nat.nthRoot k (p * 2 ^ (32 * k))).toUInt32

/-- The first 64 primes. -/
def primes : List Nat := [
  2, 3, 5, 7, 11, 13, 17, 19, 23, 29, 31, 37, 41, 43, 47, 53, 59, 61, 67, 71, 73, 79, 83, 89, 97,
  101, 103, 107, 109, 113, 127, 131, 137, 139, 149, 151, 157, 163, 167, 173, 179, 181, 191, 193,
  197, 199, 211, 223, 227, 229, 233, 239, 241, 251, 257, 263, 269, 271, 277, 281, 283, 293, 307,
  311]

def constant (t : Nat) : UInt32 := rootWord 3 (primes.getD t 0)

/-- The message schedule of a block. -/
def word (m : Nat → UInt32) (t : Nat) : UInt32 :=
  if t < 16 then m t
  else
    smallSigma1 (word m (t - 2)) + word m (t - 7) + smallSigma0 (word m (t - 15)) + word m (t - 16)
termination_by t

/-- The working variables. -/
@[ext] structure Vars where
  a : UInt32
  b : UInt32
  c : UInt32
  d : UInt32
  e : UInt32
  f : UInt32
  g : UInt32
  h : UInt32

namespace Vars

def round (v : Vars) (k w : UInt32) : Vars :=
  let t1 := v.h + bigSigma1 v.e + ch v.e v.f v.g + k + w
  let t2 := bigSigma0 v.a + maj v.a v.b v.c
  ⟨t1 + t2, v.a, v.b, v.c, v.d + t1, v.e, v.f, v.g⟩

def add (v w : Vars) : Vars :=
  ⟨v.a + w.a, v.b + w.b, v.c + w.c, v.d + w.d, v.e + w.e, v.f + w.f, v.g + w.g, v.h + w.h⟩

def toList (v : Vars) : List UInt32 := [v.a, v.b, v.c, v.d, v.e, v.f, v.g, v.h]

def ofList (l : List UInt32) : Vars :=
  ⟨l.getD 0 0, l.getD 1 0, l.getD 2 0, l.getD 3 0, l.getD 4 0, l.getD 5 0, l.getD 6 0, l.getD 7 0⟩

end Vars

/-- A word of four bytes, the highest one first. -/
def wordAt (p : List UInt8) (t : Nat) : UInt32 :=
  (p.getD (4 * t) 0).toUInt32 <<< 24 ||| (p.getD (4 * t + 1) 0).toUInt32 <<< 16 |||
    (p.getD (4 * t + 2) 0).toUInt32 <<< 8 ||| (p.getD (4 * t + 3) 0).toUInt32

def wordBytes (w : UInt32) : List UInt8 :=
  [(w >>> 24).toUInt8, (w >>> 16).toUInt8, (w >>> 8).toUInt8, w.toUInt8]

/-- The first `n` rounds of a block. -/
def rounds (v : Vars) (block : List UInt8) (n : Nat) : Vars :=
  (List.range n).foldl (fun v t => v.round (constant t) (word (wordAt block) t)) v

def compress (v : Vars) (block : List UInt8) : Vars := v.add (rounds v block 64)

def initial : Vars := .ofList ((primes.take 8).map (rootWord 2))

def blocks (p : List UInt8) : List (List UInt8) :=
  (List.range (p.length / 64)).map fun i => (p.drop (64 * i)).take 64

/-- The message, a one bit, zeros up to the end of a block, and the length in bits. -/
def pad (message : List UInt8) : List UInt8 :=
  let bits := (8 * message.length).toUInt64
  message ++ [(0x80 : UInt8)] ++ List.replicate ((119 - message.length % 64) % 64) (0 : UInt8) ++
    (wordBytes (bits >>> 32).toUInt32 ++ wordBytes bits.toUInt32)

def digest (message : List UInt8) : List UInt8 :=
  ((blocks (pad message)).foldl compress initial).toList.flatMap wordBytes

theorem rounds_succ (v : Vars) (block : List UInt8) (n : Nat) :
    rounds v block (n + 1) = (rounds v block n).round (constant n) (word (wordAt block) n) := by
  rw [rounds, List.range_succ, List.foldl_append]
  rfl

theorem word_of_lt (h : t < 16) (m : Nat → UInt32) : word m t = m t := by
  rw [word, if_pos h]

theorem word_of_le (h : 16 ≤ t) (m : Nat → UInt32) :
    word m t = smallSigma1 (word m (t - 2)) + word m (t - 7) + smallSigma0 (word m (t - 15)) +
      word m (t - 16) := by
  rw [word, if_neg (Nat.not_lt.2 h)]

/-- Whole blocks in front are taken first. -/
theorem blocks_append {p : List UInt8} (h : p.length % 64 = 0) (q : List UInt8) :
    blocks (p ++ q) = blocks p ++ blocks q := by
  obtain ⟨n, hn⟩ := Nat.dvd_of_mod_eq_zero h
  have hl : (p ++ q).length / 64 = n + q.length / 64 := by
    rw [List.length_append, hn, Nat.mul_add_div (by decide)]
  rw [blocks, hl, List.range_add, List.map_append, List.map_map, blocks, hn,
    Nat.mul_div_cancel_left n (by decide), blocks]
  congr 1
  · apply List.map_congr_left
    intro i hi
    have hi' := List.mem_range.1 hi
    rw [List.drop_append_of_le_length (by omega), List.take_append_of_le_length]
    rw [List.length_drop]
    omega
  · apply List.map_congr_left
    intro i _
    show ((p ++ q).drop (64 * (n + i))).take 64 = _
    rw [Nat.mul_add, ← hn, ← List.drop_drop, List.drop_left]

end Sha256

end AdnBridge
