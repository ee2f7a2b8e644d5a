import AdnBridge.Lib.Bits
import AdnBridge.Lib.Sha256
import Mathlib.Tactic.IntervalCases

namespace AdnBridge
set_option autoImplicit true

def swap (n : UInt32) : UInt32 :=
  n <<< 24 ||| (n &&& 0xFF00) <<< 8 ||| (n >>> 8 &&& (0xFF00 : UInt32)) ||| n >>> 24

def roundConstants : List UInt32 := [
  0x428A2F98, 0x71374491, 0xB5C0FBCF, 0xE9B5DBA5, 0x3956C25B, 0x59F111F1, 0x923F82A4, 0xAB1C5ED5,
  0xD807AA98, 0x12835B01, 0x243185BE, 0x550C7DC3, 0x72BE5D74, 0x80DEB1FE, 0x9BDC06A7, 0xC19BF174,
  0xE49B69C1, 0xEFBE4786, 0x0FC19DC6, 0x240CA1CC, 0x2DE92C6F, 0x4A7484AA, 0x5CB0A9DC, 0x76F988DA,
  0x983E5152, 0xA831C66D, 0xB00327C8, 0xBF597FC7, 0xC6E00BF3, 0xD5A79147, 0x06CA6351, 0x14292967,
  0x27B70A85, 0x2E1B2138, 0x4D2C6DFC, 0x53380D13, 0x650A7354, 0x766A0ABB, 0x81C2C92E, 0x92722C85,
  0xA2BFE8A1, 0xA81A664B, 0xC24B8B70, 0xC76C51A3, 0xD192E819, 0xD6990624, 0xF40E3585, 0x106AA070,
  0x19A4C116, 0x1E376C08, 0x2748774C, 0x34B0BCB5, 0x391C0CB3, 0x4ED8AA4A, 0x5B9CCA4F, 0x682E6FF3,
  0x748F82EE, 0x78A5636F, 0x84C87814, 0x8CC70208, 0x90BEFFFA, 0xA4506CEB, 0xBEF9A3F7, 0xC67178F2]

def f2 (a b c : UInt32) : UInt32 := a &&& b ||| c &&& (a ||| b)

def f1 (e f g : UInt32) : UInt32 := g ^^^ e &&& (f ^^^ g)

def fillbuf : List UInt8 := 0x80 :: List.replicate 63 0

def rol (x n : UInt32) : UInt32 := x <<< n ||| x >>> (32 - n)

def s0 (x : UInt32) : UInt32 := rol x 25 ^^^ rol x 14 ^^^ x >>> 3

def s1 (x : UInt32) : UInt32 := rol x 15 ^^^ rol x 13 ^^^ x >>> 10

def ss0 (x : UInt32) : UInt32 := rol x 30 ^^^ rol x 19 ^^^ rol x 10

def ss1 (x : UInt32) : UInt32 := rol x 26 ^^^ rol x 21 ^^^ rol x 7

/-- A `uint32_t` in memory, the lowest byte first. -/
def leWord (p : List UInt8) (i : Nat) : UInt32 :=
  (p.getD (4 * i) 0).toUInt32 ||| (p.getD (4 * i + 1) 0).toUInt32 <<< 8 |||
    (p.getD (4 * i + 2) 0).toUInt32 <<< 16 ||| (p.getD (4 * i + 3) 0).toUInt32 <<< 24

/-- The bytes that `set_uint32` writes. -/
def leBytes (v : UInt32) : List UInt8 :=
  [v.toUInt8, (v >>> 8).toUInt8, (v >>> 16).toUInt8, (v >>> 24).toUInt8]

/-- The register that stands for the `j`-th argument of `R` in the round `t`: the registers stay
where they are, and the arguments move. -/
def register (t j : Nat) : Nat := (j + 7 * (t % 8)) % 8

/-- `R`. -/
def shaRound (r : List UInt32) (t : Nat) (k m : UInt32) : List UInt32 :=
  let arg (j : Nat) : UInt32 := r.getD (register t j) 0
  let t0 := ss0 (arg 0) + f2 (arg 0) (arg 1) (arg 2)
  let t1 := arg 7 + ss1 (arg 4) + f1 (arg 4) (arg 5) (arg 6) + k + m
  (r.set (register t 3) (arg 3 + t1)).set (register t 7) (t0 + t1)

/-- `M`: the last sixteen words of the schedule lie in a ring. -/
def shaM (x : List UInt32) (i : Nat) : UInt32 :=
  s1 (x.getD ((i - 2) % 16) 0) + x.getD ((i - 7) % 16) 0 + s0 (x.getD ((i - 15) % 16) 0) +
    x.getD (i % 16) 0

def shaStep (s : List UInt32 × List UInt32) (t : Nat) : List UInt32 × List UInt32 :=
  if t < 16 then (s.1, shaRound s.2 t (roundConstants.getD t 0) (s.1.getD t 0))
  else
    let tm := shaM s.1 t
    (s.1.set (t % 16) tm, shaRound s.2 t (roundConstants.getD t 0) tm)

/-- What `sha256_state` begins with. -/
def shaInit : List UInt32 := [
  0x6A09E667, 0xBB67AE85, 0x3C6EF372, 0xA54FF53A, 0x510E527F, 0x9B05688C, 0x1F83D9AB, 0x5BE0CD19]

/-- The globals of the digest; the buffer keeps what an earlier call left in it. -/
structure Sha256Globals where
  state : List UInt32
  total : UInt32 × UInt32
  buffer : List UInt8

namespace Sha256Globals

/-- `sha256_total += n`, with the carry. -/
def count (s : Sha256Globals) (n : UInt32) : Sha256Globals :=
  let low := s.total.1 + n
  { s with total := (low, if low < n then s.total.2 + 1 else s.total.2) }

/-- The loop of `sha256_process_block` on one block. -/
def transform (state : List UInt32) (block : List UInt8) : List UInt32 :=
  let x := (List.range 16).map fun t => swap (leWord block t)
  List.zipWith (· + ·) state ((List.range 64).foldl shaStep (x, state)).2

def processBlock (s : Sha256Globals) (buffer : List UInt8) : Sha256Globals :=
  let s := s.count buffer.length.toUInt32
  { s with state := (Sha256.blocks buffer).foldl transform s.state }

/-- The whole blocks of the input, straight from where they lie. -/
def whole (s : Sha256Globals) (input : List UInt8) : Sha256Globals :=
  if input.length ≥ 64 then s.processBlock (input.take (input.length / 64 * 64)) else s

/-- What is left of the input, less than a block, with the padding, from the buffer. -/
def finish (s : Sha256Globals) (input : List UInt8) : Sha256Globals :=
  let bytes := input.length
  let s := if bytes > 0 then { s with buffer := blit s.buffer 0 input } else s
  let size := if bytes < 56 then 16 else 32
  let s := s.count bytes.toUInt32
  let high := s.total.2 <<< 3 ||| s.total.1 >>> 29
  let buffer := blit s.buffer (4 * size - 8) (leBytes (swap high))
  let buffer := blit buffer (4 * size - 4) (leBytes (swap (s.total.1 <<< 3)))
  let buffer := blit buffer bytes (fillbuf.take (4 * size - 8 - bytes))
  { s with buffer := buffer }.processBlock (buffer.take (4 * size))

end Sha256Globals

/-- `sha256_generate`, on a machine that puts the low byte first; `left` is what `sha256_buffer`
holds before. -/
def sha256Generate (left input : List UInt8) : List UInt8 :=
  let s : Sha256Globals := { state := shaInit, total := (0, 0), buffer := left }
  let s := (s.whole input).finish (input.drop (input.length / 64 * 64))
  (List.range 8).flatMap fun i => leBytes (swap (s.state.getD i 0))

open Sha256 (rotr ch maj bigSigma0 bigSigma1 smallSigma0 smallSigma1 Vars word wordAt wordBytes)

theorem rol_eq_rotr (x n m : UInt32) (h : 32 - n = m) (h' : 32 - m = n) :
    rol x n = rotr x m := by
  rw [rol, rotr, h, h', UInt32.or_comm]

theorem s0_eq (x : UInt32) : s0 x = smallSigma0 x := by
  rw [s0, smallSigma0, rol_eq_rotr x 25 7 rfl rfl, rol_eq_rotr x 14 18 rfl rfl]

theorem s1_eq (x : UInt32) : s1 x = smallSigma1 x := by
  rw [s1, smallSigma1, rol_eq_rotr x 15 17 rfl rfl, rol_eq_rotr x 13 19 rfl rfl]

theorem ss0_eq (x : UInt32) : ss0 x = bigSigma0 x := by
  rw [ss0, bigSigma0, rol_eq_rotr x 30 2 rfl rfl, rol_eq_rotr x 19 13 rfl rfl,
    rol_eq_rotr x 10 22 rfl rfl]

theorem ss1_eq (x : UInt32) : ss1 x = bigSigma1 x := by
  rw [ss1, bigSigma1, rol_eq_rotr x 26 6 rfl rfl, rol_eq_rotr x 21 11 rfl rfl,
    rol_eq_rotr x 7 25 rfl rfl]

theorem f1_eq (e f g : UInt32) : f1 e f g = ch e f g := by
  apply UInt32.eq_of_toBitVec_eq
  ext i hi
  simp only [f1, ch, UInt32.toBitVec_xor, UInt32.toBitVec_and, UInt32.toBitVec_not,
    BitVec.getElem_xor, BitVec.getElem_and, BitVec.getElem_not]
  cases e.toBitVec[i] <;> cases f.toBitVec[i] <;> cases g.toBitVec[i] <;> rfl

theorem f2_eq (a b c : UInt32) : f2 a b c = maj a b c := by
  apply UInt32.eq_of_toBitVec_eq
  ext i hi
  simp only [f2, maj, UInt32.toBitVec_xor, UInt32.toBitVec_and, UInt32.toBitVec_or,
    BitVec.getElem_xor, BitVec.getElem_and, BitVec.getElem_or]
  cases a.toBitVec[i] <;> cases b.toBitVec[i] <;> cases c.toBitVec[i] <;> rfl

theorem swap_getLsbD (v : UInt32) (h : i < 32) :
    (swap v).toBitVec.getLsbD i = v.toBitVec.getLsbD (8 * (3 - i / 8) + i % 8) := by
  simp only [swap, UInt32.toBitVec_or, UInt32.toBitVec_and, UInt32.toBitVec_shiftLeft,
    UInt32.toBitVec_shiftRight, UInt32.toBitVec_ofNat, BitVec.ofNat_eq_ofNat, BitVec.reduceMod,
    BitVec.shiftLeft_eq', BitVec.ushiftRight_eq', BitVec.toNat_ofNat, Nat.reducePow, Nat.reduceMod,
    BitVec.getLsbD_or, BitVec.getLsbD_and, BitVec.getLsbD_shiftLeft, BitVec.getLsbD_ushiftRight]
  interval_cases i <;> simp [BitVec.getLsbD_of_ge]

theorem swap_leWord (p : List UInt8) (t : Nat) : swap (leWord p t) = wordAt p t := by
  rw [leWord, wordAt]
  generalize p.getD (4 * t) 0 = b0
  generalize p.getD (4 * t + 1) 0 = b1
  generalize p.getD (4 * t + 2) 0 = b2
  generalize p.getD (4 * t + 3) 0 = b3
  apply UInt32.eq_of_toBitVec_eq
  apply BitVec.eq_of_getLsbD_eq
  intro i hi
  rw [swap_getLsbD _ hi]
  simp only [UInt32.toBitVec_or, UInt32.toBitVec_shiftLeft, UInt8.toBitVec_toUInt32,
    UInt32.toBitVec_ofNat, BitVec.ofNat_eq_ofNat, BitVec.reduceMod, BitVec.shiftLeft_eq',
    BitVec.toNat_ofNat, Nat.reducePow, Nat.reduceMod, BitVec.getLsbD_or, BitVec.getLsbD_shiftLeft,
    BitVec.getLsbD_setWidth]
  interval_cases i <;> simp [BitVec.getLsbD_of_ge]

theorem swap_shiftRight (v : UInt32) (h : k < 4) :
    (swap v >>> (8 * k).toUInt32).toUInt8 = (v >>> (8 * (3 - k)).toUInt32).toUInt8 := by
  have hk (j : Nat) (hj : j < 4) : ((8 * j).toUInt32.toBitVec % 32).toNat = 8 * j := by
    simp
    omega
  apply UInt8.eq_of_toBitVec_eq
  apply BitVec.eq_of_getLsbD_eq
  intro i hi
  have hbyte : (8 * k + i) / 8 = k := by omega
  have hbit : (8 * k + i) % 8 = i := by omega
  simp only [UInt32.toBitVec_toUInt8, UInt32.toBitVec_shiftRight, BitVec.ushiftRight_eq',
    BitVec.getLsbD_setWidth, BitVec.getLsbD_ushiftRight, hk k h, hk (3 - k) (by omega)]
  rw [swap_getLsbD _ (by omega), hbyte, hbit]

theorem leBytes_swap (v : UInt32) : leBytes (swap v) = wordBytes v := by
  have hz (w : UInt32) : w >>> (8 * 0).toUInt32 = w := UInt32.shiftRight_zero
  have h0 := swap_shiftRight v (k := 0) (by decide)
  have h1 : (swap v >>> 8).toUInt8 = (v >>> 16).toUInt8 := swap_shiftRight v (k := 1) (by decide)
  have h2 : (swap v >>> 16).toUInt8 = (v >>> 8).toUInt8 := swap_shiftRight v (k := 2) (by decide)
  have h3 := swap_shiftRight v (k := 3) (by decide)
  rw [hz] at h0
  rw [Nat.sub_self, hz] at h3
  change (swap v >>> 24).toUInt8 = _ at h3
  rw [leBytes, wordBytes, h0, h1, h2, h3]
  rfl

theorem roundConstants_map : roundConstants = Sha256.primes.map (Sha256.rootWord 3) := by
  decide +kernel

theorem roundConstants_eq (h : t < 64) : roundConstants.getD t 0 = Sha256.constant t := by
  have hl : Sha256.primes.length = 64 := rfl
  rw [Sha256.constant, roundConstants_map,
    List.getD_eq_getElem _ _ (by rw [List.length_map]; omega), List.getElem_map,
    List.getD_eq_getElem _ _ (by omega)]

/-- The registers in the order in which the round `t` names them. -/
def named (t : Nat) (r : List UInt32) : Vars :=
  .ofList ((List.range 8).map fun j => r.getD (register t j) 0)

theorem named_round (h : r.length = 8) (t : Nat) (k m : UInt32) :
    named (t + 1) (shaRound r t k m) = (named t r).round k m := by
  have h8 : t % 8 < 8 := Nat.mod_lt t (by decide)
  have hs : (t + 1) % 8 = (t % 8 + 1) % 8 := by omega
  match r, h with
  | [r0, r1, r2, r3, r4, r5, r6, r7], _ =>
    simp only [named, shaRound, register, hs, ss0_eq, ss1_eq, f1_eq, f2_eq]
    generalize t % 8 = c at h8
    interval_cases c <;>
      exact Vars.ext (UInt32.add_comm _ _) rfl rfl rfl rfl rfl rfl rfl

/-- Before the round `t`, the ring holds the sixteen words of the schedule that come before the
word `t`, or those of the block. -/
def RingHolds (m : Nat → UInt32) (t : Nat) (x : List UInt32) : Prop :=
  x.length = 16 ∧ ∀ i < max t 16, t ≤ i + 16 → x.getD (i % 16) 0 = word m i

theorem RingHolds.shaM (h : RingHolds m t x) (ht : 16 ≤ t) : shaM x t = word m t := by
  have hw (j : Nat) (hj : j < t) (hj' : t ≤ j + 16) : x.getD (j % 16) 0 = word m j :=
    h.2 j (by omega) hj'
  have hmod : t % 16 = (t - 16) % 16 := by omega
  rw [AdnBridge.shaM, Sha256.word_of_le ht, s0_eq, s1_eq, hmod, hw _ (by omega) (by omega),
    hw _ (by omega) (by omega), hw _ (by omega) (by omega), hw _ (by omega) (by omega)]

theorem RingHolds.step (h : RingHolds m t x) (ht : 16 ≤ t) :
    RingHolds m (t + 1) (x.set (t % 16) (word m t)) := by
  refine ⟨by rw [List.length_set, h.1], fun i hi hti => ?_⟩
  by_cases hit : i = t
  · rw [hit, getD_set _ _ _ (by rw [h.1]; omega), if_pos rfl]
  · rw [getD_set_ne _ _ _ (by omega)]
    exact h.2 i (by omega) (by omega)

/-- One round of the source, after `t` of them. -/
theorem shaStep_eq (h : RingHolds m t x) (hr : r.length = 8) (ht : t < 64) :
    RingHolds m (t + 1) (shaStep (x, r) t).1 ∧ (shaStep (x, r) t).2.length = 8 ∧
      named (t + 1) (shaStep (x, r) t).2 = (named t r).round (Sha256.constant t) (word m t) := by
  have hlen (k m : UInt32) : (shaRound r t k m).length = 8 := by
    rw [shaRound, List.length_set, List.length_set, hr]
  rw [shaStep]
  split
  next hlt =>
    have hx : x.getD t 0 = word m t := by
      have := h.2 t (by omega) (by omega)
      rwa [Nat.mod_eq_of_lt hlt] at this
    refine ⟨⟨h.1, fun i hi hti => h.2 i (by omega) (by omega)⟩, hlen _ _, ?_⟩
    rw [named_round hr, roundConstants_eq ht, hx]
  next hge =>
    rw [h.shaM (by omega)]
    refine ⟨h.step (by omega), hlen _ _, ?_⟩
    rw [named_round hr, roundConstants_eq ht]

theorem ringHolds_words (block : List UInt8) :
    RingHolds (wordAt block) 0 ((List.range 16).map fun t => swap (leWord block t)) := by
  refine ⟨by simp, fun i hi _ => ?_⟩
  have hi : i < 16 := by simpa using hi
  rw [Nat.mod_eq_of_lt hi, Sha256.word_of_lt hi]
  simp [hi, swap_leWord, List.getD]

theorem named_zero (h : r.length = 8) : named 0 r = .ofList r := by
  match r, h with
  | [_, _, _, _, _, _, _, _], _ => rfl

theorem rounds_eq {block : List UInt8} (hx : RingHolds (wordAt block) 0 x) (hr : r.length = 8)
    (hn : n ≤ 64) :
    RingHolds (wordAt block) n ((List.range n).foldl shaStep (x, r)).1 ∧
      ((List.range n).foldl shaStep (x, r)).2.length = 8 ∧
      named n ((List.range n).foldl shaStep (x, r)).2 = Sha256.rounds (.ofList r) block n := by
  induction n with
  | zero => exact ⟨hx, hr, named_zero hr⟩
  | succ n ih =>
    obtain ⟨hx, hl, hnamed⟩ := ih (by omega)
    rw [List.range_succ, List.foldl_append, List.foldl_cons, List.foldl_nil, Sha256.rounds_succ,
      ← hnamed]
    exact shaStep_eq hx hl (by omega)

/-- After all rounds, the registers have their own names again. -/
theorem zipWith_named (h : state.length = 8) (hr : r.length = 8) :
    (List.zipWith (· + ·) state r).length = 8 ∧
      Vars.ofList (List.zipWith (· + ·) state r) = (Vars.ofList state).add (named 64 r) := by
  match state, h, r, hr with
  | [_, _, _, _, _, _, _, _], _, [_, _, _, _, _, _, _, _], _ => exact ⟨rfl, rfl⟩

theorem transform_eq (h : state.length = 8) (block : List UInt8) :
    (Sha256Globals.transform state block).length = 8 ∧
      Vars.ofList (Sha256Globals.transform state block) =
        Sha256.compress (.ofList state) block := by
  obtain ⟨-, hl, hn⟩ := rounds_eq (ringHolds_words block) h (Nat.le_refl 64)
  rw [Sha256Globals.transform, Sha256.compress, ← hn]
  exact zipWith_named h hl

theorem foldl_transform (h : r.length = 8) (l : List (List UInt8)) :
    (l.foldl Sha256Globals.transform r).length = 8 ∧
      Vars.ofList (l.foldl Sha256Globals.transform r) =
        l.foldl Sha256.compress (.ofList r) := by
  induction l generalizing r with
  | nil => exact ⟨h, rfl⟩
  | cons block l ih =>
    obtain ⟨hl, he⟩ := transform_eq h block
    rw [List.foldl_cons, List.foldl_cons, ← he]
    exact ih hl

theorem blit_middle (p q : List α) {l src : List α} (hp : p.length = i)
    (hl : l.length = src.length) : blit (p ++ (l ++ q)) i src = p ++ (src ++ q) := by
  rw [blit, ← hp, ← hl, List.take_left, List.append_assoc, ← List.drop_drop, List.drop_left,
    List.drop_left]

/-- The last blocks, as they are put together in the buffer. -/
theorem take_blits {left rest fill hi lo : List α} (hn : rest.length + fill.length + 8 = n)
    (hl : n ≤ left.length) (hhi : hi.length = 4) (hlo : lo.length = 4) :
    (blit (blit (blit (blit left 0 rest) (n - 8) hi) (n - 4) lo) rest.length fill).take n =
      rest ++ fill ++ (hi ++ lo) := by
  have split {l : List α} {k : Nat} (h : k ≤ l.length) : ∃ a b, l = a ++ b ∧ a.length = k :=
    ⟨l.take k, l.drop k, (List.take_append_drop k l).symm, List.length_take_of_le h⟩
  obtain ⟨a, l, rfl, ha⟩ := split (k := rest.length) (l := left) (by omega)
  rw [List.length_append] at hl
  obtain ⟨b, l, rfl, hb⟩ := split (k := fill.length) (l := l) (by omega)
  rw [List.length_append] at hl
  obtain ⟨c, l, rfl, hc⟩ := split (k := 4) (l := l) (by omega)
  rw [List.length_append] at hl
  obtain ⟨d, l, rfl, hd⟩ := split (k := 4) (l := l) (by omega)
  have h0 := blit_middle [] (b ++ (c ++ (d ++ l))) (i := 0) rfl ha
  have h1 := blit_middle (rest ++ b) (d ++ l) (i := n - 8)
    (by rw [List.length_append]; omega) (hc.trans hhi.symm)
  have h2 := blit_middle (rest ++ b ++ hi) l (i := n - 4)
    (by rw [List.length_append, List.length_append]; omega) (hd.trans hlo.symm)
  have h3 := blit_middle rest (hi ++ (lo ++ l)) rfl hb
  simp only [List.nil_append, List.append_assoc] at h0 h1 h2 h3 ⊢
  rw [h0, h1, h2, h3, ← List.append_assoc hi, ← List.append_assoc fill, ← List.append_assoc rest,
    List.take_left']
  simp only [List.length_append]
  omega

namespace Sha256Globals

theorem count_eq {s : Sha256Globals} (ht : s.total = (a.toUInt32, 0)) (h : a + b < 2 ^ 32) :
    s.count b.toUInt32 = { s with total := ((a + b).toUInt32, 0) } := by
  have hb : ¬(a + b).toUInt32 < b.toUInt32 := by
    rw [UInt32.lt_iff_toNat_lt]
    simp
    omega
  rw [count, ht]
  simp only [show a.toUInt32 + b.toUInt32 = (a + b).toUInt32 from (UInt32.ofNat_add a b).symm]
  rw [if_neg hb]

end Sha256Globals

theorem bits_high {n : Nat} (h : n < 2 ^ 32) : ((0 : UInt32) <<< 3 ||| n.toUInt32 >>> 29) =
    ((8 * n).toUInt64 >>> 32).toUInt32 := by
  apply UInt32.toNat_inj.1
  simp [Nat.shiftRight_eq_div_pow]
  omega

theorem bits_low (n : Nat) : n.toUInt32 <<< 3 = (8 * n).toUInt64.toUInt32 := by
  apply UInt32.toNat_inj.1
  simp [Nat.shiftLeft_eq]
  omega

theorem initial_eq : Sha256.initial = .ofList shaInit := by
  have h : (Sha256.primes.take 8).map (Sha256.rootWord 2) = shaInit := by decide +kernel
  rw [Sha256.initial, h]

/-- The padding of a message that ends `bytes` into a block. -/
theorem pad_eq (input : List UInt8) {bytes size : Nat} (hb : bytes = input.length % 64)
    (hsize : size = if bytes < 56 then 16 else 32) (h : input.length < 2 ^ 32) :
    Sha256.pad input = input.take (input.length / 64 * 64) ++
      (input.drop (input.length / 64 * 64) ++ fillbuf.take (4 * size - 8 - bytes) ++
        (wordBytes ((0 : UInt32) <<< 3 ||| input.length.toUInt32 >>> 29) ++
          wordBytes (input.length.toUInt32 <<< 3))) := by
  have hfill : fillbuf.take (4 * size - 8 - bytes) =
      [(0x80 : UInt8)] ++ List.replicate ((119 - input.length % 64) % 64) 0 := by
    obtain ⟨k, hk⟩ : ∃ k, 4 * size - 8 - bytes = k + 1 := ⟨4 * size - 8 - bytes - 1, by
      split at hsize <;> omega⟩
    rw [hk, fillbuf, List.take_succ_cons, List.take_replicate, List.singleton_append]
    congr 2
    split at hsize <;> omega
  rw [Sha256.pad, bits_high h, bits_low, hfill]
  simp only [← List.append_assoc, List.take_append_drop]

namespace Sha256Globals

theorem whole_eq (left : List UInt8) (h : input.length < 2 ^ 32) :
    (⟨shaInit, (0, 0), left⟩ : Sha256Globals).whole input =
      ⟨(Sha256.blocks (input.take (input.length / 64 * 64))).foldl transform shaInit,
        ((input.length / 64 * 64).toUInt32, 0), left⟩ := by
  rw [whole]
  split
  next hge =>
    have hlen : (input.take (input.length / 64 * 64)).length = input.length / 64 * 64 :=
      List.length_take_of_le (by omega)
    rw [processBlock, hlen, count_eq (a := 0) rfl (by omega), Nat.zero_add]
  next hlt =>
    rw [Nat.div_eq_of_lt (by omega), Nat.zero_mul, List.take_zero]
    rfl

theorem buffered (s : Sha256Globals) (input : List UInt8) :
    (if input.length > 0 then { s with buffer := blit s.buffer 0 input } else s) =
      { s with buffer := blit s.buffer 0 input } := by
  split
  next => rfl
  next h =>
    rw [List.eq_nil_of_length_eq_zero (Nat.eq_zero_of_not_pos h)]
    rfl

theorem finish_state {s : Sha256Globals} (hs : s.buffer.length = 128) (hi : input.length < 64)
    (ht : s.total = (n.toUInt32, 0)) (hn : n + input.length < 2 ^ 32)
    (hsize : size = if input.length < 56 then 16 else 32) :
    (s.finish input).state =
      (Sha256.blocks (input ++ fillbuf.take (4 * size - 8 - input.length) ++
        (wordBytes ((0 : UInt32) <<< 3 ||| (n + input.length).toUInt32 >>> 29) ++
          wordBytes ((n + input.length).toUInt32 <<< 3)))).foldl transform s.state := by
  have hfill : (fillbuf.take (4 * size - 8 - input.length)).length =
      4 * size - 8 - input.length := by
    apply List.length_take_of_le
    rw [show fillbuf.length = 64 from rfl]
    split at hsize <;> omega
  have hcount := count_eq (s := { s with buffer := blit s.buffer 0 input }) ht hn
  rw [finish, buffered, ← hsize, hcount]
  simp only [leBytes_swap]
  rw [take_blits (by rw [hfill]; split at hsize <;> omega) (by split at hsize <;> omega) rfl rfl]
  rfl

/-- The blocks that the source goes through are those of the padded message. -/
theorem finish_whole (hl : left.length = 128) (h : input.length < 2 ^ 32) :
    (((⟨shaInit, (0, 0), left⟩ : Sha256Globals).whole input).finish
        (input.drop (input.length / 64 * 64))).state =
      (Sha256.blocks (Sha256.pad input)).foldl transform shaInit := by
  have hrest : (input.drop (input.length / 64 * 64)).length = input.length % 64 := by
    rw [List.length_drop]
    omega
  have hhead : (input.take (input.length / 64 * 64)).length % 64 = 0 := by
    rw [List.length_take_of_le (by omega), Nat.mul_mod_left]
  rw [whole_eq left h, finish_state hl (by omega) rfl (by omega) rfl, hrest, Nat.div_add_mod',
    pad_eq input rfl rfl h, Sha256.blocks_append hhead, List.foldl_append]

end Sha256Globals

theorem digest_bytes (h : state.length = 8) :
    ((List.range 8).flatMap fun i => leBytes (swap (state.getD i 0))) =
      (Vars.ofList state).toList.flatMap wordBytes := by
  simp only [leBytes_swap]
  match state, h with
  | [_, _, _, _, _, _, _, _], _ => rfl

theorem finish_compress (hl : left.length = 128) (h : input.length < 2 ^ 32) :
    let state := (((⟨shaInit, (0, 0), left⟩ : Sha256Globals).whole input).finish
      (input.drop (input.length / 64 * 64))).state
    state.length = 8 ∧
      Vars.ofList state = (Sha256.blocks (Sha256.pad input)).foldl Sha256.compress Sha256.initial := by
  rw [Sha256Globals.finish_whole hl h, initial_eq]
  exact foldl_transform rfl _

/-- The digest of the login, for any input and whatever an earlier call left in the buffer. -/
theorem sha256Generate_digest (hl : left.length = 128) (h : input.length < 2 ^ 32) :
    sha256Generate left input = Sha256.digest input := by
  obtain ⟨hlen, hv⟩ := finish_compress hl h
  rw [sha256Generate, digest_bytes hlen, hv, Sha256.digest]

theorem sha256Generate_digest_sample :
    sha256Generate (List.replicate 128 0xFF) [0x2A, 0x17, 0x05, 0x3C, 0x70, 0x61, 0x73, 0x73] =
      Sha256.digest [0x2A, 0x17, 0x05, 0x3C, 0x70, 0x61, 0x73, 0x73] :=
  sha256Generate_digest rfl (by decide)

end AdnBridge
