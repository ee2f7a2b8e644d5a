import AdnBridge.Lib.Bits

namespace AdnBridge
set_option autoImplicit true

def interleave49Matrix : List Nat := [
  0, 3, 6, 9, 12, 15, 18, 21, 24, 27, 30, 33, 36, 39, 41, 43, 45, 47,
  1, 4, 7, 10, 13, 16, 19, 22, 25, 28, 31, 34, 37, 40, 42, 44, 46, 48,
  2, 5, 8, 11, 14, 17, 20, 23, 26, 29, 32, 35, 38]

def ambe49BitsFromBytes (input : List UInt8) : List Bool := readBits input (List.range 49)

def ambe49BytesFromBits (bits : List Bool) : List UInt8 :=
  writeBits (List.replicate 7 0) (List.range 49) bits

/-- From a frame as the converter has it to one as the vocoder server has it. -/
def ambe49Interleave (frame : List UInt8) : List UInt8 :=
  ambe49BytesFromBits (setAt (List.replicate 49 false) interleave49Matrix
    (ambe49BitsFromBytes frame))

def ambe49Deinterleave (frame : List UInt8) : List UInt8 :=
  ambe49BytesFromBits
    (interleave49Matrix.map fun i => (ambe49BitsFromBytes frame).getD i false)

theorem ambe49BytesFromBits_length (bits : List Bool) : (ambe49BytesFromBits bits).length = 7 :=
  writeBits_length _ _ _

theorem ambe49BitsFromBytes_length (f : List UInt8) : (ambe49BitsFromBytes f).length = 49 := by
  rw [ambe49BitsFromBytes, readBits_length, List.length_range]

theorem range49_lt : ∀ i ∈ List.range 49, i < 8 * (List.replicate 7 (0 : UInt8)).length := by
  intro i hi
  have h := List.mem_range.1 hi
  rw [List.length_replicate]
  omega

theorem ambe49BitsFromBytes_bytes (h : bits.length = 49) :
    ambe49BitsFromBytes (ambe49BytesFromBits bits) = bits :=
  readBits_writeBits List.nodup_range range49_lt (by rw [h, List.length_range])

/-- Behind its 49 bits a frame is clear. -/
theorem ambe49BytesFromBits_last (bits : List Bool) :
    (ambe49BytesFromBits bits).getD 6 0 &&& 0x7F = 0 := by
  have hclear : ∀ k : Fin 7, (ambe49BytesFromBits bits).getD 6 0 &&& bitMask (k.val + 1) = 0 := by
    intro k
    have hlt := k.isLt
    have h := @readBit_writeBits_of_notMem _ _ bits (49 + k.val) range49_lt
      (by rw [List.mem_range]; omega)
    have hq : (49 + k.val) / 8 = 6 := by omega
    have hm : (49 + k.val) % 8 = k.val + 1 := by omega
    rw [readBit, readBit, ← bitMask_mod, hq, hm] at h
    have hz : (List.replicate 7 (0 : UInt8)).getD 6 0 &&& bitMask (k.val + 1) = 0 :=
      UInt8.zero_and
    rw [hz] at h
    exact bne_eq_false_iff_eq.1 h
  revert hclear
  generalize (ambe49BytesFromBits bits).getD 6 0 = x
  revert x
  exact forall_byte (by decide +kernel)

theorem interleave49Matrix_perm : interleave49Matrix.Nodup ∧ (∀ i ∈ interleave49Matrix, i < 49) ∧
    ∀ k < 49, k ∈ interleave49Matrix := by
  decide +kernel

/-- Interleaving undoes deinterleaving. -/
theorem ambe49Interleave_deinterleave (wire : List UInt8) :
    ambe49BitsFromBytes (ambe49Interleave (ambe49Deinterleave wire)) = ambe49BitsFromBytes wire := by
  obtain ⟨hn, hlt, hmem⟩ := interleave49Matrix_perm
  have hl : (interleave49Matrix.map fun i => (ambe49BitsFromBytes wire).getD i false).length = 49 :=
    List.length_map _
  have h49 : (List.replicate 49 false).length = 49 := List.length_replicate
  rw [ambe49Interleave, ambe49Deinterleave, ambe49BitsFromBytes_bytes hl,
    ambe49BitsFromBytes_bytes (by rw [setAt_length, h49])]
  have hset := map_getD_setAt hn (d := List.replicate 49 false)
    (by rw [h49]; exact hlt) hl false
  apply List.ext_getElem
  · rw [setAt_length, h49, ambe49BitsFromBytes_length]
  · intro k h1 h2
    rw [setAt_length, h49] at h1
    rw [← List.getD_eq_getElem _ false, ← List.getD_eq_getElem _ false]
    exact List.map_inj_left.1 hset k (hmem k h1)

end AdnBridge
