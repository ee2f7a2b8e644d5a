import AdnBridge.Mmdvm.Voice

namespace AdnBridge
set_option autoImplicit true

open Golay24128

theorem zipWith_xor_self {l k : List UInt8} (h : l.length ≤ k.length) :
    List.zipWith (· ^^^ ·) (List.zipWith (· ^^^ ·) l k) k = l := by
  induction l generalizing k with
  | nil => rfl
  | cons x l ih =>
    cases k with
    | nil => exact absurd h (Nat.not_succ_le_zero _)
    | cons y k =>
      rw [List.zipWith_cons_cons, List.zipWith_cons_cons, ih (Nat.le_of_succ_le_succ h),
        UInt8.xor_assoc, UInt8.xor_self, UInt8.xor_zero]

theorem whiten_whiten (h : vch.length = 13) : whiten (whiten vch) = vch :=
  zipWith_xor_self (h.le.trans (by decide))

theorem whiten_length (h : vch.length = 13) : (whiten vch).length = 13 := by
  rw [whiten, List.length_zipWith, h]
  rfl

theorem interleaveTable264_perm : interleaveTable264.Nodup ∧ interleaveTable264.length = 104 ∧
    ∀ i ∈ interleaveTable264, i < 104 := by
  decide +kernel

/-- Thirteen bytes written bit by bit. -/
theorem readBits_channel (p : List UInt8) (h : p.length = 13) :
    readBits p (List.range 104) = bytesBits p := by
  rw [List.range_eq_range', readBits_range' p (by omega), List.drop_zero, List.take_of_length_le]
  rw [bytesBits_length, h]

theorem writeBits_channel {bits : List Bool} (hb : bits.length = 104) :
    bytesBits (writeBits (List.replicate 13 0) (List.range 104) bits) = bits := by
  rw [← readBits_channel _ ((writeBits_length _ _ _).trans List.length_replicate)]
  exact readBits_writeBits List.nodup_range
    (fun i hi => List.length_replicate (n := 13) (a := (0 : UInt8)) ▸ List.mem_range.1 hi)
    (hb.trans List.length_range.symm)

theorem writeBits_readBits_channel {p : List UInt8} (h : p.length = 13) :
    writeBits (List.replicate 13 0) (List.range 104) (readBits p (List.range 104)) = p := by
  apply bytesBits_injective
  rw [writeBits_channel ((readBits_length _ _).trans List.length_range), readBits_channel p h]

/-- The middle one of each three bits. -/
theorem tripled_getD (bits : List Bool) (i : Nat) :
    (tripled bits).getD (3 * i + 1) false = bits.getD i false := by
  induction bits generalizing i with
  | nil => rfl
  | cons s bits ih =>
    have hcons : tripled (s :: bits) = s :: s :: s :: tripled bits := rfl
    rw [hcons]
    cases i with
    | zero => rfl
    | succ i => exact ih i

theorem tripled_length (bits : List Bool) : (tripled bits).length = 3 * bits.length := by
  induction bits with
  | nil => rfl
  | cons s bits ih =>
    have hcons : tripled (s :: bits) = s :: s :: s :: tripled bits := rfl
    rw [hcons, List.length_cons, List.length_cons, List.length_cons, ih, List.length_cons]
    omega

theorem map_getD_range (l : List Bool) : (List.range l.length).map (l.getD · false) = l := by
  apply List.ext_getElem
  · rw [List.length_map, List.length_range]
  · intro i h1 h2
    rw [List.getElem_map, List.getElem_range, List.getD_eq_getElem _ _ h2]

/-- Where the fields stand in the bits of a channel. -/
theorem vchBits_spec (a b c : Nat) : (vchBits a b c).length = 104 ∧
    ((List.range 12).map fun i => (vchBits a b c).getD (3 * i + 1) false) = toBits 12 a ∧
    ((List.range 12).map fun i => (vchBits a b c).getD (3 * (i + 12) + 1) false) = toBits 12 b ∧
    (((List.range 3).map fun i => (vchBits a b c).getD (3 * (i + 24) + 1) false) ++
      (List.range 22).map fun i => (vchBits a b c).getD (i + 81) false) = toBits 25 c := by
  have hA := toBits_length 12 a
  have hB := toBits_length 12 b
  have hC := toBits_length 25 c
  have hC3 : ((toBits 25 c).take 3).length = 3 := by rw [List.length_take, hC]; rfl
  have hC22 : ((toBits 25 c).drop 3).length = 22 := by rw [List.length_drop, hC]
  have htA : (tripled (toBits 12 a)).length = 36 := by rw [tripled_length, hA]
  have htB : (tripled (toBits 12 b)).length = 36 := by rw [tripled_length, hB]
  have htC : (tripled ((toBits 25 c).take 3)).length = 9 := by rw [tripled_length, hC3]
  have happ : vchBits a b c = tripled (toBits 12 a) ++ (tripled (toBits 12 b) ++
      (tripled ((toBits 25 c).take 3) ++ ((toBits 25 c).drop 3 ++ [false]))) := by
    simp only [vchBits, List.append_assoc]
  rw [happ]
  refine ⟨?_, ?_, ?_, ?_⟩
  · simp only [List.length_append, htA, htB, htC, hC22]
    rfl
  · conv_rhs => rw [← map_getD_range (toBits 12 a), hA]
    apply List.map_congr_left
    intro i hi
    rw [List.mem_range] at hi
    rw [List.getD_append _ _ _ _ (by omega), tripled_getD]
  · conv_rhs => rw [← map_getD_range (toBits 12 b), hB]
    apply List.map_congr_left
    intro i hi
    rw [List.mem_range] at hi
    have hidx : 3 * (i + 12) + 1 - 36 = 3 * i + 1 := by omega
    rw [List.getD_append_right _ _ _ _ (by omega), htA, hidx, List.getD_append _ _ _ _ (by omega),
      tripled_getD]
  · conv_rhs => rw [← List.take_append_drop 3 (toBits 25 c),
      ← map_getD_range ((toBits 25 c).take 3), ← map_getD_range ((toBits 25 c).drop 3), hC3, hC22]
    apply congrArg₂ (· ++ ·)
    · apply List.map_congr_left
      intro i hi
      rw [List.mem_range] at hi
      have hidx : 3 * (i + 24) + 1 - 36 - 36 = 3 * i + 1 := by omega
      rw [List.getD_append_right _ _ _ _ (by omega), htA, List.getD_append_right _ _ _ _ (by omega),
        htB, hidx, List.getD_append _ _ _ _ (by omega), tripled_getD]
    · apply List.map_congr_left
      intro i hi
      rw [List.mem_range] at hi
      have hidx : i + 81 - 36 - 36 - 9 = i := by omega
      rw [List.getD_append_right _ _ _ _ (by omega), htA, List.getD_append_right _ _ _ _ (by omega),
        htB, List.getD_append_right _ _ _ _ (by omega), htC, hidx,
        List.getD_append _ _ _ _ (by omega)]

/-- A payload with the given voice channel in its `j`-th place. -/
def CarriesYsf (ysf120 : List UInt8) (j : Fin 5) (v : List UInt8) : Prop :=
  ∀ k < 13, ysf120.getD (35 + 18 * j.val + k) 0 = v.getD k 0

theorem CarriesYsf.readBit {p : List UInt8} {j : Fin 5} (h : CarriesYsf p j v) (hn : n < 104) :
    AdnBridge.readBit (p.drop 30) (40 + 144 * j.val + n) = AdnBridge.readBit v n := by
  have hq : (40 + 144 * j.val + n) / 8 = 5 + 18 * j.val + n / 8 := by omega
  have hm : (40 + 144 * j.val + n) % 8 = n % 8 := by omega
  have hb := h (n / 8) (by omega)
  have hidx : 30 + (5 + 18 * j.val + n / 8) = 35 + 18 * j.val + n / 8 := by omega
  rw [AdnBridge.readBit, AdnBridge.readBit, ← bitMask_mod, hm, bitMask_mod, hq, ← hb,
    List.getD_eq_getElem?_getD, List.getElem?_drop, hidx, ← List.getD_eq_getElem?_getD]

/-- The fields of a frame that `putAMBE7YSF` has put into a payload. -/
theorem readYsf_of_carries {p : List UInt8} {j : Fin 5} {a b c : Nat} (hf : Fields a b c)
    (h : CarriesYsf p j (ambe2Ysf (encode24128 a)
      ((encode23127 b >>> 1) ^^^ (prngTable.getD a 0 >>> 1)) c).toList) :
    readYsf p j = (a, b, c) := by
  obtain ⟨-, ha, -⟩ := decode24128_encode24128 hf.a
  obtain ⟨hb, -⟩ := encode23127_data hf.b
  obtain ⟨hnodup, hlen, hlt⟩ := interleaveTable264_perm
  obtain ⟨hvl, hA, hB, hC⟩ := vchBits_spec a b c
  generalize hw : writeBits (List.replicate 13 0) (List.range 104) (vchBits a b c) = w
  have hwl : w.length = 13 := by rw [← hw, writeBits_length, List.length_replicate]
  have hwl' := whiten_length hwl
  have hchan : (ambe2Ysf (encode24128 a) ((encode23127 b >>> 1) ^^^ (prngTable.getD a 0 >>> 1))
      c).toList = writeBits (List.replicate 13 0) interleaveTable264
        (readBits (whiten w) (List.range 104)) := by
    rw [ambe2Ysf, toList_ofLength, ha, Nat.xor_assoc, Nat.xor_self, Nat.xor_zero, hb, hw]
  have hread : readBits (p.drop 30) (interleaveTable264.map fun n => 40 + 144 * j.val + n) =
      readBits (whiten w) (List.range 104) := by
    rw [readBits, List.map_map]
    have hcongr := List.map_congr_left fun n hn => h.readBit (hlt n hn)
    refine hcongr.trans ?_
    rw [hchan]
    exact readBits_writeBits hnodup
      (fun i hi => List.length_replicate (n := 13) (a := (0 : UInt8)) ▸ hlt i hi)
      ((readBits_length _ _).trans (List.length_range.trans hlen.symm))
  have hbit (i : Nat) : AdnBridge.readBit w i = (vchBits a b c).getD i false := by
    rw [readBit_eq, ← hw, writeBits_channel hvl]
  rw [readYsf, hread, writeBits_readBits_channel hwl', whiten_whiten hwl]
  simp only [readBits, List.map_append, List.map_map, Function.comp_def, hbit]
  rw [hA, hB, hC, ofBits_toBits hf.a, ofBits_toBits hf.b, ofBits_toBits hf.c]

/-- What `putAMBE7YSF` queues comes out of the other converter as `putAMBE7` would have queued it. -/
theorem ysfToDmr_of_carries {p : List UInt8} {j : Fin 5} {f : List UInt8} (hf : f.length = 7)
    (h : CarriesYsf p j (mmdvmCodec.ambe7ToYsf f).toList) :
    mmdvmCodec.ysfToDmr p j = mmdvmCodec.ambe7ToDmr f := by
  have hread := readYsf_of_carries (ambe7ToABC_fields hf) h
  show ambe2Dmr (readYsf p j).1 (readYsf p j).2.1 (readYsf p j).2.2 = _
  rw [hread]
  rfl

theorem flatMap_getD {f : α → List β} (hf : ∀ x, (f x).length = n) (l : List α) (hj : j < l.length)
    (hi : i < n) (d : β) : (l.flatMap f).getD (n * j + i) d = (f l[j]).getD i d := by
  induction l generalizing j with
  | nil => exact absurd hj (Nat.not_lt_zero j)
  | cons x l ih =>
    rw [List.flatMap_cons]
    cases j with
    | zero =>
      rw [Nat.mul_zero, Nat.zero_add, List.getD_append _ _ _ _ (by rw [hf]; exact hi)]
      rfl
    | succ j =>
      have hidx : n * (j + 1) + i - n = n * j + i := by
        rw [Nat.mul_succ]
        omega
      rw [List.getD_append_right _ _ _ _ (by rw [hf, Nat.mul_succ]; omega), hf, hidx,
        ih (Nat.lt_of_succ_lt_succ hj)]
      rfl

theorem ModeConv.ysf120_length {v : Fin 5 → List UInt8} (hv : ∀ j, (v j).length = 13) :
    (ysf120 ((List.finRange 5).map v)).length = 120 := by
  have hfin : (List.finRange 5).map v = [v 0, v 1, v 2, v 3, v 4] := rfl
  simp only [hfin, ysf120, List.flatMap_cons, List.flatMap_nil, List.length_append,
    List.length_replicate, List.length_nil, hv]

theorem ysf120_carries {v : Fin 5 → List UInt8} (hv : ∀ j, (v j).length = 13) (j : Fin 5) :
    CarriesYsf (ModeConv.ysf120 ((List.finRange 5).map v)) j (v j) := by
  have hblock (j : Fin 5) : (List.replicate 5 0 ++ v j).length = 18 := by
    rw [List.length_append, hv, List.length_replicate]
  have hys : ModeConv.ysf120 ((List.finRange 5).map v) =
      List.replicate 30 0 ++ (List.finRange 5).flatMap fun j => List.replicate 5 0 ++ v j := rfl
  intro k hk
  have hidx : 35 + 18 * j.val + k - 30 = 18 * j.val + (5 + k) := by omega
  rw [hys, List.getD_append_right _ _ _ _ (by rw [List.length_replicate]; omega),
    List.length_replicate, hidx,
    flatMap_getD hblock _ (by rw [List.length_finRange]; exact j.isLt) (by omega),
    List.getElem_finRange, List.getD_append_right _ _ _ _ (by rw [List.length_replicate]; omega),
    List.length_replicate, Nat.add_sub_cancel_left]
  rfl

end AdnBridge
