import AdnBridge.Hbp.DmrHbp

namespace AdnBridge
set_option autoImplicit true

/-- The bits of a burst that belong to voice: all but the 48 in its middle. -/
def VoiceBit (k : Nat) : Prop := k < 108 ∨ 156 ≤ k

/-- Two bursts with the same voice. -/
def SameVoice (p q : List UInt8) : Prop := ∀ k, VoiceBit k → readBit p k = readBit q k

theorem SameVoice.trans (h : SameVoice p q) (h' : SameVoice q r) : SameVoice p r := fun k hk =>
  (h k hk).trans (h' k hk)

/-- An overlay leaves the bits alone that it keeps and does not take from elsewhere. -/
theorem overlay_and (x y : UInt8) (hkeep : keep &&& m = m) (htake : take &&& m = 0) :
    overlay x keep y take &&& m = x &&& m := by
  have hx : x &&& keep &&& m = x &&& m := by rw [UInt8.and_assoc, hkeep]
  have hy : y &&& take &&& m = 0 := by rw [UInt8.and_assoc, htake, UInt8.and_zero]
  have hor : overlay x keep y take &&& m = x &&& keep &&& m ||| y &&& take &&& m := by
    rw [overlay, ← UInt8.toNat_inj]
    simp only [UInt8.toNat_and, UInt8.toNat_or, Nat.and_or_distrib_right]
  rw [hor, hx, hy, UInt8.or_zero]

/-- What an overlay over byte `i` must leave alone there. -/
def KeepsVoice (i : Nat) (keep take : UInt8) : Prop :=
  ∀ k : Fin 8, VoiceBit (8 * i + k.val) → keep &&& bitMask k.val = bitMask k.val ∧
    take &&& bitMask k.val = 0

instance (i : Nat) (keep take : UInt8) : Decidable (KeepsVoice i keep take) := by
  unfold KeepsVoice VoiceBit
  infer_instance

theorem sameVoice_set {p : List UInt8} {x y keep take : UInt8} (hx : x = byteAt p i)
    (h : KeepsVoice i keep take) : SameVoice (p.set i (overlay x keep y take)) p := by
  intro k hk
  subst hx
  rw [readBit, readBit]
  by_cases hi : i = k / 8
  · by_cases hlt : i < p.length
    · have hki : 8 * i + k % 8 = k := by omega
      obtain ⟨hkeep, htake⟩ := h ⟨k % 8, Nat.mod_lt k (by decide)⟩ (by rw [hki]; exact hk)
      simp only [bitMask_mod] at hkeep htake
      rw [getD_set _ _ _ hlt, if_pos hi, overlay_and _ _ hkeep htake, byteAt, hi]
    · rw [List.set_eq_of_length_le (Nat.le_of_not_lt hlt)]
  · rw [getD_set_ne _ _ _ hi]

theorem sameVoice_putAudioSync (data : List UInt8) : SameVoice (putAudioSync data) data := by
  have hsync : ∀ i < 7, byteAt msSourcedAudioSync i =
      byteAt msSourcedAudioSync i &&& byteAt dmrSyncMask i := by
    decide
  have hkeep : ∀ i < 7, KeepsVoice (13 + i) (~~~byteAt dmrSyncMask i) (byteAt dmrSyncMask i) := by
    decide
  have hrun (n : Nat) (hn : n ≤ 7) : SameVoice ((List.range n).foldl (fun d i =>
      d.set (13 + i) (byteAt d (13 + i) &&& ~~~byteAt dmrSyncMask i |||
        byteAt msSourcedAudioSync i)) data) data := by
    induction n with
    | zero => exact fun _ _ => rfl
    | succ n ih =>
      rw [List.range_succ, List.foldl_append, List.foldl_cons, List.foldl_nil]
      apply SameVoice.trans _ (ih (Nat.le_of_succ_le hn))
      rw [hsync n hn]
      exact sameVoice_set rfl (hkeep n hn)
  exact hrun 7 (Nat.le_refl 7)

theorem sameVoice_middle {data middle : List UInt8} (h : data.length = 33)
    (hm : middle.length = 5) : SameVoice (data.take 14 ++ middle ++ data.drop 19) data := by
  have h14 : (data.take 14).length = 14 := by
    rw [List.length_take, h]
    rfl
  intro k hk
  rw [readBit, readBit]
  rcases hk with hk | hk
  · have hlt : k / 8 < 14 := by omega
    rw [List.append_assoc, List.getD_append _ _ _ _ (by rw [h14]; exact hlt)]
    conv_rhs => rw [← List.take_append_drop 14 data]
    rw [List.getD_append _ _ _ _ (by rw [h14]; exact hlt)]
  · have h19 : (data.take 14 ++ middle).length = 19 := by rw [List.length_append, h14, hm]
    have h19' : (data.take 19).length = 19 := by
      rw [List.length_take, h]
      rfl
    rw [List.getD_append_right _ _ _ _ (by rw [h19]; omega), h19]
    conv_rhs => rw [← List.take_append_drop 19 data]
    rw [List.getD_append_right _ _ _ _ (by rw [h19']; omega), h19']

theorem sameVoice_getEmbeddedData {data : List UInt8} (h : data.length = 33) (embRaw : List Bool)
    (n : UInt8) : SameVoice (getEmbeddedData embRaw data n).1 data := by
  rw [getEmbeddedData]
  split
  · exact sameVoice_middle h rfl
  · exact sameVoice_middle h rfl

theorem sameVoice_getEmbData (data : List UInt8) (lcss : UInt8) :
    SameVoice (getEmbData data lcss) data := by
  rw [getEmbData]
  apply SameVoice.trans (sameVoice_set rfl (by decide))
  apply SameVoice.trans (sameVoice_set rfl (by decide))
  apply SameVoice.trans (sameVoice_set rfl (by decide))
  exact sameVoice_set rfl (by decide)

theorem Dmrd.ft_ne_of_isVoice {p : Dmrd} (hv : p.isVoice = true) : p.ft ≠ dmrdFtDataSync := by
  intro hft
  rw [isVoice, hft] at hv
  cases hv

/-- Whatever is laid over a voice burst, sync word or link control, its voice stays. -/
theorem Dmrd.sameVoice_burst {p : Dmrd} {frame : List UInt8} (hv : p.isVoice = true)
    (hp : p.voice33 = some frame) (h : frame.length = 33) (embRaw : List Bool) :
    SameVoice (p.burst embRaw).1 frame := by
  rw [burst, if_neg (Dmrd.ft_ne_of_isVoice hv), hp]
  simp only
  split
  · exact sameVoice_putAudioSync frame
  · exact (sameVoice_getEmbData _ _).trans (sameVoice_getEmbeddedData h embRaw p.dtype)

theorem putAudioSync_length (data : List UInt8) : (putAudioSync data).length = data.length := by
  rw [putAudioSync]
  induction List.range 7 generalizing data with
  | nil => rfl
  | cons i l ih => rw [List.foldl_cons, ih, List.length_set]

theorem getEmbeddedData_length {data : List UInt8} (h : data.length = 33) (embRaw : List Bool)
    (n : UInt8) : (getEmbeddedData embRaw data n).1.length = 33 := by
  have hput {middle : List UInt8} (hm : middle.length = 5) :
      (data.take 14 ++ middle ++ data.drop 19).length = 33 := by
    rw [List.length_append, List.length_append, List.length_take, List.length_drop, h, hm]
    rfl
  rw [getEmbeddedData]
  split
  · exact hput rfl
  · exact hput rfl

theorem getEmbData_length (data : List UInt8) (lcss : UInt8) :
    (getEmbData data lcss).length = data.length := by
  rw [getEmbData, List.length_set, List.length_set, List.length_set, List.length_set]

theorem Dmrd.burst_length {p : Dmrd} {frame : List UInt8} (hv : p.isVoice = true)
    (hp : p.voice33 = some frame) (h : frame.length = 33) (embRaw : List Bool) :
    (p.burst embRaw).1.length = 33 := by
  rw [burst, if_neg (Dmrd.ft_ne_of_isVoice hv), hp]
  simp only
  split
  · rw [putAudioSync_length, h]
  · rw [getEmbData_length, getEmbeddedData_length h]

end AdnBridge
