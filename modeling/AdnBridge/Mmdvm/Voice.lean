import AdnBridge.Mmdvm.Ambe

namespace AdnBridge
set_option autoImplicit true

open Golay24128

@[simp] theorem toList_ofLength (l : List UInt8) (h : l.length = n) : (ofLength l h).toList = l := rfl

/-- The three fields of an AMBE frame: 12, 12 and 25 bits. -/
structure Fields (a b c : Nat) : Prop where
  a : a < 4096
  b : b < 4096
  c : c < 2 ^ 25

theorem ambe7ToABC_eq (f0 f1 f2 f3 f4 f5 f6 : UInt8) :
    ambe7ToABC [f0, f1, f2, f3, f4, f5, f6] =
      (16 * f0.toNat + f1.toNat / 16, f1.toNat % 16 * 256 + f2.toNat,
        f3.toNat * 2 ^ 17 + f4.toNat * 2 ^ 9 + f5.toNat * 2 + f6.toNat / 128) := by
  have h1 := f1.toNat_lt
  have h2 := f2.toNat_lt
  have h4 := f4.toNat_lt
  have h5 := f5.toNat_lt
  have h6 := f6.toNat_lt
  have ha : f1.toNat / 16 < 2 ^ 4 := by omega
  have hc1 : f6.toNat / 128 < 2 ^ 1 := by omega
  have hc2 : f5.toNat * 2 ^ 1 + f6.toNat / 128 < 2 ^ 9 := by omega
  have hc4 : f4.toNat * 2 ^ 9 + (f5.toNat * 2 ^ 1 + f6.toNat / 128) < 2 ^ 17 := by omega
  have hb : f1.toNat &&& 0x0F = f1.toNat % 2 ^ 4 := Nat.and_two_pow_sub_one_eq_mod _ 4
  rw [ambe7ToABC]
  simp only [List.getD_cons_zero, List.getD_cons_succ, Nat.or_assoc]
  rw [hb, Nat.shiftRight_eq_div_pow, Nat.shiftRight_eq_div_pow,
    ← Nat.shiftLeft_add_eq_or_of_lt ha, ← Nat.shiftLeft_add_eq_or_of_lt f2.toNat_lt,
    ← Nat.shiftLeft_add_eq_or_of_lt hc1, Nat.shiftLeft_eq _ 1,
    ← Nat.shiftLeft_add_eq_or_of_lt hc2, Nat.shiftLeft_eq _ 9, ← Nat.shiftLeft_add_eq_or_of_lt hc4,
    Nat.shiftLeft_eq, Nat.shiftLeft_eq, Nat.shiftLeft_eq]
  ext
  · simp only
    omega
  · simp only
    omega
  · simp only
    omega

theorem length_eq_seven {f : List UInt8} (h : f.length = 7) :
    ∃ f0 f1 f2 f3 f4 f5 f6, f = [f0, f1, f2, f3, f4, f5, f6] := by
  obtain ⟨f0, f, rfl⟩ := List.exists_cons_of_length_eq_add_one h
  obtain ⟨f1, f, rfl⟩ := List.exists_cons_of_length_eq_add_one (Nat.succ.inj h)
  obtain ⟨f2, f, rfl⟩ := List.exists_cons_of_length_eq_add_one (Nat.succ.inj (Nat.succ.inj h))
  obtain ⟨f3, f, rfl⟩ :=
    List.exists_cons_of_length_eq_add_one (Nat.succ.inj (Nat.succ.inj (Nat.succ.inj h)))
  obtain ⟨f4, f5, f6, rfl⟩ :=
    List.length_eq_three.1 (Nat.succ.inj (Nat.succ.inj (Nat.succ.inj (Nat.succ.inj h))))
  exact ⟨f0, f1, f2, f3, f4, f5, f6, rfl⟩

theorem ambe7ToABC_fields (h : f.length = 7) :
    Fields (ambe7ToABC f).1 (ambe7ToABC f).2.1 (ambe7ToABC f).2.2 := by
  obtain ⟨f0, f1, f2, f3, f4, f5, f6, rfl⟩ := length_eq_seven h
  have h0 := f0.toNat_lt
  have h1 := f1.toNat_lt
  have h2 := f2.toNat_lt
  have h3 := f3.toNat_lt
  have h4 := f4.toNat_lt
  have h5 := f5.toNat_lt
  have h6 := f6.toNat_lt
  rw [ambe7ToABC_eq]
  constructor <;> simp only <;> omega

theorem toUInt8_eq {x : Nat} {y : UInt8} (h : x % 256 = y.toNat) : x.toUInt8 = y := by
  rw [← UInt8.toNat_inj, Nat.toUInt8, UInt8.toNat_ofNat']
  exact h

/-- A frame whose last seven bits are clear comes back from its fields. -/
theorem abcToAMBE7_ambe7ToABC (h : f.length = 7) (hlast : f.getD 6 0 &&& 0x7F = 0) :
    abcToAMBE7 (ambe7ToABC f).1 (ambe7ToABC f).2.1 (ambe7ToABC f).2.2 = f := by
  obtain ⟨f0, f1, f2, f3, f4, f5, f6, rfl⟩ := length_eq_seven h
  have hand (x : Nat) : x &&& 0xFF = x % 2 ^ 8 := Nat.and_two_pow_sub_one_eq_mod x 8
  have hand4 (x : Nat) : x &&& 0x0F = x % 2 ^ 4 := Nat.and_two_pow_sub_one_eq_mod x 4
  have htop (x : Nat) : x <<< 7 &&& 0x80 = x % 2 * 2 ^ 7 := by
    show x <<< 7 &&& 1 <<< 7 = _
    rw [← Nat.shiftLeft_and_distrib, Nat.and_one_is_mod, Nat.shiftLeft_eq]
  have h6 : f6.toNat % 128 = 0 := by
    have hn := congrArg UInt8.toNat hlast
    rw [UInt8.toNat_and] at hn
    exact (Nat.and_two_pow_sub_one_eq_mod f6.toNat 7).symm.trans hn
  have h0 := f0.toNat_lt
  have h1 := f1.toNat_lt
  have h2 := f2.toNat_lt
  have h3 := f3.toNat_lt
  have h4 := f4.toNat_lt
  have h5 := f5.toNat_lt
  have h6' := f6.toNat_lt
  rw [ambe7ToABC_eq, abcToAMBE7]
  simp only [hand, hand4, htop, Nat.shiftRight_eq_div_pow, List.cons.injEq, and_true]
  rw [← Nat.shiftLeft_add_eq_or_of_lt (Nat.mod_lt _ (by decide)), Nat.shiftLeft_eq]
  refine ⟨?_, ?_, ?_, ?_, ?_, ?_, ?_⟩ <;> apply toUInt8_eq <;> omega

theorem dmrTables_nodup : (dmrATable ++ dmrBTable ++ dmrCTable).Nodup ∧
    ∀ i ∈ dmrATable ++ dmrBTable ++ dmrCTable, i < 72 := by
  decide +kernel

/-- The words that `putAMBE2DMR` writes. -/
theorem readBits_ambe2Dmr (a b c : Nat) :
    readBits (ambe2Dmr a b c).toList dmrATable = toBits 24 (encode24128 a) ∧
      readBits (ambe2Dmr a b c).toList dmrBTable =
        toBits 23 ((encode23127 b >>> 1) ^^^ (prngTable.getD a 0 >>> 1)) ∧
      readBits (ambe2Dmr a b c).toList dmrCTable = toBits 25 c := by
  obtain ⟨hn, hlt⟩ := dmrTables_nodup
  generalize hx : (encode23127 b >>> 1) ^^^ (prngTable.getD a 0 >>> 1) = x
  have hwrite : (ambe2Dmr a b c).toList =
      writeBits (List.replicate 9 0) (dmrATable ++ dmrBTable ++ dmrCTable)
        (toBits 24 (encode24128 a) ++ toBits 23 x ++ toBits 25 c) := by
    have hA : (toBits 24 (encode24128 a)).length = dmrATable.length := toBits_length _ _
    have hB : (toBits 23 x).length = dmrBTable.length := toBits_length _ _
    rw [writeBits_append (by rw [List.length_append, hA, hB, List.length_append]),
      writeBits_append hA, ← hx, ambe2Dmr, toList_ofLength]
  have hl : (toBits 24 (encode24128 a) ++ toBits 23 x ++ toBits 25 c).length =
      (dmrATable ++ dmrBTable ++ dmrCTable).length := by
    simp only [List.length_append, toBits_length]
    rfl
  have hread := readBits_writeBits hn (p := List.replicate 9 0) hlt hl
  rw [← hwrite, readBits_append, readBits_append] at hread
  obtain ⟨hAB, hC⟩ := List.append_inj' hread (by rw [readBits_length, toBits_length]; rfl)
  obtain ⟨hA, hB⟩ := List.append_inj' hAB (by rw [readBits_length, toBits_length]; rfl)
  exact ⟨hA, hB, hC⟩

/-- A burst whose `j`-th frame is the given one, bit by bit. -/
def CarriesDmr (dmr33 : List UInt8) (j : Fin 3) (v : List UInt8) : Prop :=
  ∀ i < 72, readBit dmr33 (dmrPlace j i) = readBit v i

/-- The frame that `putAMBE2DMR` queues gives its fields back. -/
theorem dmr33ToAmbe_of_carries {dmr33 : List UInt8} {j : Fin 3} {a b c : Nat} (hf : Fields a b c)
    (h : CarriesDmr dmr33 j (ambe2Dmr a b c).toList) :
    mmdvmCodec.dmr33ToAmbe dmr33 j = abcToAMBE7 a b c := by
  have hread (l : List Nat) (hl : ∀ i ∈ l, i < 72) :
      readBits dmr33 (l.map (dmrPlace j)) = readBits (ambe2Dmr a b c).toList l := by
    rw [readBits, List.map_map]
    exact List.map_congr_left fun i hi => h i (hl i hi)
  obtain ⟨-, hlt⟩ := dmrTables_nodup
  obtain ⟨hA, hB, hC⟩ := readBits_ambe2Dmr a b c
  obtain ⟨-, ha, ha24⟩ := decode24128_encode24128 hf.a
  obtain ⟨hb, hb23⟩ := encode23127_data hf.b
  have hp := prng_lt hf.a
  have hx : (encode23127 b >>> 1) ^^^ (prngTable.getD a 0 >>> 1) < 2 ^ 23 :=
    Nat.xor_lt_two_pow hb23 hp
  show abcToAMBE7 _ _ _ = _
  rw [hread dmrATable fun i hi => hlt i (List.mem_append_left _ (List.mem_append_left _ hi)),
    hread dmrBTable fun i hi => hlt i (List.mem_append_left _ (List.mem_append_right _ hi)),
    hread dmrCTable fun i hi => hlt i (List.mem_append_right _ hi), hA, hB, hC,
    ofBits_toBits ha24, ofBits_toBits hx, ofBits_toBits hf.c, ha, Nat.xor_assoc, Nat.xor_self,
    Nat.xor_zero, hb]

theorem byteBits_nibbles (x : UInt8) :
    byteBits (x &&& 0xF0) = (byteBits x).take 4 ++ List.replicate 4 false ∧
      byteBits (x &&& 0x0F) = List.replicate 4 false ++ (byteBits x).drop 4 := by
  revert x
  exact forall_byte (by decide +kernel)

/-- The burst that `getDMR` makes: the halves of its middle frame stand around 48 empty bits. -/
theorem bytesBits_voice33 {a b c : List UInt8} (hb : b.length = 9) :
    bytesBits (ModeConv.voice33 [a, b, c]) =
      bytesBits a ++ ((bytesBits b).take 36 ++ (List.replicate 48 false ++
        ((bytesBits b).drop 36 ++ bytesBits c))) := by
  have hsplit : b = b.take 4 ++ [b.getD 4 0] ++ b.drop 5 := by
    rw [List.append_assoc, List.getD_eq_getElem _ 0 (by omega), List.singleton_append,
      ← List.drop_eq_getElem_cons (by omega), List.take_append_drop]
  have h4 : (bytesBits (b.take 4)).length = 32 := by
    rw [bytesBits_length, List.length_take, hb]
    rfl
  have hbits : bytesBits b = bytesBits (b.take 4) ++ (byteBits (b.getD 4 0) ++
      bytesBits (b.drop 5)) := by
    conv_lhs => rw [hsplit]
    rw [bytesBits_append, bytesBits_append, bytesBits_cons, bytesBits_nil, List.append_nil,
      List.append_assoc]
  obtain ⟨hhigh, hlow⟩ := byteBits_nibbles (b.getD 4 0)
  have h8 := byteBits_length (b.getD 4 0)
  have htake : (bytesBits b).take 36 = bytesBits (b.take 4) ++ (byteBits (b.getD 4 0)).take 4 := by
    rw [hbits, List.take_append, h4, List.take_of_length_le (by omega),
      List.take_append_of_le_length (by omega)]
  have hdrop : (bytesBits b).drop 36 = (byteBits (b.getD 4 0)).drop 4 ++ bytesBits (b.drop 5) := by
    rw [hbits, List.drop_append, h4, List.drop_of_length_le (by omega), List.nil_append,
      List.drop_append_of_le_length (by omega)]
  rw [ModeConv.voice33, htake, hdrop]
  simp only [bytesBits_append, bytesBits_cons, bytesBits_nil, List.append_nil, hhigh, hlow,
    List.append_assoc]
  rfl

theorem ModeConv.voice33_length {v : Fin 3 → List UInt8} (hv : ∀ j, (v j).length = 9) :
    (voice33 [v 0, v 1, v 2]).length = 33 := by
  simp only [voice33, List.length_append, List.length_take, List.length_drop, List.length_cons,
    List.length_nil, List.length_replicate, hv]
  rfl

theorem voice33_carries {v : Fin 3 → List UInt8} (hv : ∀ j, (v j).length = 9) (j : Fin 3) :
    CarriesDmr (ModeConv.voice33 [v 0, v 1, v 2]) j (v j) := by
  have hlen (j : Fin 3) : (bytesBits (v j)).length = 72 := by rw [bytesBits_length, hv]
  have hfirst : ((bytesBits (v 1)).take 36).length = 36 := by
    rw [List.length_take, hlen]
    rfl
  have hlast : ((bytesBits (v 1)).drop 36).length = 36 := by rw [List.length_drop, hlen]
  have hhole : (List.replicate 48 false).length = 48 := List.length_replicate
  intro i hi
  rw [readBit_eq, readBit_eq, bytesBits_voice33 (hv 1)]
  match j with
  | 0 => rw [dmrPlace, List.getD_append _ _ _ _ (by rw [hlen]; exact hi)]
  | 1 =>
    by_cases h : i + 72 ≥ 108
    · rw [dmrPlace, if_pos h, List.getD_append_right _ _ _ _ (by rw [hlen]; omega), hlen,
        List.getD_append_right _ _ _ _ (by omega), hfirst,
        List.getD_append_right _ _ _ _ (by omega), hhole,
        List.getD_append _ _ _ _ (by omega)]
      conv_rhs => rw [← List.take_append_drop 36 (bytesBits (v 1))]
      have hidx : i + 72 + 48 - 72 - 36 - 48 = i - 36 := by omega
      rw [List.getD_append_right _ _ _ _ (by omega), hfirst, hidx]
    · rw [dmrPlace, if_neg h, List.getD_append_right _ _ _ _ (by rw [hlen]; omega), hlen,
        List.getD_append _ _ _ _ (by omega)]
      conv_rhs => rw [← List.take_append_drop 36 (bytesBits (v 1))]
      rw [List.getD_append _ _ _ _ (by omega), Nat.add_sub_cancel]
  | 2 =>
    rw [dmrPlace, List.getD_append_right _ _ _ _ (by rw [hlen]; omega), hlen,
      List.getD_append_right _ _ _ _ (by omega), hfirst,
      List.getD_append_right _ _ _ _ (by omega), hhole,
      List.getD_append_right _ _ _ _ (by omega), hlast]
    have hidx : i + 192 - 72 - 36 - 48 - 36 = i := by omega
    rw [hidx]

end AdnBridge
