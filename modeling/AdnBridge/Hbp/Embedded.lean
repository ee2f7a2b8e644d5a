import AdnBridge.Hbp.Burst
import AdnBridge.Hbp.VoiceBurst

namespace AdnBridge
set_option autoImplicit true

def hammingChecks16114 : List (Nat × List Nat) :=
  hammingChecks15113 ++ [(15, [0, 2, 5, 6, 8, 9, 10])]

/-- Where the check sum of the LC stands in the embedded matrix, its highest bit first. -/
def embSumPlaces : List Nat := [42, 58, 74, 90, 106]

section
variable [XorOp α] [Inhabited α]

/-- The matrix of `encode_embedded_data` before it is interleaved: the check sum and the LC at
their places, seven rows with their check bits, and the column parities. -/
def embMatrix (bits : List α) : List α :=
  let d := setAt (List.replicate 128 default) embSumPlaces (bits.take 5)
  let d := setAt d embPlaces (bits.drop 5)
  let d := (List.range 7).foldl (fun d r => setChecks d (16 * r) hammingChecks16114) d
  (List.range 16).foldl (fun d a => d.set (a + 112) (xorAt d a [0, 16, 32, 48, 64, 80, 96])) d

def embInterleave (d : List α) : List α :=
  (List.range 128).map fun a => d.getD (a % 8 * 16 + a / 8) default

/-- The bits of the four fragments in the order of the matrix. -/
def embDeinterleave (raw : List α) : List α :=
  (List.range 128).map fun i => raw.getD (i % 16 * 8 + i / 16) default

def embRow (r : Nat) : List Nat := List.range' (16 * r) 16

def embColumn (c : Nat) : List Nat := (List.range 8).map fun r => 16 * r + c

/-- By how much the check bits of the seven rows and the parities of the sixteen columns are
off. -/
def embErrors (d : List α) : List α :=
  ((List.range 7).flatMap fun r =>
      lineErrors hammingChecks16114 ((embRow r).map fun i => d.getD i default)) ++
    (List.range 16).map fun c => xorAt ((embColumn c).map fun i => d.getD i default) 0 (List.range 8)

/-- The check sum and the LC. -/
def embBits (d : List α) : List α := (embSumPlaces ++ embPlaces).map fun i => d.getD i default

end

section
variable [XorOp α] [Inhabited α] [XorOp β] [Inhabited β] {f : α → β}

namespace XorHom

theorem embMatrix (hf : XorHom f) (bits : List α) :
    AdnBridge.embMatrix (bits.map f) = (AdnBridge.embMatrix bits).map f := by
  have hrow (d : List α) (r : Nat) : AdnBridge.setChecks (d.map f) (16 * r) hammingChecks16114 =
      (AdnBridge.setChecks d (16 * r) hammingChecks16114).map f := hf.setChecks d _ _
  have hcol (d : List α) (a : Nat) :
      (d.map f).set (a + 112) (AdnBridge.xorAt (d.map f) a [0, 16, 32, 48, 64, 80, 96]) =
        (d.set (a + 112) (AdnBridge.xorAt d a [0, 16, 32, 48, 64, 80, 96])).map f := by
    rw [hf.xorAt, ← List.map_set]
  rw [AdnBridge.embMatrix, hf.replicate, ← List.map_take, setAt_map, ← List.map_drop, setAt_map,
    foldl_map_comm hrow, foldl_map_comm hcol, AdnBridge.embMatrix]

theorem embErrors (hf : XorHom f) (d : List α) :
    AdnBridge.embErrors (d.map f) = (AdnBridge.embErrors d).map f := by
  rw [AdnBridge.embErrors, AdnBridge.embErrors, List.map_append, List.map_flatMap, List.map_map]
  simp only [hf.map_getD, hf.lineErrors, hf.xorAt, Function.comp_def]

theorem embBits (hf : XorHom f) (d : List α) :
    AdnBridge.embBits (d.map f) = (AdnBridge.embBits d).map f :=
  hf.map_getD d _

end XorHom

end

/-- The linear forms of the 77 bits. -/
def embForms : List Nat := (List.range 77).map fun k => 2 ^ k

theorem embForms_errors : (∀ x ∈ embErrors (embMatrix embForms), x = 0) ∧
    embBits (embMatrix embForms) = embForms := by
  decide +kernel

theorem embMatrix_length [XorOp α] [Inhabited α] (bits : List α) :
    (embMatrix bits).length = 128 := by
  have hrow (d : List α) (r : Nat) : (setChecks d (16 * r) hammingChecks16114).length = d.length :=
    setChecks_length d _ _
  have hcol (d : List α) (a : Nat) :
      (d.set (a + 112) (xorAt d a [0, 16, 32, 48, 64, 80, 96])).length = d.length :=
    List.length_set
  rw [embMatrix, foldl_length hcol, foldl_length hrow, setAt_length, setAt_length,
    List.length_replicate]

theorem embDeinterleave_embInterleave [Inhabited α] {d : List α} (h : d.length = 128) :
    embDeinterleave (embInterleave d) = d := by
  apply List.ext_getElem
  · rw [embDeinterleave, List.length_map, List.length_range, h]
  · intro i h1 h2
    have hi : i < 128 := h ▸ h2
    have hj : i % 16 * 8 + i / 16 < 128 := by omega
    have hback : (i % 16 * 8 + i / 16) % 8 * 16 + (i % 16 * 8 + i / 16) / 8 = i := by omega
    simp only [embDeinterleave, embInterleave, List.getElem_map, List.getElem_range]
    rw [List.getD_eq_getElem _ _ (by rw [List.length_map, List.length_range]; exact hj),
      List.getElem_map, List.getElem_range, hback, List.getD_eq_getElem _ _ h2]

/-- Every row and every column of the matrix is right, and its bits come out as they went in. -/
theorem emb_roundTrip (h : v.length = 77) :
    (∀ x ∈ embErrors (embDeinterleave (embInterleave (embMatrix v))), x = false) ∧
      embBits (embDeinterleave (embInterleave (embMatrix v))) = v := by
  have hf := linearForm_xorHom v
  have hm : embForms.map (linearForm v) = v := forms_map h
  rw [embDeinterleave_embInterleave (embMatrix_length v)]
  constructor
  · intro x hx
    rw [← hm, hf.embMatrix, hf.embErrors] at hx
    obtain ⟨m, hmem, rfl⟩ := List.mem_map.1 hx
    rw [embForms_errors.1 m hmem]
    exact hf.default
  · conv_lhs =>
      rw [← hm, hf.embMatrix, hf.embBits, embForms_errors.2]
    exact hm

/-- What `encode_embedded_data` sends of an LC of nine bytes: its check sum and its bits. -/
def lcBits (lc : List UInt8) : List Bool := toBits 5 ((lc.map UInt8.toNat).sum % 31) ++ bytesBits lc

theorem encodeEmbeddedData_eq (txTgid rxSrcid : Int) : encodeEmbeddedData txTgid rxSrcid =
    embInterleave (embMatrix (lcBits (lcGetData txTgid rxSrcid))) := by
  have hplaces (b0 b1 b2 b3 b4 : Bool) :
      setAt (List.replicate 128 false) [106, 90, 74, 58, 42] [b0, b1, b2, b3, b4] =
        setAt (List.replicate 128 false) embSumPlaces [b4, b3, b2, b1, b0] := rfl
  have hsum (x : Nat) : toBits 5 x =
      [x.testBit 4, x.testBit 3, x.testBit 2, x.testBit 1, x.testBit 0] := rfl
  rw [encodeEmbeddedData, embMatrix, lcBits, hsum]
  simp only [hplaces]
  rfl

/-- A burst of voice whose middle carries the 16 bits of the EMB and, between its halves, 32 bits
of embedded signalling. -/
def burstEmb (burst : List UInt8) : List Bool :=
  readBits burst (List.range' 108 8 ++ List.range' 148 8)

def burstFragment (burst : List UInt8) : List Bool := readBits burst (List.range' 116 32)

theorem byteBits_shiftLeft_four (y : UInt8) :
    byteBits (y <<< 4) = (byteBits y).drop 4 ++ List.replicate 4 false := by
  revert y
  exact forall_byte (by decide +kernel)

theorem byteBits_overlay_nibbleLow (x y : UInt8) :
    byteBits (overlay x 0xF0 y 0x0F) = (byteBits x).take 4 ++ (byteBits y).drop 4 := by
  have hkeep : byteBits 0xF0 = [true, true, true, true, false, false, false, false] := by decide
  have htake : byteBits 0x0F = [false, false, false, false, true, true, true, true] := by decide
  rw [byteBits_overlay, hkeep, htake]
  simp only [byteBits, toBits, List.zipWith_cons_cons, List.zipWith_nil_left, Bool.and_true,
    Bool.and_false, Bool.or_false, Bool.false_or]
  rfl

theorem byteBits_overlay_nibbleHigh (x y : UInt8) :
    byteBits (overlay x 0x0F y 0xF0) = (byteBits y).take 4 ++ (byteBits x).drop 4 := by
  have hkeep : byteBits 0x0F = [false, false, false, false, true, true, true, true] := by decide
  have htake : byteBits 0xF0 = [true, true, true, true, false, false, false, false] := by decide
  rw [byteBits_overlay, hkeep, htake]
  simp only [byteBits, toBits, List.zipWith_cons_cons, List.zipWith_nil_left, Bool.and_true,
    Bool.and_false, Bool.or_false, Bool.false_or]
  rfl

section
variable {pre mid post : List UInt8}

theorem byteAt_middle (hp : pre.length = 13) (hi : i < mid.length) :
    byteAt (pre ++ mid ++ post) (13 + i) = mid.getD i 0 := by
  rw [byteAt, List.append_assoc, List.getD_append_right _ _ _ _ (by omega), hp,
    Nat.add_sub_cancel_left, List.getD_append _ _ _ _ hi]

theorem set_middle (hp : pre.length = 13) (hi : i < mid.length) (x : UInt8) :
    (pre ++ mid ++ post).set (13 + i) x = pre ++ mid.set i x ++ post := by
  rw [List.append_assoc, List.set_append_right _ _ (by omega), hp, Nat.add_sub_cancel_left,
    List.set_append_left _ _ hi, List.append_assoc]

/-- The EMB goes over the outer nibbles of the seven bytes in the middle of the burst. -/
theorem getEmbData_middle (hp : pre.length = 13) (m0 m1 m2 m3 m4 m5 m6 lcss : UInt8) :
    let emb := encodeQr1676 (overlay ((1 : UInt8) <<< 4) 0xF0 (lcss <<< 1) 0x06)
    getEmbData (pre ++ [m0, m1, m2, m3, m4, m5, m6] ++ post) lcss =
      pre ++ [overlay m0 0xF0 (emb.1 >>> 4) 0x0F, overlay m1 0x0F (emb.1 <<< 4) 0xF0, m2, m3, m4,
        overlay m5 0xF0 (emb.2 >>> 4) 0x0F, overlay m6 0x0F (emb.2 <<< 4) 0xF0] ++ post := by
  simp only [getEmbData]
  generalize encodeQr1676 (overlay ((1 : UInt8) <<< 4) 0xF0 (lcss <<< 1) 0x06) = emb
  have hset (l : List UInt8) (hl : l.length = 7) (i : Nat) (hi : i < 7) (x : UInt8) :
      (pre ++ l ++ post).set (13 + i) x = pre ++ l.set i x ++ post := set_middle hp (hl ▸ hi) x
  have hget (l : List UInt8) (hl : l.length = 7) (i : Nat) (hi : i < 7) :
      byteAt (pre ++ l ++ post) (13 + i) = l.getD i 0 := byteAt_middle hp (hl ▸ hi)
  rw [hget _ rfl 0 (by decide), hset _ rfl 0 (by decide), hget _ rfl 1 (by decide),
    hset _ rfl 1 (by decide), hget _ rfl 5 (by decide), hset _ rfl 5 (by decide),
    hget _ rfl 6 (by decide), hset _ rfl 6 (by decide)]
  rfl

/-- The 32 bits that burst `n` of a superframe carries. -/
def fragmentBits (embRaw : List Bool) (n : UInt8) : List Bool :=
  if n ≥ 1 && n < 5 then (embRaw.drop ((n.toNat - 1) * 32)).take 32 else List.replicate 32 false

/-- First, continuation, last, single. -/
def fragmentLcss (n : UInt8) : UInt8 :=
  if n ≥ 1 && n < 5 then
    if n.toNat - 1 = 0 then 1 else if n.toNat - 1 = 3 then 2 else 3
  else 0

theorem fragmentBits_length (h : embRaw.length = 128) (n : UInt8) :
    (fragmentBits embRaw n).length = 32 := by
  rw [fragmentBits]
  split
  next hn =>
    have hlt : n.toNat < 5 := UInt8.lt_iff_toNat_lt.1 (of_decide_eq_true (Bool.and_eq_true_iff.1 hn).2)
    rw [List.length_take, List.length_drop, h]
    omega
  next => rfl

/-- The fragment goes over the inner bytes of the middle, and leaves two nibbles on each side to
the EMB. -/
theorem getEmbeddedData_middle {data : List UInt8} {embRaw : List Bool} (h : data.length = 33)
    (hraw : embRaw.length = 128) (n : UInt8) :
    ∃ pre m0 x b0 b1 b2 b3 b4 y m6 post, pre.length = 13 ∧ post.length = 13 ∧
      getEmbeddedData embRaw data n = (pre ++
        [m0, overlay x 0xF0 b0 0x0F, b1, b2, b3, overlay y 0x0F b4 0xF0, m6] ++ post,
          fragmentLcss n) ∧
      bytesBits [b0, b1, b2, b3, b4] =
        List.replicate 4 false ++ fragmentBits embRaw n ++ List.replicate 4 false := by
  have h14 : data.take 14 = data.take 13 ++ [data[13]] := List.take_succ_eq_append_getElem _
  have h19 : data.drop 19 = data[19] :: data.drop 20 := List.drop_eq_getElem_cons _
  have hput (bytes : List UInt8) :
      data.take 14 ++ [overlay (byteAt data 14) 0xF0 (byteAt bytes 0) 0x0F, byteAt bytes 1,
        byteAt bytes 2, byteAt bytes 3, overlay (byteAt data 18) 0x0F (byteAt bytes 4) 0xF0] ++
        data.drop 19 = data.take 13 ++ [data[13],
          overlay (byteAt data 14) 0xF0 (byteAt bytes 0) 0x0F, byteAt bytes 1, byteAt bytes 2,
          byteAt bytes 3, overlay (byteAt data 18) 0x0F (byteAt bytes 4) 0xF0, data[19]] ++
          data.drop 20 := by
    rw [h14, h19]
    simp only [List.append_assoc, List.cons_append, List.nil_append]
  have hpre : (data.take 13).length = 13 := by
    rw [List.length_take, h]
    rfl
  have hpost : (data.drop 20).length = 13 := by rw [List.length_drop, h]
  have hfrag := fragmentBits_length hraw n
  rw [getEmbeddedData, fragmentLcss]
  rw [fragmentBits] at hfrag ⊢
  split
  next hn =>
    simp only [hput, if_pos hn] at hfrag ⊢
    generalize (embRaw.drop ((n.toNat - 1) * 32)).take 32 = frag at hfrag ⊢
    refine ⟨_, _, _, _, _, _, _, _, _, _, _, hpre, hpost, rfl, ?_⟩
    have hl : (List.replicate 4 false ++ frag ++ List.replicate 4 false).length = 40 := by
      rw [List.length_append, List.length_append, hfrag]
      rfl
    have hbytes := bytesBits_bitsToByteBE (n := 5)
      (List.replicate 4 false ++ frag ++ List.replicate 4 false) (o := 0) (by omega)
    rw [List.drop_zero, List.take_of_length_le (Nat.le_of_eq hl)] at hbytes
    simp only [Nat.zero_add] at hbytes
    exact hbytes
  next hn =>
    simp only [hput]
    exact ⟨_, _, _, _, _, _, _, _, _, _, _, hpre, hpost, rfl, rfl⟩

theorem nibbles_high (x y : UInt8) :
    byteBits (overlay x 0xF0 (y >>> 4) 0x0F) = (byteBits x).take 4 ++ (byteBits y).take 4 := by
  rw [byteBits_overlay_nibbleLow, byteBits_shiftRight_four, List.drop_left' List.length_replicate]

theorem nibbles_low (x y : UInt8) :
    byteBits (overlay x 0x0F (y <<< 4) 0xF0) = (byteBits y).drop 4 ++ (byteBits x).drop 4 := by
  have h4 : ((byteBits y).drop 4).length = 4 := by rw [List.length_drop, byteBits_length]
  rw [byteBits_overlay_nibbleHigh, byteBits_shiftLeft_four, List.take_left' h4]

/-- The middle of the burst: EMB, fragment, EMB, between two nibbles of voice. -/
theorem middle_bits {m0 x b0 b1 b2 b3 b4 y m6 e1 e2 : UInt8} {frag : List Bool} (hb : bytesBits [b0, b1, b2, b3, b4] =
      List.replicate 4 false ++ frag ++ List.replicate 4 false) :
    bytesBits [overlay m0 0xF0 (e1 >>> 4) 0x0F, overlay (overlay x 0xF0 b0 0x0F) 0x0F (e1 <<< 4) 0xF0,
        b1, b2, b3, overlay (overlay y 0x0F b4 0xF0) 0xF0 (e2 >>> 4) 0x0F,
        overlay m6 0x0F (e2 <<< 4) 0xF0] =
      (byteBits m0).take 4 ++ byteBits e1 ++ frag ++ byteBits e2 ++ (byteBits m6).drop 4 := by
  have h4 (b : UInt8) : ((byteBits b).take 4).length = 4 := by
    rw [List.length_take, byteBits_length]
    rfl
  have hfrag : (byteBits b0).drop 4 ++ (byteBits b1 ++ (byteBits b2 ++ (byteBits b3 ++
      (byteBits b4).take 4))) = frag := by
    have hb0 : byteBits b0 = (byteBits b0).take 4 ++ (byteBits b0).drop 4 :=
      (List.take_append_drop 4 _).symm
    have hb4 : byteBits b4 = (byteBits b4).take 4 ++ (byteBits b4).drop 4 :=
      (List.take_append_drop 4 _).symm
    have hd : ((byteBits b4).drop 4).length = 4 := by rw [List.length_drop, byteBits_length]
    simp only [bytesBits_cons, bytesBits_nil, List.append_nil] at hb
    rw [hb0, hb4] at hb
    simp only [List.append_assoc] at hb
    have h1 := (List.append_inj hb ((h4 b0).trans List.length_replicate.symm)).2
    have h2 : ((byteBits b0).drop 4 ++ (byteBits b1 ++ (byteBits b2 ++ (byteBits b3 ++
        (byteBits b4).take 4)))) ++ (byteBits b4).drop 4 = frag ++ List.replicate 4 false := by
      simp only [List.append_assoc]
      exact h1
    exact (List.append_inj' h2 (hd.trans List.length_replicate.symm)).1
  have he (e : UInt8) (l : List Bool) :
      (byteBits e).take 4 ++ ((byteBits e).drop 4 ++ l) = byteBits e ++ l := by
    rw [← List.append_assoc, List.take_append_drop]
  have hx : (byteBits (overlay x 0xF0 b0 0x0F)).drop 4 = (byteBits b0).drop 4 := by
    rw [byteBits_overlay_nibbleLow, List.drop_left' (h4 x)]
  have hy : (byteBits (overlay y 0x0F b4 0xF0)).take 4 = (byteBits b4).take 4 := by
    rw [byteBits_overlay_nibbleHigh, List.take_left' (h4 b4)]
  simp only [bytesBits_cons, bytesBits_nil, List.append_nil]
  rw [nibbles_high, nibbles_low, nibbles_high, nibbles_low, hx, hy, ← hfrag]
  simp only [List.append_assoc, he]

theorem readBits_middle {pre mid post : List UInt8} (hp : pre.length = 13) (h : s + n ≤ 8 * mid.length) :
    readBits (pre ++ mid ++ post) (List.range' (104 + s) n) = ((bytesBits mid).drop s).take n := by
  have hpre : (bytesBits pre).length = 104 := by rw [bytesBits_length, hp]
  have hmid : s ≤ (bytesBits mid).length := by
    rw [bytesBits_length]
    omega
  have hfit : n ≤ ((bytesBits mid).drop s).length := by
    rw [List.length_drop, bytesBits_length]
    omega
  have hlen : 104 + s + n ≤ 8 * (pre ++ mid ++ post).length := by
    rw [List.length_append, List.length_append, hp]
    omega
  rw [readBits_range' _ hlen, bytesBits_append, bytesBits_append, List.append_assoc,
    ← List.drop_drop, List.drop_left' hpre, List.drop_append_of_le_length hmid,
    List.take_append_of_le_length hfit]

theorem drop_take_append {l l' l'' : List α} (h : l.length = s) (h' : l'.length = n) :
    ((l ++ (l' ++ l'')).drop s).take n = l' := by
  rw [List.drop_left' h, List.take_left' h']

/-- The EMB of a burst and its fragment, whatever voice there is around them. -/
theorem burst_emb {data : List UInt8} {embRaw : List Bool} (h : data.length = 33)
    (hraw : embRaw.length = 128) (n : UInt8) :
    let r := getEmbeddedData embRaw data n
    let emb := encodeQr1676 (overlay ((1 : UInt8) <<< 4) 0xF0 (fragmentLcss n <<< 1) 0x06)
    burstEmb (getEmbData r.1 r.2) = byteBits emb.1 ++ byteBits emb.2 ∧
      burstFragment (getEmbData r.1 r.2) = fragmentBits embRaw n := by
  obtain ⟨pre, m0, x, b0, b1, b2, b3, b4, y, m6, post, hp, -, hr, hb⟩ :=
    getEmbeddedData_middle h hraw n
  have hout := @getEmbData_middle pre post hp m0 (overlay x 0xF0 b0 0x0F) b1 b2 b3
    (overlay y 0x0F b4 0xF0) m6 (fragmentLcss n)
  simp only at hout ⊢
  rw [hr]
  simp only
  rw [hout]
  generalize encodeQr1676 (overlay ((1 : UInt8) <<< 4) 0xF0 (fragmentLcss n <<< 1) 0x06) = emb
  obtain ⟨e1, e2⟩ := emb
  have hmid := @middle_bits m0 x b0 b1 b2 b3 b4 y m6 e1 e2 _ hb
  have hlen : [overlay m0 0xF0 (e1 >>> 4) 0x0F, overlay (overlay x 0xF0 b0 0x0F) 0x0F (e1 <<< 4) 0xF0,
      b1, b2, b3, overlay (overlay y 0x0F b4 0xF0) 0xF0 (e2 >>> 4) 0x0F,
      overlay m6 0x0F (e2 <<< 4) 0xF0].length = 7 := rfl
  have hf := fragmentBits_length hraw n
  simp only
  generalize [overlay m0 0xF0 (e1 >>> 4) 0x0F, _, b1, b2, b3, _, _] = mid at hmid hlen ⊢
  have h4 : ((byteBits m0).take 4).length = 4 := by
    rw [List.length_take, byteBits_length]
    rfl
  have h12 : ((byteBits m0).take 4 ++ byteBits e1).length = 12 := by
    rw [List.length_append, h4, byteBits_length]
  have h44 : ((byteBits m0).take 4 ++ byteBits e1 ++ fragmentBits embRaw n).length = 44 := by
    rw [List.length_append, h12, hf]
  have hread (s n : Nat) (hs : s + n ≤ 56) :
      readBits (pre ++ mid ++ post) (List.range' (104 + s) n) = ((bytesBits mid).drop s).take n :=
    readBits_middle hp (by rw [hlen]; exact hs)
  have hemb2 : ((bytesBits mid).drop 44).take 8 = byteBits e2 := by
    rw [hmid, List.append_assoc]
    exact drop_take_append h44 (byteBits_length e2)
  have hfrag : ((bytesBits mid).drop 12).take 32 = fragmentBits embRaw n := by
    rw [hmid, List.append_assoc, List.append_assoc]
    exact drop_take_append h12 hf
  have hemb1 : ((bytesBits mid).drop 4).take 8 = byteBits e1 := by
    rw [hmid, List.append_assoc, List.append_assoc, List.append_assoc]
    exact drop_take_append h4 (byteBits_length e1)
  constructor
  · have h1 := hread 4 8 (by decide)
    have h2 := hread 44 8 (by decide)
    rw [hemb1] at h1
    rw [hemb2] at h2
    rw [burstEmb, readBits_append]
    exact congrArg₂ (· ++ ·) h1 h2
  · have h1 := hread 12 32 (by decide)
    rw [hfrag] at h1
    exact h1

end

/-- The remainder by `x^8 + x^5 + x^4 + x^3 + 1`, the generator of the quadratic residue code of
length 17. -/
def qrRemainder (bits : List Bool) : Nat :=
  bits.foldl (fun r b =>
    let r := 2 * r + b.toNat
    if r.testBit 8 then r ^^^ 0x139 else r) 0

/-- A word of QR(16,7): fifteen bits of the shortened code, and a bit that makes their number
even. -/
def IsQr1676 (word : List Bool) : Prop :=
  word.length = 16 ∧ qrRemainder (word.take 15) = 0 ∧ word.count true % 2 = 0

instance (word : List Bool) : Decidable (IsQr1676 word) := inferInstanceAs (Decidable (_ ∧ _))

/-- The table holds the words of the code, each behind its own seven bits. -/
theorem encodeQr1676_word (x : UInt8) :
    let word := byteBits (encodeQr1676 x).1 ++ byteBits (encodeQr1676 x).2
    IsQr1676 word ∧ word.take 7 = (byteBits x).take 7 := by
  revert x
  exact forall_byte (by decide +kernel)

/-- The EMB of a burst: colour code 1 and the given LCSS. -/
structure EmbOf (word : List Bool) (lcss : Nat) : Prop where
  code : IsQr1676 word
  colourCode : ofBits (word.take 4) = 1
  lcss : ofBits ((word.drop 5).take 2) = lcss

theorem embOf_encodeQr1676 {lcss : UInt8} (h : lcss ≤ 3) :
    let emb := encodeQr1676 (overlay ((1 : UInt8) <<< 4) 0xF0 (lcss <<< 1) 0x06)
    EmbOf (byteBits emb.1 ++ byteBits emb.2) lcss.toNat := by
  obtain ⟨hcode, htake⟩ := encodeQr1676_word (overlay ((1 : UInt8) <<< 4) 0xF0 (lcss <<< 1) 0x06)
  have hbits : ∀ lcss : UInt8, lcss ≤ 3 →
      ofBits ((byteBits (overlay ((1 : UInt8) <<< 4) 0xF0 (lcss <<< 1) 0x06)).take 4) = 1 ∧
        ofBits (((byteBits (overlay ((1 : UInt8) <<< 4) 0xF0 (lcss <<< 1) 0x06)).drop 5).take 2) =
          lcss.toNat := forall_byte (by decide +kernel)
  obtain ⟨h4, h2⟩ := hbits lcss h
  generalize overlay ((1 : UInt8) <<< 4) 0xF0 (lcss <<< 1) 0x06 = x at hcode htake h4 h2
  simp only at hcode htake ⊢
  generalize byteBits (encodeQr1676 x).1 ++ byteBits (encodeQr1676 x).2 = word at hcode htake
  refine ⟨hcode, ?_, ?_⟩
  · have hw := congrArg (List.take 4) htake
    rw [List.take_take, List.take_take] at hw
    exact (congrArg ofBits hw).trans h4
  · have hw := congrArg (List.drop 5) htake
    rw [List.drop_take, List.drop_take] at hw
    exact (congrArg ofBits hw).trans h2

/-- Four fragments that make a matrix without errors, with the LC of a group call and its check
sum. -/
structure EmbeddedLc (raw : List Bool) (dst src : List UInt8) : Prop where
  errors : ∀ x ∈ embErrors (embDeinterleave raw), x = false
  lc : (embPlaces.map fun i => (embDeinterleave raw).getD i false) =
    bytesBits ([0, 0, 0] ++ dst ++ src)
  sum : ofBits (embSumPlaces.map fun i => (embDeinterleave raw).getD i false) =
    (([0, 0, 0] ++ dst ++ src).map UInt8.toNat).sum % 31

theorem lcBits_roundTrip {lc : List UInt8} (h : lc.length = 9) :
    let d := embDeinterleave (embInterleave (embMatrix (lcBits lc)))
    (∀ x ∈ embErrors d, x = false) ∧ (embPlaces.map fun i => d.getD i false) = bytesBits lc ∧
      ofBits (embSumPlaces.map fun i => d.getD i false) = (lc.map UInt8.toNat).sum % 31 := by
  have hv : (lcBits lc).length = 77 := by
    rw [lcBits, List.length_append, toBits_length, bytesBits_length, h]
  obtain ⟨herr, hbits⟩ := emb_roundTrip hv
  rw [embBits, List.map_append, lcBits] at hbits
  obtain ⟨hsum, hlc⟩ := List.append_inj hbits (toBits_length 5 _).symm
  have hlt : (lc.map UInt8.toNat).sum % 31 < 2 ^ 5 :=
    Nat.lt_of_lt_of_le (Nat.mod_lt _ (by decide)) (by decide)
  exact ⟨herr, hlc, (congrArg ofBits hsum).trans (ofBits_toBits hlt)⟩

theorem embeddedLc_encodeEmbeddedData (p : Dmrd) :
    EmbeddedLc (encodeEmbeddedData p.dst p.src) ((p.head.drop 8).take 3)
      ((p.head.drop 5).take 3) := by
  have hlc : lcGetData p.dst p.src =
      [0, 0, 0] ++ (p.head.drop 8).take 3 ++ (p.head.drop 5).take 3 := rfl
  obtain ⟨herr, hbits, hsum⟩ := @lcBits_roundTrip (lcGetData p.dst p.src) rfl
  rw [← encodeEmbeddedData_eq] at herr hbits hsum
  rw [hlc] at hbits hsum
  exact ⟨herr, hbits, hsum⟩

namespace Dmrd

/-- The packets as they go out; `emb_raw` is handed on from one to the next. -/
def wire : List Bool → List Dmrd → List (List UInt8)
  | _, [] => []
  | embRaw, p :: ps => p.bytes embRaw :: wire (p.burst embRaw).2 ps

end Dmrd

def pktBurst (pkt : List UInt8) : List UInt8 := (pkt.drop 20).take 33

/-- First, continuation, continuation, last, single. -/
def superframeLcss : List Nat := [1, 3, 3, 2, 0]

/-- What a receiver finds in the six packets of a superframe: the EMB in bursts 1 to 5, and in
bursts 1 to 4 the LC that the packets have in their heads. -/
structure SuperframeLc (pkts : List (List UInt8)) : Prop where
  emb : ∀ n < 5, EmbOf (burstEmb (pktBurst (pkts.getD (n + 1) []))) (superframeLcss.getD n 0)
  lc : ∀ pkt ∈ pkts, EmbeddedLc
    ((pkts.drop 1).take 4 |>.flatMap fun pkt => burstFragment (pktBurst pkt))
    ((pkt.drop 8).take 3) ((pkt.drop 5).take 3)

section
variable {p : Dmrd} {v : List UInt8} {embRaw : List Bool}

/-- A voice burst after the first one, and `emb_raw` after it. -/
theorem Dmrd.burst_voice (hb : p.b15 = voiceB15 n) (hn : n % 6 ≠ 0) (hv : p.voice33 = some v) :
    p.burst embRaw = (getEmbData (getEmbeddedData embRaw v (n % 6).toUInt8).1
      (getEmbeddedData embRaw v (n % 6).toUInt8).2, embRaw) := by
  have hparse : dmrdParseB15 p.b15 = (0, (n % 6).toUInt8) := by
    rw [hb, voiceB15_parse, if_neg hn]
  have hft : p.ft = 0 := congrArg Prod.fst hparse
  have hdtype : p.dtype = (n % 6).toUInt8 := congrArg Prod.snd hparse
  rw [burst, hft, hdtype, if_neg (by decide), hv]
  simp only
  rw [if_neg (by decide)]

/-- The first burst begins with the audio sync and codes the LC again. -/
theorem Dmrd.burst_sync (hb : p.b15 = voiceB15 n) (hn : n % 6 = 0) (hv : p.voice33 = some v) :
    p.burst embRaw = (putAudioSync v, encodeEmbeddedData p.dst p.src) := by
  have hparse : dmrdParseB15 p.b15 = (dmrdFtVoiceSync, 0) := by
    rw [hb, voiceB15_parse, if_pos hn]
  have hft : p.ft = dmrdFtVoiceSync := congrArg Prod.fst hparse
  rw [burst, hft, if_neg (by decide), hv]
  simp only
  rw [if_pos trivial]

theorem Dmrd.pktBurst_bytes (hb : p.b15 = voiceB15 n) (hv : p.voice33 = some v)
    (hl : v.length = 33) : pktBurst (p.bytes embRaw) = (p.burst embRaw).1 := by
  have hlen := Dmrd.burst_length (Dmrd.isVoice_of_b15 hb).2.2.1 hv hl embRaw
  rw [pktBurst, Dmrd.bytes, List.drop_left' (show p.head.length = 20 from rfl),
    List.take_of_length_le (Nat.le_of_eq hlen)]

/-- The signalling in burst `n` of a superframe. -/
theorem Dmrd.burst_signalling (hb : p.b15 = voiceB15 n) (hn : n % 6 ≠ 0) (hv : p.voice33 = some v)
    (hl : v.length = 33) (hraw : embRaw.length = 128) :
    EmbOf (burstEmb (pktBurst (p.bytes embRaw))) (fragmentLcss (n % 6).toUInt8).toNat ∧
      burstFragment (pktBurst (p.bytes embRaw)) = fragmentBits embRaw (n % 6).toUInt8 := by
  obtain ⟨hemb, hfrag⟩ := burst_emb hl hraw (n % 6).toUInt8
  rw [Dmrd.pktBurst_bytes hb hv hl, Dmrd.burst_voice hb hn hv]
  refine ⟨?_, hfrag⟩
  simp only
  rw [hemb]
  apply embOf_encodeQr1676
  have h6 : n % 6 < 6 := Nat.mod_lt n (by decide)
  generalize n % 6 = k at h6
  revert k
  decide

end

theorem fragments_eq {raw : List Bool} (h : raw.length = 128) :
    fragmentBits raw 1 ++ (fragmentBits raw 2 ++ (fragmentBits raw 3 ++ fragmentBits raw 4)) =
      raw := by
  have h1 : fragmentBits raw 1 = (raw.drop 0).take 32 := rfl
  have h2 : fragmentBits raw 2 = (raw.drop 32).take 32 := rfl
  have h3 : fragmentBits raw 3 = (raw.drop 64).take 32 := rfl
  have h4 : fragmentBits raw 4 = raw.drop 96 := by
    change (raw.drop 96).take 32 = _
    apply List.take_of_length_le
    rw [List.length_drop, h]
  have hsplit (n : Nat) : (raw.drop n).take 32 ++ raw.drop (n + 32) = raw.drop n := by
    rw [← List.drop_drop]
    exact List.take_append_drop 32 _
  rw [h1, h2, h3, h4, hsplit 64, hsplit 32, hsplit 0]
  rfl

theorem encodeEmbeddedData_length (txTgid rxSrcid : Int) :
    (encodeEmbeddedData txTgid rxSrcid).length = 128 := by
  rw [encodeEmbeddedData_eq, embInterleave, List.length_map, List.length_range]

/-- Six voice bursts with the same talker and talkgroup carry the LC of both. -/
theorem superframeLc {p : Fin 6 → Dmrd} {v : Fin 6 → List UInt8} (embRaw : List Bool)
    (hb : ∀ n, (p n).b15 = voiceB15 n) (hv : ∀ n, (p n).voice33 = some (v n))
    (hl : ∀ n, (v n).length = 33) (hdst : ∀ n, (p n).dst = (p 0).dst)
    (hsrc : ∀ n, (p n).src = (p 0).src) : SuperframeLc (Dmrd.wire embRaw (List.ofFn p)) := by
  have hraw := encodeEmbeddedData_length (p 0).dst (p 0).src
  have hlc := embeddedLc_encodeEmbeddedData (p 0)
  have hfirst : (p 0).burst embRaw = (putAudioSync (v 0), encodeEmbeddedData (p 0).dst (p 0).src) :=
    Dmrd.burst_sync (hb 0) (by decide) (hv 0)
  generalize encodeEmbeddedData (p 0).dst (p 0).src = raw at hraw hlc hfirst
  have hnext (n : Fin 6) (hn : n.val % 6 ≠ 0) : ((p n).burst raw).2 = raw := by
    rw [Dmrd.burst_voice (hb n) hn (hv n)]
  have hwire : Dmrd.wire embRaw (List.ofFn p) = [(p 0).bytes embRaw, (p 1).bytes raw,
      (p 2).bytes raw, (p 3).bytes raw, (p 4).bytes raw, (p 5).bytes raw] := by
    have hofFn : List.ofFn p = [p 0, p 1, p 2, p 3, p 4, p 5] := rfl
    rw [hofFn]
    simp only [Dmrd.wire, hfirst]
    rw [hnext 1 (by decide), hnext 2 (by decide), hnext 3 (by decide), hnext 4 (by decide)]
  have hsig (n : Fin 6) (hn : n.val % 6 ≠ 0) :=
    Dmrd.burst_signalling (hb n) hn (hv n) (hl n) hraw
  have hhead (n : Fin 6) (r : List Bool) : (((p n).bytes r).drop 8).take 3 =
        ((p 0).head.drop 8).take 3 ∧ (((p n).bytes r).drop 5).take 3 =
        ((p 0).head.drop 5).take 3 := by
    have h8 : (((p n).bytes r).drop 8).take 3 =
        [intByte (p n).dst 16, intByte (p n).dst 8, intByte (p n).dst 0] := rfl
    have h5 : (((p n).bytes r).drop 5).take 3 =
        [intByte (p n).src 16, intByte (p n).src 8, intByte (p n).src 0] := rfl
    rw [h8, h5, hdst n, hsrc n]
    exact ⟨rfl, rfl⟩
  rw [hwire]
  constructor
  · intro n hn
    match n, hn with
    | 0, _ => exact (hsig 1 (by decide)).1
    | 1, _ => exact (hsig 2 (by decide)).1
    | 2, _ => exact (hsig 3 (by decide)).1
    | 3, _ => exact (hsig 4 (by decide)).1
    | 4, _ => exact (hsig 5 (by decide)).1
  · have hfrag : (([(p 0).bytes embRaw, (p 1).bytes raw, (p 2).bytes raw, (p 3).bytes raw,
        (p 4).bytes raw, (p 5).bytes raw].drop 1).take 4 |>.flatMap fun pkt =>
          burstFragment (pktBurst pkt)) = raw := by
      simp only [List.drop_succ_cons, List.drop_zero, List.take_succ_cons, List.take_zero,
        List.flatMap_cons, List.flatMap_nil, List.append_nil]
      rw [(hsig 1 (by decide)).2, (hsig 2 (by decide)).2, (hsig 3 (by decide)).2,
        (hsig 4 (by decide)).2]
      exact fragments_eq hraw
    have hpkt : ∀ pkt ∈ [(p 0).bytes embRaw, (p 1).bytes raw, (p 2).bytes raw, (p 3).bytes raw,
        (p 4).bytes raw, (p 5).bytes raw], ∃ n r, pkt = (p n).bytes r := by
      simp only [List.forall_mem_cons, List.not_mem_nil, false_implies, implies_true, and_true]
      exact ⟨⟨0, _, rfl⟩, ⟨1, _, rfl⟩, ⟨2, _, rfl⟩, ⟨3, _, rfl⟩, ⟨4, _, rfl⟩, ⟨5, _, rfl⟩⟩
    intro pkt hm
    obtain ⟨n, r, rfl⟩ := hpkt pkt hm
    rw [hfrag, (hhead n r).1, (hhead n r).2]
    exact hlc

end AdnBridge
