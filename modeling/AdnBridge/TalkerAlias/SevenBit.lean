import AdnBridge.TalkerAlias.Bounds

namespace AdnBridge
set_option autoImplicit true

/-- The blocks one after the other, with zeros for those that are not there. -/
def taConcat (blocks : TaBlocks) (present : Fin 4 → Bool) : List UInt8 :=
  (List.finRange 4).flatMap fun k =>
    if present k then (blocks k).toList else List.replicate taPayloadLen 0

/-- The seven bits of character `k`, which follow the format and the size. -/
def taChar (p : List UInt8) (k : Nat) : UInt8 :=
  (ofBits (readBits p (List.range' (7 + 7 * k) 7))).toUInt8

def packBits : Nat → List Bool → List UInt8
  | 0, _ => []
  | n + 1, bits => (ofBits (bits.take 8)).toUInt8 :: packBits n (bits.drop 8)

/-- The seven-bit packing of a text: two bits of format, five of size and seven for each
character. -/
def packTa (cs : List UInt8) : List UInt8 :=
  packBits taBufLen (fixed 224 ([false, false] ++ toBits 5 cs.length ++
    cs.flatMap fun c => toBits 7 c.toNat))

/-- The four blocks in which a packed text is sent. -/
def taSplit (p : List UInt8) : TaBlocks :=
  fun k => Vector.ofFn fun j : Fin 7 => p.getD (7 * k + j) 0

theorem ta_bit (x : UInt8) (h : j < 8) :
    (x >>> j.toUInt8) &&& 1 = (x.toNat.testBit j).toNat.toUInt8 := by
  have hall : ∀ x : UInt8, ∀ j : Fin 8,
      (x >>> j.val.toUInt8) &&& 1 = (x.toNat.testBit j.val).toNat.toUInt8 :=
    forall_byte (by decide +kernel)
  exact hall x ⟨j, h⟩

theorem ta_shift (x : UInt8) (b : Bool) :
    (x <<< 1) ||| b.toNat.toUInt8 = (x.toNat * 2 + b.toNat).toUInt8 := by
  have hall : ∀ x : UInt8, ∀ b : Bool,
      (x <<< 1) ||| b.toNat.toUInt8 = (x.toNat * 2 + b.toNat).toUInt8 :=
    forall_byte (by decide +kernel)
  exact hall x b

theorem ofBits_toUInt8_toNat {l : List Bool} (h : l.length ≤ 8) :
    (ofBits l).toUInt8.toNat = ofBits l := by
  have hlt : ofBits l < 256 :=
    Nat.lt_of_lt_of_le (ofBits_lt l) (Nat.pow_le_pow_right (by decide) h)
  rw [Nat.toUInt8, UInt8.toNat_ofNat', Nat.mod_eq_of_lt hlt]

theorem ofBits_seven {l : List Bool} (h : l.length = 7) :
    (ofBits l).toUInt8 &&& 0x7F = (ofBits l).toUInt8 := by
  have hall : ∀ x : UInt8, x.toNat < 128 → x &&& 0x7F = x := forall_byte (by decide +kernel)
  apply hall
  rw [ofBits_toUInt8_toNat (by omega)]
  have hlt := ofBits_lt l
  rwa [h] at hlt

theorem ofBits_concat (l : List Bool) (b : Bool) : ofBits (l ++ [b]) = ofBits l * 2 + b.toNat := by
  rw [ofBits_append]
  cases b with
  | true => rfl
  | false => rfl

theorem readBit_byte (p : List UInt8) (i : Nat) (h : j < 8) :
    readBit p (8 * i + (7 - j)) = (p.getD i 0).toNat.testBit j := by
  have hq : (8 * i + (7 - j)) / 8 = i := by omega
  have hm : (8 * i + (7 - j)) % 8 = 7 - j := by omega
  have hj : 7 - (7 - j) = j := by omega
  rw [readBit, ← bitMask_mod, hq, hm, byte_read _ (by omega), hj]

theorem taFormat_eq : ∀ x : UInt8, taFormat x = (ofBits ((byteBits x).take 2)).toUInt8 :=
  forall_byte (by decide +kernel)

theorem taSize_eq : ∀ x : UInt8, taSize x = ofBits (((byteBits x).drop 2).take 5) :=
  forall_byte (by decide +kernel)

/-- The state after the first `n` bits. -/
structure Taken (p : List UInt8) (L size n : Nat) (s : TaBits) : Prop where
  buf : ∀ i < taBufLen, s.mem.buf i = p.getD i 0
  len : s.mem.text.length = L
  t1 : s.t1 = n % 7
  c : s.c = (ofBits (readBits p (List.range' (n - n % 7) (n % 7)))).toUInt8
  outlen : s.outlen = min size ((n - 7) / 7)
  t2 : s.t2 = s.outlen
  text : ∀ k < s.outlen, s.mem.text.getD k 0 = taChar p k

namespace Taken

variable {p : List UInt8} {L size n : Nat} {s : TaBits}

/-- The bits taken of a character together with the next one. -/
theorem shifted (h : Taken p L size (8 * i + (7 - j)) s) (hi : i < taBufLen) (hj : j < 8)
    (hn : n = 8 * i + (7 - j)) :
    (s.c <<< 1) ||| ((s.mem.buf i >>> j.toUInt8) &&& 1) =
      (ofBits (readBits p (List.range' (n - n % 7) (n % 7 + 1)))).toUInt8 := by
  subst hn
  have hlt : (8 * i + (7 - j)) % 7 < 7 := Nat.mod_lt _ (by decide)
  have hend : 8 * i + (7 - j) - (8 * i + (7 - j)) % 7 + (8 * i + (7 - j)) % 7 =
      8 * i + (7 - j) := Nat.sub_add_cancel (Nat.mod_le _ _)
  rw [ta_bit _ hj, h.buf i hi, ← readBit_byte p i hj, ta_shift, h.c,
    ofBits_toUInt8_toNat (by rw [readBits_length, List.length_range']; omega),
    List.range'_1_concat, hend, readBits_append]
  exact congrArg Nat.toUInt8 (ofBits_concat _ _).symm

theorem taBit (h : Taken p L size (8 * i + (7 - j)) s) (hi : i < taBufLen) (hj : j < 8)
    (hL : size < L) : Taken p L size (8 * i + (7 - j) + 1) (taBit size i s j) := by
  generalize hn : 8 * i + (7 - j) = n at h
  have hshift := (hn ▸ h).shifted hi hj hn.symm
  have hlt : n % 7 < 7 := Nat.mod_lt _ (by decide)
  rw [AdnBridge.taBit]
  simp only [TaMem.load]
  rw [h.t1]
  split
  next h7 =>
    have h0 : (n + 1) % 7 = 0 := by omega
    have hzero : (0 : UInt8) = (ofBits (readBits p
        (List.range' (n + 1 - (n + 1) % 7) ((n + 1) % 7)))).toUInt8 := by
      rw [h0]
      rfl
    split
    next hout =>
      have hk : s.outlen = (n - 7) / 7 := by
        have := h.outlen
        omega
      have hchar : ((s.c <<< 1) ||| ((s.mem.buf i >>> j.toUInt8) &&& 1)) &&& 0x7F =
          taChar p s.outlen := by
        have hfrom : n - n % 7 = 7 + 7 * s.outlen := by omega
        rw [hshift, h7, ofBits_seven (by rw [readBits_length, List.length_range']), hfrom]
        rfl
      refine ⟨h.buf, (List.length_set).trans h.len, h0.symm, hzero, ?_, ?_, fun k hk' => ?_⟩
      · change s.outlen + 1 = _
        omega
      · change s.t2 + 1 = s.outlen + 1
        rw [h.t2]
      · change (s.mem.text.set s.outlen _).getD k 0 = _
        rw [getD_set _ _ _ (by rw [h.len]; omega), hchar]
        split
        next hks => rw [hks]
        next hks => exact h.text k (by change k < s.outlen + 1 at hk'; omega)
    next hout =>
      refine ⟨h.buf, h.len, h0.symm, hzero, ?_, h.t2, h.text⟩
      have := h.outlen
      change s.outlen = _
      omega
  next h7 =>
    have h1 : (n + 1) % 7 = n % 7 + 1 := by omega
    refine ⟨h.buf, h.len, h1.symm, ?_, ?_, h.t2, h.text⟩
    · change (s.c <<< 1) ||| ((s.mem.buf i >>> j.toUInt8) &&& 1) = _
      have hfrom : n + 1 - (n % 7 + 1) = n - n % 7 := by omega
      rw [hshift, h1, hfrom]
    · have := h.outlen
      change s.outlen = _
      omega

/-- The turns for the first `k` bits of a byte. -/
theorem bits (h : Taken p L size (8 * i) s) (hi : i < taBufLen) (hL : size < L) (hk : k ≤ 8) :
    Taken p L size (8 * i + k)
      (((List.range k).map (7 - ·)).foldl (AdnBridge.taBit size i) s) := by
  induction k with
  | zero => exact h
  | succ k ih =>
    have hj : 7 - (7 - k) = k := by omega
    have hbit := (ih (by omega))
    rw [← hj] at hbit
    have hnext := hbit.taBit hi (by omega) hL
    rw [hj] at hnext
    rw [List.range_succ, List.map_append, List.foldl_append]
    exact hnext

theorem byte (h : Taken p L size (8 * i) s) (hi : i < taBufLen) (hL : size < L) :
    Taken p L size (8 * (i + 1)) ([7, 6, 5, 4, 3, 2, 1, 0].foldl (AdnBridge.taBit size i) s) :=
  h.bits hi hL (Nat.le_refl 8)

/-- The loop stops with all the characters, at the latest behind the last byte. -/
theorem taBytes (h : Taken p L size (8 * i) s) (hL : size < L) (hsize : size ≤ 31)
    (hm : i + m = taBufLen) : ∃ n, size ≤ (n - 7) / 7 ∧
      Taken p L size n (taBytes size (List.range' i m) s) := by
  induction m generalizing i s with
  | zero =>
    refine ⟨8 * i, ?_, h⟩
    have hi : i = 28 := hm
    omega
  | succ m ih =>
    rw [List.range'_succ, AdnBridge.taBytes]
    split
    next hstop =>
      refine ⟨8 * i, ?_, h⟩
      have hout := h.outlen
      have ht2 := h.t2
      omega
    next => exact ih (h.byte (by omega) hL) (by omega)

theorem start (p : List UInt8) (size : Nat) {m : TaMem}
    (hbuf : ∀ i < taBufLen, m.buf i = p.getD i 0) :
    Taken p m.text.length size 0 ⟨0, 0, 0, 0, m⟩ where
  buf := hbuf
  len := rfl
  t1 := rfl
  c := rfl
  outlen := (Nat.min_zero _).symm
  t2 := rfl
  text := fun _ hk => absurd hk (Nat.not_lt_zero _)

end Taken

/-- The decoder finds as many characters as the header announces, each in its seven bits. -/
theorem decodeTa7bit_eq {m : TaMem} (p : List UInt8)
    (hbuf : ∀ i < taBufLen, m.buf i = p.getD i 0) (hformat : taFormat (p.getD 0 0) = 0)
    (hsize : 1 ≤ taSize (p.getD 0 0)) (hL : taSize (p.getD 0 0) < m.text.length) :
    (decodeTa7bit m).1 = taSize (p.getD 0 0) ∧
      (decodeTa7bit m).2.text.take (taSize (p.getD 0 0)) =
        (List.range (taSize (p.getD 0 0))).map (taChar p) := by
  have h0 : m.buf 0 = p.getD 0 0 := hbuf 0 (by decide)
  obtain ⟨n, hn, ht⟩ := ((Taken.start p (taSize (p.getD 0 0)) (m := ((m.load 0).2.load 0).2)
    hbuf).taBytes (i := 0) (m := taBufLen) hL (taSize_le _) (Nat.zero_add _))
  have hdec : decodeTa7bit m = ((taBytes (taSize (p.getD 0 0)) (List.range taBufLen)
      ⟨0, 0, 0, 0, ((m.load 0).2.load 0).2⟩).outlen,
      (taBytes (taSize (p.getD 0 0)) (List.range taBufLen)
        ⟨0, 0, 0, 0, ((m.load 0).2.load 0).2⟩).mem.store (taBytes (taSize (p.getD 0 0))
          (List.range taBufLen) ⟨0, 0, 0, 0, ((m.load 0).2.load 0).2⟩).outlen 0) := by
    rw [decodeTa7bit, if_neg (by omega), ← h0]
    refine (if_neg (not_not.2 (h0 ▸ hformat))).trans (if_neg ?_)
    change ¬(taSize (m.buf 0) = 0 ∨ taSize (m.buf 0) ≥ m.text.length)
    rw [h0]
    omega
  rw [← List.range_eq_range'] at ht
  rw [hdec]
  generalize taBytes _ _ _ = s at ht
  have hout : s.outlen = taSize (p.getD 0 0) := ht.outlen.trans (Nat.min_eq_left hn)
  refine ⟨hout, List.ext_getElem ?_ fun k hk hk' => ?_⟩
  · rw [List.length_take, List.length_map, List.length_range]
    change min _ (s.mem.text.set _ _).length = _
    rw [List.length_set, ht.len]
    exact Nat.min_eq_left (Nat.le_of_lt hL)
  · rw [List.length_map, List.length_range] at hk'
    have hne : s.outlen ≠ k := by omega
    rw [List.getElem_take, List.getElem_map, List.getElem_range, ← List.getD_eq_getElem _ 0]
    change (s.mem.text.set s.outlen 0).getD k 0 = _
    rw [getD_set_ne _ _ _ hne]
    exact ht.text k (hout.symm ▸ hk')

theorem bytesBits_packBits (h : bits.length = 8 * n) : bytesBits (packBits n bits) = bits := by
  induction n generalizing bits with
  | zero => exact (List.length_eq_zero_iff.1 h).symm
  | succ n ih =>
    rw [packBits, bytesBits_cons, ih (by rw [List.length_drop]; omega),
      byteBits_ofBits (List.length_take_of_le (by omega)), List.take_append_drop]

theorem packBits_length (n : Nat) (bits : List Bool) : (packBits n bits).length = n := by
  induction n generalizing bits with
  | zero => rfl
  | succ n ih => rw [packBits, List.length_cons, ih]

theorem sevens_length (cs : List UInt8) :
    (cs.flatMap fun c => toBits 7 c.toNat).length = 7 * cs.length := by
  induction cs with
  | nil => rfl
  | cons c cs ih =>
    rw [List.flatMap_cons, List.length_append, ih, toBits_length, List.length_cons]
    omega

theorem sevens_take (cs : List UInt8) (hk : k < cs.length) :
    ((cs.flatMap fun c => toBits 7 c.toNat).drop (7 * k)).take 7 = toBits 7 cs[k].toNat := by
  induction cs generalizing k with
  | nil => cases hk
  | cons c cs ih =>
    rw [List.flatMap_cons]
    cases k with
    | zero => exact List.take_left' (toBits_length 7 _)
    | succ k =>
      have hdrop : 7 * (k + 1) = (toBits 7 c.toNat).length + 7 * k := by
        rw [toBits_length]
        omega
      rw [hdrop, List.drop_length_add_append]
      exact ih (Nat.lt_of_succ_lt_succ hk)

section Packed

variable {cs : List UInt8} (hlen : cs.length ≤ 31)
include hlen

theorem packTa_bits : ∃ rest, bytesBits (packTa cs) = ([false, false] ++ toBits 5 cs.length) ++
    ((cs.flatMap fun c => toBits 7 c.toNat) ++ rest) := by
  rw [packTa, bytesBits_packBits (fixed_length 224 _), fixed]
  refine ⟨List.replicate (224 - (7 + 7 * cs.length)) false, ?_⟩
  have hl : ([false, false] ++ toBits 5 cs.length ++
      cs.flatMap fun c => toBits 7 c.toNat).length = 7 + 7 * cs.length := by
    rw [List.length_append, sevens_length, List.length_append, toBits_length]
    rfl
  rw [List.take_append, List.take_of_length_le (by omega), hl, List.take_replicate,
    Nat.min_eq_left (by omega), List.append_assoc]
  rfl

theorem packTa_header : taFormat ((packTa cs).getD 0 0) = 0 ∧
    taSize ((packTa cs).getD 0 0) = cs.length := by
  obtain ⟨rest, hbits⟩ := packTa_bits hlen
  have hp : (packTa cs).length = 28 := packBits_length _ _
  obtain ⟨x, p, hx⟩ := List.exists_cons_of_length_pos (Nat.lt_of_lt_of_eq (by decide) hp.symm)
  rw [hx, bytesBits_cons] at hbits
  have htwo : (byteBits x).take 2 = [false, false] := by
    have h := congrArg (List.take 2) hbits
    rwa [List.take_append_of_le_length (by rw [byteBits_length]; decide)] at h
  have hfive : ((byteBits x).drop 2).take 5 = toBits 5 cs.length := by
    have h : ((byteBits x ++ bytesBits p).drop 2).take 5 = _ := congrArg (fun l =>
      (l.drop 2).take 5) hbits
    rw [List.drop_append_of_le_length (by rw [byteBits_length]; decide),
      List.take_append_of_le_length (by rw [List.length_drop, byteBits_length]; decide)] at h
    rw [h]
    exact List.take_left' (toBits_length 5 _)
  rw [hx, List.getD_cons_zero, taFormat_eq, taSize_eq, htwo, hfive,
    ofBits_toBits (Nat.lt_succ_of_le hlen)]
  exact ⟨rfl, rfl⟩

theorem packTa_char (hk : k < cs.length) (hc : cs[k] < 128) : taChar (packTa cs) k = cs[k] := by
  obtain ⟨rest, hbits⟩ := packTa_bits hlen
  have hp : (packTa cs).length = 28 := packBits_length _ _
  have hseven : 7 + 7 * k = ([false, false] ++ toBits 5 cs.length).length + 7 * k := by
    rw [List.length_append, toBits_length]
    rfl
  have hrest : 7 ≤ ((cs.flatMap fun c => toBits 7 c.toNat).drop (7 * k)).length := by
    rw [List.length_drop, sevens_length]
    omega
  rw [taChar, readBits_range' _ (by omega), hbits, hseven, List.drop_length_add_append,
    List.drop_append_of_le_length (by rw [sevens_length]; omega),
    List.take_append_of_le_length hrest, sevens_take cs hk, ofBits_toBits hc]
  exact UInt8.ofNat_toNat

/-- The decoder undoes the packing. -/
theorem decodeTa7bit_packTa (hpos : 1 ≤ cs.length) (hc : ∀ c ∈ cs, c < 128) {m : TaMem}
    (hbuf : ∀ i < taBufLen, m.buf i = (packTa cs).getD i 0) (hL : cs.length < m.text.length) :
    (decodeTa7bit m).1 = cs.length ∧ (decodeTa7bit m).2.text.take cs.length = cs := by
  obtain ⟨hformat, hsize⟩ := packTa_header hlen
  have hdec := decodeTa7bit_eq (packTa cs) hbuf hformat (hsize.symm ▸ hpos) (hsize.symm ▸ hL)
  rw [hsize] at hdec
  refine ⟨hdec.1, hdec.2.trans (List.ext_getElem ?_ fun k hk hk' => ?_)⟩
  · rw [List.length_map, List.length_range]
  · rw [List.getElem_map, List.getElem_range]
    exact packTa_char hlen hk' (hc _ (List.getElem_mem hk'))

end Packed

theorem hasBlock_or (haveMask : UInt32) (k k' : Fin 4) :
    hasBlock (haveMask ||| (1 <<< k.val.toUInt32)) k' = (hasBlock haveMask k' || k == k') := by
  have hbit : ∀ k k' : Fin 4, ((1 : UInt32) <<< k.val.toUInt32) &&& (1 <<< k'.val.toUInt32) =
      if k = k' then 1 <<< k'.val.toUInt32 else 0 := by decide
  have hne : ∀ k : Fin 4, (1 : UInt32) <<< k.val.toUInt32 ≠ 0 := by decide
  have hor : (haveMask ||| (1 <<< k.val.toUInt32)) &&& (1 <<< k'.val.toUInt32) =
      haveMask &&& (1 <<< k'.val.toUInt32) |||
        (1 <<< k.val.toUInt32) &&& (1 <<< k'.val.toUInt32) :=
    UInt32.toBitVec_inj.1 BitVec.and_or_distrib_right
  rw [hasBlock, hor, hbit]
  by_cases hk : k = k'
  · have hnz : haveMask &&& (1 <<< k'.val.toUInt32) ||| (1 <<< k'.val.toUInt32) ≠ 0 := fun h =>
      hne k' (UInt32.or_eq_zero_iff.1 h).2
    rw [if_pos hk, hk, beq_self_eq_true, Bool.or_true]
    exact bne_iff_ne.2 hnz
  · rw [if_neg hk, UInt32.or_zero, beq_false_of_ne hk, Bool.or_false]
    rfl

local instance lawfulBEqBlock : LawfulBEq (Fin 4) := inferInstance

local instance neZeroBlocks : NeZero 4 := ⟨by decide⟩

/-- The blocks of a radio that have come so far are there. -/
structure Collected (radio : Nat) (blocks : TaBlocks) (seen : List (Fin 4)) (d : Dmra) : Prop where
  rf : d.rf = 0 ∨ d.rf = radio
  here : ∀ k, hasBlock d.haveMask k = decide (k ∈ seen)
  blocks : ∀ k ∈ seen, d.blocks k = blocks k

namespace Collected

variable {blocks : TaBlocks}

theorem cleared (radio : Nat) (blocks : TaBlocks) :
    Collected radio blocks [] Dmra.cleared where
  rf := .inl rfl
  here := by decide
  blocks := fun k hk => absurd hk List.not_mem_nil

theorem put (h : Collected radio blocks seen d) (k : Fin 4) :
    Collected radio blocks (seen ++ [k]) (d.put radio k (blocks k)) := by
  have hsame : ¬(d.rf ≠ 0 ∧ d.rf ≠ radio) := by
    have := h.rf
    omega
  rw [Dmra.put, if_neg hsame]
  refine ⟨.inr rfl, fun k' => ?_, fun k' hk' => ?_⟩
  · change hasBlock (d.haveMask ||| _) k' = _
    rw [hasBlock_or, h.here, Bool.eq_iff_iff, Bool.or_eq_true, decide_eq_true_iff,
      decide_eq_true_iff, beq_iff_eq, List.mem_append, List.mem_singleton, eq_comm]
  · change Function.update d.blocks k (blocks k) k' = _
    by_cases hk : k' = k
    · rw [hk, Function.update_self]
    · rw [Function.update_of_ne hk]
      rcases List.mem_append.1 hk' with hk' | hk'
      · exact h.blocks k' hk'
      · exact absurd (List.mem_singleton.1 hk') hk

theorem onDmra (h : Collected radio blocks seen d)
    (hp : dmraParsePacket pkt = some (radio, k, blocks k)) (stack : Nat → UInt8) :
    Collected radio blocks (seen ++ [k]) (d.onDmra stack pkt) := by
  have hput := h.put k
  rw [Dmra.onDmra, hp]
  simp only
  split
  · exact ⟨hput.rf, hput.here, hput.blocks⟩
  · exact hput

theorem run {pkts : List (List UInt8)} {order : List (Fin 4)} {d : Dmra}
    (h : Collected radio blocks seen d)
    (hp : pkts.map dmraParsePacket = order.map fun k => some (radio, k, blocks k))
    (stack : Nat → UInt8) :
    Collected radio blocks (seen ++ order) (pkts.foldl (Dmra.onDmra stack) d) := by
  induction pkts generalizing seen d order with
  | nil =>
    rw [List.map_nil, eq_comm, List.map_eq_nil_iff] at hp
    rwa [hp, List.append_nil]
  | cons pkt pkts ih =>
    cases order with
    | nil => cases hp
    | cons k order =>
      rw [List.map_cons, List.map_cons, List.cons.injEq] at hp
      rw [List.foldl_cons, List.append_cons]
      exact ih (h.onDmra hp.1 stack) hp.2

/-- Blocks that came from another radio are forgotten. -/
theorem onDmra_other {d : Dmra} {payload : Vector UInt8 7} (hd : d.rf ≠ 0 ∧ d.rf ≠ radio)
    (hp : dmraParsePacket pkt = some (radio, k, payload)) (stack : Nat → UInt8) :
    d.onDmra stack pkt = Dmra.cleared.onDmra stack pkt := by
  have hput : d.put radio k payload = Dmra.cleared.put radio k payload := by
    rw [Dmra.put, Dmra.put, if_pos hd, if_neg fun h => h.1 rfl]
  rw [Dmra.onDmra, Dmra.onDmra, hp]
  simp only [hput]

theorem taBuf_eq (h : Collected radio blocks order d) :
    taBuf d.blocks d.haveMask = taConcat blocks fun k => decide (k ∈ order) := by
  rw [taBuf, taConcat]
  refine List.flatMap_congr fun k _ => ?_
  rw [h.here]
  by_cases hk : k ∈ order
  · rw [if_pos (decide_eq_true hk), if_pos (decide_eq_true hk), h.blocks k hk]
  · rw [if_neg (by rwa [decide_eq_true_iff]), if_neg (by rwa [decide_eq_true_iff])]

end Collected

theorem getD_flatMap {f : α → List β} (hf : ∀ a, (f a).length = n) (l : List α) (a : α) (b : β)
    (hi : i < l.length) (hj : j < n) :
    (l.flatMap f).getD (n * i + j) b = (f (l.getD i a)).getD j b := by
  induction l generalizing i with
  | nil => cases hi
  | cons c l ih =>
    rw [List.flatMap_cons]
    cases i with
    | zero =>
      rw [Nat.mul_zero, Nat.zero_add, List.getD_append _ _ _ _ (by rw [hf]; exact hj),
        List.getD_cons_zero]
    | succ i =>
      have hpast : n * (i + 1) + j = (f c).length + (n * i + j) := by
        rw [hf, Nat.mul_succ]
        omega
      rw [hpast, List.getD_append_right _ _ _ _ (by omega), Nat.add_sub_cancel_left,
        List.getD_cons_succ, ih (Nat.lt_of_succ_lt_succ hi)]

theorem taConcat_block (blocks : TaBlocks) (present : Fin 4 → Bool) (k : Fin 4) :
    (if present k then (blocks k).toList else List.replicate taPayloadLen 0).length = 7 := by
  split
  · exact Vector.length_toList
  · exact List.length_replicate

theorem taConcat_length (blocks : TaBlocks) (present : Fin 4 → Bool) :
    (taConcat blocks present).length = taBufLen := by
  have hf := taConcat_block blocks present
  rw [taConcat, List.length_flatMap]
  simp only [hf]
  decide

theorem taConcat_getD (blocks : TaBlocks) (present : Fin 4 → Bool) (k : Fin 4) (hj : j < 7) :
    (taConcat blocks present).getD (7 * k + j) 0 = if present k then (blocks k)[j] else 0 := by
  have hf := taConcat_block blocks present
  have hk : (List.finRange 4).getD k 0 = k := by
    revert k
    decide
  rw [taConcat, getD_flatMap hf _ 0 0 (by rw [List.length_finRange]; exact k.isLt) hj, hk]
  split
  · rw [List.getD_eq_getElem _ 0 (by rw [Vector.length_toList]; exact hj), Vector.getElem_toList]
  · exact List.getD_replicate _ hj

/-- The blocks of 28 bytes, apart from blocks of zeros, give them back. -/
theorem taConcat_taSplit (hp : p.length = taBufLen)
    (hall : ∀ k, present k = true ∨ taSplit p k = Vector.replicate 7 0) :
    taConcat (taSplit p) present = p := by
  refine List.ext_getElem ((taConcat_length _ _).trans hp.symm) fun i hi hi' => ?_
  have hlt : i < 28 := Nat.lt_of_lt_of_eq hi' hp
  have hmod : i % 7 < 7 := Nat.mod_lt _ (by decide)
  have hget := taConcat_getD (taSplit p) present ⟨i / 7, by omega⟩ hmod
  have hsum : 7 * (i / 7) + i % 7 = i := Nat.div_add_mod i 7
  have hblock : (taSplit p ⟨i / 7, by omega⟩)[i % 7] = p[i] := by
    rw [taSplit, Vector.getElem_ofFn]
    change p.getD (7 * (i / 7) + i % 7) 0 = _
    rw [hsum, List.getD_eq_getElem _ _ hi']
  rw [← List.getD_eq_getElem _ 0 hi]
  simp only [hsum] at hget
  rw [hget, ← hblock]
  rcases hall ⟨i / 7, by omega⟩ with hk | hk
  · rw [if_pos hk]
  · rw [hk, Vector.getElem_replicate]
    exact ite_self _

/-- The blocks of a radio, in whatever order they come, are decoded to the characters that the
header announces, and to the text that was packed. -/
theorem onDmra_sevenBit {radio : Nat} {blocks : TaBlocks} {order : List (Fin 4)}
    {pkts : List (List UInt8)} {d : Dmra} {text : List UInt8} (stack : Nat → UInt8)
    (hd : d = Dmra.cleared ∨ d.rf ≠ 0 ∧ d.rf ≠ radio)
    (hpkts : pkts.map dmraParsePacket = order.map fun k => some (radio, k, blocks k))
    (hfirst : 0 ∈ order) (hformat : taFormat (blocks 0)[0] = 0) (hsize : 1 ≤ taSize (blocks 0)[0])
    (htext : taSize (blocks 0)[0] < text.length) :
    let d' := pkts.foldl (Dmra.onDmra stack) d
    let size := taSize (blocks 0)[0]
    let r := decodeTa7bit (taMem (taBuf d'.blocks d'.haveMask) stack text)
    (r.1 = size ∧ r.2.text.take size = (List.range size).map
      (taChar (taConcat blocks fun k => decide (k ∈ order)))) ∧
    ∀ cs : List UInt8, cs.length ≤ 31 → (∀ c ∈ cs, c < 128) → blocks = taSplit (packTa cs) →
      (∀ k, k ∈ order ∨ blocks k = Vector.replicate 7 0) →
      size = cs.length ∧ r.2.text.take size = cs := by
  intro d' size r
  have hc : Collected radio blocks order d' := by
    rcases hd with rfl | hd
    · exact (Collected.cleared radio blocks).run hpkts stack
    · cases order with
      | nil => cases hfirst
      | cons k order =>
        cases pkts with
        | nil => cases hpkts
        | cons pkt pkts =>
          have hfold : d' = pkts.foldl (Dmra.onDmra stack) (Dmra.cleared.onDmra stack pkt) := by
            rw [← Collected.onDmra_other hd (List.cons.inj hpkts).1]
            rfl
          rw [hfold]
          exact (Collected.cleared radio blocks).run hpkts stack
  have hheader : (taConcat blocks fun k => decide (k ∈ order)).getD 0 0 = (blocks 0)[0] := by
    have h := taConcat_getD blocks (fun k => decide (k ∈ order)) 0 (j := 0) (by decide)
    rwa [if_pos (decide_eq_true hfirst)] at h
  have hbuf : ∀ i < taBufLen, (taMem (taBuf d'.blocks d'.haveMask) stack text).buf i =
      (taConcat blocks fun k => decide (k ∈ order)).getD i 0 := fun i hi => by
    rw [← hc.taBuf_eq]
    exact if_pos hi
  have hdec := decodeTa7bit_eq _ hbuf (hheader.symm ▸ hformat) (hheader.symm ▸ hsize)
    (hheader.symm ▸ htext)
  rw [hheader] at hdec
  refine ⟨hdec, fun cs hlen hcs hblocks hall => ?_⟩
  have hp : (taConcat blocks fun k => decide (k ∈ order)) = packTa cs := by
    rw [hblocks] at hall ⊢
    exact taConcat_taSplit (packBits_length _ _) fun k => (hall k).imp_left decide_eq_true
  have hcount : size = cs.length := by
    rw [← (packTa_header hlen).2, ← hp, hheader]
  rw [hp] at hbuf
  have hback := decodeTa7bit_packTa hlen (hcount ▸ hsize) hcs hbuf (hcount ▸ htext)
  rw [hcount]
  exact ⟨rfl, hback.2⟩

/-- `"AB"` in its two first blocks, the second one before the first. -/
def samplePackets : List (List UInt8) :=
  [dmraMagic ++ [0, 0, 1, 1] ++ (taSplit (packTa [0x41, 0x42]) 1).toList,
    dmraMagic ++ [0, 0, 1, 0] ++ (taSplit (packTa [0x41, 0x42]) 0).toList]

theorem onDmra_sevenBit_sample :
    let d := samplePackets.foldl (Dmra.onDmra fun _ => 0) Dmra.cleared
    let r := decodeTa7bit (taMem (taBuf d.blocks d.haveMask) (fun _ => 0) (List.replicate 32 0))
    r.1 = 2 ∧ r.2.text.take 2 = [0x41, 0x42] := by
  have hpkts : samplePackets.map dmraParsePacket =
      ([1, 0] : List (Fin 4)).map fun k => some (1, k, taSplit (packTa [0x41, 0x42]) k) := by
    decide +kernel
  have htext : taSize (taSplit (packTa [0x41, 0x42]) 0)[0] <
      (List.replicate 32 (0 : UInt8)).length := by decide +kernel
  have h := onDmra_sevenBit (fun _ => 0) (.inl rfl) hpkts (by decide) (by decide +kernel)
    (by decide +kernel) htext
  exact ⟨h.1.1, (h.2 [0x41, 0x42] (by decide) (by decide +kernel) rfl (by decide +kernel)).2⟩

end AdnBridge
