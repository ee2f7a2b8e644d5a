import AdnBridge.Mmdvm.YsfVoice
import AdnBridge.Ysf.Payload

namespace AdnBridge
set_option autoImplicit true

/-- `CCRC::checkCCITT162`. -/
def checkCCITT162 (input : List UInt8) (length : Nat) : Bool :=
  let crc := ~~~((List.range (length - 2)).foldl (crcStep input) 0)
  crc.toUInt8 == input.getD (length - 1) 0 && (crc >>> 8).toUInt8 == input.getD (length - 2) 0

/-- A coded field, taken from the payload `k` bytes at a time, a copy every 18 bytes. -/
def gather (k off : Nat) (payload : List UInt8) : List UInt8 :=
  (List.range 5).flatMap fun i => (payload.drop (off + 18 * i)).take k

/-- The dibits of a field in the order of its interleaver. -/
def fieldDibits (table : List Nat) (bytes : List UInt8) : List (Bool × Bool) :=
  table.map fun n => (readBit bytes n, readBit bytes (n + 1))

/-- The `n` bytes of a field, decoded as `CYSFConvolution` decodes them, unless their check sum is
wrong. -/
@[irreducible] def readField (table : List Nat) (k n off : Nat) (payload : List UInt8) :
    Option (List UInt8) :=
  let conv := FichCodec.init.cleared.decodeDibits (fieldDibits table (gather k off payload))
  let output := convolutionChainback conv (List.replicate (n + 3) 0) (8 * (n + 2))
  if checkCCITT162 output (n + 2) then some (whiten (output.take n)) else none

def readVDMode2Data : List UInt8 → Option (List UInt8) := readField interleaveTable 5 10 30

/-- `readDataFRModeData1`, and `readDataFRModeData2`, which starts 9 bytes later. -/
def readDataFRModeData (shift : Nat) : List UInt8 → Option (List UInt8) :=
  readField interleaveTable920 9 20 (30 + shift)

/-- A field that is valid is coded again. -/
def processDataFRModeData (shift : Nat) (payload : List UInt8) : Option (List UInt8) × List UInt8 :=
  let output := readDataFRModeData shift payload
  (output, output.elim payload (writeDataFRModeData shift payload))

/-- `ysf_payload_process_header`: the source and the destination, if the first field is valid, and
the payload. -/
def processHeaderData (payload : List UInt8) : Option (List UInt8 × List UInt8) × List UInt8 :=
  let csd1 := processDataFRModeData 0 payload
  let csd2 := processDataFRModeData 9 csd1.2
  (csd1.1.map fun output => (output.drop 10, output.take 10), csd2.2)

/-- How many of the first `n` bits are not the same. -/
def wrongBits (n : Nat) (a b : List UInt8) : Nat :=
  ((List.range n).map fun i => (readBit a i ^^ readBit b i).toNat).sum

theorem wrongBits_self (n : Nat) (a : List UInt8) : wrongBits n a a = 0 := by
  rw [wrongBits, List.map_congr_left fun i _ => by rw [Bool.xor_self, Bool.toNat_false],
    List.map_const', List.sum_replicate_nat, Nat.mul_zero]

/-- A field of `n` bytes with an interleaver that fills its `5 * k` bytes. -/
structure FieldLayout (table : List Nat) (k n : Nat) : Prop where
  perm : (table.flatMap fun i => [i, i + 1]).Perm (List.range (40 * k))
  length : table.length = 8 * (n + 2) + 4
  fits : n ≤ 20

theorem dch_layout : FieldLayout interleaveTable 5 10 where
  perm := turns_perm 5
  length := rfl
  fits := by decide

theorem csd_layout : FieldLayout interleaveTable920 9 20 where
  perm := turns_perm 9
  length := rfl
  fits := by decide

/-- What is written to the payload for the bytes `dt`. -/
def codedField (table : List Nat) (k n : Nat) (dt : List UInt8) : List UInt8 :=
  interleaveDibits table
    (convolutionEncode (payloadField n dt) (List.replicate (5 * k) 0) (8 * (n + 2) + 4))
    (List.replicate (5 * k) 0)

section
variable {table : List Nat} {k n : Nat}

theorem writeVDMode2Data_eq (payload dt : List UInt8) :
    writeVDMode2Data payload dt = spread 5 30 (codedField interleaveTable 5 10 dt) payload := rfl

theorem writeDataFRModeData_eq (shift : Nat) (payload dt : List UInt8) :
    writeDataFRModeData shift payload dt =
      spread 9 (30 + shift) (codedField interleaveTable920 9 20 dt) payload := rfl

@[simp] theorem codedField_length (table : List Nat) (k n : Nat) (dt : List UInt8) :
    (codedField table k n dt).length = 5 * k := by
  rw [codedField, interleaveDibits_length, List.length_replicate]

theorem crcStep_congr {a b : List UInt8} (m : Nat) (h : ∀ i < m, a.getD i 0 = b.getD i 0) :
    (List.range m).foldl (crcStep a) 0 = (List.range m).foldl (crcStep b) 0 := by
  apply List.foldl_ext
  intro crc i hi
  rw [crcStep, crcStep, h i (List.mem_range.1 hi)]

theorem checkCCITT162_congr {a b : List UInt8} (hm : 0 < m) (h : ∀ i < m, a.getD i 0 = b.getD i 0) :
    checkCCITT162 a m = checkCCITT162 b m := by
  rw [checkCCITT162, checkCCITT162, crcStep_congr (m - 2) fun i hi => h i (by omega),
    h (m - 1) (by omega), h (m - 2) (by omega)]

/-- A check sum that has been added is right. -/
theorem checkCCITT162_addCCITT162 (input : List UInt8) (hm : 2 ≤ m) (hl : m ≤ input.length) :
    checkCCITT162 (addCCITT162 input m) m = true := by
  have hcrc : (List.range (m - 2)).foldl (crcStep (addCCITT162 input m)) 0 =
      (List.range (m - 2)).foldl (crcStep input) 0 := by
    apply crcStep_congr
    intro i hi
    rw [addCCITT162, getD_set_ne _ _ _ (by omega), getD_set_ne _ _ _ (by omega)]
  have hne : m - 2 ≠ m - 1 := by omega
  rw [checkCCITT162, hcrc, addCCITT162, getD_set_ne _ _ _ hne, getD_set _ _ _ (by omega),
    if_pos rfl, getD_set _ _ _ (by rw [List.length_set]; omega), if_pos rfl, beq_self_eq_true,
    beq_self_eq_true]
  rfl

theorem whiten_twice {l : List UInt8} (h : l.length ≤ 20) : whiten (whiten l) = l :=
  zipWith_xor_self h

theorem whitened_length (hn : n ≤ 20) (dt : List UInt8) : (whiten (fixed n dt)).length = n := by
  rw [whiten, List.length_zipWith, fixed_length]
  exact Nat.min_eq_left hn

theorem payloadField_length (hn : n ≤ 20) (dt : List UInt8) :
    (payloadField n dt).length = n + 3 := by
  rw [payloadField, List.length_append, FichCodec.addCCITT162_length, List.length_append,
    whitened_length hn]
  rfl

/-- The whitened bytes stand at the front. -/
theorem payloadField_take (hn : n ≤ 20) (dt : List UInt8) :
    (payloadField n dt).take n = whiten (fixed n dt) := by
  have hl := whitened_length hn dt
  rw [payloadField, List.take_append_of_le_length, addCCITT162, List.take_set_of_le (by omega),
    List.take_set_of_le (by omega), List.take_left' hl]
  rw [FichCodec.addCCITT162_length, List.length_append, hl]
  exact Nat.le_add_right n 2

theorem payloadField_check (hn : n ≤ 20) (dt : List UInt8) :
    checkCCITT162 (payloadField n dt) (n + 2) = true := by
  have hl : (whiten (fixed n dt) ++ [0, 0]).length = n + 2 := by
    rw [List.length_append, whitened_length hn]
    rfl
  rw [← checkCCITT162_addCCITT162 (whiten (fixed n dt) ++ [0, 0]) (Nat.le_add_left 2 n) hl.ge]
  apply checkCCITT162_congr (Nat.succ_pos _)
  intro i hi
  rw [payloadField, List.getD_append _ _ _ _ (by rw [FichCodec.addCCITT162_length, hl]; exact hi)]

/-- The last byte flushes the convolutional code. -/
theorem payloadField_tail (hn : n ≤ 20) (dt : List UInt8) (i : Nat) (h : 8 * (n + 2) ≤ i)
    (hi : i < 8 * (n + 2) + 4) : readBit (payloadField n dt) i = false := by
  have hl : (addCCITT162 (whiten (fixed n dt) ++ [0, 0]) (n + 2)).length = n + 2 := by
    have h3 := payloadField_length hn dt
    rw [payloadField, List.length_append, List.length_singleton] at h3
    exact Nat.succ.inj h3
  have hq : i / 8 = n + 2 := by omega
  have h0 : (payloadField n dt).getD (n + 2) 0 = 0 := by
    rw [payloadField, List.getD_append_right _ _ _ _ hl.le, hl, Nat.sub_self]
    rfl
  rw [readBit, hq, h0, UInt8.zero_and]
  rfl

theorem FieldLayout.bits (h : FieldLayout table k n) : 2 * (8 * (n + 2) + 4) = 40 * k := by
  rw [← h.length, ← length_flatMap_pair, h.perm.length_eq, List.length_range]

/-- The bits that are wrong in a field are the errors that the decoder sees. -/
theorem FieldLayout.receiveErrors (h : FieldLayout table k n) (a b : List UInt8) :
    receiveErrors (fieldDibits table a) (fieldDibits table b) = wrongBits (40 * k) a b := by
  have hsum (l : List Nat) : AdnBridge.receiveErrors (fieldDibits l a) (fieldDibits l b) =
      ((l.flatMap fun i => [i, i + 1]).map fun i => (readBit a i ^^ readBit b i).toNat).sum := by
    induction l with
    | nil => rfl
    | cons i l ih =>
      rw [fieldDibits, fieldDibits, List.map_cons, List.map_cons, receiveErrors_cons,
        ← fieldDibits, ← fieldDibits, ih, List.flatMap_cons, List.map_append, List.sum_append]
      rfl
  rw [hsum, wrongBits]
  exact (h.perm.map _).sum_nat

theorem FieldLayout.wrongBits_flipBit (h : FieldLayout table k n) {bytes : List UInt8}
    (hi : i < 8 * bytes.length) : wrongBits (40 * k) (flipBit bytes i) bytes ≤ 1 := by
  rw [← h.receiveErrors, fieldDibits, fieldDibits, FichCodec.receiveErrors_map_flipBit hi]
  exact List.nodup_iff_count.1 (h.perm.nodup_iff.2 List.nodup_range) i

/-- The dibits of a coded field are those of the convolutional code. -/
theorem FieldLayout.fieldDibits_codedField (h : FieldLayout table k n) (dt : List UInt8) :
    fieldDibits table (codedField table k n dt) =
      (convolved (readBits (payloadField n dt)
        (List.range (8 * (n + 2) + 4))).reverse).reverse := by
  have hbits := h.bits
  have hlt : ∀ i ∈ table.flatMap fun i => [i, i + 1],
      i < 8 * (List.replicate (5 * k) (0 : UInt8)).length := by
    intro i hi
    have hr := List.mem_range.1 (h.perm.mem_iff.1 hi)
    rw [List.length_replicate]
    omega
  have hnodup : (table.flatMap fun i => [i, i + 1]).Nodup := h.perm.nodup_iff.2 List.nodup_range
  have hread : dibitBits (fieldDibits table (codedField table k n dt)) =
      readBits (codedField table k n dt) (table.flatMap fun i => [i, i + 1]) := by
    rw [dibitBits, fieldDibits, readBits, List.map_flatMap, List.flatMap_map]
    rfl
  apply dibitBits_injective
  rw [hread, codedField, interleaveDibits, FichCodec.interleave_foldl, h.length, Nat.mul_zero,
    ← List.range_eq_range', FichCodec.readBits_convolutionEncode _ (by omega),
    readBits_writeBits hnodup hlt]
  rw [dibitBits_length, List.length_reverse, convolved_length, List.length_reverse, readBits_length,
    List.length_range, hbits, h.perm.length_eq, List.length_range]

/-- A field with one wrong bit at most is read back. -/
theorem FieldLayout.readField_of_wrongBits (h : FieldLayout table k n) {dt payload : List UInt8}
    (he : wrongBits (40 * k) (gather k off payload) (codedField table k n dt) ≤ 1) :
    readField table k n off payload = some (fixed n dt) := by
  rw [← h.receiveErrors, h.fieldDibits_codedField] at he
  have hfits := h.fits
  have hl : (fieldDibits table (gather k off payload)).length = 8 * (n + 2) + 4 :=
    (List.length_map _).trans h.length
  have hout : 8 * (n + 2) ≤ 8 * (List.replicate (n + 3) (0 : UInt8)).length := by
    rw [List.length_replicate]
    omega
  have hbit (i : Nat) (hi : i < 8 * (n + 2)) := FichCodec.readBit_chainback
    (payloadField_tail hfits dt) FichCodec.init hl (by omega) hout he hi
  rw [readField]
  generalize hc : convolutionChainback _ _ _ = output at hbit ⊢
  have hlen : output.length = n + 3 := by
    rw [← hc, FichCodec.convolutionChainback_eq _ hl (by omega), writeBits_length,
      List.length_replicate]
  have hbyte (j : Nat) (hj : j < n + 2) : output.getD j 0 = (payloadField n dt).getD j 0 :=
    getD_of_readBit fun i hi => hbit _ (by omega)
  have htake : output.take n = (payloadField n dt).take n := by
    apply List.ext_getElem
    · rw [List.length_take, List.length_take, hlen, payloadField_length hfits]
    · intro j h1 h2
      have hj : j < n := (List.length_take ▸ h1 : j < min n _).trans_le (Nat.min_le_left _ _)
      have hb := hbyte j (by omega)
      rw [List.getD_eq_getElem _ _ (by omega),
        List.getD_eq_getElem _ _ (by rw [payloadField_length hfits]; omega)] at hb
      rw [List.getElem_take, List.getElem_take, hb]
  rw [checkCCITT162_congr (Nat.succ_pos _) hbyte, payloadField_check hfits dt, if_pos rfl, htake,
    payloadField_take hfits, whiten_twice]
  rw [fixed_length]
  exact hfits

end

end AdnBridge
