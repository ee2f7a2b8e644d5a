import AdnBridge.Mmdvm.Ambe
import AdnBridge.Ysf.FichCode

namespace AdnBridge
set_option autoImplicit true

def interleaveTable920 : List Nat := [
  0, 40, 80, 120, 160, 200, 240, 280, 320, 2, 42, 82, 122, 162, 202, 242, 282, 322,
  4, 44, 84, 124, 164, 204, 244, 284, 324, 6, 46, 86, 126, 166, 206, 246, 286, 326,
  8, 48, 88, 128, 168, 208, 248, 288, 328, 10, 50, 90, 130, 170, 210, 250, 290, 330,
  12, 52, 92, 132, 172, 212, 252, 292, 332, 14, 54, 94, 134, 174, 214, 254, 294, 334,
  16, 56, 96, 136, 176, 216, 256, 296, 336, 18, 58, 98, 138, 178, 218, 258, 298, 338,
  20, 60, 100, 140, 180, 220, 260, 300, 340, 22, 62, 102, 142, 182, 222, 262, 302, 342,
  24, 64, 104, 144, 184, 224, 264, 304, 344, 26, 66, 106, 146, 186, 226, 266, 306, 346,
  28, 68, 108, 148, 188, 228, 268, 308, 348, 30, 70, 110, 150, 190, 230, 270, 310, 350,
  32, 72, 112, 152, 192, 232, 272, 312, 352, 34, 74, 114, 154, 194, 234, 274, 314, 354,
  36, 76, 116, 156, 196, 236, 276, 316, 356, 38, 78, 118, 158, 198, 238, 278, 318, 358]

/-- `writeDibits`, for the table of either field. -/
def interleaveDibits (table : List Nat) (convolved bytes : List UInt8) : List UInt8 :=
  table.zipIdx.foldl (fun bytes x =>
    writeBit (writeBit bytes x.1 (readBit convolved (2 * x.2))) (x.1 + 1)
      (readBit convolved (2 * x.2 + 1))) bytes

/-- The first `n` bytes of `dt` whitened, their check sum, and the zero byte that flushes the
convolutional code. -/
def payloadField (n : Nat) (dt : List UInt8) : List UInt8 :=
  addCCITT162 (whiten (fixed n dt) ++ [0, 0]) (n + 2) ++ [0]

/-- A coded field, `k` bytes at a time, over the payload from `off` on: a copy every 18 bytes. -/
def spread (k off : Nat) (bytes payload : List UInt8) : List UInt8 :=
  (List.range 5).foldl (fun p i => blit p (off + 18 * i) ((bytes.drop (k * i)).take k)) payload

/-- `ysf_payload_write_vd_mode2_dch`. -/
def writeVDMode2Data (payload dt : List UInt8) : List UInt8 :=
  let convolved := convolutionEncode (payloadField 10 dt) (List.replicate 25 0) 100
  spread 5 30 (interleaveDibits interleaveTable convolved (List.replicate 25 0)) payload

/-- `writeDataFRModeData1` and `writeDataFRModeData2`, which starts 9 bytes later. -/
def writeDataFRModeData (shift : Nat) (payload dt : List UInt8) : List UInt8 :=
  let convolved := convolutionEncode (payloadField 20 dt) (List.replicate 45 0) 180
  spread 9 (30 + shift) (interleaveDibits interleaveTable920 convolved (List.replicate 45 0)) payload

/-- `ysf_payload_write_header`. -/
def writeHeader (payload csd1 csd2 : List UInt8) : List UInt8 :=
  writeDataFRModeData 9 (writeDataFRModeData 0 payload csd1) csd2

namespace Ysfd

/-- The 35 bytes before the sync. -/
def head (f : Ysfd) : List UInt8 :=
  ysfdMagic ++ fixed 10 f.gateway ++ fixed 10 f.src ++ ysfWireDstAll ++ [f.netCnt]

/-- The 120 bytes behind the head, with the FICH that the globals of `ysf_fich.c` give. -/
def body (c : FichCodec) (f : Ysfd) : List UInt8 :=
  let fich (p : List UInt8) : List UInt8 :=
    blit p 5 (c.ysfFichEncodeOutbound ((p.drop 5).take 25) f.fn f.fi f.ft f.cm).2
  if f.fi = ysfFiHeader ∨ f.fi = ysfFiTerminator then
    let p := fich (blit (List.replicate 120 0) 0 ysfSyncBytes)
    match f.csd with
    | some (csd1, csd2) => writeHeader p csd1 csd2
    | none => p
  else
    let (payload120, dch) := f.payload.getD ([], [])
    fich (writeVDMode2Data (blit (fixed 120 payload120) 0 ysfSyncBytes) dch)

/-- The frame that the two `send_ysfd` make. -/
def bytes (c : FichCodec) (f : Ysfd) : List UInt8 := f.head ++ f.body c

end Ysfd

section
variable {payload : List UInt8}

@[simp] theorem interleaveDibits_length (table : List Nat) (convolved bytes : List UInt8) :
    (interleaveDibits table convolved bytes).length = bytes.length := by
  rw [interleaveDibits]
  induction table.zipIdx generalizing bytes with
  | nil => rfl
  | cons x l ih => rw [List.foldl_cons, ih, writeBit_length, writeBit_length]

/-- The pieces of `k` bytes go to places that do not overlap, and nothing else changes. -/
theorem spread_spec {bytes : List UInt8} (hb : bytes.length = 5 * k)
    (h : off + 72 + k ≤ payload.length) : (spread k off bytes payload).length = payload.length ∧
      ∀ i, (∀ j < 5, i < off + 18 * j ∨ off + 18 * j + k ≤ i) →
        (spread k off bytes payload).getD i 0 = payload.getD i 0 := by
  have hpiece (j : Nat) (hj : j < 5) : ((bytes.drop (k * j)).take k).length = k := by
    have hle : k * j + k ≤ 5 * k := by
      rw [← Nat.mul_succ, Nat.mul_comm]
      exact Nat.mul_le_mul_right k hj
    rw [List.length_take, List.length_drop, hb]
    omega
  have hfold : ∀ l : List Nat, (∀ j ∈ l, j < 5) → ∀ p : List UInt8, p.length = payload.length →
      (l.foldl (fun p j => blit p (off + 18 * j) ((bytes.drop (k * j)).take k)) p).length =
          payload.length ∧
        ∀ i, (∀ j < 5, i < off + 18 * j ∨ off + 18 * j + k ≤ i) →
          (l.foldl (fun p j => blit p (off + 18 * j) ((bytes.drop (k * j)).take k)) p).getD i 0 =
            p.getD i 0 := by
    intro l
    induction l with
    | nil =>
      intro _ p hp
      exact ⟨hp, fun _ _ => rfl⟩
    | cons j l ih =>
      intro hl p hp
      obtain ⟨hj, hl⟩ := List.forall_mem_cons.1 hl
      have hfit : off + 18 * j + ((bytes.drop (k * j)).take k).length ≤ p.length := by
        rw [hpiece j hj, hp]
        omega
      obtain ⟨h1, h2⟩ := ih hl _ ((blit_length hfit).trans hp)
      refine ⟨h1, fun i hi => (h2 i hi).trans ?_⟩
      rw [blit_getD hfit, hpiece j hj, if_neg]
      have hij := hi j hj
      omega
  exact hfold (List.range 5) (fun j hj => List.mem_range.1 hj) payload rfl

/-- The DCH slots stand before the voice channels. -/
theorem writeVDMode2Data_spec (h : payload.length = 120) (dt : List UInt8) :
    (writeVDMode2Data payload dt).length = 120 ∧
      ∀ i, (∀ j < 5, i < 30 + 18 * j ∨ 35 + 18 * j ≤ i) →
        (writeVDMode2Data payload dt).getD i 0 = payload.getD i 0 := by
  rw [writeVDMode2Data]
  obtain ⟨h1, h2⟩ := @spread_spec payload 5 30 _
    ((interleaveDibits_length interleaveTable
      (convolutionEncode (payloadField 10 dt) (List.replicate 25 0) 100)
      (List.replicate 25 0)).trans List.length_replicate) (h.symm ▸ (by decide : 30 + 72 + 5 ≤ 120))
  exact ⟨h1.trans h, fun i hi => h2 i fun j hj => (hi j hj).imp_right (by omega)⟩

theorem writeDataFRModeData_spec (h : payload.length = 120) (hs : shift ≤ 9) (dt : List UInt8) :
    (writeDataFRModeData shift payload dt).length = 120 ∧
      ∀ i < 30, (writeDataFRModeData shift payload dt).getD i 0 = payload.getD i 0 := by
  rw [writeDataFRModeData]
  obtain ⟨h1, h2⟩ := @spread_spec payload 9 (30 + shift) _
    ((interleaveDibits_length interleaveTable920
      (convolutionEncode (payloadField 20 dt) (List.replicate 45 0) 180)
      (List.replicate 45 0)).trans List.length_replicate) (by rw [h]; omega : 30 + shift + 72 + 9 ≤ payload.length)
  exact ⟨h1.trans h, fun i hi => h2 i fun j hj => .inl (by omega)⟩

theorem writeHeader_spec (h : payload.length = 120) (csd1 csd2 : List UInt8) :
    (writeHeader payload csd1 csd2).length = 120 ∧
      ∀ i < 30, (writeHeader payload csd1 csd2).getD i 0 = payload.getD i 0 := by
  obtain ⟨hl, hg⟩ := writeDataFRModeData_spec h (Nat.zero_le 9) csd1
  obtain ⟨hl', hg'⟩ := writeDataFRModeData_spec hl (Nat.le_refl 9) csd2
  exact ⟨hl', fun i hi => (hg' i hi).trans (hg i hi)⟩

theorem ysfFichEncodeOutbound_length (c : FichCodec) (fnSerial fi ft cm : UInt8)
    {field : List UInt8} (h : field.length = 25) :
    (c.ysfFichEncodeOutbound field fnSerial fi ft cm).2.length = 25 := by
  rw [FichCodec.ysfFichEncodeOutbound, FichCodec.fichEncode, FichCodec.writeDibits_eq, writeBits_length, h]

end

namespace Ysfd

/-- The FICH laid over a payload. -/
theorem blit_fich {p field : List UInt8} (hp : p.length = 120) (hf : field.length = 25) :
    (blit p 5 field).length = 120 ∧ (∀ i < 5, (blit p 5 field).getD i 0 = p.getD i 0) ∧
      (∀ i < 25, (blit p 5 field).getD (5 + i) 0 = field.getD i 0) ∧
      ∀ i, 30 ≤ i → (blit p 5 field).getD i 0 = p.getD i 0 := by
  have hfit : 5 + field.length ≤ p.length := by
    rw [hp, hf]
    decide
  refine ⟨(blit_length hfit).trans hp, fun i hi => ?_, fun i hi => ?_, fun i hi => ?_⟩
  · rw [blit_getD hfit, if_neg (by omega)]
  · rw [blit_getD hfit, if_pos (by omega), Nat.add_sub_cancel_left]
  · rw [blit_getD hfit, if_neg (by omega)]

theorem blit_sync {p : List UInt8} (hp : p.length = 120) :
    (blit p 0 ysfSyncBytes).length = 120 ∧
      (∀ i < 5, (blit p 0 ysfSyncBytes).getD i 0 = ysfSyncBytes.getD i 0) ∧
      ∀ i, 5 ≤ i → (blit p 0 ysfSyncBytes).getD i 0 = p.getD i 0 := by
  have hfit : 0 + ysfSyncBytes.length ≤ p.length := hp.symm ▸ (by decide : 0 + 5 ≤ 120)
  have hlen : ysfSyncBytes.length = 5 := rfl
  refine ⟨(blit_length hfit).trans hp, fun i hi => ?_, fun i hi => ?_⟩
  · rw [blit_getD hfit, if_pos (by omega), Nat.sub_zero]
  · rw [blit_getD hfit, if_neg (by omega)]

/-- Sync and FICH stand at the front of the body, and a voice frame keeps its channels. -/
theorem body_spec (c : FichCodec) (f : Ysfd) :
    (f.body c).length = 120 ∧ (∀ i < 5, (f.body c).getD i 0 = ysfSyncBytes.getD i 0) ∧
      (∃ field : List UInt8, field.length = 25 ∧ ∀ i < 25, (f.body c).getD (5 + i) 0 =
        (c.ysfFichEncodeOutbound field f.fn f.fi f.ft f.cm).2.getD i 0) ∧
      (f.fi ≠ ysfFiHeader → f.fi ≠ ysfFiTerminator → ∀ payload120 dch,
        f.payload = some (payload120, dch) → ∀ j < 5, ∀ k < 13,
          (f.body c).getD (35 + 18 * j + k) 0 = (fixed 120 payload120).getD (35 + 18 * j + k) 0) := by
  have hfield {p : List UInt8} (hp : p.length = 120) : ((p.drop 5).take 25).length = 25 := by
    rw [List.length_take, List.length_drop, hp]
    rfl
  rw [body]
  by_cases hfi : f.fi = ysfFiHeader ∨ f.fi = ysfFiTerminator
  · have hvoid {P : Prop} (h1 : f.fi ≠ ysfFiHeader) (h2 : f.fi ≠ ysfFiTerminator) : P :=
      absurd hfi (not_or.2 ⟨h1, h2⟩)
    obtain ⟨hl, hsync, -⟩ := blit_sync (p := List.replicate 120 0) List.length_replicate
    simp only [if_pos hfi]
    generalize blit (List.replicate 120 0) 0 ysfSyncBytes = p at hl hsync ⊢
    obtain ⟨hl', h1, h2, -⟩ := blit_fich hl
      (ysfFichEncodeOutbound_length c f.fn f.fi f.ft f.cm (hfield hl))
    cases f.csd with
    | none =>
      exact ⟨hl', fun i hi => (h1 i hi).trans (hsync i hi), ⟨_, hfield hl, h2⟩,
        fun hh ht => hvoid hh ht⟩
    | some csd =>
      obtain ⟨hw, hg⟩ := writeHeader_spec hl' csd.1 csd.2
      refine ⟨hw, fun i hi => ?_, ⟨_, hfield hl, fun i hi => ?_⟩, fun hh ht => hvoid hh ht⟩
      · exact (hg i (by omega)).trans ((h1 i hi).trans (hsync i hi))
      · exact (hg _ (by omega)).trans (h2 i hi)
  · rw [if_neg hfi]
    generalize hpay : f.payload.getD ([], []) = pd
    obtain ⟨hl, hsync, hkeep⟩ := blit_sync (fixed_length 120 pd.1)
    obtain ⟨hw, hg⟩ := writeVDMode2Data_spec hl pd.2
    obtain ⟨hl', h1, h2, h3⟩ := blit_fich hw
      (ysfFichEncodeOutbound_length c f.fn f.fi f.ft f.cm (hfield hw))
    refine ⟨hl', fun i hi => ?_, ⟨_, hfield hw, h2⟩, fun _ _ payload120 dch hp j hj k hk => ?_⟩
    · exact (h1 i hi).trans ((hg i fun j hj => .inl (by omega)).trans (hsync i hi))
    · rw [hp, Option.getD_some] at hpay
      obtain rfl := hpay
      refine (h3 _ (by omega)).trans ((hg _ fun j' hj' => ?_).trans (hkeep _ (by omega)))
      omega

@[simp] theorem head_length (f : Ysfd) : f.head.length = 35 := by
  simp only [head, List.length_append, fixed_length, List.length_cons, List.length_nil]
  rfl

theorem bytes_length (c : FichCodec) (f : Ysfd) : (f.bytes c).length = 155 := by
  rw [bytes, List.length_append, head_length, (f.body_spec c).1]

theorem ysfdIsPacket_bytes (c : FichCodec) (f : Ysfd) : ysfdIsPacket (f.bytes c) = true := by
  rw [ysfdIsPacket, bytes_length, bytes, head]
  rfl

theorem drop_bytes (c : FichCodec) (f : Ysfd) : (f.bytes c).drop ysfFichOffsetNet = f.body c :=
  List.drop_left' f.head_length

theorem take_body (c : FichCodec) (f : Ysfd) : (f.body c).take 5 = ysfSyncBytes := by
  obtain ⟨hl, hsync, -⟩ := f.body_spec c
  apply List.ext_getElem
  · rw [List.length_take, hl]
    rfl
  · intro i h1 h2
    rw [List.getElem_take, ← List.getD_eq_getElem _ 0, hsync i h2, List.getD_eq_getElem _ _ h2]

/-- What the receiving bridge repacks is the body itself. -/
theorem ysfModeconvChunk_bytes (c : FichCodec) (f : Ysfd) :
    ysfModeconvChunk (f.bytes c) = f.body c := by
  have hsync : ysfPktHasRfSync (f.bytes c) = true := by
    rw [ysfPktHasRfSync, drop_bytes, take_body]
    rfl
  rw [ysfModeconvChunk, if_pos hsync, drop_bytes]
  exact List.take_of_length_le (f.body_spec c).1.le

end Ysfd

theorem outboundFich_fi (fnSerial fi ft cm : UInt8) :
    (outboundFich fnSerial fi ft cm).getD 0 0 >>> 6 &&& 0x03 = fi &&& 0x03 ∧
      (outboundFich fnSerial fi ft cm).getD 3 0 = 0 := by
  constructor
  · have h0 : (outboundFich fnSerial fi ft cm).getD 0 0 =
        ((fichSetCs 2 (fichSetFi fi (List.replicate 6 0))).getD 0 0 &&& (0xF3 : UInt8) |||
          cm <<< 2 &&& (0x0C : UInt8)) := rfl
    have hcm : (cm <<< 2 &&& (0x0C : UInt8)) >>> 6 = 0 := by
      rw [UInt8.shiftRight_and]
      exact UInt8.and_zero
    rw [h0, UInt8.shiftRight_or, hcm, UInt8.or_zero]
    clear h0 hcm
    revert fi
    exact forall_byte (by decide +kernel)
  · show (((0 : UInt8) &&& 0x7F ||| 0) &&& 0x80 ||| (0 : UInt8) &&& 0x7F) = 0
    decide

namespace FichCodec

theorem ysfFichDecodeAt_fi (c : FichCodec) (frame : List UInt8) (off : Nat) :
    (c.ysfFichDecodeAt frame off).2.fi =
      (c.fichDecode (frame.drop off)).fich.getD 0 0 >>> 6 &&& 0x03 := rfl

theorem ysfFichDecodeAt_dgid (c : FichCodec) (frame : List UInt8) (off : Nat) :
    (c.ysfFichDecodeAt frame off).2.dgid = (c.fichDecode (frame.drop off)).fich.getD 3 0 := rfl

/-- The decoder looks at the 25 bytes of the field only. -/
theorem fichDecode_take (c : FichCodec) (bytes : List UInt8) :
    c.fichDecode (bytes.take 25) = c.fichDecode bytes := by
  have hread (i : Nat) (hi : i < 200) : readBit (bytes.take 25) i = readBit bytes i := by
    have hlt : i / 8 < 25 := by omega
    rw [readBit, readBit, List.getD_eq_getElem?_getD, List.getElem?_take_of_lt hlt,
      List.getD_eq_getElem?_getD]
  have hdibits : FichCodec.dibits (bytes.take 25) = FichCodec.dibits bytes := by
    apply List.map_congr_left
    intro n hn
    have hn' : n + 1 < 200 := fichPlaces_lt (n + 1)
      (List.mem_flatMap.2 ⟨n, hn, List.mem_cons_of_mem _ (List.mem_singleton_self _)⟩)
    rw [hread n (by omega), hread (n + 1) hn']
  simp only [fichDecode, hdibits]

/-- Behind the sync the frame has the field that `ysf_fich_encode_outbound` makes. -/
theorem field_bytes (sender : FichCodec) (f : Ysfd) : ∃ field : List UInt8, field.length = 25 ∧
    ((f.bytes sender).drop ysfFichOffsetRx).take 25 =
      (sender.ysfFichEncodeOutbound field f.fn f.fi f.ft f.cm).2 := by
  obtain ⟨hl, -, ⟨field, hfield, hfich⟩, -⟩ := f.body_spec sender
  have hrx : (f.bytes sender).drop ysfFichOffsetRx = (f.body sender).drop 5 := by
    rw [← f.drop_bytes sender, List.drop_drop]
    rfl
  have hlen := ysfFichEncodeOutbound_length sender f.fn f.fi f.ft f.cm hfield
  refine ⟨field, hfield, ?_⟩
  rw [hrx]
  apply List.ext_getElem
  · rw [List.length_take, List.length_drop, hl, hlen]
    rfl
  · intro i h1 h2
    have hi : i < 25 := hlen ▸ h2
    rw [List.getElem_take, List.getElem_drop, ← List.getD_eq_getElem _ 0, hfich i hi,
      List.getD_eq_getElem _ _ h2]

theorem ysfFichGuessRxOffset_bytes (sender : FichCodec) (f : Ysfd) :
    ysfFichGuessRxOffset (f.bytes sender) = ysfFichOffsetRx := by
  have hnet : (f.bytes sender).drop 35 = f.body sender := f.drop_bytes sender
  rw [ysfFichGuessRxOffset, hnet, f.take_body, if_pos rfl]

theorem fichDecode_bytes (c sender : FichCodec) (f : Ysfd) :
    (c.fichDecode ((f.bytes sender).drop ysfFichOffsetRx)).fich =
      addCCITT162 (outboundFich f.fn f.fi f.ft f.cm) 6 := by
  obtain ⟨field, hfield, hfich⟩ := field_bytes sender f
  rw [← fichDecode_take, hfich, ysfFichEncodeOutbound]
  exact fichDecode_field _ c hfield

theorem addCCITT162_getD (fich : List UInt8) (hi : i < 4) :
    (addCCITT162 fich 6).getD i 0 = fich.getD i 0 := by
  rw [addCCITT162, getD_set_ne _ _ _ (by omega), getD_set_ne _ _ _ (by omega)]

/-- What the bridges read back from a frame that one of them sends. -/
theorem reportedFich_bytes (c sender : FichCodec) (f : Ysfd) :
    ∃ r, c.reportedFich (f.bytes sender) = some r ∧ r.fi = f.fi &&& 0x03 ∧ r.dgid = 0 := by
  obtain ⟨hfi, hdgid⟩ := outboundFich_fi f.fn f.fi f.ft f.cm
  have hat : (c.ysfFichDecodeAt (f.bytes sender) ysfFichOffsetRx).2.fi = f.fi &&& 0x03 ∧
      (c.ysfFichDecodeAt (f.bytes sender) ysfFichOffsetRx).2.dgid = 0 := by
    rw [ysfFichDecodeAt_fi, ysfFichDecodeAt_dgid, fichDecode_bytes, addCCITT162_getD _ (by decide),
      addCCITT162_getD _ (by decide)]
    exact ⟨hfi, hdgid⟩
  have hle : (c.ysfFichDecodeAt (f.bytes sender) ysfFichOffsetRx).2.fi ≤ 3 := UInt8.and_le_right
  rw [reportedFich, ysfFichDecodeFields, ysfFichGuessRxOffset_bytes]
  simp only [if_pos hle]
  exact ⟨_, rfl, hat⟩

end FichCodec

end AdnBridge
