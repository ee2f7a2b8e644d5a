import AdnBridge.Ysf.Payload

namespace AdnBridge
set_option autoImplicit true

def fichSetDgid (dgid : UInt8) (fich : List UInt8) : List UInt8 :=
  if dgid ≥ 1 then fich.set 3 dgid else fich.set 3 0

/-- The header with the DG-ID, before it is coded again. -/
def stampedFich (dgid : UInt8) (fich : List UInt8) : List UInt8 :=
  fichSetDgid dgid <| fichSetDt ysfDtVdMode2 <| fichSetVoip false fich

theorem stampedFich_length (dgid : UInt8) (fich : List UInt8) :
    (stampedFich dgid fich).length = fich.length := by
  have h (fich : List UInt8) : (fichSetDgid dgid fich).length = fich.length := by
    rw [fichSetDgid]
    split <;> exact List.length_set
  exact (h _).trans (List.length_set.trans List.length_set)

namespace FichCodec

def ysfFichRewriteDgid (c : FichCodec) (frame155 : List UInt8) (dgid : UInt8) :
    FichCodec × List UInt8 :=
  if dgid < 1 then (c, frame155)
  else
    let c := c.fichDecode (frame155.drop ysfFichOffsetRx)
    let c := { c with
      fich := stampedFich dgid c.fich
      fich_length := (stampedFich_length dgid c.fich).trans c.fich_length }
    let r := c.fichEncode ((frame155.drop ysfFichOffsetRx).take 25)
    (r.1, blit frame155 ysfFichOffsetRx r.2)

/-- `peer_ysf_send_ysfd`, for a peer with the given DG-ID: the globals and the frame afterwards,
the first `len` bytes of which are sent. -/
def peerYsfSendYsfd (c : FichCodec) (dgid : UInt8) (frame155 : List UInt8) (len : Nat) :
    FichCodec × List UInt8 :=
  if len = 155 then c.ysfFichRewriteDgid frame155 dgid else (c, frame155)

end FichCodec

/-- The fields in the six bytes of a header. -/
def fichFields (fich : List UInt8) : Fich where
  fi := fich.getD 0 0 >>> 6 &&& 0x03
  fn := fich.getD 1 0 >>> 3 &&& 0x07
  ft := fich.getD 1 0 &&& 0x07
  cm := fich.getD 0 0 >>> 2 &&& 0x03
  dt := fich.getD 2 0 &&& 0x03
  dgid := fich.getD 3 0

theorem byte_or_and (x y m : UInt8) : (x ||| y) &&& m = x &&& m ||| y &&& m := by
  rw [← UInt8.toNat_inj]
  simp only [UInt8.toNat_and, UInt8.toNat_or, Nat.and_or_distrib_right]

/-- What a bit field reads of a byte whose field has just been set. -/
theorem field_set (x y s m : UInt8) (hx : x >>> s &&& m = 0) :
    (x ||| y) >>> s &&& m = y >>> s &&& m := by
  rw [UInt8.shiftRight_or, byte_or_and, hx, UInt8.zero_or]

theorem field_keep (x y s m : UInt8) (hy : y >>> s &&& m = 0) :
    (x ||| y) >>> s &&& m = x >>> s &&& m := by
  rw [UInt8.shiftRight_or, byte_or_and, hy, UInt8.or_zero]

theorem fichFields_outboundFich (fnSerial fi ft cm : UInt8) :
    fichFields (outboundFich fnSerial fi ft cm) =
      ⟨fi &&& 0x03, fnSerial &&& 0x07, ft &&& 0x07, cm &&& 0x03, ysfDtVdMode2, 0⟩ := by
  obtain ⟨hfi, hdgid⟩ := outboundFich_fi fnSerial fi ft cm
  have h0 : (outboundFich fnSerial fi ft cm).getD 0 0 =
      ((fichSetCs 2 (fichSetFi fi (List.replicate 6 0))).getD 0 0 &&& (0xF3 : UInt8) |||
        cm <<< 2 &&& (0x0C : UInt8)) := rfl
  have h1 : (outboundFich fnSerial fi ft cm).getD 1 0 =
      (((0 : UInt8) &&& (0xC7 : UInt8) ||| fnSerial <<< 3 &&& (0x38 : UInt8)) &&& (0xF8 : UInt8) |||
        ft &&& (0x07 : UInt8)) := rfl
  have hfn : (outboundFich fnSerial fi ft cm).getD 1 0 >>> 3 &&& (0x07 : UInt8) =
      fnSerial &&& 0x07 := by
    have hset : ∀ x : UInt8, (((0 : UInt8) &&& (0xC7 : UInt8) ||| x <<< 3 &&& (0x38 : UInt8)) &&&
        (0xF8 : UInt8)) >>> 3 &&& (0x07 : UInt8) = x &&& 0x07 := forall_byte (by decide +kernel)
    have hkeep : ∀ x : UInt8, (x &&& 0x07) >>> 3 &&& (0x07 : UInt8) = 0 :=
      forall_byte (by decide +kernel)
    rw [h1, field_keep _ _ _ _ (hkeep ft), hset]
  have hft : (outboundFich fnSerial fi ft cm).getD 1 0 &&& (0x07 : UInt8) = ft &&& 0x07 := by
    rw [h1, byte_or_and, UInt8.and_assoc, UInt8.and_assoc]
    exact (congrArg (· ||| ft &&& 0x07) UInt8.and_zero).trans UInt8.zero_or
  have hcm : (outboundFich fnSerial fi ft cm).getD 0 0 >>> 2 &&& (0x03 : UInt8) =
      cm &&& 0x03 := by
    have hset : ∀ x : UInt8, (x <<< 2 &&& (0x0C : UInt8)) >>> 2 &&& (0x03 : UInt8) = x &&& 0x03 :=
      forall_byte (by decide +kernel)
    have hkeep : ∀ x : UInt8, (x &&& 0xF3) >>> 2 &&& (0x03 : UInt8) = 0 :=
      forall_byte (by decide +kernel)
    rw [h0, field_set _ _ _ _ (hkeep _), hset]
  have hdt : (outboundFich fnSerial fi ft cm).getD 2 0 &&& (0x03 : UInt8) = ysfDtVdMode2 := by
    show (((((0 : UInt8) &&& 0xC7 ||| 0) &&& 0xFC ||| 2 &&& 0x03) &&& 0xFB ||| 0)) &&& 0x03 = 2
    decide
  rw [fichFields, hfi, hfn, hft, hcm, hdt, hdgid]

/-- The check sum stands behind the fields. -/
theorem fichFields_addCCITT162 (fich : List UInt8) :
    fichFields (addCCITT162 fich 6) = fichFields fich := by
  rw [fichFields, FichCodec.addCCITT162_getD _ (by decide), FichCodec.addCCITT162_getD _ (by decide),
    FichCodec.addCCITT162_getD _ (by decide), FichCodec.addCCITT162_getD _ (by decide)]
  rfl

theorem fichFields_stampedFich {fich : List UInt8} (h : fich.length = 6) (hd : 1 ≤ dgid) :
    fichFields (stampedFich dgid fich) =
      { fichFields fich with dt := ysfDtVdMode2, dgid := dgid } := by
  obtain ⟨f0, fich, rfl⟩ := List.exists_cons_of_length_eq_add_one h
  obtain ⟨f1, fich, rfl⟩ := List.exists_cons_of_length_eq_add_one (Nat.succ.inj h)
  obtain ⟨f2, fich, rfl⟩ := List.exists_cons_of_length_eq_add_one (Nat.succ.inj (Nat.succ.inj h))
  obtain ⟨f3, f4, f5, rfl⟩ := List.length_eq_three.1 (Nat.succ.inj (Nat.succ.inj (Nat.succ.inj h)))
  have hdt : ∀ x : UInt8, ((x &&& 0xFB ||| 0) &&& 0xFC ||| ysfDtVdMode2 &&& 0x03) &&& 0x03 =
      ysfDtVdMode2 := forall_byte (by decide +kernel)
  rw [stampedFich, fichSetDgid, if_pos hd]
  exact congrArg (fun dt => (⟨f0 >>> 6 &&& 0x03, f1 >>> 3 &&& 0x07, f1 &&& 0x07, f0 >>> 2 &&& 0x03,
    dt, dgid⟩ : Fich)) (hdt f2)

/-- `stamped` is `frame` with the DG-ID `dgid`: nothing else that is decoded differs, and no byte
outside the field. -/
structure StampOf (dgid : UInt8) (frame stamped : List UInt8) : Prop where
  length : stamped.length = frame.length
  outside : ∀ i, i < 40 ∨ 65 ≤ i → stamped.getD i 0 = frame.getD i 0
  fields : ∀ c : FichCodec, (c.ysfFichDecodeFields stamped).2 =
    (0, { (c.ysfFichDecodeFields frame).2.2 with dt := ysfDtVdMode2, dgid := dgid })
  getDgid : ∀ c : FichCodec, (c.ysfFichDecodeFields stamped).1.ysfFichGetDgid = dgid

namespace FichCodec

/-- The first offset is never given up. -/
theorem ysfFichDecodeFields_at (c : FichCodec) (frame : List UInt8) :
    let fich := (c.fichDecode (frame.drop (ysfFichGuessRxOffset frame))).fich
    (c.ysfFichDecodeFields frame).1.fich = fich ∧
      (c.ysfFichDecodeFields frame).2 = (0, fichFields fich) := by
  have hfi : (c.ysfFichDecodeAt frame (ysfFichGuessRxOffset frame)).2.fi ≤ 3 := UInt8.and_le_right
  simp only [ysfFichDecodeFields]
  rw [if_pos hfi]
  exact ⟨rfl, rfl⟩

section
variable {frame : List UInt8} {dgid : UInt8}

/-- The offset depends on the bytes before the field. -/
theorem ysfFichGuessRxOffset_congr {frame' : List UInt8} (hl : frame'.length = frame.length)
    (h : ∀ i < 40, frame'.getD i 0 = frame.getD i 0) :
    ysfFichGuessRxOffset frame' = ysfFichGuessRxOffset frame := by
  have hsync : (frame'.drop 35).take 5 = (frame.drop 35).take 5 := by
    apply List.ext_getElem
    · rw [List.length_take, List.length_drop, hl, List.length_take, List.length_drop]
    · intro i h1 h2
      rw [List.length_take, List.length_drop] at h1 h2
      have hi := h (35 + i) (by omega)
      rw [List.getD_eq_getElem _ _ (by omega), List.getD_eq_getElem _ _ (by omega)] at hi
      rw [List.getElem_take, List.getElem_drop, List.getElem_take, List.getElem_drop, hi]
  rw [ysfFichGuessRxOffset, ysfFichGuessRxOffset, hsync]

/-- Decode, modify and encode again: the field is that of the modified header, whatever the
decoder held before. -/
theorem ysfFichRewriteDgid_spec (c : FichCodec) (hd : 1 ≤ dgid) (hl : 65 ≤ frame.length) :
    let fich := stampedFich dgid (c.fichDecode (frame.drop ysfFichOffsetRx)).fich
    (c.ysfFichRewriteDgid frame dgid).1.fich = addCCITT162 fich 6 ∧
      (c.ysfFichRewriteDgid frame dgid).2.length = frame.length ∧
      (∀ i, i < 40 ∨ 65 ≤ i →
        (c.ysfFichRewriteDgid frame dgid).2.getD i 0 = frame.getD i 0) ∧
      ∀ r : FichCodec, (r.fichDecode
        ((c.ysfFichRewriteDgid frame dgid).2.drop ysfFichOffsetRx)).fich = addCCITT162 fich 6 := by
  have hfield : ((frame.drop ysfFichOffsetRx).take 25).length = 25 := by
    rw [List.length_take, List.length_drop, ysfFichOffsetRx]
    omega
  rw [ysfFichRewriteDgid, if_neg (UInt8.not_lt.2 hd)]
  simp only
  generalize hc : ({ c.fichDecode (frame.drop ysfFichOffsetRx) with
    fich := stampedFich dgid (c.fichDecode (frame.drop ysfFichOffsetRx)).fich
    fich_length := _ } : FichCodec) = c1
  have hfich : c1.fich = stampedFich dgid (c.fichDecode (frame.drop ysfFichOffsetRx)).fich := by
    rw [← hc]
  have henc := fun r : FichCodec => fichDecode_field c1 r hfield
  have hlen : (c1.fichEncode ((frame.drop ysfFichOffsetRx).take 25)).2.length = 25 := by
    rw [fichEncode, writeDibits_eq, writeBits_length, hfield]
  have hsent : (c1.fichEncode ((frame.drop ysfFichOffsetRx).take 25)).1.fich =
      addCCITT162 c1.fich 6 := fichEncode_fich c1 _
  rw [← hfich]
  generalize c1.fichEncode ((frame.drop ysfFichOffsetRx).take 25) = sent at henc hlen hsent
  have hfit : ysfFichOffsetRx + sent.2.length ≤ frame.length := by
    rw [hlen]
    exact hl
  refine ⟨hsent, blit_length hfit, fun i hi => ?_, fun r => ?_⟩
  · rw [blit_getD hfit, hlen, ysfFichOffsetRx, if_neg (by omega)]
  · have htake := blit_drop_take hfit
    rw [hlen] at htake
    rw [← fichDecode_take, htake, henc]

end

/-- A frame of either bridge carries its fields, and after `peer_ysf_send_ysfd` has sent it, the
frame has the DG-ID of the peer besides and is the same elsewhere; a peer without one leaves it
alone. -/
theorem peerYsfSendYsfd_stamps (c sender : FichCodec) (f : Ysfd) :
    (∀ r : FichCodec, (r.ysfFichDecodeFields (f.bytes sender)).2 =
      (0, ⟨f.fi &&& 0x03, f.fn &&& 0x07, f.ft &&& 0x07, f.cm &&& 0x03, ysfDtVdMode2, 0⟩)) ∧
    (c.peerYsfSendYsfd 0 (f.bytes sender) 155).2 = f.bytes sender ∧
    ∀ dgid ≥ 1, (c.peerYsfSendYsfd dgid (f.bytes sender) 155).1.ysfFichGetDgid = dgid ∧
      StampOf dgid (f.bytes sender) (c.peerYsfSendYsfd dgid (f.bytes sender) 155).2 := by
  have hbefore (r : FichCodec) : (r.ysfFichDecodeFields (f.bytes sender)).2 =
      (0, ⟨f.fi &&& 0x03, f.fn &&& 0x07, f.ft &&& 0x07, f.cm &&& 0x03, ysfDtVdMode2, 0⟩) := by
    obtain ⟨-, h⟩ := r.ysfFichDecodeFields_at (f.bytes sender)
    rw [h, ysfFichGuessRxOffset_bytes, fichDecode_bytes, fichFields_addCCITT162,
      fichFields_outboundFich]
  refine ⟨hbefore, rfl, fun dgid hd => ?_⟩
  have hl : 65 ≤ (f.bytes sender).length := by
    rw [f.bytes_length sender]
    decide
  obtain ⟨hfich, hlen, hout, hdec⟩ := c.ysfFichRewriteDgid_spec hd hl
  rw [peerYsfSendYsfd, if_pos rfl]
  rw [fichDecode_bytes] at hfich hdec
  have hfields : fichFields (addCCITT162 (stampedFich dgid
      (addCCITT162 (outboundFich f.fn f.fi f.ft f.cm) 6)) 6) =
      ⟨f.fi &&& 0x03, f.fn &&& 0x07, f.ft &&& 0x07, f.cm &&& 0x03, ysfDtVdMode2, dgid⟩ := by
    rw [fichFields_addCCITT162, fichFields_stampedFich ((addCCITT162_length _ _).trans rfl) hd,
      fichFields_addCCITT162, fichFields_outboundFich]
  have hguess : ysfFichGuessRxOffset (c.ysfFichRewriteDgid (f.bytes sender) dgid).2 =
      ysfFichOffsetRx := by
    rw [ysfFichGuessRxOffset_congr hlen fun i hi => hout i (.inl hi), ysfFichGuessRxOffset_bytes]
  refine ⟨?_, hlen, hout, fun r => ?_, fun r => ?_⟩
  · rw [ysfFichGetDgid, hfich]
    exact congrArg Fich.dgid hfields
  · obtain ⟨-, h⟩ := r.ysfFichDecodeFields_at (c.ysfFichRewriteDgid (f.bytes sender) dgid).2
    rw [h, hguess, hdec, hfields, hbefore]
  · obtain ⟨h, -⟩ := r.ysfFichDecodeFields_at (c.ysfFichRewriteDgid (f.bytes sender) dgid).2
    rw [ysfFichGetDgid, h, hguess, hdec]
    exact congrArg Fich.dgid hfields

/-- The last frame of a call, for room 42. -/
theorem peerYsfSendYsfd_stamps_sample :
    let f : Ysfd := {
      gateway := ysfWireDstAll, src := ysfWireDstAll, fi := ysfFiTerminator, fn := 0,
      ft := ysfFichFt, cm := ysfFichCm, netCnt := 9, csd := some (fillYsfCsd ysfWireDstAll),
      payload := none }
    (init.peerYsfSendYsfd 42 (f.bytes init) 155).1.ysfFichGetDgid = 42 ∧
      StampOf 42 (f.bytes init) (init.peerYsfSendYsfd 42 (f.bytes init) 155).2 :=
  (peerYsfSendYsfd_stamps init init _).2.2 42 (by decide)

end FichCodec

end AdnBridge
