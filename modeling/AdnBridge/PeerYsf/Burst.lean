import AdnBridge.PeerYsf
import AdnBridge.Ysf.CodedField

namespace AdnBridge
set_option autoImplicit true

section
variable {callsign : List UInt8}

theorem fichFields_activationFich (fi cm fn ft dgid : UInt8) :
    fichFields (activationFich fi cm fn ft dgid) =
      ⟨fi &&& 0x03, fn &&& 0x07, ft &&& 0x07, cm &&& 0x03, ysfDtVdMode2, dgid⟩ := by
  have hset : fichFields (activationFich fi cm fn ft dgid) =
      { fichFields (outboundFich fn fi ft cm) with dgid := dgid } := rfl
  rw [hset, fichFields_outboundFich]

/-- What every frame of the burst starts with. -/
def activationHead (callsign : List UInt8) : List UInt8 :=
  ysfdMagic ++ callsign ++ callsign ++ ysfWireDstAll

theorem activationHead_length (hl : callsign.length = 10) :
    (activationHead callsign).length = 34 := by
  rw [activationHead, List.length_append, List.length_append, List.length_append, hl]
  rfl

/-- A frame before the test pattern: any receiver that looks at byte 40 finds the header. -/
theorem activationFrame_spec (hl : callsign.length = 10) (dgid fi cm ft serial : UInt8) :
    (activationFrame callsign dgid fi cm ft serial).length = 155 ∧
      (activationFrame callsign dgid fi cm ft serial).take 34 = activationHead callsign ∧
      ∀ r : FichCodec, (r.fichDecode
          ((activationFrame callsign dgid fi cm ft serial).drop ysfFichOffsetRx)).fich =
        addCCITT162 (activationFich fi cm (serial >>> 1) ft dgid) 6 := by
  rw [activationFrame]
  simp only
  generalize hf : ysfdMagic ++ callsign ++ callsign ++ ysfWireDstAll ++ spaces 10 ++
    List.replicate 4 0 ++ [serial] ++ List.replicate 106 0 = frame
  have hlen : frame.length = 155 := by
    rw [← hf, List.length_append, List.length_append, List.length_append, List.length_append,
      List.length_append, List.length_append, List.length_append, hl]
    rfl
  have hhead : frame.take 34 = activationHead callsign := by
    rw [← hf, ← activationHead, List.append_assoc, List.append_assoc, List.append_assoc,
      List.take_left' (activationHead_length hl)]
  have hfield : ((frame.drop ysfFichOffsetRx).take 25).length = 25 := by
    rw [List.length_take, List.length_drop, hlen]
    rfl
  generalize hm : ({ FichCodec.init with
    fich := activationFich fi cm (serial >>> 1) ft dgid, fich_length := rfl } : FichCodec) = m
  have hdec := fun r : FichCodec => FichCodec.fichDecode_field m r hfield
  have hcoded : (m.fichEncode ((frame.drop ysfFichOffsetRx).take 25)).2.length = 25 := by
    rw [FichCodec.fichEncode, FichCodec.writeDibits_eq, writeBits_length, hfield]
  have hfich : m.fich = activationFich fi cm (serial >>> 1) ft dgid := by
    rw [← hm]
  rw [hfich] at hdec
  generalize (m.fichEncode ((frame.drop ysfFichOffsetRx).take 25)).2 = coded at hdec hcoded
  have hfit : ysfFichOffsetRx + coded.length ≤ frame.length := by
    rw [hcoded, hlen]
    decide
  refine ⟨(blit_length hfit).trans hlen, (blit_take hfit (by decide)).trans hhead, fun r => ?_⟩
  have htake := blit_drop_take hfit
  rw [hcoded] at htake
  rw [← FichCodec.fichDecode_take, htake, hdec]

/-- The header of the frame number `i` of the burst, in the first five frames and the last three,
which count no further. -/
def burstFields (dgid : UInt8) (i : Nat) : Fich :=
  if i < 5 then ⟨ysfFiHeader, (i % 8).toUInt8, 1, 0, ysfDtVdMode2, dgid⟩
  else ⟨ysfFiTerminator, 1, 1, 1, ysfDtVdMode2, dgid⟩

/-- The frame number `i` of a burst; the frames in the middle have lost the end of their header to
the test pattern. -/
structure BurstFrame (callsign : List UInt8) (dgid : UInt8) (i : Nat) (f : List UInt8) : Prop where
  length : f.length = 155
  head : f.take 34 = activationHead callsign
  announced : i < 5 ∨ 25 ≤ i → ∀ r : FichCodec,
    checkCCITT162 (r.fichDecode (f.drop ysfFichOffsetRx)).fich 6 = true ∧
      fichFields (r.fichDecode (f.drop ysfFichOffsetRx)).fich = burstFields dgid i
  pattern : 5 ≤ i → i < 25 → (f.drop 55).take 100 = generateVoicePayload (i - 5)

theorem activationFrame_announced (hl : callsign.length = 10) (dgid fi cm ft serial : UInt8)
    (r : FichCodec) :
    let fich := (r.fichDecode
      ((activationFrame callsign dgid fi cm ft serial).drop ysfFichOffsetRx)).fich
    checkCCITT162 fich 6 = true ∧ fichFields fich =
      ⟨fi &&& 0x03, serial >>> 1 &&& 0x07, ft &&& 0x07, cm &&& 0x03, ysfDtVdMode2, dgid⟩ := by
  obtain ⟨-, -, h⟩ := activationFrame_spec hl dgid fi cm ft serial
  have hlen : (activationFich fi cm (serial >>> 1) ft dgid).length = 6 := rfl
  simp only
  rw [h, fichFields_addCCITT162, fichFields_activationFich]
  exact ⟨checkCCITT162_addCCITT162 _ (by decide) hlen.ge, rfl⟩

theorem serial_shift : ∀ i : Nat, i < 5 → (2 * i).toUInt8 >>> 1 &&& 0x07 = (i % 8).toUInt8 := by
  decide +kernel

theorem last_serial_shift : (2 * 25 : Nat).toUInt8 >>> 1 &&& 0x07 = 1 := by decide +kernel

theorem generateVoicePayload_length (n : Nat) : (generateVoicePayload n).length = 100 := by
  rw [generateVoicePayload, List.length_set, List.length_set, List.length_map, List.length_range]

theorem BurstFrame.header (hl : callsign.length = 10) (dgid : UInt8) (hi : i < 5) :
    BurstFrame callsign dgid i
      (activationFrame callsign dgid ysfFiHeader 0 1 (2 * i).toUInt8) where
  length := (activationFrame_spec hl dgid _ _ _ _).1
  head := (activationFrame_spec hl dgid _ _ _ _).2.1
  announced _ r := by
    rw [burstFields, if_pos hi, ← serial_shift i hi]
    exact activationFrame_announced hl dgid ysfFiHeader 0 1 (2 * i).toUInt8 r
  pattern h := by omega

theorem BurstFrame.terminator (hl : callsign.length = 10) (dgid : UInt8) (hi : 25 ≤ i) :
    BurstFrame callsign dgid i
      (activationFrame callsign dgid ysfFiTerminator 1 1 (2 * 25).toUInt8) where
  length := (activationFrame_spec hl dgid _ _ _ _).1
  head := (activationFrame_spec hl dgid _ _ _ _).2.1
  announced _ r := by
    have h := activationFrame_announced hl dgid ysfFiTerminator 1 1 (2 * 25).toUInt8 r
    rw [last_serial_shift] at h
    rw [burstFields, if_neg (by omega)]
    exact h
  pattern _ h := by omega

theorem BurstFrame.test (hl : callsign.length = 10) (dgid serial : UInt8) (hi : 5 ≤ i)
    (hlt : i < 25) : BurstFrame callsign dgid i
      (blit (activationFrame callsign dgid ysfFiTerminator 1 0 serial) 55
        (generateVoicePayload (i - 5))) := by
  obtain ⟨hlen, hhead, -⟩ := activationFrame_spec hl dgid ysfFiTerminator 1 0 serial
  have hfit : 55 + (generateVoicePayload (i - 5)).length ≤
      (activationFrame callsign dgid ysfFiTerminator 1 0 serial).length := by
    rw [hlen, generateVoicePayload_length]
  refine ⟨(blit_length hfit).trans hlen, (blit_take hfit (by decide)).trans hhead,
    fun h => by omega, fun _ _ => ?_⟩
  have htake := blit_drop_take hfit
  rwa [generateVoicePayload_length] at htake

theorem ysfActivationBurst_spec (hl : callsign.length = 10) (dgid : UInt8) :
    (ysfActivationBurst callsign dgid).length = 28 ∧
      ∀ i < 28, BurstFrame callsign dgid i ((ysfActivationBurst callsign dgid).getD i []) := by
  rw [ysfActivationBurst]
  have hget {g : Nat → List UInt8} {n i : Nat} (h : i < n) :
      ((List.range n).map g).getD i [] = g i := by
    rw [List.getD_eq_getElem _ _ (by rw [List.length_map, List.length_range]; exact h),
      List.getElem_map, List.getElem_range]
  have hlen (g : Nat → List UInt8) (n : Nat) : ((List.range n).map g).length = n := by
    rw [List.length_map, List.length_range]
  refine ⟨by rw [List.length_append, List.length_append, hlen, hlen, List.length_replicate],
    fun i hi => ?_⟩
  simp only
  by_cases h5 : i < 5
  · rw [List.getD_append _ _ _ _ (by rw [List.length_append, hlen, hlen]; omega),
      List.getD_append _ _ _ _ (by rw [hlen]; exact h5), hget h5]
    exact .header hl dgid h5
  · by_cases h25 : i < 25
    · rw [List.getD_append _ _ _ _ (by rw [List.length_append, hlen, hlen]; exact h25),
        List.getD_append_right _ _ _ _ (by rw [hlen]; omega), hlen, hget (by omega)]
      exact .test hl dgid _ (by omega) h25
    · rw [List.getD_append_right _ _ _ _ (by rw [List.length_append, hlen, hlen]; omega),
        List.length_append, hlen, hlen, List.getD_replicate _ (by omega)]
      exact .terminator hl dgid (by omega)

/-- A link setup to a room sends the poll and then a burst in which, whatever the callsign and the
room, the first five frames and the last three show the room to every receiver. -/
theorem PeerYsf.reconnect_announces (c : PeerYsfConfig) (p : PeerYsf) (later : Int)
    (hd : 1 ≤ c.dgid) :
    ∃ burst, (p.reconnect c later).sent = p.sent ++ [ysfpTag ++ wireCallsign c] ++ burst ∧
      burst.length = 28 ∧ ∀ i < 28, BurstFrame (wireCallsign c) c.dgid i (burst.getD i []) := by
  obtain ⟨hlen, hburst⟩ := ysfActivationBurst_spec (pad10_length _) c.dgid
  refine ⟨ysfActivationBurst (wireCallsign c) c.dgid, ?_, hlen, hburst⟩
  rw [reconnect, if_pos hd]
  simp only [send, sendPoll]

/-- Room 42. -/
theorem PeerYsf.reconnect_announces_sample :
    ∃ burst, ((peerOpen 0).reconnect ⟨[0x43, 0x45], 42⟩ 9).sent =
        (peerOpen 0).sent ++ [ysfpTag ++ wireCallsign ⟨[0x43, 0x45], 42⟩] ++ burst ∧
      burst.length = 28 ∧
      ∀ i < 28, BurstFrame (wireCallsign ⟨[0x43, 0x45], 42⟩) 42 i (burst.getD i []) :=
  reconnect_announces ⟨[0x43, 0x45], 42⟩ (peerOpen 0) 9 (by decide)

end

end AdnBridge
