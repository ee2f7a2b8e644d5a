import AdnBridge.BridgeEl.BridgeEl
import AdnBridge.Hbp.VoiceBurst
import AdnBridge.Mmdvm.Draining
import AdnBridge.Mmdvm.Voice
import AdnBridge.VocoderRemote

namespace AdnBridge
set_option autoImplicit true

theorem voiceBit_dmrPlace (j : Fin 3) (h : i < 72) : VoiceBit (dmrPlace j i) := by
  match j with
  | 0 => exact .inl (show i < 108 by omega)
  | 1 =>
    rw [dmrPlace]
    split
    · exact .inr (by omega)
    · exact .inl (by omega)
  | 2 => exact .inr (show 156 ≤ i + 192 by omega)

namespace ModeConv

variable {m : ModeConv}

theorem dmr_foldl_putAmbe7 (m : ModeConv) (k : Codec) (f : α → List UInt8) (l : List α) :
    (l.foldl (fun m i => m.putAmbe7 k (f i)) m).dmr =
      m.dmr.addAll (l.map fun i => Entry.voice (k.ambe7ToDmr (f i))) := by
  induction l generalizing m with
  | nil => rfl
  | cons i l ih => rw [List.foldl_cons, ih]; rfl

/-- Three frames put into an empty queue come out as one burst. -/
theorem getDmr_putAmbe7 (h : m.dmr.Holds 9 []) (k : Codec) (f : Fin 3 → List UInt8) :
    (((List.finRange 3).foldl (fun m i => m.putAmbe7 k (f i)) m).getDmr).1 = tagData ∧
      (((List.finRange 3).foldl (fun m i => m.putAmbe7 k (f i)) m).getDmr).2.1 =
        voice33 [(k.ambe7ToDmr (f 0)).toList, (k.ambe7ToDmr (f 1)).toList,
          (k.ambe7ToDmr (f 2)).toList] := by
  have hroom : m.dmr.Room 9 ((List.finRange 3).map fun i =>
      (Entry.voice (k.ambe7ToDmr (f i)) : Entry Marker _)).length := by
    rw [h.room_iff, List.length_map, List.length_finRange]
    decide
  have hq := h.addAll (by decide) hroom
  rw [← dmr_foldl_putAmbe7] at hq
  have hpull := Regroup.pull_voices (μ := Marker) (by decide : 0 < 3)
    ((List.finRange 3).map fun i => k.ambe7ToDmr (f i)) (List.length_map _)
  rw [List.map_map] at hpull
  obtain ⟨htag, hdata, -⟩ := dmrSide.get_some
    (m := (List.finRange 3).foldl (fun m i => m.putAmbe7 k (f i)) m) (by decide) hq hpull
  have hget (m : ModeConv) : dmrSide.get m = m.getDmr := rfl
  rw [hget] at htag hdata
  exact ⟨htag, hdata⟩

end ModeConv

namespace BridgeEl

/-- The bridge always has an id to send with. -/
theorem sendDmrd_sends (e : ElEnv) (b : BridgeEl) (frameType : UInt8)
    (voice33 : Option (List UInt8)) (cut : Bool) :
    ∃ p : Dmrd, (b.sendDmrd e frameType voice33 cut).trace = b.trace ++ [.dmrd p cut] ∧
      p.b15 = frameType ∧ p.voice33 = voice33 := by
  rw [sendDmrd]
  generalize hid : (if b.elRfId > 0 then b.elRfId else e.cfg.dmrid) = rfId
  have hpos : ¬rfId ≤ 0 := by
    have hcfg := e.cfg.dmrid_pos
    rw [← hid]
    split <;> omega
  rw [if_neg hpos]
  exact ⟨_, rfl, rfl, rfl⟩

/-- Three frames from one vocoder reach the vocoder at the other end of a DMR call unchanged,
whatever the place of the burst in its superframe and whatever is laid over it. -/
theorem vocoderFrames_cross_dmr (e : ElEnv) (b : BridgeEl) (m : ModeConv) (hm : m.dmr.Holds 9 [])
    (n : Nat) (embRaw : List Bool) (wire : Fin 3 → List UInt8) :
    let m' := (List.finRange 3).foldl
      (fun m i => m.putAmbe7 mmdvmCodec (ambe49Deinterleave (wire i))) m
    m'.getDmr.1 = tagData ∧
      ∃ p : Dmrd, (b.sendDmrd e (voiceB15 n) (some m'.getDmr.2.1) false).trace =
          b.trace ++ [.dmrd p false] ∧
        ∀ i, ambe49BitsFromBytes (ambe49Interleave
            (mmdvmCodec.dmr33ToAmbe (((p.bytes embRaw).drop 20).take 33) i)) =
          ambe49BitsFromBytes (wire i) := by
  obtain ⟨htag, hdata⟩ := ModeConv.getDmr_putAmbe7 hm mmdvmCodec fun i =>
    ambe49Deinterleave (wire i)
  obtain ⟨p, hp⟩ : ∃ p : Dmrd, _ ∧ p.b15 = voiceB15 n ∧ p.voice33 = _ :=
    sendDmrd_sends e b (voiceB15 n) (some (((List.finRange 3).foldl (fun m i =>
      m.putAmbe7 mmdvmCodec (ambe49Deinterleave (wire i))) m).getDmr).2.1) false
  obtain ⟨htrace, hb15, hvoice⟩ := hp
  refine ⟨htag, p, htrace, fun i => ?_⟩
  rw [hdata] at hvoice
  have hframe (i : Fin 3) := ambe49BytesFromBits_length
    (interleave49Matrix.map fun k => (ambe49BitsFromBytes (wire i)).getD k false)
  have hlen := ModeConv.voice33_length (v := fun i =>
    (mmdvmCodec.ambe7ToDmr (ambe49Deinterleave (wire i))).toList) fun i => Vector.length_toList
  have hsame := Dmrd.sameVoice_burst (Dmrd.isVoice_of_b15 hb15).2.2.1 hvoice hlen embRaw
  have hpayload : ((p.bytes embRaw).drop 20).take 33 = (p.burst embRaw).1 := by
    rw [Dmrd.bytes, List.drop_left' (show p.head.length = 20 from rfl), List.take_of_length_le]
    exact Nat.le_of_eq (Dmrd.burst_length (Dmrd.isVoice_of_b15 hb15).2.2.1 hvoice hlen embRaw)
  have hcarries := voice33_carries (v := fun i =>
    (mmdvmCodec.ambe7ToDmr (ambe49Deinterleave (wire i))).toList) (fun i => Vector.length_toList) i
  rw [hpayload, dmr33ToAmbe_of_carries (ambe7ToABC_fields (hframe i))
      fun k hk => (hsame _ (voiceBit_dmrPlace i hk)).trans (hcarries k hk),
    abcToAMBE7_ambe7ToABC (hframe i) (ambe49BytesFromBits_last _)]
  exact ambe49Interleave_deinterleave (wire i)

def sampleWire (i : Fin 3) : List UInt8 := List.replicate 7 (UInt8.ofNat (0x11 * (i.val + 1)))

/-- Three unlike frames in the last burst of a superframe. -/
theorem vocoderFrames_cross_dmr_sample :
    let m := (List.finRange 3).foldl
      (fun m i => m.putAmbe7 mmdvmCodec (ambe49Deinterleave (sampleWire i))) ModeConv.reset
    let b := init (.stopped 0) noAliases samplePeerEl
    m.getDmr.1 = tagData ∧
      ∃ p : Dmrd, (b.sendDmrd (sampleElEnv .echolinkDmr) (voiceB15 5) (some m.getDmr.2.1)
          false).trace = b.trace ++ [.dmrd p false] ∧
        ∀ i, ambe49BitsFromBytes (ambe49Interleave
            (mmdvmCodec.dmr33ToAmbe (((p.bytes []).drop 20).take 33) i)) =
          ambe49BitsFromBytes (sampleWire i) :=
  vocoderFrames_cross_dmr _ _ _ Channel.holds_empty 5 [] sampleWire

end BridgeEl

end AdnBridge
