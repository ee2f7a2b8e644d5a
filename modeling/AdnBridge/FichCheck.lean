import AdnBridge.Bridge.Bridge
import AdnBridge.BridgeEl.BridgeEl
import AdnBridge.Ysf.FichCode

namespace AdnBridge
set_option autoImplicit true

/-- The last two of the six bytes are the check sum of the others. -/
def FichValid (fich : List UInt8) : Prop := addCCITT162 fich 6 = fich

instance (fich : List UInt8) : Decidable (FichValid fich) :=
  inferInstanceAs (Decidable (addCCITT162 fich 6 = fich))

/-- The six bytes that the FICH of a frame is decoded to. -/
def frameFich (frame : List UInt8) : List UInt8 :=
  (FichCodec.init.fichDecode (frame.drop (ysfFichGuessRxOffset frame))).fich

namespace FichCodec

/-- A frame is reported only with a valid check sum; any other one is refused, and leaves both
bridges as they were. -/
def RefusesDamaged (c : FichCodec) (frame : List UInt8) : Prop :=
  ((c.ysfFichDecodeFields frame).2.1 = 0 → FichValid (c.ysfFichDecodeFields frame).1.fich) ∧
    (¬FichValid (c.ysfFichDecodeFields frame).1.fich →
      (c.ysfFichDecodeFields frame).2.1 ≠ 0 ∧
        (∀ (e : Env) (b : Bridge), e.fichDecode = c.reportedFich → b.onYsfd e frame = b) ∧
        ∀ (e : ElEnv) (b : BridgeEl) (voc : Vocoder), e.fichDecode = c.reportedFich →
          b.onYsfd e voc frame = some b)

/-- The first offset is never given up: two bits are at most 3. -/
theorem ysfFichDecodeFields_eq (c : FichCodec) (frame : List UInt8) :
    (c.ysfFichDecodeFields frame).1.fich = frameFich frame ∧
      (c.ysfFichDecodeFields frame).2.1 = 0 := by
  have hfi : ((c.ysfFichDecodeAt frame (ysfFichGuessRxOffset frame)).2.fi ≤ 3) := UInt8.and_le_right
  rw [ysfFichDecodeFields]
  simp only
  rw [if_pos hfi]
  exact ⟨fichDecode_fich_eq c init _, rfl⟩

theorem refusesDamaged_iff (c : FichCodec) (frame : List UInt8) :
    c.RefusesDamaged frame ↔ FichValid (frameFich frame) := by
  obtain ⟨hfich, hrc⟩ := c.ysfFichDecodeFields_eq frame
  rw [RefusesDamaged, hfich, hrc]
  constructor
  · intro h
    exact h.1 rfl
  · intro h
    exact ⟨fun _ => h, fun hn => absurd h hn⟩

/-- A frame with nothing but zeros for its FICH is taken for a header, without its check sum, and
starts a call on both bridges. -/
theorem not_refusesDamaged :
    let frame := sampleYsfd (List.replicate 25 0)
    frame.length = 155 ∧ ¬init.RefusesDamaged frame ∧
      ((Bridge.init (.stopped 0) noAliases).onYsfd
        { sampleEnv with fichDecode := init.reportedFich } frame).callActive = true ∧
      ((BridgeEl.init (.stopped 0) noAliases samplePeerEl).onYsfd
        { sampleElEnv .echolinkYsf with fichDecode := init.reportedFich } sampleVocoder frame).map
          (fun b => decide (b.callActive = .elRx)) = some true := by
  have hcheck : ¬FichValid (frameFich (sampleYsfd (List.replicate 25 0))) := by decide +kernel
  refine ⟨by decide +kernel, fun h => hcheck ((init.refusesDamaged_iff _).1 h), ?_, ?_⟩
  · decide +kernel
  · decide +kernel

end FichCodec

end AdnBridge
