import AdnBridge.Bridge.Bridge
import AdnBridge.BridgeEl.BridgeEl
import AdnBridge.Hbp.Burst

namespace AdnBridge
set_option autoImplicit true

/-- What a packet is made of that one `send_dmrd` sends. -/
theorem Bridge.of_sent {e : Env} {b : Bridge} {o : Origin} {frameType : UInt8}
    {voice33 : Option (List UInt8)} {p : Dmrd}
    (h : (b.sendDmrd e o frameType voice33).trace = b.trace ++ [.dmrd o p]) :
    p.b15 = frameType ∧ p.voice33 = voice33 ∧ p.dst = b.txTg e ∧
      p.src = dmrIdRf24 (if b.ysfRfId > 0 then b.ysfRfId else e.cfg.dmrid) := by
  rw [Bridge.sendDmrd] at h
  generalize (if b.ysfRfId > 0 then b.ysfRfId else e.cfg.dmrid) = rfId at h ⊢
  by_cases hid : rfId ≤ 0
  · rw [if_pos hid, List.self_eq_append_right] at h
    cases h
  · rw [if_neg hid] at h
    have hp := List.append_cancel_left h
    simp only [List.cons.injEq, Act.dmrd.injEq, and_true, true_and] at hp
    rw [← hp]
    exact ⟨rfl, rfl, rfl, rfl⟩

theorem BridgeEl.of_sent {e : ElEnv} {b : BridgeEl} {frameType : UInt8}
    {voice33 : Option (List UInt8)} {cut : Bool} {p : Dmrd}
    (h : (b.sendDmrd e frameType voice33 cut).trace = b.trace ++ [.dmrd p cut]) :
    p.b15 = frameType ∧ p.voice33 = voice33 ∧ p.dst = b.txTg e ∧
      p.src = dmrIdRf24 (if b.elRfId > 0 then b.elRfId else e.cfg.dmrid) := by
  rw [BridgeEl.sendDmrd] at h
  generalize (if b.elRfId > 0 then b.elRfId else e.cfg.dmrid) = rfId at h ⊢
  by_cases hid : rfId ≤ 0
  · rw [if_pos hid, List.self_eq_append_right] at h
    cases h
  · rw [if_neg hid] at h
    have hp := List.append_cancel_left h
    simp only [List.cons.injEq, ElAct.dmrd.injEq, and_true] at hp
    rw [← hp]
    exact ⟨rfl, rfl, rfl, rfl⟩

/-- The bridges send the burst of a voice LC header for the VTERM too, so what a data-sync packet
carries agrees with its byte 15 exactly when it is a VHEAD. -/
theorem dataSync_iff (embRaw : List Bool) :
    (∀ (e : Env) (b : Bridge) (o : Origin) (frameType : UInt8) (voice33 : Option (List UInt8))
        (p : Dmrd), (b.sendDmrd e o frameType voice33).trace = b.trace ++ [.dmrd o p] →
      p.isVhead = true ∨ p.isVterm = true →
        (SaysItsHeader (p.bytes embRaw) ↔ frameType &&& 0x0F = dmrdDtypeVhead)) ∧
    ∀ (e : ElEnv) (b : BridgeEl) (frameType : UInt8) (voice33 : Option (List UInt8)) (cut : Bool)
        (p : Dmrd), (b.sendDmrd e frameType voice33 cut).trace = b.trace ++ [.dmrd p cut] →
      p.isVhead = true ∨ p.isVterm = true →
        (SaysItsHeader (p.bytes embRaw) ↔ frameType &&& 0x0F = dmrdDtypeVhead) := by
  have hdtype {p : Dmrd} {frameType : UInt8} (hb : p.b15 = frameType)
      (hp : p.isVhead = true ∨ p.isVterm = true) :
      (SaysItsHeader (p.bytes embRaw) ↔ frameType &&& 0x0F = dmrdDtypeVhead) := by
    have hd : p.dtype = frameType &&& 0x0F := by
      rw [← hb]
      rfl
    rw [p.saysItsHeader_iff hp, ← hd]
    constructor
    · intro h
      exact beq_iff_eq.1 (Bool.and_eq_true_iff.1 h).2
    · intro h
      rcases hp with hp | hp
      · exact hp
      · have ht := beq_iff_eq.1 (Bool.and_eq_true_iff.1 hp).2
        rw [h] at ht
        cases ht
  constructor
  · intro e b o frameType voice33 p hsent hp
    exact hdtype (Bridge.of_sent hsent).1 hp
  · intro e b frameType voice33 cut p hsent hp
    exact hdtype (BridgeEl.of_sent hsent).1 hp

/-- A VHEAD from the bridge at its start. -/
theorem dataSync_sample : SaysItsHeader (Dmrd.bytes []
    { seq := 0, src := 7301234, dst := 730, gw := 7301234, b15 := vheadB15, stream := 0,
      voice33 := none }) :=
  ((dataSync_iff []).1 sampleEnv (.init (.stopped 0) noAliases) .call vheadB15 none _ rfl
    (.inl rfl)).2 rfl

/-- A VTERM goes out with the burst of a header. -/
theorem not_dataSync : let p : Dmrd :=
      { seq := 0, src := 7301234, dst := 730, gw := 7301234, b15 := vtermB15, stream := 0,
        voice33 := none }
    ((Bridge.init (.stopped 0) noAliases).sendDmrd sampleEnv .call vtermB15 none).trace =
        (Bridge.init (.stopped 0) noAliases).trace ++ [.dmrd .call p] ∧
      p.isVterm = true ∧ ¬SaysItsHeader (p.bytes []) := by
  refine ⟨rfl, rfl, fun h => ?_⟩
  have hv := (Dmrd.saysItsHeader_iff (.inr rfl) []).1 h
  cases hv

end AdnBridge
