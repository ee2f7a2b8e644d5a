import AdnBridge.DataSync
import AdnBridge.Hbp.Embedded

namespace AdnBridge
set_option autoImplicit true

/-- In six voice bursts that either bridge sends while its talker and its talkgroup stay, a
receiver finds the LC of the packets. -/
theorem superframe_sent (embRaw : List Bool) :
    (∀ (e : Env) (o : Origin) (b : Fin 6 → Bridge) (v : Fin 6 → List UInt8) (p : Fin 6 → Dmrd),
      (∀ n, (v n).length = 33) →
      (∀ n, ((b n).sendDmrd e o (voiceB15 n) (some (v n))).trace =
        (b n).trace ++ [.dmrd o (p n)]) →
      (∀ n, (b n).ysfRfId = (b 0).ysfRfId ∧ (b n).txTg e = (b 0).txTg e) →
      SuperframeLc (Dmrd.wire embRaw (List.ofFn p))) ∧
    ∀ (e : ElEnv) (b : Fin 6 → BridgeEl) (v : Fin 6 → List UInt8) (p : Fin 6 → Dmrd),
      (∀ n, (v n).length = 33) →
      (∀ n, ((b n).sendDmrd e (voiceB15 n) (some (v n)) false).trace =
        (b n).trace ++ [.dmrd (p n) false]) →
      (∀ n, (b n).elRfId = (b 0).elRfId ∧ (b n).txTg e = (b 0).txTg e) →
      SuperframeLc (Dmrd.wire embRaw (List.ofFn p)) := by
  constructor
  · intro e o b v p hl hsent hsame
    have hp (n : Fin 6) := Bridge.of_sent (hsent n)
    apply superframeLc embRaw (fun n => (hp n).1) (fun n => (hp n).2.1) hl
    · intro n
      rw [(hp n).2.2.1, (hp 0).2.2.1, (hsame n).2]
    · intro n
      rw [(hp n).2.2.2, (hp 0).2.2.2, (hsame n).1]
  · intro e b v p hl hsent hsame
    have hp (n : Fin 6) := BridgeEl.of_sent (hsent n)
    apply superframeLc embRaw (fun n => (hp n).1) (fun n => (hp n).2.1) hl
    · intro n
      rw [(hp n).2.2.1, (hp 0).2.2.1, (hsame n).2]
    · intro n
      rw [(hp n).2.2.2, (hp 0).2.2.2, (hsame n).1]

def sampleSuperframe (n : Fin 6) : Dmrd where
  seq := n.val.toUInt8
  src := 7301234
  dst := 730
  gw := 7301234
  b15 := voiceB15 n
  stream := 0
  voice33 := some (List.replicate 33 n.val.toUInt8)

/-- One superframe with the identity of the bridge, from either bridge. -/
theorem superframe_sent_sample : SuperframeLc (Dmrd.wire [] (List.ofFn sampleSuperframe)) ∧
    SuperframeLc (Dmrd.wire (List.replicate 128 true) (List.ofFn sampleSuperframe)) := by
  constructor
  · exact (superframe_sent []).1 sampleEnv .call
      (fun n => { Bridge.init (.stopped 0) noAliases with dmrSeq := n.val.toUInt8 })
      (fun n => List.replicate 33 n.val.toUInt8) sampleSuperframe (fun _ => List.length_replicate)
      (fun _ => rfl) fun _ => ⟨rfl, rfl⟩
  · exact (superframe_sent (List.replicate 128 true)).2 (sampleElEnv .echolinkDmr)
      (fun n => { BridgeEl.init (.stopped 0) noAliases samplePeerEl with
        dmrSeq := n.val.toUInt8 })
      (fun n => List.replicate 33 n.val.toUInt8) sampleSuperframe (fun _ => List.length_replicate)
      (fun _ => rfl) fun _ => ⟨rfl, rfl⟩

end AdnBridge
