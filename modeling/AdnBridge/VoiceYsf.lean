import AdnBridge.BridgeEl.Listening
import AdnBridge.Ysf.Payload

namespace AdnBridge
set_option autoImplicit true

open Regroup

namespace ModeConv

/-- Frames queued five at a time, and the payload that is read after each five. -/
def sendAmbe7 (k : Codec) : ModeConv → List (Fin 5 → AmbeFrame) → List (UInt8 × List UInt8)
  | _, [] => []
  | m, g :: gs =>
    let m := (List.finRange 5).foldl (fun m j => m.putAmbe7Ysf k (g j).bytes) m
    (m.getYsf.1, m.getYsf.2.1) :: sendAmbe7 k m.getYsf.2.2 gs

theorem ysf_foldl_putAmbe7Ysf (m : ModeConv) (k : Codec) (f : α → List UInt8) (l : List α) :
    (l.foldl (fun m i => m.putAmbe7Ysf k (f i)) m).ysf =
      m.ysf.addAll (l.map fun i => Entry.voice (k.ambe7ToYsf (f i))) := by
  induction l generalizing m with
  | nil => rfl
  | cons i l ih => rw [List.foldl_cons, ih]; rfl

theorem sendAmbe7_eq {m : ModeConv} (h : m.ysf.Holds 13 []) (k : Codec)
    (gs : List (Fin 5 → AmbeFrame)) : sendAmbe7 k m gs = gs.map fun g =>
      (tagData, ysf120 ((List.finRange 5).map fun j => (k.ambe7ToYsf (g j).bytes).toList)) := by
  induction gs generalizing m with
  | nil => rfl
  | cons g gs ih =>
    have hroom : m.ysf.Room 13 ((List.finRange 5).map fun j =>
        (Entry.voice (k.ambe7ToYsf (g j).bytes) : Entry Marker _)).length := by
      rw [h.room_iff, List.length_map, List.length_finRange]
      decide
    have hq := h.addAll (by decide) hroom
    rw [← ysf_foldl_putAmbe7Ysf] at hq
    have hpull := Regroup.pull_voices (μ := Marker) (by decide : 0 < 5)
      ((List.finRange 5).map fun j => k.ambe7ToYsf (g j).bytes) (List.length_map _)
    rw [List.map_map] at hpull
    rw [sendAmbe7, List.map_cons]
    generalize (List.finRange 5).foldl (fun m j => m.putAmbe7Ysf k (g j).bytes) m = m1 at hq ⊢
    obtain ⟨htag, hdata, hrest⟩ := ysfSide.get_some (m := m1) (by decide) hq hpull
    have hget (m : ModeConv) : ysfSide.get m = m.getYsf := rfl
    rw [hget] at htag hdata hrest
    simp only [ih hrest]
    congr 1
    exact Prod.ext htag hdata

end ModeConv

namespace BridgeEl

/-- The packet that `bridge_el_send_ysfd` makes of a payload in some state of the bridge. -/
def SendsYsfd (e : ElEnv) (fi : UInt8) (payload : Option (List UInt8)) (pkt : List UInt8) : Prop :=
  ∃ (b : BridgeEl) (fn netCnt : UInt8) (s : FichCodec) (f : Ysfd),
    (b.sendYsfd e fi fn netCnt payload).trace = b.trace ++ [.ysfd f] ∧ pkt = f.bytes s

/-- The EchoLink bridge with the converter of MMDVM and the FICH decoder in a given state. -/
def mmdvmEl (cfg : BridgeElConfig) (gain : Int16 → Int16) (rand : Nat → UInt32) (s : FichCodec) :
    ElEnv := ⟨cfg, mmdvmCodec, s.reportedFich, gain, rand⟩

theorem SendsYsfd.frame {e : ElEnv} {payload : Option (List UInt8)} (h : SendsYsfd e fi payload pkt) :
    ∃ (s : FichCodec) (f : Ysfd), pkt = f.bytes s ∧ f.fi = fi ∧
      ∀ v, payload = some v → ∃ dch, f.payload = some (v, dch) := by
  obtain ⟨b, fn, netCnt, s, f, htrace, rfl⟩ := h
  have hf := List.append_cancel_left htrace
  obtain rfl : _ = f := ElAct.ysfd.inj (List.singleton_inj.1 hf)
  refine ⟨s, _, rfl, rfl, ?_⟩
  rintro v rfl
  exact ⟨_, rfl⟩

variable {cfg : BridgeElConfig} {gain : Int16 → Int16} {rand : Nat → UInt32} {s : FichCodec}
variable {e : ElEnv}

/-- A packet of another bridge is accepted, whatever DG-ID is configured. -/
theorem SendsYsfd.accepted {payload : Option (List UInt8)} (h : SendsYsfd e fi payload pkt) :
    ∃ f, acceptedFich (mmdvmEl cfg gain rand s) pkt = some f ∧ f.fi = fi &&& 0x03 := by
  obtain ⟨s', f, rfl, rfl, -⟩ := h.frame
  obtain ⟨r, hr, hfi, hdgid⟩ := FichCodec.reportedFich_bytes s s' f
  refine ⟨r, ?_, hfi⟩
  rw [acceptedFich, if_pos (f.ysfdIsPacket_bytes s')]
  show (s.reportedFich (f.bytes s')).filter _ = _
  have hdg : ysfDgidAccepts cfg.dgid r.dgid = true := by
    rw [hdgid, ysfDgidAccepts]
    simp
  rw [hr, Option.filter_some, if_pos]
  exact hdg

theorem SendsYsfd.brings {g : Fin 5 → AmbeFrame} (h : SendsYsfd e ysfFiCommunications
    (some (ModeConv.ysf120 ((List.finRange 5).map fun j =>
      (mmdvmCodec.ambe7ToYsf (g j).bytes).toList))) pkt) :
    Brings (mmdvmEl cfg gain rand s) g pkt := by
  refine ⟨h.accepted, fun j => ?_⟩
  obtain ⟨s', f, rfl, hfi, hpay⟩ := h.frame
  obtain ⟨dch, hf⟩ := hpay _ rfl
  apply ysfToDmr_of_carries (g j).length
  intro k hk
  have hv (j : Fin 5) : ((mmdvmCodec.ambe7ToYsf (g j).bytes).toList).length = 13 :=
    Vector.length_toList
  have hh : f.fi ≠ ysfFiHeader := by
    rw [hfi]
    decide
  have ht : f.fi ≠ ysfFiTerminator := by
    rw [hfi]
    decide
  rw [f.ysfModeconvChunk_bytes s', (f.body_spec s').2.2.2 hh ht _ dch hf j.val j.isLt k hk,
    fixed_of_length (ModeConv.ysf120_length hv)]
  exact ysf120_carries hv j k hk

/-- A reception comes to its end, and the frames that it has handed to the vocoder are the given
ones, with nothing but silence behind them. -/
def CrossesYsf (e : ElEnv) (b : BridgeEl) (evs : List BridgeElEvent) (frames : List (List UInt8)) :
    Prop :=
  ∃ p n, (heard e b.clock b.aliases b.el).runFrom (b, []) evs = some p ∧
    p.2 = frames ++ List.replicate n silenceAmbe

/-- The frames of a call, and the silence that fills its last burst. -/
def framesPadded (gs : List (Fin 5 → AmbeFrame)) : List (List UInt8) :=
  gs.flatMap fiveFrames ++
    List.replicate (3 - (gs.flatMap fiveFrames).length % 3) silenceAmbe

theorem flatMap_fiveFrames_length (gs : List (Fin 5 → AmbeFrame)) :
    (gs.flatMap fiveFrames).length = 5 * gs.length := by
  induction gs with
  | nil => rfl
  | cons g gs ih =>
    rw [List.flatMap_cons, List.length_append, ih, fiveFrames, List.length_map,
      List.length_finRange, List.length_cons]
    omega

section
variable {gs : List (Fin 5 → AmbeFrame)} {header terminator : List UInt8}
variable {voices : List (List UInt8)} {m : ModeConv}

/-- A reception either ends with all its frames handed over, or hangs where they cannot play on. -/
theorem reception_run (hmode : cfg.mode = .echolinkYsf) (hm : m.ysf.Holds 13 []) (hgs : gs ≠ [])
    (hh : SendsYsfd e ysfFiHeader none header)
    (hv : List.Forall₂ (fun p pkt => SendsYsfd e ysfFiCommunications (some p.2) pkt)
      (m.sendAmbe7 mmdvmCodec gs) voices)
    (ht : SendsYsfd e ysfFiTerminator none terminator)
    (b : BridgeEl) (clock : Nat → Clock) (voc : Vocoder) (c : Clock) (db : AliasDb) (el : PeerEl) :
    (∃ p, (heard (mmdvmEl cfg gain rand s) c db el).runFrom (b, [])
        (reception clock voc header voices terminator) = some p ∧
          p.2 = framesPadded gs ∧ CanPlay b.el voc (framesPadded gs)) ∨
      ((heard (mmdvmEl cfg gain rand s) c db el).runFrom (b, [])
        (reception clock voc header voices terminator) = none ∧
          ¬CanPlay b.el voc (framesPadded gs)) := by
  have hb : List.Forall₂ (Brings (mmdvmEl cfg gain rand s)) gs voices := by
    rw [ModeConv.sendAmbe7_eq hm, List.forall₂_map_left_iff] at hv
    exact hv.imp fun g pkt hg => hg.brings
  have hmode' : (mmdvmEl cfg gain rand s).cfg.mode = .echolinkYsf := hmode
  have hk : (mmdvmEl cfg gain rand s).codec = mmdvmCodec := rfl
  have hlen : voices.length = gs.length := hb.length_eq.symm
  have hne : gs.flatMap fiveFrames ≠ [] := fun h => by
    have hl := flatMap_fiveFrames_length gs
    rw [h, List.length_nil] at hl
    exact hgs (List.length_eq_zero_iff.1 (by omega))
  obtain ⟨f, hf, hfi⟩ : ∃ f, acceptedFich (mmdvmEl cfg gain rand s) header = some f ∧
    f.fi = ysfFiHeader := hh.accepted
  obtain ⟨p, hstep, hlis⟩ := @listening_header (mmdvmEl cfg gain rand s) c db el voc header f hmode' hf hfi b
    (clock 0) voc
  have hzero : ([] : List (List UInt8)).length = 5 * 0 := rfl
  rw [reception, Machine.runFrom_cons, hstep, Option.bind_some, Machine.runFrom_append]
  rcases hlis.voices (c := c) hmode' hk clock hzero hb with
    ⟨p', hrun, h'⟩ | ⟨hrun, l, hl, hc⟩
  · rw [hrun, Option.bind_some, Machine.runFrom_cons]
    obtain ⟨f, hf, hfi⟩ : ∃ f, acceptedFich (mmdvmEl cfg gain rand s) terminator = some f ∧
      f.fi = ysfFiTerminator := ht.accepted
    have hreq := h'.requests
    rw [List.nil_append, flatMap_fiveFrames_length, ← hlen] at hreq
    rw [← hreq]
    rcases h'.terminator hmode' hk hne hf hfi (clock (voices.length + 1)) with ⟨p'', hs, hlog, hc⟩ | ⟨hs, hc⟩
    · left
      rw [hs]
      refine ⟨p'', rfl, hlog, ?_⟩
      rw [hlog] at hc
      exact hc
    · right
      rw [hs]
      exact ⟨rfl, hc⟩
  · right
    rw [hrun]
    refine ⟨rfl, fun hplay => hc ?_⟩
    obtain ⟨t, ht'⟩ := hl
    rw [framesPadded, ← List.nil_append (gs.flatMap fiveFrames), ← ht', List.append_assoc] at hplay
    exact hplay.left

/-- A call of raw frames is queued five at a time, framed and received by another bridge: the
payloads are voice, and the frames cross in order exactly when they can be played. -/
theorem crossesYsf_iff (hmode : cfg.mode = .echolinkYsf) (hm : m.ysf.Holds 13 []) (hgs : gs ≠ [])
    (hh : SendsYsfd e ysfFiHeader none header)
    (hv : List.Forall₂ (fun p pkt => SendsYsfd e ysfFiCommunications (some p.2) pkt)
      (m.sendAmbe7 mmdvmCodec gs) voices)
    (ht : SendsYsfd e ysfFiTerminator none terminator)
    (b : BridgeEl) (clock : Nat → Clock) (voc : Vocoder) :
    (∀ p ∈ m.sendAmbe7 mmdvmCodec gs, p.1 = tagData) ∧
      (CrossesYsf (mmdvmEl cfg gain rand s) b (reception clock voc header voices terminator)
        (gs.flatMap fiveFrames) ↔ CanPlay b.el voc (framesPadded gs)) := by
  have hrun := @reception_run cfg gain rand s e gs header terminator voices m hmode hm hgs hh hv ht
    b clock voc b.clock b.aliases b.el
  refine ⟨fun p hp => ?_, ?_, ?_⟩
  · rw [ModeConv.sendAmbe7_eq hm] at hp
    obtain ⟨g, -, rfl⟩ := List.mem_map.1 hp
    rfl
  · rintro ⟨p, n, hp, -⟩
    rcases hrun with ⟨-, -, -, hc⟩ | ⟨hnone, -⟩
    · exact hc
    · rw [hp] at hnone
      cases hnone
  · intro hc
    rcases hrun with ⟨p, hp, hlog, -⟩ | ⟨-, hn⟩
    · exact ⟨p, _, hp, hlog⟩
    · exact absurd hc hn

end

def sampleBridgeEl : BridgeEl := init (.stopped 0) noAliases samplePeerEl

/-- A bridge whose EchoLink node can be reached. -/
def sampleLinkedEl : BridgeEl :=
  { sampleBridgeEl with el := { samplePeerEl with rtpOk := true } }

def sampleReceiver : ElEnv := mmdvmEl (sampleElEnv .echolinkYsf).cfg id (fun _ => 0) FichCodec.init

def sampleSent (fi : UInt8) (payload : Option (List UInt8)) : List UInt8 :=
  match (sampleBridgeEl.sendYsfd (sampleElEnv .echolinkYsf) fi 0 0 payload).trace with
  | [.ysfd f] => f.bytes FichCodec.init
  | _ => []

theorem sampleSent_sends (fi : UInt8) (payload : Option (List UInt8)) :
    SendsYsfd (sampleElEnv .echolinkYsf) fi payload (sampleSent fi payload) :=
  ⟨sampleBridgeEl, 0, 0, FichCodec.init, _, rfl, rfl⟩

def zeroFrames (_ : Fin 5) : AmbeFrame := ⟨List.replicate 7 0, rfl, by decide⟩

def sampleVoices (gs : List (Fin 5 → AmbeFrame)) : List (List UInt8) :=
  (ModeConv.reset.sendAmbe7 mmdvmCodec gs).map fun p => sampleSent ysfFiCommunications (some p.2)

theorem sampleVoices_sent (gs : List (Fin 5 → AmbeFrame)) :
    List.Forall₂ (fun p pkt => SendsYsfd (sampleElEnv .echolinkYsf) ysfFiCommunications (some p.2) pkt)
      (ModeConv.reset.sendAmbe7 mmdvmCodec gs) (sampleVoices gs) := by
  rw [sampleVoices, List.forall₂_map_right_iff]
  exact List.forall₂_same.2 fun p _ => sampleSent_sends _ _

/-- It decodes every frame to silence. -/
def sampleDecoder : Vocoder := ⟨fun _ _ => none, fun _ _ => some (Vector.replicate 160 0)⟩

def sampleReception (gs : List (Fin 5 → AmbeFrame)) : List BridgeElEvent :=
  reception (fun _ => .stopped 0) sampleDecoder (sampleSent ysfFiHeader none) (sampleVoices gs)
    (sampleSent ysfFiTerminator none)

theorem crossesYsf_sample : CrossesYsf sampleReceiver sampleLinkedEl
    (sampleReception [zeroFrames, zeroFrames]) ([zeroFrames, zeroFrames].flatMap fiveFrames) :=
  (crossesYsf_iff rfl Channel.holds_empty (List.cons_ne_nil _ _) (sampleSent_sends _ _)
    (sampleVoices_sent _) (sampleSent_sends _ _) sampleLinkedEl (fun _ => .stopped 0)
    sampleDecoder).2.2 (.inl rfl)

/-- Ten frames and a node that cannot be reached: the write of the fifth frame never ends. -/
theorem not_crossesYsf : ¬CrossesYsf sampleReceiver sampleBridgeEl
    (sampleReception [zeroFrames, zeroFrames]) ([zeroFrames, zeroFrames].flatMap fiveFrames) := by
  rintro ⟨p, n, hp, -⟩
  have hplay : ¬CanPlay sampleBridgeEl.el sampleDecoder (framesPadded [zeroFrames, zeroFrames]) := by
    have hdecoded : sampleDecoder.decoded 0 (framesPadded [zeroFrames, zeroFrames]) = 12 := rfl
    rw [CanPlay, hdecoded]
    decide
  have hmode : (sampleElEnv .echolinkYsf).cfg.mode = .echolinkYsf := rfl
  have hrun := @reception_run _ id (fun _ => 0) FichCodec.init _ _ _ _ _ _ hmode
    Channel.holds_empty (List.cons_ne_nil _ _) (sampleSent_sends _ none)
    (sampleVoices_sent [zeroFrames, zeroFrames]) (sampleSent_sends _ none) sampleBridgeEl
    (fun _ => .stopped 0) sampleDecoder sampleBridgeEl.clock sampleBridgeEl.aliases
    sampleBridgeEl.el
  rcases hrun with ⟨-, -, -, hc⟩ | ⟨hnone, -⟩
  · exact hplay hc
  · have hr : (heard sampleReceiver sampleBridgeEl.clock sampleBridgeEl.aliases
        sampleBridgeEl.el).runFrom (sampleBridgeEl, [])
          (sampleReception [zeroFrames, zeroFrames]) = none := hnone
    rw [hr] at hp
    cases hp

end BridgeEl

end AdnBridge
