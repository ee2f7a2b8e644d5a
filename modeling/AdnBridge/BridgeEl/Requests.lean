import AdnBridge.BridgeEl.Audio
import AdnBridge.Lib.Run

namespace AdnBridge
set_option autoImplicit true

namespace PeerEl

variable {p : PeerEl}

theorem flushFull_up (h : p.rtpOk = true) :
    p.flushFull.rtpOk = true ∧ p.flushFull.pcmOut.length < elRtpSamples := by
  rw [flushFull]
  split
  next hl =>
    have hne : ¬(p.pcmOut.length = 0 ∨ (!p.rtpOk) = true) := by
      rintro (h0 | h0)
      · rw [h0] at hl
        exact absurd hl (by decide)
      · rw [h] at h0
        exact absurd h0 (by decide)
    rw [flushRtpTx, if_neg hne]
    exact ⟨h, (by decide : 0 < elRtpSamples)⟩
  next hl => exact ⟨h, Nat.lt_of_not_le hl⟩

theorem flushRtpTx_down (h : p.rtpOk = false) : p.flushRtpTx = p := by
  rw [flushRtpTx, if_pos (.inr (by rw [h]; rfl))]

theorem flushFull_down (h : p.rtpOk = false) : p.flushFull = p := by
  rw [flushFull, flushRtpTx_down h]
  split <;> rfl

theorem flushPcm_down (h : p.rtpOk = false) : p.flushPcm = p := by
  rw [flushPcm, flushRtpTx_down h]
  split <;> rfl

theorem flushPcm_rtpOk (p : PeerEl) : p.flushPcm.rtpOk = p.rtpOk := by
  rw [flushPcm, flushRtpTx]
  split
  · split <;> rfl
  · rfl

theorem setTalkerName_eq (p : PeerEl) (name : List UInt8) :
    (p.setTalkerName name).rtpOk = p.rtpOk ∧ (p.setTalkerName name).pcmOut = p.pcmOut := by
  rw [setTalkerName]
  by_cases h : p.talkerName = sdesName name
  · rw [if_pos h]
    exact ⟨rfl, rfl⟩
  · rw [if_neg h]
    exact ⟨rfl, rfl⟩

/-- With the node reachable every write ends. -/
theorem writePcm_up (h : p.rtpOk = true) (pcm : List Int16) :
    ∃ p', p.writePcm pcm = some p' ∧ p'.rtpOk = true := by
  rw [writePcm]
  induction pcm generalizing p with
  | nil => exact ⟨p, rfl, h⟩
  | cons s pcm ih =>
    obtain ⟨hup, hlt⟩ := flushFull_up h
    rw [List.foldlM_cons]
    generalize p.flushFull = p1 at hup hlt ⊢
    rw [if_neg (Nat.not_le.2 hlt)]
    have hnext : ({ p1 with pcmOut := p1.pcmOut ++ [s] } : PeerEl).rtpOk = true := hup
    exact ih (flushFull_up hnext).1

/-- Without a way to the node the samples pile up, and a write past the packet does not end. -/
theorem writePcm_down (h : p.rtpOk = false) (pcm : List Int16) :
    p.writePcm pcm = if pcm = [] ∨ p.pcmOut.length + pcm.length ≤ elRtpSamples then
      some { p with pcmOut := p.pcmOut ++ pcm } else none := by
  rw [writePcm]
  induction pcm generalizing p with
  | nil =>
    rw [if_pos (.inl rfl), List.append_nil]
    rfl
  | cons s pcm ih =>
    have hstep : (({ p with pcmOut := p.pcmOut ++ [s] } : PeerEl).pcmOut).length =
        p.pcmOut.length + 1 := List.length_append
    have hdown : ({ p with pcmOut := p.pcmOut ++ [s] } : PeerEl).rtpOk = false := h
    rw [List.foldlM_cons]
    simp only [flushFull_down h, flushFull_down hdown]
    by_cases hfull : p.pcmOut.length ≥ elRtpSamples
    · have hlen : ¬(s :: pcm = [] ∨ p.pcmOut.length + (s :: pcm).length ≤ elRtpSamples) := by
        rw [List.length_cons]
        rintro (h0 | h0)
        · cases h0
        · omega
      rw [if_pos hfull, if_neg hlen]
      rfl
    · rw [if_neg hfull]
      refine (ih hdown).trans ?_
      have hiff : (pcm = [] ∨ (p.pcmOut ++ [s]).length + pcm.length ≤ elRtpSamples) ↔
          (s :: pcm = [] ∨ p.pcmOut.length + (s :: pcm).length ≤ elRtpSamples) := by
        rw [List.length_append, List.length_singleton, List.length_cons]
        constructor
        · rintro (rfl | h0)
          · right
            rw [List.length_nil]
            omega
          · right
            omega
        · rintro (h0 | h0)
          · cases h0
          · right
            omega
      simp only [hiff, List.append_assoc, List.singleton_append]

end PeerEl

/-- How many of some frames the vocoder decodes, `calls` requests after it was started. -/
def Vocoder.decoded (voc : Vocoder) : Nat → List (List UInt8) → Nat
  | _, [] => 0
  | calls, a :: l => (voc.decode calls a).isSome.toNat + voc.decoded (calls + 1) l

/-- The vocoder after `k` requests. -/
def Vocoder.from (voc : Vocoder) (k : Nat) : Vocoder where
  encode i := voc.encode (k + i)
  decode i := voc.decode (k + i)

theorem Vocoder.decoded_append (voc : Vocoder) (calls : Nat) (l l' : List (List UInt8)) :
    voc.decoded calls (l ++ l') = voc.decoded calls l + voc.decoded (calls + l.length) l' := by
  induction l generalizing calls with
  | nil => rw [List.nil_append, decoded, Nat.zero_add, List.length_nil, Nat.add_zero]
  | cons a l ih =>
    rw [List.cons_append, decoded, decoded, ih, List.length_cons, Nat.add_assoc, Nat.add_assoc,
      Nat.add_comm 1]

namespace BridgeEl

/-- Frames handed to the vocoder one after another, and what it makes of them to EchoLink. -/
def playFrames (voc : Vocoder) : Nat → List (List UInt8) → BridgeEl → Option BridgeEl
  | _, [], b => some b
  | calls, a :: l, b =>
    (match voc.decode calls a with
      | none => some b
      | some pcm => (b.el.writePcm pcm.toList).map fun el => { b with el := el }).bind
        (playFrames voc (calls + 1) l)

/-- The frames of a drained queue, in the order in which the vocoder gets them. -/
def drainRequests (e : ElEnv) : Nat → ModeConv → List (List UInt8)
  | 0, _ => []
  | fuel + 1, m =>
    let (tag, voice33, conv) := m.getDmr
    if tag = tagNoData then []
    else if tag ≠ tagData then drainRequests e fuel conv
    else (List.finRange 3).map (e.codec.dmr33ToAmbe voice33) ++ drainRequests e fuel conv

def drainedConv : Nat → ModeConv → ModeConv
  | 0, m => m
  | fuel + 1, m =>
    let (tag, _, conv) := m.getDmr
    if tag = tagNoData then conv else drainedConv fuel conv

/-- The state in which a packet makes `onYsfd` drain the queue. -/
def drainsYsfd (e : ElEnv) (b : BridgeEl) (pkt : List UInt8) : Option BridgeEl :=
  match acceptedFich e pkt with
  | none => none
  | some f =>
    if f.fi = ysfFiHeader then none
    else if f.fi = ysfFiTerminator then
      if b.callActive = .elRx then some (b.modeconv e .putYsfEot) else none
    else if f.fi = ysfFiCommunications then
      let b :=
        if b.callActive ≠ .elRx then
          (if b.callActive = .elTx then b.endYsfCall e else b).beginYsfToEl pkt
        else b
      let b := { b.tock with lastDmrRx := b.clock.now }
      let b := b.modeconv e (.putYsfPayload (ysfModeconvChunk pkt))
      some { b with ysfVoiceFrames := b.ysfVoiceFrames + 1 }
    else none

/-- The frames that a packet makes the bridge hand to the vocoder. -/
def ysfRequests (e : ElEnv) (b : BridgeEl) (pkt : List UInt8) : List (List UInt8) :=
  (b.drainsYsfd e pkt).elim [] fun b => drainRequests e (b.conv.dmr.n + 1) b.conv

section
variable {e : ElEnv} {b : BridgeEl} {voc : Vocoder} {l l' : List (List UInt8)}
variable {pkt : List UInt8}

theorem drainRequests_succ (e : ElEnv) (n : Nat) (m : ModeConv) : drainRequests e (n + 1) m =
    if m.getDmr.1 = tagNoData then []
    else if m.getDmr.1 ≠ tagData then drainRequests e n m.getDmr.2.2
    else (List.finRange 3).map (e.codec.dmr33ToAmbe m.getDmr.2.1) ++
      drainRequests e n m.getDmr.2.2 := rfl

theorem drainedConv_succ (n : Nat) (m : ModeConv) : drainedConv (n + 1) m =
    if m.getDmr.1 = tagNoData then m.getDmr.2.2 else drainedConv n m.getDmr.2.2 := rfl

theorem playFrames_append (calls : Nat) (b : BridgeEl) : playFrames voc calls (l ++ l') b =
    (playFrames voc calls l b).bind (playFrames voc (calls + l.length) l') := by
  induction l generalizing calls b with
  | nil => rfl
  | cons a l ih =>
    rw [List.cons_append, playFrames, playFrames, Option.bind_assoc, List.length_cons,
      ← Nat.add_assoc, Nat.add_right_comm]
    congr 1
    funext b
    exact ih (calls + 1) b

theorem playFrames_conv (calls : Nat) (l : List (List UInt8)) (b : BridgeEl) (conv : ModeConv) :
    playFrames voc calls l { b with conv := conv } =
      (playFrames voc calls l b).map fun b => { b with conv := conv } := by
  induction l generalizing calls b with
  | nil => rfl
  | cons a l ih =>
    rw [playFrames, playFrames]
    cases voc.decode calls a with
    | none => exact ih _ b
    | some pcm =>
      cases hw : b.el.writePcm pcm.toList with
      | none => simp only [hw]; rfl
      | some el => simp only [hw]; exact ih _ { b with el := el }

theorem playAmbe_frames (e : ElEnv) (b : BridgeEl) (voc : Vocoder) (calls : Nat)
    (voice33 : List UInt8) : b.playAmbe e voc calls voice33 =
      playFrames voc calls ((List.finRange 3).map (e.codec.dmr33ToAmbe voice33)) b := by
  have hfin : List.finRange 3 = [0, 1, 2] := rfl
  rw [playAmbe, hfin]
  simp only [List.foldlM_cons, List.foldlM_nil, List.map_cons, List.map_nil, playFrames]
  rfl

/-- Draining hands over the frames of the queue in order, and nothing else happens. -/
theorem drainYsfToElPcm_frames (e : ElEnv) (voc : Vocoder) (fuel calls : Nat) (b : BridgeEl) :
    b.drainYsfToElPcm e voc fuel calls =
      playFrames voc calls (drainRequests e fuel b.conv)
        { b with conv := drainedConv fuel b.conv } := by
  induction fuel generalizing calls b with
  | zero => rfl
  | succ fuel ih =>
    rw [drainYsfToElPcm, drainRequests, drainedConv]
    generalize b.conv.getDmr = r
    obtain ⟨tag, voice33, conv⟩ := r
    simp only
    by_cases hno : tag = tagNoData
    · simp only [if_pos hno]
      rfl
    · simp only [if_neg hno]
      by_cases hd : tag = tagData
      · simp only [if_neg (not_not_intro hd), playFrames_append, playAmbe_frames]
        rw [playFrames_conv calls _ b conv, playFrames_conv calls _ b (drainedConv fuel conv),
          Option.bind_map, Option.bind_map]
        congr 1
        funext b1
        rw [Function.comp_apply, Function.comp_apply, ih, List.length_map, List.length_finRange]
      · simp only [if_pos hd]
        exact ih calls { b with conv := conv }

/-- What `onYsfd` asks of the vocoder is `ysfRequests`; the rest of the step takes the result as it
comes. -/
theorem onYsfd_frames (hm : e.cfg.mode = .echolinkYsf) (b : BridgeEl) (pkt : List UInt8) :
    match b.drainsYsfd e pkt with
    | none => ∃ b', ∀ voc, b.onYsfd e voc pkt = some b'
    | some b1 => ∃ after : BridgeEl → BridgeEl, ∀ voc, b.onYsfd e voc pkt =
        (playFrames voc 0 (b.ysfRequests e pkt)
          { b1 with conv := drainedConv (b1.conv.dmr.n + 1) b1.conv }).map after := by
  simp only [onYsfd, if_neg (not_not_intro hm), ysfRequests, drainsYsfd, drainYsfToElPcm_frames]
  cases acceptedFich e pkt with
  | none => exact ⟨b, fun _ => rfl⟩
  | some f =>
    simp only
    by_cases hh : f.fi = ysfFiHeader
    · simp only [if_pos hh]
      exact ⟨_, fun _ => rfl⟩
    simp only [if_neg hh]
    by_cases ht : f.fi = ysfFiTerminator
    · simp only [if_pos ht]
      by_cases hrx : b.callActive = .elRx
      · simp only [if_pos hrx, Option.elim_some]
        exact ⟨_, fun _ => rfl⟩
      · simp only [if_neg hrx]
        exact ⟨b, fun _ => rfl⟩
    simp only [if_neg ht]
    by_cases hc : f.fi = ysfFiCommunications
    · simp only [if_pos hc, Option.elim_some]
      exact ⟨id, fun _ => Option.map_id'.symm⟩
    · simp only [if_neg hc]
      exact ⟨b, fun _ => rfl⟩

/-- A voice packet of a reception: its sub-frames are queued, and what fills bursts is played. -/
theorem onYsfd_voice {f : Fich} (hm : e.cfg.mode = .echolinkYsf)
    (hf : acceptedFich e pkt = some f) (hfi : f.fi = ysfFiCommunications)
    (hrx : b.callActive = .elRx) :
    ∃ b1 : BridgeEl, b1.el = b.el ∧ b1.callActive = .elRx ∧
      b1.conv = (ConvOp.putYsfPayload (ysfModeconvChunk pkt)).conv e.codec b.conv ∧
      b.ysfRequests e pkt = drainRequests e (b1.conv.dmr.n + 1) b1.conv ∧
      ∀ voc, b.onYsfd e voc pkt = playFrames voc 0 (b.ysfRequests e pkt)
        { b1 with conv := drainedConv (b1.conv.dmr.n + 1) b1.conv } := by
  have hh : f.fi ≠ ysfFiHeader := by
    rw [hfi]
    decide
  have ht : f.fi ≠ ysfFiTerminator := by
    rw [hfi]
    decide
  simp only [onYsfd, if_neg (not_not_intro hm), hf, if_neg hh, if_neg ht, if_pos hfi, ysfRequests,
    drainsYsfd, drainYsfToElPcm_frames, if_neg (not_not_intro hrx), Option.elim_some]
  exact ⟨{ ({ b.tock with lastDmrRx := b.clock.now } : BridgeEl).modeconv e
    (.putYsfPayload (ysfModeconvChunk pkt)) with ysfVoiceFrames := b.ysfVoiceFrames + 1 },
      rfl, hrx, rfl, rfl, fun _ => rfl⟩

/-- The TERMINATOR of a reception: the queue is padded and drained. -/
theorem onYsfd_terminator {f : Fich} (hm : e.cfg.mode = .echolinkYsf)
    (hf : acceptedFich e pkt = some f) (hfi : f.fi = ysfFiTerminator)
    (hrx : b.callActive = .elRx) :
    ∃ (b1 : BridgeEl) (after : BridgeEl → BridgeEl), b1.el = b.el ∧
      b1.conv = ConvOp.putYsfEot.conv e.codec b.conv ∧
      b.ysfRequests e pkt = drainRequests e (b1.conv.dmr.n + 1) b1.conv ∧
      ∀ voc, b.onYsfd e voc pkt = (playFrames voc 0 (b.ysfRequests e pkt)
        { b1 with conv := drainedConv (b1.conv.dmr.n + 1) b1.conv }).map after := by
  have hh : f.fi ≠ ysfFiHeader := by
    rw [hfi]
    decide
  simp only [onYsfd, if_neg (not_not_intro hm), hf, if_neg hh, if_pos hfi, ysfRequests,
    drainsYsfd, drainYsfToElPcm_frames, if_pos hrx, Option.elim_some]
  exact ⟨b.modeconv e .putYsfEot, _, rfl, rfl, rfl, fun _ => rfl⟩

/-- A HEADER starts a reception, whatever was going on. -/
theorem onYsfd_header {f : Fich} (hm : e.cfg.mode = .echolinkYsf)
    (hf : acceptedFich e pkt = some f) (hfi : f.fi = ysfFiHeader) (b : BridgeEl) :
    b.ysfRequests e pkt = [] ∧ ∃ b' : BridgeEl, (∀ voc, b.onYsfd e voc pkt = some b') ∧
      b'.callActive = .elRx ∧ b'.conv = ModeConv.reset.putYsfHeader ∧
      b'.el.rtpOk = b.el.rtpOk ∧ (b.el.rtpOk = false → b'.el.pcmOut = b.el.pcmOut) := by
  constructor
  · rw [ysfRequests, drainsYsfd, hf]
    simp only [if_pos hfi, Option.elim_none]
  · have hend : (if b.callActive = .elTx then b.endYsfCall e else b).el = b.el := by
      rw [endYsfCall]
      split
      · split <;> rfl
      · rfl
    simp only [onYsfd, if_neg (not_not_intro hm), hf, if_pos hfi]
    generalize (if b.callActive = .elTx then b.endYsfCall e else b) = b1 at hend ⊢
    have hflush : (if b1.callActive = .elRx then
        { b1 with el := b1.el.flushPcm.setTalkerName [] } else b1).el.rtpOk = b.el.rtpOk ∧
          (b.el.rtpOk = false → (if b1.callActive = .elRx then
            { b1 with el := b1.el.flushPcm.setTalkerName [] } else b1).el.pcmOut = b.el.pcmOut) := by
      rw [← hend]
      by_cases hrx : b1.callActive = .elRx
      · rw [if_pos hrx]
        obtain ⟨h1, h2⟩ := b1.el.flushPcm.setTalkerName_eq []
        refine ⟨h1.trans (PeerEl.flushPcm_rtpOk _), fun hdown => ?_⟩
        rw [PeerEl.flushPcm_down hdown] at h2 ⊢
        exact h2
      · rw [if_neg hrx]
        exact ⟨rfl, fun _ => rfl⟩
    generalize (if b1.callActive = .elRx then
      { b1 with el := b1.el.flushPcm.setTalkerName [] } else b1) = b2 at hflush ⊢
    have htalker (b : BridgeEl) : b.setYsfTalkerOnEl.callActive = b.callActive ∧
        b.setYsfTalkerOnEl.conv = b.conv ∧ b.setYsfTalkerOnEl.el.rtpOk = b.el.rtpOk ∧
          b.setYsfTalkerOnEl.el.pcmOut = b.el.pcmOut := by
      rw [setYsfTalkerOnEl]
      simp only
      split
      · exact ⟨trivial, trivial, b.el.setTalkerName_eq []⟩
      · exact ⟨trivial, trivial, b.el.setTalkerName_eq _⟩
    refine ⟨_, fun _ => rfl, ?_⟩
    rw [beginYsfToEl]
    obtain ⟨h1, h2, h3, h4⟩ := htalker
      { ({ b2.tock with netDst := ysfWireDstAll, lastDmrRx := b2.clock.now } : BridgeEl) with
        netSrc := (pkt.drop 14).take 10, callActive := .elRx, ysfVoiceFrames := 0,
        el := { b2.el with rtpTxPackets := 0 }, conv := ModeConv.reset.putYsfHeader }
    exact ⟨h1, h2, h3.trans hflush.1, fun hdown => h4.trans (hflush.2 hdown)⟩

end

end BridgeEl

end AdnBridge
