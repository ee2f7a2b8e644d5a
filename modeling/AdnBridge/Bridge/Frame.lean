import AdnBridge.Bridge.Bridge

namespace AdnBridge
set_option autoImplicit true

def Act.isPtt : Act → Bool
  | .dmrd o _ => o == .ptt
  | .start o _ => o == .ptt
  | .stop o => o == .ptt
  | _ => false

namespace Bridge

theorem sendDmrd_eq (e : Env) (b : Bridge) (o : Origin) (ft : UInt8)
    (v : Option (List UInt8)) :
    ∃ p : Dmrd, p.b15 = ft ∧ p.stream = b.dmrStreamId ∧ p.seq = b.dmrSeq ∧
      b.sendDmrd e o ft v =
        { b.tock.log (.dmrd o p) with dmrSeq := b.dmrSeq + 1, lastDmrTx := b.clock.now } := by
  have hd := e.cfg.dmrid_pos
  have hrf : ¬(if b.ysfRfId > 0 then b.ysfRfId else e.cfg.dmrid) ≤ 0 := by
    split <;> omega
  rw [sendDmrd]
  simp only [if_neg hrf]
  exact ⟨_, rfl, rfl, rfl, rfl⟩

@[simp] theorem sendDmrd_connectPttActive (e : Env) (b : Bridge) (o : Origin) (ft : UInt8)
    (v : Option (List UInt8)) : (b.sendDmrd e o ft v).connectPttActive = b.connectPttActive := by
  obtain ⟨p, _, _, _, hb⟩ := sendDmrd_eq e b o ft v
  rw [hb]
  rfl

@[simp] theorem sendDmrd_connectPttClearing (e : Env) (b : Bridge) (o : Origin) (ft : UInt8)
    (v : Option (List UInt8)) :
    (b.sendDmrd e o ft v).connectPttClearing = b.connectPttClearing := by
  obtain ⟨p, _, _, _, hb⟩ := sendDmrd_eq e b o ft v
  rw [hb]
  rfl

/-- Resolving the talker of a header touches the identity only. -/
theorem assignYsfTalker_eq (e : Env) (b : Bridge) (src : List UInt8) :
    ∃ cs id, (b.assignYsfTalker e src).2 = { b with netSrc := cs, ysfRfId := id } := by
  simp only [assignYsfTalker]
  generalize (if callsign10ToDmrid _ ≤ 0 then _ else _) = id
  split
  next => exact ⟨_, _, rfl⟩
  next => split <;> exact ⟨_, _, rfl⟩

theorem tryYsfCsd_eq (e : Env) (b : Bridge) (rf : List UInt8) :
    ∃ cs id, (b.tryYsfCsd e rf).2 = { b with netSrc := cs, ysfRfId := id } := by
  rw [tryYsfCsd]
  split
  next => exact ⟨_, _, rfl⟩
  next => exact assignYsfTalker_eq e b _

theorem resolveYsfHeader_eq (e : Env) (b : Bridge) (pkt : List UInt8) :
    ∃ cs id, (b.resolveYsfHeader e pkt).2 = { b with netSrc := cs, ysfRfId := id } := by
  obtain ⟨cs, id, h⟩ := tryYsfCsd_eq e b (ysfModeconvChunk pkt)
  simp only [resolveYsfHeader]
  split
  next => exact ⟨cs, id, h⟩
  next =>
    obtain ⟨cs', id', h'⟩ := tryYsfCsd_eq e (b.tryYsfCsd e (ysfModeconvChunk pkt)).2
      ((pkt.drop ysfFichOffsetNet).take 120)
    rw [h] at h' ⊢
    split
    next => exact ⟨cs', id', h'⟩
    next =>
      obtain ⟨cs'', id'', h''⟩ := assignYsfTalker_eq e _ (dbgLabel10 (pkt.drop 14))
      exact ⟨cs'', id'', h''.trans (by rw [h'])⟩

theorem assignYsfTalker_ok (e : Env) (b : Bridge) (src : List UInt8) :
    (b.assignYsfTalker e src).1 = true := by
  simp only [assignYsfTalker]
  generalize (if callsign10ToDmrid _ ≤ 0 then _ else _) = id
  split
  next => rfl
  next => rw [if_pos e.cfg.dmrid_pos]

/-- With a bridge id configured no header is refused for want of a talker. -/
theorem resolveYsfHeader_ok (e : Env) (b : Bridge) (pkt : List UInt8) :
    (b.resolveYsfHeader e pkt).1 = true := by
  simp only [resolveYsfHeader]
  split
  next h => exact h
  next =>
    split
    next h => exact h
    next => exact assignYsfTalker_ok e _ _

theorem ysfTalkerReady_eq (e : Env) (b : Bridge) : b.ysfTalkerReady e = true := by
  rw [ysfTalkerReady, decide_eq_true e.cfg.dmrid_pos, Bool.or_true]

/-- What the connect PTT code does to a bridge: the converter and the call stay as they are, and
the trace grows by its own packets and marks only. -/
structure PttStep (b b' : Bridge) : Prop where
  conv : b'.conv = b.conv
  call : b'.callActive = b.callActive
  trace : ∃ as, b'.trace = b.trace ++ as ∧ ∀ a ∈ as, a.isPtt = true

namespace PttStep

variable {e : Env} {b b' b'' : Bridge}

theorem refl (b : Bridge) : PttStep b b :=
  ⟨rfl, rfl, [], (List.append_nil _).symm, List.forall_mem_nil _⟩

theorem trans (h : PttStep b b') (h' : PttStep b' b'') : PttStep b b'' := by
  obtain ⟨as, ht, ha⟩ := h.trace
  obtain ⟨as', ht', ha'⟩ := h'.trace
  refine ⟨h'.conv.trans h.conv, h'.call.trans h.call, as ++ as', ?_, ?_⟩
  · rw [ht', ht, List.append_assoc]
  · exact List.forall_mem_append.2 ⟨ha, ha'⟩

theorem voiceFrames (h : PttStep b b') (n : Nat) :
    PttStep b { b' with connectPttVoiceFrames := n } :=
  ⟨h.conv, h.call, h.trace⟩

theorem sendDmrd (e : Env) (b : Bridge) (ft : UInt8) (v : Option (List UInt8)) :
    PttStep b (b.sendDmrd e .ptt ft v) := by
  obtain ⟨p, _, _, _, hb⟩ := sendDmrd_eq e b .ptt ft v
  rw [hb]
  exact ⟨rfl, rfl, [_], rfl, List.forall_mem_singleton.2 rfl⟩

theorem beginStream (e : Env) (b : Bridge) (tg : Int) (clearing : Bool) :
    PttStep b (b.connectPttBeginStream e tg clearing) :=
  ⟨rfl, rfl, [_], rfl, List.forall_mem_singleton.2 rfl⟩

theorem drop (b : Bridge) : PttStep b (b.log (.stop .ptt)).connectPttOff :=
  ⟨rfl, rfl, [_], rfl, List.forall_mem_singleton.2 rfl⟩

theorem pad (e : Env) (n : Nat) (b : Bridge) : PttStep b (connectPttPad e n b) := by
  induction n generalizing b with
  | zero => exact refl b
  | succ n ih =>
    rw [connectPttPad]
    split
    next =>
      have hs := sendDmrd e b (padB15 b.connectPttVoiceFrames) (some dmrSilenceData)
      exact (hs.voiceFrames _).trans (ih _)
    next => exact refl b

theorem finish (e : Env) (b : Bridge) : PttStep b (b.connectPttFinish e) := by
  have h := (pad e 6 b).trans (sendDmrd e _ vtermB15 (some dmrSilenceData))
  rw [connectPttFinish]
  split
  next => exact h.trans (beginStream e _ _ _)
  next => exact ⟨h.conv, h.call, h.trace⟩

theorem abort (e : Env) (b : Bridge) : PttStep b (b.abortConnectPtt e) := by
  rw [abortConnectPtt]
  split
  next => exact refl b
  next =>
    split
    next =>
      have h := finish e { b with connectPttClearing := false }
      exact ⟨h.conv, h.call, h.trace⟩
    next => exact drop b

theorem start (e : Env) (b : Bridge) : PttStep b (b.startConnectPtt e) := by
  rw [startConnectPtt]
  split
  next => exact refl b
  next =>
    split
    next => exact refl b
    next => split <;> exact beginStream e b _ _

theorem tock (h : PttStep b b') : PttStep b b'.tock := ⟨h.conv, h.call, h.trace⟩

theorem emit (e : Env) (b : Bridge) : PttStep b (b.emitConnectPtt e) := by
  rw [emitConnectPtt]
  split
  next => exact refl b
  next =>
    split
    next =>
      have h := (sendDmrd e b vheadB15 none).trans
        ((sendDmrd e _ vheadB15 none).trans (sendDmrd e _ vheadB15 none))
      exact ⟨h.conv, h.call, h.trace⟩
    next =>
      split
      next => exact (refl b).tock.trans (finish e _)
      next =>
        have h := sendDmrd e b.tock (voiceB15 b.connectPttVoiceFrames) (some dmrSilenceData)
        exact ((refl b).tock.trans h).voiceFrames _

theorem poll (e : Env) (b : Bridge) (connected : Bool) :
    PttStep b (b.pollConnectPtt e connected) := by
  rw [pollConnectPtt]
  have h1 : PttStep b (if connected && !b.dmrWasConnected then b.startConnectPtt e else b) := by
    split
    next => exact start e b
    next => exact refl b
  generalize (if connected && !b.dmrWasConnected then b.startConnectPtt e else b) = b1 at h1
  have h2 : PttStep b (if connected then b1 else (b1.log (.stop .ptt)).connectPttOff) := by
    split
    next => exact h1
    next => exact h1.trans (drop b1)
  generalize (if connected then b1 else (b1.log (.stop .ptt)).connectPttOff) = b2 at h2
  have h3 : PttStep b { b2 with dmrWasConnected := connected } := ⟨h2.conv, h2.call, h2.trace⟩
  simp only
  split
  next => exact h3
  next =>
    split
    next => exact h3.tock.trans (emit e _)
    next => exact h3.tock

end PttStep

theorem emitPad_frame (e : Env) (n : Nat) (b : Bridge) :
    ∃ ps : List Dmrd, (emitPad e n b).trace = b.trace ++ ps.map (.dmrd .call) ∧
      (emitPad e n b).callActive = b.callActive := by
  induction n generalizing b with
  | zero => exact ⟨[], (List.append_nil _).symm, rfl⟩
  | succ n ih =>
    rw [emitPad]
    split
    next =>
      obtain ⟨p, _, _, _, hb⟩ := sendDmrd_eq e b .call (padB15 b.dmrTxFrames) (some dmrSilenceData)
      obtain ⟨ps, h1, h2⟩ := ih { b.sendDmrd e .call (padB15 b.dmrTxFrames) (some dmrSilenceData) with
        dmrTxFrames := (b.sendDmrd e .call (padB15 b.dmrTxFrames)
          (some dmrSilenceData)).dmrTxFrames + 1 }
      refine ⟨p :: ps, h1.trans ?_, h2.trans ?_⟩
      · simp only [hb, log, tock, List.append_assoc, List.singleton_append, List.map_cons]
      · rw [hb]
        rfl
    next => exact ⟨[], (List.append_nil _).symm, rfl⟩

/-- An EOT from the DMR queue goes out as the VTERM of the call, and ends it. -/
theorem emitDmrFromConv_eot (e : Env) (b : Bridge) (h : b.conv.getDmr.1 = tagEot) :
    (b.emitDmrFromConv e).callActive = false ∧ (b.emitDmrFromConv e).conv = .reset ∧
      ∃ (ps : List Dmrd) (p : Dmrd), (b.emitDmrFromConv e).trace =
          b.trace ++ ps.map (.dmrd .call) ++ [.dmrd .call p, .stop .call, .convReset] ∧
        p.isVterm = true := by
  rw [emitDmrFromConv]
  generalize b.conv.getDmr = r at h ⊢
  obtain ⟨tag, voice, conv⟩ := r
  obtain rfl : tag = tagEot := h
  simp only [if_neg (show tagEot ≠ tagNoData by decide),
    if_neg (show tagEot ≠ tagHeader by decide), if_true]
  obtain ⟨ps, ha, _⟩ := emitPad_frame e 6 { b with conv := conv }
  generalize emitPad e 6 { b with conv := conv } = b1 at ha
  obtain ⟨p, hb15, _, _, hb⟩ := sendDmrd_eq e b1 .call vtermB15 (some voice)
  refine ⟨rfl, rfl, ps, p, ?_, (Dmrd.isVterm_of_b15 hb15).2.1⟩
  simp only [hb, resetCall, modeconvReset, log, tock, ha, List.append_assoc, List.cons_append,
    List.nil_append]

/-- An EOT from the YSF queue goes out as a TERMINATOR, and ends the call. -/
theorem emitYsfFromConv_eot (e : Env) (b : Bridge) (h : b.conv.getYsf.1 = tagEot) :
    (b.emitYsfFromConv e).callActive = false ∧ (b.emitYsfFromConv e).conv = .reset ∧
      ∃ f, (b.emitYsfFromConv e).trace = b.trace ++ [.ysfd f, .stop .call, .convReset] ∧
        f.fi = ysfFiTerminator := by
  rw [emitYsfFromConv]
  generalize b.conv.getYsf = r at h ⊢
  obtain ⟨tag, payload, conv⟩ := r
  obtain rfl : tag = tagEot := h
  simp only [if_neg (show tagEot ≠ tagNoData by decide),
    if_neg (show tagEot ≠ tagHeader by decide), if_true]
  generalize hb1 : ({ b with conv := conv } : Bridge) = b1
  have ht : b1.trace = b.trace := by
    rw [← hb1]
  rw [← ht]
  simp only [resetCall, modeconvReset, sendYsfd, log, tock, List.append_assoc, List.cons_append,
    List.nil_append]
  exact ⟨trivial, trivial, _, rfl, rfl⟩

theorem emitDmrFromConv_other (e : Env) (b : Bridge) (h : b.conv.getDmr.1 ≠ tagEot) :
    (b.emitDmrFromConv e).callActive = b.callActive ∧
      (b.emitDmrFromConv e).conv = b.conv.getDmr.2.2 ∧
      ∃ ps : List Dmrd, (b.emitDmrFromConv e).trace = b.trace ++ ps.map (.dmrd .call) ∧
        (b.conv.getDmr.1 = tagNoData → ps = []) ∧ ∀ p ∈ ps, p.isVterm = false := by
  have hsend (b : Bridge) (ft : UInt8) (v : Option (List UInt8)) :
      (b.sendDmrd e .call ft v).callActive = b.callActive ∧
        (b.sendDmrd e .call ft v).conv = b.conv ∧
        ∃ p, p.b15 = ft ∧ (b.sendDmrd e .call ft v).trace = b.trace ++ [.dmrd .call p] := by
    obtain ⟨p, hp, _, _, hb⟩ := sendDmrd_eq e b .call ft v
    rw [hb]
    exact ⟨rfl, rfl, p, hp, rfl⟩
  rw [emitDmrFromConv]
  generalize b.conv.getDmr = r at h ⊢
  obtain ⟨tag, voice, conv⟩ := r
  simp only
  split
  next => exact ⟨rfl, rfl, [], (List.append_nil _).symm, fun _ => rfl, List.forall_mem_nil _⟩
  next hn =>
    split
    next =>
      obtain ⟨h1, h2, p, hv, hp⟩ := hsend { b with conv := conv } vheadB15 none
      obtain ⟨h1', h2', p', hv', hp'⟩ := hsend
        (sendDmrd e { b with conv := conv } .call vheadB15 none) vheadB15 none
      obtain ⟨h1'', h2'', p'', hv'', hp''⟩ := hsend
        (sendDmrd e (sendDmrd e { b with conv := conv } .call vheadB15 none) .call vheadB15 none)
        vheadB15 none
      refine ⟨h1''.trans (h1'.trans h1), h2''.trans (h2'.trans h2), [p, p', p''], ?_,
        fun ht => absurd ht hn, ?_⟩
      · refine hp''.trans ?_
        rw [hp', hp]
        simp only [List.append_assoc, List.cons_append, List.nil_append, List.map_cons,
          List.map_nil]
      · simp only [List.mem_cons, List.not_mem_nil, or_false, forall_eq_or_imp, forall_eq]
        exact ⟨(Dmrd.isVhead_of_b15 hv).2.1, (Dmrd.isVhead_of_b15 hv').2.1,
          (Dmrd.isVhead_of_b15 hv'').2.1⟩
    next =>
      split
      next =>
        obtain ⟨h1, h2, p, hv, hp⟩ := hsend { b with conv := conv } (voiceB15 b.dmrTxFrames)
          (some voice)
        refine ⟨h1, h2, [p], hp, fun ht => absurd ht hn, ?_⟩
        exact List.forall_mem_singleton.2 (Dmrd.isVoice_of_b15 hv).2.1
      next => exact ⟨rfl, rfl, [], (List.append_nil _).symm, fun _ => rfl, List.forall_mem_nil _⟩

theorem emitYsfFromConv_other (e : Env) (b : Bridge) (h : b.conv.getYsf.1 ≠ tagEot) :
    (b.emitYsfFromConv e).callActive = b.callActive ∧
      (b.emitYsfFromConv e).conv = b.conv.getYsf.2.2 ∧
      ∃ fs : List Ysfd, (b.emitYsfFromConv e).trace = b.trace ++ fs.map .ysfd ∧
        (b.conv.getYsf.1 = tagNoData → fs = []) ∧
        (b.conv.getYsf.1 = tagHeader → ∃ f, fs = [f] ∧ f.fi = ysfFiHeader) := by
  rw [emitYsfFromConv]
  generalize b.conv.getYsf = r at h ⊢
  obtain ⟨tag, payload, conv⟩ := r
  simp only
  split
  next ht =>
    refine ⟨rfl, rfl, [], (List.append_nil _).symm, fun _ => rfl, fun hh => ?_⟩
    exact absurd (hh.symm.trans ht) (by decide)
  next hn =>
    split
    next => exact ⟨rfl, rfl, [_], rfl, fun ht => absurd ht hn, fun _ => ⟨_, rfl, rfl⟩⟩
    next hh =>
      split
      next => exact ⟨rfl, rfl, [_], rfl, fun ht => absurd ht hn, fun ht => absurd ht hh⟩
      next => exact ⟨rfl, rfl, [], (List.append_nil _).symm, fun _ => rfl, fun ht => absurd ht hh⟩

/-- The packet makes the bridge begin a DMR→YSF call. -/
def beginsDmrCall (b : Bridge) (pkt : List UInt8) : Bool :=
  (dmrdIsHeader pkt &&
    (!b.callActive || (dmrdStream pkt != 0 && dmrdStream pkt != b.dmrStreamId))) ||
  (dmrdIsVoice pkt && !b.callActive)

theorem setDmrRxIdentity_eq (b : Bridge) (pkt : List UInt8) :
    ∃ src dst, b.setDmrRxIdentity pkt = { b with netSrc := src, netDst := dst } := ⟨_, _, rfl⟩

theorem not_packet (h : dmrdIsPacket pkt = false) :
    dmrdIsHeader pkt = false ∧ dmrdIsTerminator pkt = false ∧ dmrdIsVoice pkt = false := by
  simp only [dmrdIsHeader, dmrdIsTerminator, dmrdIsVoice, h, Bool.false_and, and_self]

/-- What an accepted YSFD asks the converter to queue. -/
def ysfdPut (e : Env) (pkt : List UInt8) : Option ConvOp :=
  (acceptedFich e pkt).bind fun f =>
    if f.fi = ysfFiHeader then some .putYsfHeader
    else if f.fi = ysfFiTerminator then some .putYsfEot
    else if f.fi = ysfFiCommunications then some (.putYsfPayload (ysfModeconvChunk pkt))
    else none

end Bridge

end AdnBridge
