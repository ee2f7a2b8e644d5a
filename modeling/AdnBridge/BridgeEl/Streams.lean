import AdnBridge.BridgeEl.Audio
import AdnBridge.Hbp.Stream

namespace AdnBridge
set_option autoImplicit true

/-- What decides the next DMR packet of the EchoLink bridge. -/
structure ElTxState where
  sender : Sender
  call : ElCall
  ending : Bool
  frames : Nat
  ptt : Bool
  phase : Nat
  pttFrames : Nat

namespace ElTxState

/-- A connect PTT or an EL→DMR call has the stream of the sender to itself; `m` are the packets
that have cut a stream short. -/
structure Inv (ids : Nat → UInt32) (m : List Dmrd) (s : ElTxState) : Prop where
  quiet : s.sender.Quiet ids
  announced : s.ptt = true → s.phase = 0 → s.sender.Announced ids ∧ s.pttFrames = 0
  pttOpen : s.ptt = true → s.phase ≠ 0 → s.sender.Open ids s.pttFrames
  callOpen : s.call = .elTx → s.sender.Open ids s.frames ∧ s.ptt = false
  idle : s.call = .idle → s.frames = 0
  ending : s.ending = true → s.call = .elTx
  cuts : s.sender.cuts = m

variable {ids : Nat → UInt32} {s : ElTxState} {p : Dmrd}

theorem Inv.ptt_off_of_call (h : s.Inv ids m) (hc : s.call = .elTx) : s.ptt ≠ true := by
  rw [(h.callOpen hc).2]
  decide

theorem Inv.call_ne (h : s.Inv ids m) (hp : s.ptt = true) : s.call ≠ .elTx :=
  fun hc => h.ptt_off_of_call hc hp

theorem Inv.startPtt (h : s.Inv ids m) (hc : s.call ≠ .elTx) :
    Inv ids m { s with sender := s.sender.draw ids, ptt := true, phase := 0, pttFrames := 0 } where
  quiet := h.quiet.draw.quiet
  announced := fun _ _ => ⟨h.quiet.draw, rfl⟩
  pttOpen := fun _ hn => absurd rfl hn
  callOpen := fun hc' => absurd hc' hc
  idle := h.idle
  ending := h.ending
  cuts := h.cuts

theorem Inv.pttOff (h : s.Inv ids m) :
    Inv ids m { s with ptt := false, phase := 0, pttFrames := 0 } where
  quiet := h.quiet
  announced := nofun
  pttOpen := nofun
  callOpen := fun hc => ⟨(h.callOpen hc).1, rfl⟩
  idle := h.idle
  ending := h.ending
  cuts := h.cuts

theorem Inv.pttVhead (h : s.Inv ids m) (hp : s.ptt = true) (h0 : s.phase = 0)
    (hs : p.stream = s.sender.sid) (hq : p.seq = s.sender.seq) (hv : p.isVhead = true) :
    Inv ids m { s with sender := s.sender.send p false, phase := 1 } := by
  obtain ⟨ha, hf⟩ := h.announced hp h0
  have ho := ha.vhead hs hq hv
  rw [← hf] at ho
  exact {
    quiet := ho.quiet
    announced := fun _ hn => nomatch hn
    pttOpen := fun _ _ => ho
    callOpen := fun hc => absurd hc (h.call_ne hp)
    idle := h.idle
    ending := h.ending
    cuts := (Sender.cuts_uncut ..).trans h.cuts }

theorem Inv.pttVoice (h : s.Inv ids m) (hp : s.ptt = true) (h0 : s.phase ≠ 0)
    (hs : p.stream = s.sender.sid) (hq : p.seq = s.sender.seq) (hv : p.isVoice = true)
    (hi : p.index = s.pttFrames % 6) :
    Inv ids m { s with sender := s.sender.send p false, pttFrames := s.pttFrames + 1 } := by
  have ho := (h.pttOpen hp h0).voice hs hq hv hi
  exact {
    quiet := ho.quiet
    announced := fun _ hn => absurd hn h0
    pttOpen := fun _ _ => ho
    callOpen := fun hc => absurd hc (h.call_ne hp)
    idle := h.idle
    ending := h.ending
    cuts := (Sender.cuts_uncut ..).trans h.cuts }

theorem Inv.pttVterm (h : s.Inv ids m) (hp : s.ptt = true) (h0 : s.phase ≠ 0)
    (hs : p.stream = s.sender.sid) (hq : p.seq = s.sender.seq) (hv : p.isVterm = true)
    (hd : 6 ∣ s.pttFrames) :
    Inv ids m { s with
      sender := s.sender.send p false, ptt := false, phase := 0, pttFrames := 0 } where
  quiet := (h.pttOpen hp h0).vterm hs hq hv fun _ => hd
  announced := nofun
  pttOpen := nofun
  callOpen := fun hc => absurd hc (h.call_ne hp)
  idle := h.idle
  ending := h.ending
  cuts := (Sender.cuts_uncut ..).trans h.cuts

theorem Inv.startCall (h : s.Inv ids m) (hp : s.ptt = false) (hs : p.stream = ids s.sender.draws)
    (hq : p.seq = 0) (hv : p.isVhead = true) :
    Inv ids m { s with
      sender := (s.sender.draw ids).send p false, call := .elTx, frames := 0 } := by
  have ho := h.quiet.draw.vhead hs hq hv
  have hp' : s.ptt ≠ true := by
    rw [hp]
    decide
  exact {
    quiet := ho.quiet
    announced := fun hn => absurd hn hp'
    pttOpen := fun hn => absurd hn hp'
    callOpen := fun _ => ⟨ho, hp⟩
    idle := nofun
    ending := fun _ => rfl
    cuts := (Sender.cuts_uncut ..).trans h.cuts }

theorem Inv.callVoice (h : s.Inv ids m) (hc : s.call = .elTx) (hs : p.stream = s.sender.sid)
    (hq : p.seq = s.sender.seq) (hv : p.isVoice = true) (hi : p.index = s.frames % 6) :
    Inv ids m { s with sender := s.sender.send p false, frames := s.frames + 1 } := by
  obtain ⟨ho, hp⟩ := h.callOpen hc
  have ho' := ho.voice hs hq hv hi
  exact {
    quiet := ho'.quiet
    announced := fun hn => absurd hn (h.ptt_off_of_call hc)
    pttOpen := fun hn => absurd hn (h.ptt_off_of_call hc)
    callOpen := fun _ => ⟨ho', hp⟩
    idle := fun hi => nomatch hc.symm.trans hi
    ending := h.ending
    cuts := (Sender.cuts_uncut ..).trans h.cuts }

theorem Inv.callVterm (h : s.Inv ids m) (hc : s.call = .elTx) (hs : p.stream = s.sender.sid)
    (hq : p.seq = s.sender.seq) (hv : p.isVterm = true) (hd : cut = false → 6 ∣ s.frames) :
    Inv ids (m ++ if cut then [p] else []) { s with
      sender := s.sender.send p cut, call := .idle, ending := false, frames := 0 } where
  quiet := (h.callOpen hc).1.vterm hs hq hv hd
  announced := fun hn => absurd hn (h.ptt_off_of_call hc)
  pttOpen := fun hn => absurd hn (h.ptt_off_of_call hc)
  callOpen := nofun
  idle := fun _ => rfl
  ending := nofun
  cuts := by rw [Sender.cuts_send, h.cuts]

theorem Inv.endCall (h : s.Inv ids m) (hc : s.call = .elTx) :
    Inv ids m { s with ending := true } where
  quiet := h.quiet
  announced := h.announced
  pttOpen := h.pttOpen
  callOpen := h.callOpen
  idle := h.idle
  ending := fun _ => hc
  cuts := h.cuts

/-- A reception comes and goes, and counts its bursts in the same counter. -/
theorem Inv.receive (h : s.Inv ids m) (hc : s.call ≠ .elTx) {c : ElCall} (hc' : c ≠ .elTx)
    (hf : c = .idle → n = 0) : Inv ids m { s with call := c, frames := n } where
  quiet := h.quiet
  announced := h.announced
  pttOpen := h.pttOpen
  callOpen := fun hn => absurd hn hc'
  idle := hf
  ending := fun hn => absurd (h.ending hn) hc
  cuts := h.cuts

end ElTxState

/-- The DMR packets of a trace, marked where a reception cuts the call. -/
def sentDmrd (acts : List ElAct) : List (Dmrd × Bool) :=
  acts.filterMap fun
    | .dmrd p cut => some (p, cut)
    | .ysfd _ => none

namespace BridgeEl

variable {e : ElEnv} {b b' : BridgeEl} {voc : Vocoder} {ft : UInt8} {v : Option (List UInt8)}

def txState (b : BridgeEl) : ElTxState where
  sender := ⟨sentDmrd b.trace, b.draws, b.dmrStreamId, b.dmrSeq⟩
  call := b.callActive
  ending := b.dmrEnding
  frames := b.dmrVoiceFrames
  ptt := b.connectPttActive
  phase := b.connectPttPhase
  pttFrames := b.connectPttVoiceFrames

def TxInv (e : ElEnv) (m : List Dmrd) (b : BridgeEl) : Prop := b.txState.Inv (streamId e) m

theorem TxInv.of_eq {s : ElTxState} (hb : b.txState = s) (h : s.Inv (streamId e) m) :
    b.TxInv e m := by
  rw [TxInv, hb]
  exact h

theorem sentDmrd_append (acts : List ElAct) (p : Dmrd) (cut : Bool) :
    sentDmrd (acts ++ [.dmrd p cut]) = sentDmrd acts ++ [(p, cut)] :=
  List.filterMap_append

theorem dmrid_not_le (e : ElEnv) (id : Int) : ¬(if id > 0 then id else e.cfg.dmrid) ≤ 0 := by
  have := e.cfg.dmrid_pos
  split <;> omega

/-- A packet goes out in every case, under the present id and sequence byte. -/
theorem sendDmrd_spec (e : ElEnv) (b : BridgeEl) (ft : UInt8) (v : Option (List UInt8))
    (cut : Bool) : ∃ p : Dmrd, p.b15 = ft ∧ p.stream = b.dmrStreamId ∧ p.seq = b.dmrSeq ∧
      b.sendDmrd e ft v cut =
        { b.tock.log (.dmrd p cut) with dmrSeq := b.dmrSeq + 1, lastDmrTx := b.clock.now } := by
  rw [sendDmrd]
  simp only [if_neg (dmrid_not_le e b.elRfId)]
  exact ⟨_, rfl, rfl, rfl, rfl⟩

theorem sendDmrd_txState (e : ElEnv) (b : BridgeEl) (ft : UInt8) (v : Option (List UInt8))
    (cut : Bool) : ∃ p : Dmrd, p.b15 = ft ∧ p.stream = b.dmrStreamId ∧ p.seq = b.dmrSeq ∧
      (b.sendDmrd e ft v cut).txState =
        { b.txState with sender := b.txState.sender.send p cut } := by
  obtain ⟨p, h1, h2, h3, hb⟩ := sendDmrd_spec e b ft v cut
  refine ⟨p, h1, h2, h3, ?_⟩
  rw [hb]
  simp only [txState, log, sentDmrd_append]
  rfl

theorem TxInv.openDmrCall (h : b.TxInv e m) (hp : b.connectPttActive = false) :
    (b.openDmrCall e).TxInv e m ∧ (b.openDmrCall e).callActive = .elTx ∧
      (b.openDmrCall e).dmrVoiceFrames = 0 := by
  rw [BridgeEl.openDmrCall, newStreamId]
  simp only
  generalize hb1 : ({ b with
    callActive := .elTx, draws := b.draws + 1, dmrStreamId := streamId e b.draws, dmrSeq := 0,
    dmrVoiceFrames := 0, conv := .reset } : BridgeEl) = b1
  obtain ⟨src, id, hr⟩ := resolveElTalker_eq e b1
  rw [hr]
  obtain ⟨p, hb15, hs, hq, hb⟩ :=
    sendDmrd_txState e { b1 with netSrc := src, elRfId := id } vheadB15 none false
  have ht : (({ b1 with netSrc := src, elRfId := id } : BridgeEl).sendDmrd e vheadB15 none
        false).txState =
      { b.txState with
        sender := (b.txState.sender.draw (streamId e)).send p false, call := .elTx,
        frames := 0 } := by
    rw [hb, ← hb1]
    rfl
  rw [← hb1] at hs hq
  refine ⟨.of_eq ht ?_, congrArg ElTxState.call ht, congrArg ElTxState.frames ht⟩
  exact ElTxState.Inv.startCall h hp hs hq (Dmrd.isVhead_of_b15 hb15).1

theorem TxInv.sendVoice (h : b.TxInv e m) (hc : b.callActive = .elTx)
    (hft : ft = voiceB15 b.dmrVoiceFrames) :
    { b.sendDmrd e ft v false with
      dmrVoiceFrames := (b.sendDmrd e ft v false).dmrVoiceFrames + 1 }.TxInv e m := by
  obtain ⟨p, hb15, hs, hq, hb⟩ := sendDmrd_txState e b ft v false
  obtain ⟨_, _, hv, hi⟩ := Dmrd.isVoice_of_b15 (hb15.trans hft)
  refine .of_eq ?_ (ElTxState.Inv.callVoice h hc hs hq hv hi)
  change { (b.sendDmrd e ft v false).txState with
    frames := (b.sendDmrd e ft v false).txState.frames + 1 } = _
  rw [hb]

theorem TxInv.emitDmrVoice (h : b.TxInv e m) (hp : b.connectPttActive = false)
    (hc : b.callActive ≠ .elRx) (voice33 : List UInt8) : (b.emitDmrVoice e voice33).TxInv e m := by
  have h1 : (if b.callActive = .idle then b.openDmrCall e else b).TxInv e m ∧
      (if b.callActive = .idle then b.openDmrCall e else b).callActive = .elTx ∧
      (if b.callActive = .idle then b.openDmrCall e else b).dmrVoiceFrames = b.dmrVoiceFrames := by
    cases hca : b.callActive with
    | idle =>
      obtain ⟨ho, hc, hf⟩ := h.openDmrCall hp
      exact ⟨ho, hc, hf.trans (ElTxState.Inv.idle h hca).symm⟩
    | elTx => exact ⟨h, hca, rfl⟩
    | elRx => exact absurd hca hc
  rw [BridgeEl.emitDmrVoice]
  generalize (if b.callActive = .idle then b.openDmrCall e else b) = b1 at h1
  obtain ⟨h1, hc1, hf⟩ := h1
  apply h1.sendVoice hc1
  rw [hf]

theorem TxInv.beginDmrEnd (h : b.TxInv e m) : b.beginDmrEnd.TxInv e m := by
  rw [BridgeEl.beginDmrEnd]
  split
  · exact h
  next hc =>
    rw [not_or, not_not] at hc
    exact ElTxState.Inv.endCall h hc.1

/-- A VTERM, at the end of a superframe or cutting the call, ends the call. -/
theorem TxInv.finishDmrEnd (h : b.TxInv e m) (cut : Bool) (hc : b.callActive = .elTx)
    (hd : cut = false → 6 ∣ b.dmrVoiceFrames) :
    ∃ p, ((b.sendDmrd e vtermB15 v cut).finishDmrEnd).TxInv e (m ++ if cut then [p] else []) := by
  obtain ⟨p, hb15, hs, hq, hb⟩ := sendDmrd_txState e b vtermB15 v cut
  refine ⟨p, .of_eq ?_ (ElTxState.Inv.callVterm h hc hs hq (Dmrd.isVterm_of_b15 hb15).2.1 hd)⟩
  change { (b.sendDmrd e vtermB15 v cut).txState with
    call := .idle, ending := false, frames := 0 } = _
  rw [hb]

theorem TxInv.paceDmrEnd (h : b.TxInv e m) : (b.paceDmrEnd e).TxInv e m := by
  have ht : b.tock.TxInv e m := h
  rw [BridgeEl.paceDmrEnd]
  split
  · exact h
  next hc =>
    rw [not_or, not_not] at hc
    split
    · exact h
    · split
      · exact ht.sendVoice hc.2 rfl
      next hn =>
        obtain ⟨p, hf⟩ := ht.finishDmrEnd false hc.2 fun _ =>
          Nat.dvd_of_mod_eq_zero (not_not.1 hn)
        rwa [if_neg (by decide), List.append_nil] at hf

/-- The call is cut, and its VTERM is marked so. -/
theorem TxInv.endDmrCall (h : b.TxInv e m) (hc : b.callActive = .elTx) :
    ∃ p, (b.endDmrCall e).TxInv e (m ++ [p]) ∧ (b.endDmrCall e).callActive = .idle := by
  rw [BridgeEl.endDmrCall, if_neg (fun hn => hn.1 hc)]
  simp only [if_pos hc]
  obtain ⟨p, hf⟩ := h.finishDmrEnd true (v := some dmrSilenceData) hc nofun
  exact ⟨p, hf, rfl⟩

theorem playAmbe_txState {calls : Nat} {voice33 : List UInt8}
    (h : b.playAmbe e voc calls voice33 = some b') : b'.txState = b.txState := by
  obtain ⟨el, rfl⟩ := playAmbe_eq h
  rfl

/-- A VHEAD comes while a call is being sent. -/
def Preempts (b : BridgeEl) : BridgeElEvent → Prop
  | .dmrd _ _ pkt => b.callActive = .elTx ∧ dmrdIsPacket pkt = true ∧ dmrdIsHeader pkt = true
  | _ => False

/-- A received packet cuts a call only as a VHEAD that preempts it. -/
theorem TxInv.onDmrd (h : b.TxInv e m) (hb : b.onDmrd e voc pkt = some b') (c : Clock) :
    ∃ m', b'.TxInv e m' ∧ (m' = m ∨ b.Preempts (.dmrd c voc pkt) ∧ ∃ p, m' = m ++ [p]) := by
  rw [BridgeEl.onDmrd] at hb
  split at hb
  · cases hb
    exact ⟨m, h, .inl rfl⟩
  · split at hb
    · cases hb
      exact ⟨m, h, .inl rfl⟩
    next hpkt =>
      have hpkt : dmrdIsPacket pkt = true := by simpa using hpkt
      split at hb
      next hhead =>
        simp only at hb
        split at hb
        · cases hb
          exact ⟨m, h, .inl rfl⟩
        · have h1 : ∃ m', (if b.callActive = .elTx then b.endDmrCall e else b).TxInv e m' ∧
              (if b.callActive = .elTx then b.endDmrCall e else b).callActive ≠ .elTx ∧
              (m' = m ∨ b.Preempts (.dmrd c voc pkt) ∧ ∃ p, m' = m ++ [p]) := by
            split
            next hc =>
              obtain ⟨p, he, hi⟩ := h.endDmrCall hc
              refine ⟨m ++ [p], he, ?_, .inr ⟨⟨hc, hpkt, hhead⟩, p, rfl⟩⟩
              rw [hi]
              decide
            next hc => exact ⟨m, h, hc, .inl rfl⟩
          generalize (if b.callActive = .elTx then b.endDmrCall e else b) = b1 at h1 hb
          obtain ⟨m', h1, hc1, hm⟩ := h1
          cases hb
          refine ⟨m', .of_eq ?_
            (ElTxState.Inv.receive (n := 0) h1 hc1 (c := .elRx) nofun nofun), hm⟩
          split <;> rfl
      · refine ⟨m, ?_, .inl rfl⟩
        split at hb
        · split at hb
          next hr =>
            cases hb
            refine ElTxState.Inv.receive (n := 0) (c := .idle) h ?_ nofun fun _ => rfl
            change b.callActive ≠ .elTx
            rw [hr]
            decide
          next =>
            cases hb
            exact h
        · split at hb
          next =>
            cases hb
            exact h
          next hr =>
            rw [not_not] at hr
            refine .of_eq (playAmbe_txState hb)
              (ElTxState.Inv.receive (n := b.dmrVoiceFrames + 1) h ?_ ?_ ?_)
            · change b.callActive ≠ .elTx
              rw [hr]
              decide
            · change b.callActive ≠ .elTx
              rw [hr]
              decide
            · intro hi
              exact nomatch hr.symm.trans hi

theorem TxInv.connectPttBeginStream (h : b.TxInv e m) (hc : b.callActive ≠ .elTx) (tg : Int)
    (clearing : Bool) : (b.connectPttBeginStream e tg clearing).TxInv e m :=
  ElTxState.Inv.startPtt h hc

theorem TxInv.connectPttOff (h : b.TxInv e m) : b.connectPttOff.TxInv e m :=
  ElTxState.Inv.pttOff h

theorem TxInv.sendPttVoice (h : b.TxInv e m) (hp : b.connectPttActive = true)
    (h0 : b.connectPttPhase ≠ 0) (hft : ft = voiceB15 b.connectPttVoiceFrames) :
    { b.sendDmrd e ft v false with
      connectPttVoiceFrames := (b.sendDmrd e ft v false).connectPttVoiceFrames + 1 }.TxInv e m := by
  obtain ⟨p, hb15, hs, hq, hb⟩ := sendDmrd_txState e b ft v false
  obtain ⟨_, _, hv, hi⟩ := Dmrd.isVoice_of_b15 (hb15.trans hft)
  refine .of_eq ?_ (ElTxState.Inv.pttVoice h hp h0 hs hq hv hi)
  change { (b.sendDmrd e ft v false).txState with
    pttFrames := (b.sendDmrd e ft v false).txState.pttFrames + 1 } = _
  rw [hb]

/-- The padding keeps the stream open, and reaches the end of the superframe when there are turns
enough. -/
theorem TxInv.connectPttPad (h : b.TxInv e m) (hp : b.connectPttActive = true)
    (h0 : b.connectPttPhase ≠ 0) (n : Nat)
    (hn : b.connectPttVoiceFrames % 6 = 0 ∨ 6 ≤ b.connectPttVoiceFrames % 6 + n) :
    (connectPttPad e n b).TxInv e m ∧ (connectPttPad e n b).connectPttActive = true ∧
      (connectPttPad e n b).connectPttPhase ≠ 0 ∧
      6 ∣ (connectPttPad e n b).connectPttVoiceFrames := by
  induction n generalizing b with
  | zero =>
    refine ⟨h, hp, h0, ?_⟩
    change 6 ∣ b.connectPttVoiceFrames
    omega
  | succ n ih =>
    rw [BridgeEl.connectPttPad]
    split
    next hne =>
      have h1 := h.sendPttVoice (v := some dmrSilenceData) hp h0 (padB15_eq hne)
      obtain ⟨p, _, _, _, hb⟩ :=
        sendDmrd_txState e b (padB15 b.connectPttVoiceFrames) (some dmrSilenceData) false
      have hp1 := (congrArg ElTxState.ptt hb).trans hp
      have hph : _ = b.connectPttPhase := congrArg ElTxState.phase hb
      have hf : _ = b.connectPttVoiceFrames := congrArg ElTxState.pttFrames hb
      apply ih h1 hp1
      · change (b.sendDmrd e _ _ _).txState.phase ≠ 0
        rw [hph]
        exact h0
      · change ((b.sendDmrd e _ _ _).txState.pttFrames + 1) % 6 = 0 ∨
          6 ≤ ((b.sendDmrd e _ _ _).txState.pttFrames + 1) % 6 + n
        rw [hf]
        omega
    next hne => exact ⟨h, hp, h0, Nat.dvd_of_mod_eq_zero (not_not.1 hne)⟩

theorem TxInv.connectPttFinish (h : b.TxInv e m) (hp : b.connectPttActive = true)
    (h0 : b.connectPttPhase ≠ 0) : (b.connectPttFinish e).TxInv e m := by
  obtain ⟨h1, hp1, h01, hd⟩ := h.connectPttPad hp h0 6 (.inr (Nat.le_add_left _ _))
  rw [BridgeEl.connectPttFinish]
  generalize BridgeEl.connectPttPad e 6 b = b1 at h1 hp1 h01 hd
  obtain ⟨p, hb15, hs, hq, hb⟩ := sendDmrd_txState e b1 vtermB15 (some dmrSilenceData) false
  have h2 : (b1.sendDmrd e vtermB15 (some dmrSilenceData) false).connectPttOff.TxInv e m := by
    refine .of_eq ?_
      (ElTxState.Inv.pttVterm h1 hp1 h01 hs hq (Dmrd.isVterm_of_b15 hb15).2.1 hd)
    change { (b1.sendDmrd e vtermB15 (some dmrSilenceData) false).txState with
      ptt := false, phase := 0, pttFrames := 0 } = _
    rw [hb]
  have hc : (b1.sendDmrd e vtermB15 (some dmrSilenceData) false).callActive ≠ .elTx := by
    have hc1 : _ = b1.callActive := congrArg ElTxState.call hb
    change (b1.sendDmrd e vtermB15 (some dmrSilenceData) false).txState.call ≠ .elTx
    rw [hc1]
    exact ElTxState.Inv.call_ne h1 hp1
  split
  · exact h2.connectPttBeginStream hc _ _
  · exact h2

theorem TxInv.startConnectPtt (h : b.TxInv e m) : (b.startConnectPtt e).TxInv e m := by
  rw [BridgeEl.startConnectPtt]
  split
  · exact h
  next hi =>
    rw [not_or, not_not] at hi
    have hc : b.callActive ≠ .elTx := by
      rw [hi.1]
      decide
    split
    · exact h
    · split
      · exact h.connectPttBeginStream hc _ _
      · exact h.connectPttBeginStream hc _ _

theorem TxInv.emitConnectPtt (h : b.TxInv e m) : (b.emitConnectPtt e).TxInv e m := by
  have ht : b.tock.TxInv e m := h
  rw [BridgeEl.emitConnectPtt]
  split
  · exact h
  next hp =>
    have hp : b.connectPttActive = true := by simpa using hp
    split
    next h0 =>
      obtain ⟨p, hb15, hs, hq, hb⟩ := sendDmrd_txState e b vheadB15 none false
      refine .of_eq ?_ (ElTxState.Inv.pttVhead h hp h0 hs hq (Dmrd.isVhead_of_b15 hb15).1)
      change { (b.sendDmrd e vheadB15 none false).txState with phase := 1 } = _
      rw [hb]
    next h0 =>
      split
      · exact ht.connectPttFinish hp h0
      · exact ht.sendPttVoice hp h0 rfl

theorem TxInv.pollConnectPtt (h : b.TxInv e m) (connected : Bool) :
    (b.pollConnectPtt e connected).TxInv e m := by
  rw [BridgeEl.pollConnectPtt]
  have h1 : (if connected ∧ !b.dmrWasConnected then b.startConnectPtt e else b).TxInv e m := by
    split
    · exact h.startConnectPtt
    · exact h
  generalize (if connected ∧ !b.dmrWasConnected then b.startConnectPtt e else b) = b1 at h1
  have h2 : (if connected then b1 else b1.connectPttOff).TxInv e m := by
    split
    · exact h1
    · exact h1.connectPttOff
  generalize (if connected then b1 else b1.connectPttOff) = b2 at h2
  have h3 : { b2 with dmrWasConnected := connected }.TxInv e m := h2
  simp only
  split
  · exact h3
  · split
    · exact TxInv.emitConnectPtt (b := tock { b2 with dmrWasConnected := connected }) h3
    · exact h3

theorem TxInv.paceDmrTx (h : b.TxInv e m) : (b.paceDmrTx e).TxInv e m := by
  rw [BridgeEl.paceDmrTx]
  split
  · exact h
  next hn =>
    rw [not_or, not_or] at hn
    obtain ⟨hc, hp, _⟩ := hn
    split
    · exact h
    · have h1 : ∃ c, (if b.callActive = .elTx then b.tock else b) = { b with clock := c } := by
        split
        · exact ⟨b.clock.next, rfl⟩
        · exact ⟨b.clock, rfl⟩
      obtain ⟨c, hc1⟩ := h1
      rw [hc1]
      simp only
      generalize b.conv.getDmr = r
      obtain ⟨tag, voice33, conv⟩ := r
      simp only
      split
      · exact TxInv.emitDmrVoice (b := { b with clock := c, conv := conv }) h
          (Bool.eq_false_of_not_eq_true hp) hc voice33
      · exact h

theorem TxInv.hangElTx (hm : e.cfg.mode = .echolinkDmr) (h : b.TxInv e m) :
    (b.hangElTx e).TxInv e m := by
  simp only [BridgeEl.hangElTx, hm]
  split
  · exact h
  · split
    · exact TxInv.beginDmrEnd (b := b.tock) h
    · exact h

theorem TxInv.hangElRx (hm : e.cfg.mode = .echolinkDmr) (h : b.TxInv e m) :
    (b.hangElRx e).TxInv e m := by
  simp only [BridgeEl.hangElRx, hm]
  split
  · exact h
  next hr =>
    rw [not_not] at hr
    split
    · refine ElTxState.Inv.receive (n := 0) (c := .idle) h ?_ nofun fun _ => rfl
      change b.callActive ≠ .elTx
      rw [hr]
      decide
    · exact h

theorem TxInv.tick (hm : e.cfg.mode = .echolinkDmr) (h : b.TxInv e m) (dmrUp : Bool) :
    (b.tick e dmrUp).TxInv e m := by
  have h1 : (b.paceTx e dmrUp).TxInv e m := by
    simp only [paceTx, hm]
    split
    · exact (h.pollConnectPtt dmrUp).paceDmrEnd
    · exact (h.pollConnectPtt dmrUp).paceDmrTx
  exact (h1.hangElTx hm).hangElRx hm

theorem TxInv.takeDmrAmbe (h : b.TxInv e m) (ambe : List UInt8) :
    (b.takeDmrAmbe e ambe).TxInv e m := by
  rw [BridgeEl.takeDmrAmbe]
  simp only
  split
  · exact h
  · obtain ⟨conv, hc⟩ := foldl_modeconv_eq e .putAmbe7 (b.elAmbe ++ [ambe])
      { b with elAmbe := b.elAmbe ++ [ambe] }
    rw [hc]
    exact h

theorem TxInv.processElAudio (h : b.TxInv e m) (voc : Vocoder) :
    (b.processElAudio e voc).TxInv e m := by
  rw [BridgeEl.processElAudio]
  split
  · exact h
  · split
    · exact h
    · apply elLoop_invariant (I := TxInv e m)
      · intro b el acc c speech run hb
        exact hb
      · intro b hb
        exact hb
      · intro ambe b hb
        exact hb.takeDmrAmbe ambe
      · exact h

theorem TxInv.step (hm : e.cfg.mode = .echolinkDmr) (h : b.TxInv e m) (ev : BridgeElEvent)
    (hb : b.step e ev = some b') :
    ∃ m', b'.TxInv e m' ∧ (m' = m ∨ b.Preempts ev ∧ ∃ p, m' = m ++ [p]) := by
  cases ev with
  | audio c voc =>
    simp only [BridgeEl.step, hm, Option.some.injEq] at hb
    rw [← hb]
    exact ⟨m, TxInv.processElAudio (b := { b with clock := c }) h voc, .inl rfl⟩
  | dmrd c voc pkt => exact TxInv.onDmrd (b := { b with clock := c }) h hb c
  | ysfd c voc pkt =>
    have hne : e.cfg.mode ≠ .echolinkYsf := by
      rw [hm]
      decide
    rw [BridgeEl.step, BridgeEl.onYsfd, if_pos hne] at hb
    cases hb
    exact ⟨m, h, .inl rfl⟩
  | tick c dmrUp =>
    cases hb
    exact ⟨m, TxInv.tick (b := { b with clock := c }) hm h dmrUp, .inl rfl⟩
  | rtp | identity | link | aliases =>
    cases hb
    exact ⟨m, h, .inl rfl⟩

theorem init_txInv (e : ElEnv) (c : Clock) (db : AliasDb) (el : PeerEl) :
    (init c db el).TxInv e [] where
  quiet := Sender.quiet_empty 0 0
  announced := nofun
  pttOpen := nofun
  callOpen := nofun
  idle := fun _ => rfl
  ending := nofun
  cuts := rfl

theorem txInv_run {c : Clock} {db : AliasDb} {el : PeerEl} (hm : e.cfg.mode = .echolinkDmr)
    (hr : (machine e c db el).run evs = some b) : ∃ m, b.TxInv e m :=
  Machine.run_invariant (M := machine e c db el) (I := fun b => ∃ m, b.TxInv e m)
    (fun _ ev _ h hs => by
      obtain ⟨m, h⟩ := h
      obtain ⟨m', h, -⟩ := h.step hm ev hs
      exact ⟨m', h⟩)
    ⟨[], init_txInv e c db el⟩ hr

/-- As long as no drawn stream id repeats, the DMR packets sent form well-formed streams. -/
def StreamsWellFormed (e : ElEnv) (b : BridgeEl) : Prop :=
  ((List.range b.draws).map (streamId e)).Nodup → WellGrouped (sentDmrd b.trace)

/-- The packets marked to cut a stream short. -/
def cuts (b : BridgeEl) : List Dmrd := ((sentDmrd b.trace).filter fun p => p.2).map fun p => p.1

/-- A step marks no packet, or one, when a received VHEAD preempts the call. -/
def CutsByVhead (b : BridgeEl) (ev : BridgeElEvent) (b' : BridgeEl) : Prop :=
  b'.cuts = b.cuts ∨ b.Preempts ev ∧ ∃ p, b'.cuts = b.cuts ++ [p]

/-- In every run of the EchoLink–DMR bridge, the packets sent form well-formed streams, and only a
received VHEAD cuts one short. -/
theorem streamsWellFormed_run {c : Clock} {db : AliasDb} {el : PeerEl}
    (hm : e.cfg.mode = .echolinkDmr) (hr : (machine e c db el).run evs = some b) :
    b.StreamsWellFormed e ∧
      ∀ pre ev post b1 b2, evs = pre ++ ev :: post → (machine e c db el).run pre = some b1 →
        b1.step e ev = some b2 → CutsByVhead b1 ev b2 := by
  constructor
  · obtain ⟨m, h⟩ := txInv_run hm hr
    intro hn
    obtain ⟨ss, hd⟩ := ElTxState.Inv.quiet h
    exact hd.wellGrouped hn
  · intro pre ev post b1 b2 _ hpre hstep
    obtain ⟨m, h⟩ := txInv_run hm hpre
    obtain ⟨m', h', hm'⟩ := h.step hm ev hstep
    have hc : b1.cuts = m := ElTxState.Inv.cuts h
    have hc' : b2.cuts = m' := ElTxState.Inv.cuts h'
    rw [CutsByVhead, hc, hc']
    exact hm'

/-- A connect PTT, and a call that a received VHEAD cuts after its first burst. -/
theorem streamsWellFormed_run_sample : ∃ b1 b2, (sampleMachine .echolinkDmr).run
    [elTickAt 1000, elTickAt 1100, elTickAt 1700, rtpOf 3, elAudioAt 2000, elTickAt 2100] =
      some b1 ∧
    b1.step (sampleElEnv .echolinkDmr) (elDmrdAt 2150 vheadB15) = some b2 ∧
    (sentDmrd b2.trace).length = 11 ∧ WellGrouped (sentDmrd b2.trace) ∧ b1.cuts.length = 0 ∧
    b2.cuts.length = 1 ∧ CutsByVhead b1 (elDmrdAt 2150 vheadB15) b2 := by
  have hr : (((sampleMachine .echolinkDmr).run
      [elTickAt 1000, elTickAt 1100, elTickAt 1700, rtpOf 3, elAudioAt 2000, elTickAt 2100]).bind
        fun b1 => (b1.step (sampleElEnv .echolinkDmr) (elDmrdAt 2150 vheadB15)).map fun b2 =>
          (b2.draws, (sentDmrd b2.trace).length, b1.cuts.length, b2.cuts.length)) =
      some (2, 11, 0, 1) := by
    decide +kernel
  obtain ⟨b1, hb1, hr⟩ := Option.bind_eq_some_iff.1 hr
  obtain ⟨b2, hb2, hs⟩ := Option.map_eq_some_iff.1 hr
  simp only [Prod.mk.injEq] at hs
  obtain ⟨hd, hl, hc1, hc2⟩ := hs
  have hb : (sampleMachine .echolinkDmr).run
      ([elTickAt 1000, elTickAt 1100, elTickAt 1700, rtpOf 3, elAudioAt 2000, elTickAt 2100] ++
        [elDmrdAt 2150 vheadB15]) = some b2 := by
    rw [Machine.run, Machine.runFrom_append]
    refine (congrArg (Option.bind · _) hb1).trans ?_
    exact Machine.runFrom_cons_some.2 ⟨b2, hb2, rfl⟩
  have h := streamsWellFormed_run rfl hb
  refine ⟨b1, b2, hb1, hb2, hl, h.1 ?_, hc1, hc2, h.2 _ _ [] b1 b2 rfl hb1 hb2⟩
  rw [hd]
  decide

end BridgeEl

end AdnBridge
