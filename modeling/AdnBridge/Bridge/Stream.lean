import AdnBridge.Bridge.Frame

namespace AdnBridge
set_option autoImplicit true

/-- What the bridge keeps about its own transmissions. -/
structure TxState where
  call : TxLog
  ptt : TxLog
  sid : UInt32
  seq : UInt8
  frames : Nat
  active : Bool
  pttActive : Bool
  pttFrames : Nat

namespace TxState

def send (s : TxState) (p : Dmrd) : Origin → TxState
  | .call => { s with
      call := s.call.send p
      seq := s.seq + 1
      frames := if p.isVoice then s.frames + 1 else s.frames }
  | .ptt => { s with
      ptt := s.ptt.send p
      seq := s.seq + 1
      pttFrames := if p.isVoice then s.pttFrames + 1 else s.pttFrames }

/-- The packets of an open transmission are accounted for by the id, the sequence byte and the
frame counter that the next packet will be sent with. -/
def Counts (s : TxState) (frames : Nat) (t : Tx) : Prop :=
  s.sid = t.sid ∧ s.seq = UInt8.ofNat t.packets.length ∧ frames = t.voices.length

structure Inv (s : TxState) : Prop where
  call : s.call.Intact
  ptt : s.ptt.Intact
  callOpen : ∀ t, s.call.current = some t →
    s.active = true ∧ s.pttActive = false ∧ s.Counts s.frames t
  pttOpen : ∀ t, s.ptt.current = some t → s.pttActive = true ∧ s.Counts s.pttFrames t

end TxState

section
variable {l : TxLog} {t t' : Tx} {s : TxState} {p : Dmrd}

theorem TxLog.send_current (h : (l.send p).current = some t') :
    ∃ t, l.current = some t ∧ t' = t.push p := by
  cases hc : l.current with
  | none =>
    rw [TxLog.send, hc] at h
    simp only [hc] at h
    cases h
  | some t =>
    rw [TxLog.send, hc] at h
    simp only at h
    split at h
    · cases h
    · cases h
      exact ⟨t, rfl, rfl⟩

theorem TxLog.send_vterm (h : p.isVterm = true) : (l.send p).current = none := by
  cases hc : l.current with
  | none => rw [TxLog.send, hc]; exact hc
  | some t =>
    rw [TxLog.send, hc]
    simp only [h, if_true]

namespace TxState

theorem Counts.intact_push (h : s.Counts n t) (ht : t.Intact) (hs : p.stream = s.sid)
    (hq : p.seq = s.seq) (hv : p.isVoice = true → p.index = n % 6) : (t.push p).Intact := by
  obtain ⟨h1, h2, h3⟩ := h
  refine ht.push (hs.trans h1) (hq.trans h2) fun hp => ?_
  rw [← h3]
  exact hv hp

theorem Counts.push (h : s.Counts n t) (p : Dmrd) :
    s.sid = t.sid ∧ s.seq + 1 = UInt8.ofNat (t.push p).packets.length ∧
      (if p.isVoice then n + 1 else n) = (t.push p).voices.length := by
  obtain ⟨h1, h2, h3⟩ := h
  refine ⟨h1, ?_, ?_⟩
  · rw [h2, Tx.push, List.length_append, List.length_singleton, UInt8.ofNat_add]
    rfl
  · cases hp : p.isVoice with
    | true =>
      rw [Tx.voices_push_voice t hp, List.length_append, List.length_singleton, h3]
      rfl
    | false =>
      rw [Tx.voices_push_data t hp, h3]
      rfl

theorem Inv.send_call (h : s.Inv) (hp : s.pttActive = false) (hs : p.stream = s.sid)
    (hq : p.seq = s.seq) (hv : p.isVoice = true → p.index = s.frames % 6) :
    (s.send p .call).Inv where
  call := h.call.send fun t ht =>
    (h.callOpen t ht).2.2.intact_push (h.call.current ht) hs hq hv
  ptt := h.ptt
  callOpen := by
    intro t' ht'
    obtain ⟨t, ht, rfl⟩ := TxLog.send_current ht'
    obtain ⟨ha, hpa, hc⟩ := h.callOpen t ht
    exact ⟨ha, hpa, hc.push p⟩
  pttOpen := by
    intro t ht
    exact absurd (h.pttOpen t ht).1 (by rw [hp]; decide)

theorem Inv.send_ptt (h : s.Inv) (hp : s.pttActive = true) (hs : p.stream = s.sid)
    (hq : p.seq = s.seq) (hv : p.isVoice = true → p.index = s.pttFrames % 6) :
    (s.send p .ptt).Inv where
  call := h.call
  ptt := h.ptt.send fun t ht => (h.pttOpen t ht).2.intact_push (h.ptt.current ht) hs hq hv
  callOpen := by
    intro t ht
    exact absurd (h.callOpen t ht).2.1 (by rw [hp]; decide)
  pttOpen := by
    intro t' ht'
    obtain ⟨t, ht, rfl⟩ := TxLog.send_current ht'
    obtain ⟨ha, hc⟩ := h.pttOpen t ht
    exact ⟨ha, hc.push p⟩

theorem Inv.start_ptt (h : s.Inv) (hc : s.call.current = none) (sid : UInt32) :
    Inv { s with
      ptt := ⟨s.ptt.close.closed, some ⟨sid, []⟩⟩, sid := sid, seq := 0, pttActive := true,
      pttFrames := 0 } where
  call := h.call
  ptt := h.ptt.start sid
  callOpen := fun t ht => by simp only [hc, reduceCtorEq] at ht
  pttOpen := fun t ht => by cases ht; exact ⟨rfl, rfl, rfl, rfl⟩

theorem Inv.stop_ptt (h : s.Inv) (hc : s.ptt.current = none) :
    Inv { s with pttActive := false, pttFrames := 0 } where
  call := h.call
  ptt := h.ptt
  callOpen := fun t ht => ⟨(h.callOpen t ht).1, rfl, (h.callOpen t ht).2.2⟩
  pttOpen := fun t ht => by simp only [hc, reduceCtorEq] at ht

theorem Inv.close_ptt (h : s.Inv) :
    Inv { s with ptt := s.ptt.close, pttActive := false, pttFrames := 0 } where
  call := h.call
  ptt := h.ptt.close
  callOpen := fun t ht => ⟨(h.callOpen t ht).1, rfl, (h.callOpen t ht).2.2⟩
  pttOpen := fun t ht => by cases ht

theorem Inv.start_call (h : s.Inv) (hp : s.pttActive = false) (sid : UInt32) :
    Inv { s with
      call := ⟨s.call.close.closed, some ⟨sid, []⟩⟩, sid := sid, seq := 0, frames := 0,
      active := true } where
  call := h.call.start sid
  ptt := h.ptt
  callOpen := fun t ht => by cases ht; exact ⟨rfl, hp, rfl, rfl, rfl⟩
  pttOpen := fun t ht => absurd (h.pttOpen t ht).1 (by rw [hp]; decide)

theorem Inv.close_call (h : s.Inv) :
    Inv { s with call := s.call.close, frames := 0, active := false } where
  call := h.call.close
  ptt := h.ptt
  callOpen := fun t ht => by cases ht
  pttOpen := h.pttOpen

/-- With nothing open, the id and the counters may change at will. -/
theorem Inv.idle (h : s.Inv) (hc : s.call.current = none) (hp : s.pttActive = false)
    (sid : UInt32) (seq : UInt8) (frames : Nat) (active : Bool) :
    Inv { s with sid := sid, seq := seq, frames := frames, active := active } where
  call := h.call
  ptt := h.ptt
  callOpen := fun t ht => by simp only [hc, reduceCtorEq] at ht
  pttOpen := fun t ht => absurd (h.pttOpen t ht).1 (by rw [hp]; decide)

end TxState

end

namespace Bridge

def txState (b : Bridge) : TxState where
  call := txLog .call b.trace
  ptt := txLog .ptt b.trace
  sid := b.dmrStreamId
  seq := b.dmrSeq
  frames := b.dmrTxFrames
  active := b.callActive
  pttActive := b.connectPttActive
  pttFrames := b.connectPttVoiceFrames

def TxInv (b : Bridge) : Prop := b.txState.Inv

variable {e : Env} {b : Bridge} {ft : UInt8} {v : Option (List UInt8)}

theorem TxInv.of_eq {s : TxState} (hb : b.txState = s) (h : s.Inv) : b.TxInv := by
  rw [TxInv, hb]
  exact h

theorem TxInv.congr {b' : Bridge} (h : b.TxInv) (hb : b'.txState = b.txState) : b'.TxInv :=
  .of_eq hb h

theorem TxInv.ysfVoice (h : b.TxInv) (n : Nat) : { b with ysfVoiceFrames := n }.TxInv :=
  h.congr rfl

theorem TxInv.dmrVoice (h : b.TxInv) (n : Nat) (d : UInt8) :
    { b with dmrVoiceFrames := n, dmrLastDtype := d }.TxInv :=
  h.congr rfl

theorem TxInv.sendData_call (h : b.TxInv) (hp : b.connectPttActive = false)
    (hft : ft = vheadB15 ∨ ft = vtermB15) : (b.sendDmrd e .call ft v).TxInv := by
  obtain ⟨p, hb15, hs, hq, hb⟩ := sendDmrd_eq e b .call ft v
  have hv : p.isVoice = false := by
    rcases hft with rfl | rfl
    · exact (Dmrd.isVhead_of_b15 hb15).2.2
    · exact (Dmrd.isVterm_of_b15 hb15).2.2
  have ht : (b.sendDmrd e .call ft v).txState = b.txState.send p .call := by
    simp only [hb, txState, log, txLog_append, TxLog.step, TxState.send, hv]
    rfl
  refine .of_eq ht (TxState.Inv.send_call h hp hs hq fun he => ?_)
  exact absurd (hv.symm.trans he) Bool.false_ne_true

theorem TxInv.sendVoice_call (h : b.TxInv) (hp : b.connectPttActive = false)
    (hft : ft = voiceB15 b.dmrTxFrames) :
    { b.sendDmrd e .call ft v with
      dmrTxFrames := (b.sendDmrd e .call ft v).dmrTxFrames + 1 }.TxInv := by
  obtain ⟨p, hb15, hs, hq, hb⟩ := sendDmrd_eq e b .call ft v
  obtain ⟨_, _, hv, hi⟩ := Dmrd.isVoice_of_b15 (hb15.trans hft)
  have ht : { b.sendDmrd e .call ft v with
      dmrTxFrames := (b.sendDmrd e .call ft v).dmrTxFrames + 1 }.txState =
        b.txState.send p .call := by
    simp only [hb, txState, log, txLog_append, TxLog.step, TxState.send, hv]
    rfl
  exact .of_eq ht <| TxState.Inv.send_call h hp hs hq fun _ => hi

theorem TxInv.sendData_ptt (h : b.TxInv) (hp : b.connectPttActive = true)
    (hft : ft = vheadB15 ∨ ft = vtermB15) : (b.sendDmrd e .ptt ft v).TxInv := by
  obtain ⟨p, hb15, hs, hq, hb⟩ := sendDmrd_eq e b .ptt ft v
  have hv : p.isVoice = false := by
    rcases hft with rfl | rfl
    · exact (Dmrd.isVhead_of_b15 hb15).2.2
    · exact (Dmrd.isVterm_of_b15 hb15).2.2
  have ht : (b.sendDmrd e .ptt ft v).txState = b.txState.send p .ptt := by
    simp only [hb, txState, log, txLog_append, TxLog.step, TxState.send, hv]
    rfl
  refine .of_eq ht (TxState.Inv.send_ptt h hp hs hq fun he => ?_)
  exact absurd (hv.symm.trans he) Bool.false_ne_true

theorem TxInv.sendVoice_ptt (h : b.TxInv) (hp : b.connectPttActive = true)
    (hft : ft = voiceB15 b.connectPttVoiceFrames) :
    { b.sendDmrd e .ptt ft v with
      connectPttVoiceFrames := (b.sendDmrd e .ptt ft v).connectPttVoiceFrames + 1 }.TxInv := by
  obtain ⟨p, hb15, hs, hq, hb⟩ := sendDmrd_eq e b .ptt ft v
  obtain ⟨_, _, hv, hi⟩ := Dmrd.isVoice_of_b15 (hb15.trans hft)
  have ht : { b.sendDmrd e .ptt ft v with
      connectPttVoiceFrames := (b.sendDmrd e .ptt ft v).connectPttVoiceFrames + 1 }.txState =
        b.txState.send p .ptt := by
    simp only [hb, txState, log, txLog_append, TxLog.step, TxState.send, hv]
    rfl
  exact .of_eq ht <| TxState.Inv.send_ptt h hp hs hq fun _ => hi

theorem sendDmrd_vterm_ptt (e : Env) (b : Bridge) (v : Option (List UInt8)) :
    (b.sendDmrd e .ptt vtermB15 v).txState.ptt.current = none := by
  obtain ⟨p, hb15, _, _, hb⟩ := sendDmrd_eq e b .ptt vtermB15 v
  simp only [hb, txState, log, txLog_append, TxLog.step, if_true]
  exact TxLog.send_vterm (Dmrd.isVterm_of_b15 hb15).2.1

theorem TxInv.call_closed (h : b.TxInv) (hp : b.connectPttActive = true) :
    b.txState.call.current = none :=
  Option.eq_none_iff_forall_ne_some.2 fun t ht =>
    absurd ((TxState.Inv.callOpen h t ht).2.1.symm.trans hp) Bool.false_ne_true

theorem TxInv.connectPttBeginStream (h : b.TxInv) (hc : b.txState.call.current = none)
    (tg : Int) (clearing : Bool) : (b.connectPttBeginStream e tg clearing).TxInv := by
  have ht : (b.connectPttBeginStream e tg clearing).txState =
      { b.txState with
        ptt := ⟨b.txState.ptt.close.closed, some ⟨e.rand b.draws ||| 1, []⟩⟩
        sid := e.rand b.draws ||| 1, seq := 0, pttActive := true, pttFrames := 0 } := by
    simp only [Bridge.connectPttBeginStream, newStreamId, txState, log, txLog_append, TxLog.step]
    rfl
  exact .of_eq ht <| TxState.Inv.start_ptt h hc _

theorem TxInv.connectPttOff (h : b.TxInv) (hc : b.txState.ptt.current = none) :
    b.connectPttOff.TxInv :=
  TxState.Inv.stop_ptt h hc

theorem TxInv.connectPttDrop (h : b.TxInv) :
    (b.log (.stop .ptt)).connectPttOff.TxInv := by
  have ht : (b.log (.stop .ptt)).connectPttOff.txState =
      { b.txState with ptt := b.txState.ptt.close, pttActive := false, pttFrames := 0 } := by
    simp only [Bridge.connectPttOff, txState, log, txLog_append, TxLog.step]
    rfl
  exact .of_eq ht <| TxState.Inv.close_ptt h

theorem TxInv.connectPttPad (h : b.TxInv) (hp : b.connectPttActive = true) (n : Nat) :
    (Bridge.connectPttPad e n b).TxInv ∧
      (Bridge.connectPttPad e n b).connectPttActive = true ∧
      (Bridge.connectPttPad e n b).connectPttClearing = b.connectPttClearing := by
  induction n generalizing b with
  | zero => exact ⟨h, hp, rfl⟩
  | succ n ih =>
    rw [Bridge.connectPttPad]
    split
    next hn =>
      obtain ⟨h1, h2, h3⟩ := ih (h.sendVoice_ptt (v := some dmrSilenceData) hp (padB15_eq hn))
        ((sendDmrd_connectPttActive _ _ _ _ _).trans hp)
      exact ⟨h1, h2, h3.trans (sendDmrd_connectPttClearing _ _ _ _ _)⟩
    next hn => exact ⟨h, hp, rfl⟩

theorem TxInv.connectPttFinish (h : b.TxInv) (hp : b.connectPttActive = true) :
    (b.connectPttFinish e).TxInv ∧
      (b.connectPttClearing = false → (b.connectPttFinish e).connectPttActive = false) := by
  obtain ⟨h1, h2, _⟩ := h.connectPttPad (e := e) hp 6
  have h3 := h1.sendData_ptt (e := e) (v := some dmrSilenceData) h2 (.inr rfl)
  have h4 := (sendDmrd_connectPttActive e (Bridge.connectPttPad e 6 b) .ptt vtermB15
    (some dmrSilenceData)).trans h2
  have h5 := sendDmrd_vterm_ptt e (Bridge.connectPttPad e 6 b) (some dmrSilenceData)
  rw [Bridge.connectPttFinish]
  split
  next hc =>
    refine ⟨h3.connectPttBeginStream (h3.call_closed h4) _ _, fun hf => ?_⟩
    rw [hf] at hc
    cases hc
  next hc => exact ⟨h3.connectPttOff h5, fun _ => rfl⟩

theorem TxInv.abortConnectPtt (h : b.TxInv) :
    (b.abortConnectPtt e).TxInv ∧ (b.abortConnectPtt e).connectPttActive = false := by
  rw [Bridge.abortConnectPtt]
  split
  next hp => exact ⟨h, by simpa using hp⟩
  next hp =>
    split
    next hph =>
      have hp' : b.connectPttActive = true := by simpa using hp
      have hclear : { b with connectPttClearing := false }.TxInv := h
      have hf := hclear.connectPttFinish (e := e) hp'
      exact ⟨hf.1, hf.2 rfl⟩
    next hph => exact ⟨h.connectPttDrop, rfl⟩

theorem TxInv.startConnectPtt (h : b.TxInv) : (b.startConnectPtt e).TxInv := by
  rw [Bridge.startConnectPtt]
  split
  next => exact h
  next ha =>
    have hc : b.txState.call.current = none := by
      refine Option.eq_none_iff_forall_ne_some.2 fun t ht => ha ?_
      rw [show b.callActive = true from (TxState.Inv.callOpen h t ht).1, Bool.true_or]
    split
    · exact h
    · split
      · exact h.connectPttBeginStream hc _ _
      · exact h.connectPttBeginStream hc _ _

theorem TxInv.tock (h : b.TxInv) : b.tock.TxInv := h

theorem TxInv.emitConnectPtt (h : b.TxInv) : (b.emitConnectPtt e).TxInv := by
  rw [Bridge.emitConnectPtt]
  split
  next => exact h
  next hp =>
    have hp : b.connectPttActive = true := by simpa using hp
    split
    next =>
      have h1 := h.sendData_ptt (e := e) (v := none) hp (.inl rfl)
      have h2 := h1.sendData_ptt (e := e) (v := none) (by simpa using hp) (.inl rfl)
      exact h2.sendData_ptt (e := e) (v := none) (by simpa using hp) (.inl rfl)
    next =>
      split
      next => exact (h.tock.connectPttFinish hp).1
      next => exact h.tock.sendVoice_ptt hp rfl

theorem TxInv.pollConnectPtt (h : b.TxInv) (connected : Bool) :
    (b.pollConnectPtt e connected).TxInv := by
  rw [Bridge.pollConnectPtt]
  have h1 : (if connected && !b.dmrWasConnected then b.startConnectPtt e else b).TxInv := by
    split
    · exact h.startConnectPtt
    · exact h
  generalize (if connected && !b.dmrWasConnected then b.startConnectPtt e else b) = b1 at h1
  have h2 : (if connected then b1 else (b1.log (.stop .ptt)).connectPttOff).TxInv := by
    split
    · exact h1
    · exact h1.connectPttDrop
  generalize (if connected then b1 else (b1.log (.stop .ptt)).connectPttOff) = b2 at h2
  have h3 : { b2 with dmrWasConnected := connected }.TxInv := h2
  simp only
  split
  · exact h3
  · split
    · exact h3.tock.emitConnectPtt
    · exact h3.tock

theorem modeconv_txState (e : Env) (b : Bridge) (o : ConvOp) :
    (b.modeconv e o).txState = b.txState := by
  simp only [modeconv, txState, log, txLog_append, TxLog.step]

theorem TxInv.resetCall (h : b.TxInv) : b.resetCall.TxInv := by
  have ht : b.resetCall.txState =
      { b.txState with call := b.txState.call.close, frames := 0, active := false } := by
    simp only [Bridge.resetCall, modeconvReset, txState, log, txLog_append, TxLog.step]
    rfl
  exact .of_eq ht <| TxState.Inv.close_call h

theorem TxInv.emitPad (h : b.TxInv) (hp : b.connectPttActive = false) (n : Nat) :
    (Bridge.emitPad e n b).TxInv ∧ (Bridge.emitPad e n b).connectPttActive = false := by
  induction n generalizing b with
  | zero => exact ⟨h, hp⟩
  | succ n ih =>
    rw [Bridge.emitPad]
    split
    next hn =>
      exact ih (h.sendVoice_call (v := some dmrSilenceData) hp (padB15_eq hn))
        ((sendDmrd_connectPttActive _ _ _ _ _).trans hp)
    next hn => exact ⟨h, hp⟩

theorem TxInv.emitDmrFromConv (h : b.TxInv) (hp : b.connectPttActive = false) :
    (b.emitDmrFromConv e).TxInv := by
  rw [Bridge.emitDmrFromConv]
  generalize b.conv.getDmr = r
  obtain ⟨tag, voice, conv⟩ := r
  have h0 : { b with conv := conv }.TxInv := h
  simp only
  split
  next => exact h0
  next =>
    split
    next =>
      have h1 := h0.sendData_call (e := e) (v := none) hp (.inl rfl)
      have h2 := h1.sendData_call (e := e) (v := none) (by simpa using hp) (.inl rfl)
      exact h2.sendData_call (e := e) (v := none) (by simpa using hp) (.inl rfl)
    next =>
      split
      next =>
        obtain ⟨h1, hp1⟩ := h0.emitPad (e := e) hp 6
        exact (h1.sendData_call hp1 (.inr rfl)).resetCall
      next =>
        split
        next => exact h0.sendVoice_call hp rfl
        next => exact h0

theorem TxInv.emitYsfFromConv (h : b.TxInv) : (b.emitYsfFromConv e).TxInv := by
  rw [Bridge.emitYsfFromConv]
  generalize b.conv.getYsf = r
  obtain ⟨tag, payload, conv⟩ := r
  have h0 : { b with conv := conv }.TxInv := h
  simp only
  have hy (b : Bridge) (fi fn net : UInt8) (v : Option (List UInt8)) (h : b.TxInv) :
      (b.sendYsfd e fi fn net v).TxInv := by
    refine .of_eq ?_ h
    simp only [sendYsfd, txState, log, txLog_append, TxLog.step]
    rfl
  split
  next => exact h0
  next =>
    split
    next => exact hy { b with conv := conv, ysfCnt := 0 } _ _ _ _ h0
    next =>
      split
      next => exact (hy _ _ _ _ _ h0).resetCall
      next =>
        split
        next => exact hy _ _ _ _ _ h0
        next => exact h0

theorem TxInv.paceDmr (h : b.TxInv) : (b.paceDmr e).TxInv := by
  rw [Bridge.paceDmr]
  split
  next => exact h
  next hp =>
    split
    next => exact h.tock.emitDmrFromConv (Bool.eq_false_of_not_eq_true hp)
    next => exact h.tock

theorem TxInv.paceYsf (h : b.TxInv) : (b.paceYsf e).TxInv := by
  rw [Bridge.paceYsf]
  split
  · exact h.tock.emitYsfFromConv
  · exact h.tock

theorem TxInv.tick (h : b.TxInv) (dmrUp ysfUp : Bool) : (b.tick e dmrUp ysfUp).TxInv := by
  have h1 := h.pollConnectPtt (e := e) dmrUp
  rw [Bridge.tick]
  split
  · exact h1
  · exact h1.paceDmr.paceYsf

theorem TxInv.startYsfCall (h : b.TxInv) (pkt : List UInt8) : (b.startYsfCall e pkt).TxInv := by
  obtain ⟨h1, hp⟩ := h.abortConnectPtt (e := e)
  rw [Bridge.startYsfCall]
  generalize b.abortConnectPtt e = b1 at h1 hp
  refine .of_eq (s := { b1.txState with
    call := ⟨b1.txState.call.close.closed, some ⟨e.rand b1.draws ||| 1, []⟩⟩
    sid := e.rand b1.draws ||| 1, seq := 0, frames := 0, active := true }) ?_
    (TxState.Inv.start_call h1 hp _)
  simp only [newStreamId, modeconvReset, txState, log, txLog_append, TxLog.step]
  rfl

theorem TxInv.onYsfd (h : b.TxInv) (pkt : List UInt8) : (b.onYsfd e pkt).TxInv := by
  rw [Bridge.onYsfd]
  cases acceptedFich e pkt with
  | none => exact h
  | some f =>
    simp only
    split
    next =>
      have h1 : (b.resolveYsfHeader e pkt).2.TxInv := by
        obtain ⟨cs, id, hr⟩ := resolveYsfHeader_eq e b pkt
        rw [hr]
        exact h.congr rfl
      split
      next => exact h1
      next =>
        refine .of_eq (modeconv_txState e _ _) ?_
        split
        next => exact h1
        next => exact h1.startYsfCall pkt
    next =>
      split
      next =>
        split
        next => exact .of_eq (modeconv_txState e _ _) h
        next => exact h
      next =>
        split
        next =>
          split
          next => exact h
          next =>
            have h1 : (if b.callActive then b
                else { b.startYsfCall e pkt with ysfVoiceFrames := 0 }).TxInv := by
              split
              next => exact h
              next => exact (h.startYsfCall pkt).congr rfl
            exact (h1.congr (modeconv_txState e _ _)).ysfVoice _
        next => exact h

/-- Nothing that the bridge originates on DMR is under way. -/
def NothingOpen (b : Bridge) : Prop :=
  b.connectPttActive = false ∧ (txLog .call b.trace).current = none

theorem beginDmrToYsf_txState (e : Env) (b : Bridge) (pkt : List UInt8) :
    ∃ sid, (b.beginDmrToYsf e pkt).txState =
      { b.txState with sid := sid, seq := 0, frames := 0, active := true } := by
  rw [beginDmrToYsf]
  simp only
  split
  next =>
    refine ⟨e.rand b.draws ||| 1, ?_⟩
    simp only [newStreamId, modeconvReset, setDmrRxIdentity, txState, log, txLog_append,
      TxLog.step]
  next =>
    refine ⟨dmrdStream pkt, ?_⟩
    simp only [modeconvReset, setDmrRxIdentity, txState, log, txLog_append, TxLog.step]

theorem TxInv.beginDmrToYsf (h : b.TxInv) (hn : b.NothingOpen) (pkt : List UInt8) :
    (b.beginDmrToYsf e pkt).TxInv := by
  obtain ⟨sid, hs⟩ := beginDmrToYsf_txState e b pkt
  exact .of_eq hs (TxState.Inv.idle h hn.2 hn.1 _ _ _ _)

theorem TxInv.beginDmrToYsf_seq (h : b.TxInv) (hn : b.NothingOpen) (pkt : List UInt8)
    (seq : UInt8) : { b.beginDmrToYsf e pkt with dmrSeq := seq }.TxInv := by
  obtain ⟨sid, hs⟩ := beginDmrToYsf_txState e b pkt
  refine .of_eq ?_ (TxState.Inv.idle h hn.2 hn.1 sid seq 0 true)
  change { (b.beginDmrToYsf e pkt).txState with seq := seq } = _
  rw [hs]

theorem TxInv.onDmrd (h : b.TxInv) (pkt : List UInt8)
    (hn : b.beginsDmrCall pkt = true → b.NothingOpen) : (b.onDmrd e pkt).TxInv := by
  rw [Bridge.onDmrd]
  split
  next => exact h
  next =>
    split
    next hh =>
      simp only
      have h1 : (if !b.callActive || (dmrdStream pkt != 0 && dmrdStream pkt != b.dmrStreamId)
          then b.beginDmrToYsf e pkt else b.setDmrRxIdentity pkt).TxInv := by
        split
        next hc =>
          refine h.beginDmrToYsf (hn ?_) pkt
          rw [beginsDmrCall, hh, hc]
          rfl
        next =>
          obtain ⟨src, dst, hid⟩ := setDmrRxIdentity_eq b pkt
          rw [hid]
          exact h
      generalize (if !b.callActive || (dmrdStream pkt != 0 && dmrdStream pkt != b.dmrStreamId)
          then b.beginDmrToYsf e pkt else b.setDmrRxIdentity pkt) = b1 at h1
      split
      next => exact .of_eq (modeconv_txState e _ _) h1
      next => exact h1
    next =>
      split
      next =>
        simp only
        split
        next =>
          have h1 : (b.modeconv e .putDmrEot).TxInv := h.congr (modeconv_txState e b .putDmrEot)
          exact h1
        next => exact h
      next =>
        split
        next hv =>
          have h1 : (if b.callActive then b
              else { b.beginDmrToYsf e pkt with dmrSeq := byteAt pkt 4 }.modeconv e
                .putDmrHeader).TxInv := by
            split
            next => exact h
            next hc =>
              have hb : b.beginsDmrCall pkt = true := by
                rw [beginsDmrCall, hv, Bool.eq_false_of_not_eq_true hc]
                exact Bool.or_true _
              exact (h.beginDmrToYsf_seq (hn hb) pkt _).congr (modeconv_txState e _ _)
          exact (h1.congr (modeconv_txState e _ _)).dmrVoice _ _
        next =>
          split
          next => exact h.congr rfl
          next => exact h

/-- All the DMR transmissions that the bridge originated so far are intact. -/
def StreamsIntact (b : Bridge) : Prop := ∀ o, ∀ t ∈ transmissions o b.trace, t.Intact

/-- No received packet begins a DMR→YSF call while the bridge is transmitting itself. -/
def KeepsStreams (b : Bridge) : BridgeEvent → Prop
  | .dmrd _ pkt => b.beginsDmrCall pkt = true → b.NothingOpen
  | _ => True

theorem TxInv.step (h : b.TxInv) (ev : BridgeEvent) (hk : b.KeepsStreams ev) :
    (b.step e ev).TxInv := by
  have hc (c : Clock) : { b with clock := c }.TxInv := h
  cases ev with
  | dmrd c pkt => exact (hc c).onDmrd pkt hk
  | ysfd c pkt => exact (hc c).onYsfd pkt
  | tick c dmrUp ysfUp => exact (hc c).tick dmrUp ysfUp
  | aliases db => exact h

theorem TxInv.streamsIntact (h : b.TxInv) : b.StreamsIntact := by
  intro o
  cases o with
  | call => exact TxState.Inv.call h
  | ptt => exact TxState.Inv.ptt h

theorem init_txInv (c : Clock) (db : AliasDb) : (init c db).TxInv where
  call := TxLog.intact_empty
  ptt := TxLog.intact_empty
  callOpen := fun t ht => by cases ht
  pttOpen := fun t ht => by cases ht

/-- In a run that never begins a DMR→YSF call while the bridge itself transmits, every YSF→DMR
call and every connect PTT keeps one stream id, counts its packets without gap, and keeps its
superframe. -/
theorem streamsIntact_run (e : Env) (c : Clock) (db : AliasDb) {evs : List BridgeEvent}
    (h : (machine e c db).Meets KeepsStreams (init c db) evs) :
    (machine e c db).Always StreamsIntact (init c db) evs :=
  h.always (fun _ ev _ hi hc hs => by cases hs; exact hi.step ev hc) (fun _ => TxInv.streamsIntact)
    (init_txInv c db)

/-- A connect PTT, and a reception that begins once it is over. -/
theorem streamsIntact_run_sample :
    (machine sampleEnv (.stopped 0) noAliases).Always StreamsIntact (init (.stopped 0) noAliases)
      [tickAt 1000 true true, tickAt 1100 true true, tickAt 1700 true true,
       dmrdAt 2000 vheadB15] := by
  refine streamsIntact_run sampleEnv (.stopped 0) noAliases ?_
  simp only [meets_cons]
  exact ⟨trivial, trivial, trivial, fun _ => ⟨rfl, rfl⟩, trivial⟩

/-- A voice header received during the connect PTT takes over the id and the counters. -/
theorem not_streamsIntact_run :
    ¬(machine sampleEnv (.stopped 0) noAliases).Always StreamsIntact (init (.stopped 0) noAliases)
      [tickAt 1000 true false, dmrdAt 1050 vheadB15, tickAt 1100 true false] := by
  intro h
  have ht := always_run h .ptt
  have hp := (ht _ (List.mem_singleton_self _)).stream
  exact absurd hp (by decide)

end Bridge

end AdnBridge
