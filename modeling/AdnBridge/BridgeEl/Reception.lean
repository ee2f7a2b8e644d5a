import AdnBridge.BridgeEl.Ending

namespace AdnBridge
set_option autoImplicit true

def ElMode.rxHangMs : ElMode → Int
  | .echolinkDmr => dmrRxHangMs
  | .echolinkYsf => ysfRxHangMs

/-- A packet that the bridge takes, with a reading of the clock while it does. -/
def BridgeElEvent.Receives (e : ElEnv) (t : Timespec) : BridgeElEvent → Prop
  | .dmrd c _ pkt => e.cfg.mode = .echolinkDmr ∧ dmrdIsPacket pkt = true ∧ ∃ i, t = c i
  | .ysfd c _ pkt =>
    e.cfg.mode = .echolinkYsf ∧ (BridgeEl.acceptedFich e pkt).isSome = true ∧ ∃ i, t = c i
  | _ => False

namespace BridgeEl

variable {e : ElEnv} {b b' b'' : BridgeEl} {voc : Vocoder} {pkt : List UInt8}

/-- No reception begins and none is heard of again, while the clock moves on. -/
structure Onward (b b' : BridgeEl) : Prop where
  rx : b'.lastDmrRx = b.lastDmrRx
  call : b'.callActive = .elRx → b.callActive = .elRx
  clock : ∃ i, ∀ n, b'.clock n = b.clock (n + i)

namespace Onward

theorem quiet (hr : b'.lastDmrRx = b.lastDmrRx) (hc : b'.callActive = b.callActive)
    (hk : b'.clock = b.clock) : Onward b b' :=
  ⟨hr, fun h => hc.symm.trans h, 0, fun n => by rw [hk, Nat.add_zero]⟩

theorem refl (b : BridgeEl) : Onward b b := quiet rfl rfl rfl

theorem trans (h : Onward b b') (h' : Onward b' b'') : Onward b b'' := by
  obtain ⟨i, hi⟩ := h.clock
  obtain ⟨j, hj⟩ := h'.clock
  refine ⟨h'.rx.trans h.rx, fun hc => h.call (h'.call hc), j + i, fun n => ?_⟩
  rw [hj, hi, Nat.add_assoc]

/-- What a step that reads the clock once does, the call apart. -/
theorem reads (hr : b'.lastDmrRx = b.lastDmrRx) (hc : b'.callActive = .elRx → b.callActive = .elRx)
    (hk : b'.clock = b.clock.next) : Onward b b' :=
  ⟨hr, hc, 1, fun n => by rw [hk, Clock.next]⟩

theorem tock (b : BridgeEl) : Onward b b.tock := reads rfl id rfl

theorem leaves (hr : b'.lastDmrRx = b.lastDmrRx) (hc : b'.callActive ≠ .elRx)
    (hk : b'.clock = b.clock) : Onward b b' :=
  ⟨hr, fun h => absurd h hc, 0, fun n => by rw [hk, Nat.add_zero]⟩

/-- The clock of the one is read by the other. -/
theorem reading (h : Onward b b') : ∃ i, b'.clock.now = b.clock i := by
  obtain ⟨i, hi⟩ := h.clock
  exact ⟨0 + i, hi 0⟩

theorem sendDmrd (e : ElEnv) (b : BridgeEl) (ft : UInt8) (v : Option (List UInt8)) (cut : Bool) :
    Onward b (b.sendDmrd e ft v cut) := by
  rw [BridgeEl.sendDmrd]
  generalize (if b.elRfId > 0 then b.elRfId else e.cfg.dmrid) = rfId
  simp only
  split
  · exact refl b
  · exact reads rfl id rfl

theorem resolveElTalker (e : ElEnv) (b : BridgeEl) : Onward b (b.resolveElTalker e) := by
  obtain ⟨src, id, h⟩ := resolveElTalker_eq e b
  rw [h]
  exact quiet rfl rfl rfl

theorem openDmrCall (e : ElEnv) (b : BridgeEl) : Onward b (b.openDmrCall e) := by
  rw [BridgeEl.openDmrCall]
  simp only [newStreamId]
  refine trans (trans (trans ?_ (resolveElTalker e _)) (sendDmrd e _ _ _ _)) (quiet rfl rfl rfl)
  exact leaves rfl ElCall.noConfusion rfl

theorem emitDmrVoice (e : ElEnv) (b : BridgeEl) (v : List UInt8) :
    Onward b (b.emitDmrVoice e v) := by
  rw [BridgeEl.emitDmrVoice]
  refine trans (trans ?_ (sendDmrd e _ _ _ _)) (quiet rfl rfl rfl)
  split
  · exact openDmrCall e b
  · exact refl b

theorem finishDmrEnd (b : BridgeEl) : Onward b b.finishDmrEnd :=
  reads rfl (fun h => ElCall.noConfusion h) rfl

theorem beginDmrEnd (b : BridgeEl) : Onward b b.beginDmrEnd := by
  rw [BridgeEl.beginDmrEnd]
  split
  · exact refl b
  · exact quiet rfl rfl rfl

theorem paceDmrEnd (e : ElEnv) (b : BridgeEl) : Onward b (b.paceDmrEnd e) := by
  rw [BridgeEl.paceDmrEnd]
  split
  · exact refl b
  · split
    · exact tock b
    · split
      · exact ((tock b).trans (sendDmrd e _ _ _ _)).trans (quiet rfl rfl rfl)
      · exact ((tock b).trans (sendDmrd e _ _ _ _)).trans (finishDmrEnd _)

theorem endDmrCall (e : ElEnv) (b : BridgeEl) : Onward b (b.endDmrCall e) := by
  rw [BridgeEl.endDmrCall]
  split
  · exact refl b
  · refine trans ?_ (finishDmrEnd _)
    split
    · exact sendDmrd e b _ _ _
    · exact refl b

theorem connectPttPad (e : ElEnv) (n : Nat) (b : BridgeEl) : Onward b (connectPttPad e n b) := by
  induction n generalizing b with
  | zero => exact refl b
  | succ n ih =>
    have hsend := sendDmrd e b (padB15 b.connectPttVoiceFrames) (some dmrSilenceData) false
    rw [BridgeEl.connectPttPad]
    split
    · refine hsend.trans (trans ?_ (ih _))
      exact quiet rfl rfl rfl
    · exact refl b

theorem connectPttBeginStream (e : ElEnv) (b : BridgeEl) (tg : Int) (clearing : Bool) :
    Onward b (b.connectPttBeginStream e tg clearing) :=
  (tock b).trans (reads rfl id rfl)

theorem connectPttFinish (e : ElEnv) (b : BridgeEl) : Onward b (b.connectPttFinish e) := by
  have hsend := (connectPttPad e 6 b).trans
    (sendDmrd e (BridgeEl.connectPttPad e 6 b) vtermB15 (some dmrSilenceData) false)
  rw [BridgeEl.connectPttFinish]
  refine hsend.trans ?_
  split
  · exact connectPttBeginStream e _ _ _
  · exact quiet rfl rfl rfl

theorem startConnectPtt (e : ElEnv) (b : BridgeEl) : Onward b (b.startConnectPtt e) := by
  rw [BridgeEl.startConnectPtt]
  split
  · exact refl b
  · split
    · exact refl b
    · split
      · exact connectPttBeginStream e b _ _
      · exact connectPttBeginStream e b _ _

theorem emitConnectPtt (e : ElEnv) (b : BridgeEl) : Onward b (b.emitConnectPtt e) := by
  rw [BridgeEl.emitConnectPtt]
  split
  · exact refl b
  · split
    · exact (sendDmrd e b _ _ _).trans (reads rfl id rfl)
    · split
      · exact (tock b).trans (connectPttFinish e _)
      · exact ((tock b).trans (sendDmrd e _ _ _ _)).trans (quiet rfl rfl rfl)

theorem pollConnectPtt (e : ElEnv) (b : BridgeEl) (connected : Bool) :
    Onward b (b.pollConnectPtt e connected) := by
  have hstart : Onward b (if connected ∧ !b.dmrWasConnected then b.startConnectPtt e else b) := by
    split
    · exact startConnectPtt e b
    · exact refl b
  have hup (b : BridgeEl) : Onward b { (if connected then b else b.connectPttOff) with
      dmrWasConnected := connected } := by
    cases connected
    · exact quiet rfl rfl rfl
    · exact quiet rfl rfl rfl
  have hemit (b : BridgeEl) : Onward b (if !b.connectPttActive then b
      else if msElapsed b.clock.now b.lastDmrTx elDmrFrameMs then b.tock.emitConnectPtt e
      else b.tock) := by
    split
    · exact refl b
    · split
      · exact (tock b).trans (emitConnectPtt e _)
      · exact tock b
  exact (hstart.trans (hup _)).trans (hemit _)

theorem paceDmrTx (e : ElEnv) (b : BridgeEl) : Onward b (b.paceDmrTx e) := by
  rw [BridgeEl.paceDmrTx]
  split
  · exact refl b
  · split
    · exact tock b
    · have ht : Onward b (if b.callActive = .elTx then b.tock else b) := by
        split
        · exact tock b
        · exact refl b
      generalize (if b.callActive = .elTx then b.tock else b) = b1 at ht ⊢
      simp only
      generalize b1.conv.getDmr = r
      have hconv : Onward b1 { b1 with conv := r.2.2 } := quiet rfl rfl rfl
      split
      · exact (ht.trans hconv).trans (emitDmrVoice e _ _)
      · exact ht.trans hconv

theorem sendYsfd (e : ElEnv) (b : BridgeEl) (fi fn net : UInt8) (v : Option (List UInt8)) :
    Onward b (b.sendYsfd e fi fn net v) := reads rfl id rfl

theorem emitYsfFromConv (e : ElEnv) (b : BridgeEl) : Onward b (b.emitYsfFromConv e) := by
  rw [BridgeEl.emitYsfFromConv]
  generalize b.conv.getYsf = r
  obtain ⟨tag, payload, conv⟩ := r
  simp only
  have hconv : Onward b { b with conv := conv } := quiet rfl rfl rfl
  split
  · exact hconv
  · split
    · exact reads rfl id rfl
    · split
      · refine (hconv.trans (sendYsfd e _ ysfFiTerminator 0 b.ysfCnt none)).trans ?_
        exact reads rfl (fun h => ElCall.noConfusion h) rfl
      · split
        · exact reads rfl id rfl
        · exact hconv

theorem modeconv (e : ElEnv) (b : BridgeEl) (o : ConvOp) : Onward b (b.modeconv e o) :=
  quiet rfl rfl rfl

theorem endYsfCall (e : ElEnv) (b : BridgeEl) : Onward b (b.endYsfCall e) := by
  have hend : Onward b { b with ysfEnding := true } := quiet rfl rfl rfl
  rw [BridgeEl.endYsfCall]
  split
  · exact refl b
  · exact hend.trans (modeconv e _ .putDmrEot)

theorem paceTx (e : ElEnv) (b : BridgeEl) (dmrUp : Bool) : Onward b (b.paceTx e dmrUp) := by
  rw [BridgeEl.paceTx]
  split
  · simp only
    refine (pollConnectPtt e b dmrUp).trans ?_
    split
    · exact paceDmrEnd e _
    · exact paceDmrTx e _
  · split
    · exact refl b
    · split
      · exact (tock b).trans (emitYsfFromConv e _)
      · exact tock b

theorem hangElTx (e : ElEnv) (b : BridgeEl) : Onward b (b.hangElTx e) := by
  rw [BridgeEl.hangElTx]
  split
  · exact refl b
  · split
    · split
      · exact (tock b).trans (beginDmrEnd _)
      · exact (tock b).trans (endYsfCall e _)
    · exact tock b

end Onward

theorem beginYsfToEl_clock (b : BridgeEl) (pkt : List UInt8) :
    (b.beginYsfToEl pkt).clock = b.clock := rfl

/-- A DMRD ends a reception at most, or is received itself. -/
theorem onDmrd_received (h : b.onDmrd e voc pkt = some b') : Onward b b' ∨
    e.cfg.mode = .echolinkDmr ∧ dmrdIsPacket pkt = true ∧ ∃ i, b'.lastDmrRx = b.clock i := by
  rw [onDmrd] at h
  split at h
  · cases h
    exact .inl (.refl b)
  next hm =>
    have hm : e.cfg.mode = .echolinkDmr := not_not.1 hm
    split at h
    · cases h
      exact .inl (.refl b)
    next hp =>
      have hp : dmrdIsPacket pkt = true := by simpa using hp
      split at h
      · simp only at h
        split at h
        · cases h
          exact .inr ⟨hm, hp, 0, rfl⟩
        · have hend : Onward b (if b.callActive = .elTx then b.endDmrCall e else b) := by
            split
            · exact .endDmrCall e b
            · exact .refl b
          generalize (if b.callActive = .elTx then b.endDmrCall e else b) = b1 at h hend
          have hflush : Onward b1
              (if b1.callActive = .elRx then { b1 with el := b1.el.flushPcm } else b1) := by
            split
            · exact .quiet rfl rfl rfl
            · exact .refl b1
          obtain ⟨i, hi⟩ := (hend.trans hflush).reading
          cases h
          exact .inr ⟨hm, hp, i, hi⟩
      · split at h
        · split at h
          · cases h
            exact .inl (.leaves rfl ElCall.noConfusion rfl)
          · cases h
            exact .inl (.refl b)
        · split at h
          · cases h
            exact .inl (.refl b)
          · obtain ⟨el, rfl⟩ := playAmbe_eq h
            exact .inr ⟨hm, hp, 0, rfl⟩

theorem onYsfd_received (h : b.onYsfd e voc pkt = some b') : Onward b b' ∨
    e.cfg.mode = .echolinkYsf ∧ (acceptedFich e pkt).isSome = true ∧
      ∃ i, b'.lastDmrRx = b.clock i := by
  have hend : Onward b (if b.callActive = .elTx then b.endYsfCall e else b) := by
    split
    · exact .endYsfCall e b
    · exact .refl b
  rw [onYsfd] at h
  split at h
  · cases h
    exact .inl (.refl b)
  next hm =>
    have hm : e.cfg.mode = .echolinkYsf := not_not.1 hm
    split at h
    · cases h
      exact .inl (.refl b)
    next f hf =>
      have hf : (acceptedFich e pkt).isSome = true := by
        rw [hf]
        rfl
      split at h
      · generalize (if b.callActive = .elTx then b.endYsfCall e else b) = b1 at h hend
        have hflush : Onward b1 (if b1.callActive = .elRx then
            { b1 with el := b1.el.flushPcm.setTalkerName [] } else b1) := by
          split
          · exact .quiet rfl rfl rfl
          · exact .refl b1
        obtain ⟨i, hi⟩ := (hend.trans hflush).reading
        cases h
        exact .inr ⟨hm, hf, i, hi⟩
      · split at h
        · split at h
          · obtain ⟨b1, h1, rfl⟩ := Option.map_eq_some_iff.1 h
            obtain ⟨conv, el, rfl⟩ := drainYsfToElPcm_eq h1
            exact .inl (.leaves rfl ElCall.noConfusion rfl)
          · cases h
            exact .inl (.refl b)
        · split at h
          · have hclock : ∃ i, (if b.callActive ≠ .elRx then
                (if b.callActive = .elTx then b.endYsfCall e else b).beginYsfToEl pkt
                else b).clock.now = b.clock i := by
              split
              · rw [beginYsfToEl_clock]
                exact hend.reading
              · exact ⟨0, rfl⟩
            obtain ⟨i, hi⟩ := hclock
            obtain ⟨conv, el, rfl⟩ := drainYsfToElPcm_eq h
            exact .inr ⟨hm, hf, i, hi⟩
          · cases h
            exact .inl (.refl b)

/-- While something is received, the audio of the EchoLink side is left alone; the audio loop
begins no reception. -/
theorem processElAudio_receiving (h : (b.processElAudio e voc).callActive = .elRx) :
    b.processElAudio e voc = b := by
  rw [processElAudio] at h ⊢
  split at h
  next hm => rw [if_pos hm]
  next hm =>
    rw [if_neg hm]
    split at h
    next hc => rw [if_pos hc]
    next hc =>
      rw [not_or] at hc
      refine absurd h ?_
      apply elLoop_invariant (I := fun b => b.callActive ≠ .elRx)
      · intro b el acc c speech run hb
        exact hb
      · intro b hb
        exact hb
      · intro ambe b hb
        rw [takeDmrAmbe]
        simp only
        split
        · exact hb
        · obtain ⟨conv, hconv⟩ := foldl_modeconv_eq e .putAmbe7 (b.elAmbe ++ [ambe])
            { b with elAmbe := b.elAmbe ++ [ambe] }
          rw [hconv]
          exact hb
      · exact hc.1

theorem processElToYsf_receiving (h : (b.processElToYsf e voc).callActive = .elRx) :
    b.processElToYsf e voc = b := by
  rw [processElToYsf] at h ⊢
  split at h
  next hm => rw [if_pos hm]
  next hm =>
    rw [if_neg hm]
    split at h
    next hc => rw [if_pos hc]
    next hc =>
      rw [not_or] at hc
      have h1 : (if b.callActive = .elTx then b.ysfReheaderIfTalkerChanged e else b).callActive ≠
          .elRx := by
        split
        · obtain ⟨src, id, hr⟩ := resolveElTalker_eq e b
          rw [ysfReheaderIfTalkerChanged, hr]
          simp only
          split_ifs
          all_goals exact hc.1
        · exact hc.1
      refine absurd h ?_
      apply elLoop_invariant (I := fun b => b.callActive ≠ .elRx)
      · intro b el acc c speech run hb
        exact hb
      · intro b hb
        exact hb
      · intro ambe b hb
        rw [takeYsfAmbe_elTx hb ambe]
        exact ElCall.noConfusion
      · exact h1

/-- A reception that the hang time does not end is not that old. -/
theorem hangElRx_receiving (h : (b.hangElRx e).callActive = .elRx) :
    b.callActive = .elRx ∧ (b.hangElRx e).lastDmrRx = b.lastDmrRx ∧
      msSince b.clock.now b.lastDmrRx < e.cfg.mode.rxHangMs := by
  rw [hangElRx] at h ⊢
  by_cases hc : b.callActive ≠ .elRx
  · rw [if_pos hc] at h
    exact absurd h hc
  rw [if_neg hc] at h ⊢
  refine ⟨not_not.1 hc, ?_⟩
  cases hm : e.cfg.mode with
  | echolinkDmr =>
    simp only [hm] at h ⊢
    split at h
    · cases h
    next ht =>
      rw [if_neg ht]
      exact ⟨rfl, Int.not_le.1 ht⟩
  | echolinkYsf =>
    simp only [hm] at h ⊢
    split at h
    · cases h
    next ht =>
      rw [if_neg ht]
      exact ⟨rfl, Int.not_le.1 ht⟩

/-- What is received was last heard of in one of the events. -/
def Held (e : ElEnv) (evs : List BridgeElEvent) (b : BridgeEl) : Prop :=
  b.callActive = .elRx → ∃ ev ∈ evs, ev.Receives e b.lastDmrRx

theorem Held.onward (h : Held e evs b) (ho : Onward b b') (ev : BridgeElEvent) :
    Held e (evs ++ [ev]) b' := by
  intro hc
  obtain ⟨ev', hm, hr⟩ := h (ho.call hc)
  rw [ho.rx]
  exact ⟨ev', List.mem_append_left _ hm, hr⟩

theorem Held.step (h : Held e evs b) (hb : b.step e ev = some b') : Held e (evs ++ [ev]) b' := by
  have hclock (c : Clock) : Held e evs { b with clock := c } := h
  cases ev with
  | audio c voc =>
    intro hc
    have hsame : b' = { b with clock := c } := by
      rw [BridgeEl.step] at hb
      cases hm : e.cfg.mode with
      | echolinkDmr =>
        simp only [hm, Option.some.injEq] at hb
        rw [← hb] at hc ⊢
        exact processElAudio_receiving hc
      | echolinkYsf =>
        simp only [hm, Option.some.injEq] at hb
        rw [← hb] at hc ⊢
        exact processElToYsf_receiving hc
    rw [hsame] at hc ⊢
    exact (hclock c).onward (.refl _) _ hc
  | dmrd c voc pkt =>
    rcases onDmrd_received hb with ho | ⟨hm, hp, i, hi⟩
    · exact (hclock c).onward ho _
    · exact fun _ => ⟨_, List.mem_append_right _ (List.mem_singleton_self _), hm, hp, i, hi⟩
  | ysfd c voc pkt =>
    rcases onYsfd_received hb with ho | ⟨hm, hf, i, hi⟩
    · exact (hclock c).onward ho _
    · exact fun _ => ⟨_, List.mem_append_right _ (List.mem_singleton_self _), hm, hf, i, hi⟩
  | tick c dmrUp =>
    cases hb
    intro hc
    have ho := (Onward.paceTx e { b with clock := c } dmrUp).trans (.hangElTx e _)
    obtain ⟨hrx, hlast, _⟩ := hangElRx_receiving hc
    obtain ⟨ev, hm, hr⟩ := (hclock c) (ho.call hrx)
    refine ⟨ev, List.mem_append_left _ hm, ?_⟩
    rw [tick, hlast, ho.rx]
    exact hr
  | rtp | identity | link | aliases =>
    cases hb
    exact h.onward (.quiet rfl rfl rfl) _

theorem held_run {c : Clock} {db : AliasDb} {el : PeerEl}
    (hr : (machine e c db el).run evs = some b) : Held e evs b :=
  Machine.run_history (fun hc => ElCall.noConfusion hc) (fun _ _ _ _ h hs => h.step hs) hr

/-- A reception that outlasts a tick was heard of less than the hang time ago. -/
theorem receiving_alive {c : Clock} {db : AliasDb} {el : PeerEl}
    (hr : (machine e c db el).run evs = some b) (cl : Clock) (dmrUp : Bool)
    (hc : ({ b with clock := cl }.tick e dmrUp).callActive = .elRx) :
    ∃ ev ∈ evs, ∃ t i, ev.Receives e t ∧ msSince (cl i) t < e.cfg.mode.rxHangMs := by
  have ho := (Onward.paceTx e { b with clock := cl } dmrUp).trans (.hangElTx e _)
  obtain ⟨hrx, -, ht⟩ := hangElRx_receiving hc
  obtain ⟨i, hi⟩ := ho.reading
  obtain ⟨ev, hm, hev⟩ := held_run hr (ho.call hrx)
  rw [ho.rx, hi] at ht
  exact ⟨ev, hm, b.lastDmrRx, i, hev, ht⟩

end BridgeEl

end AdnBridge
