import AdnBridge.Bridge.Frame
import AdnBridge.Lib.Timed

namespace AdnBridge
set_option autoImplicit true

namespace Timespec

/-- Nanoseconds since the start. -/
def ns (t : Timespec) : Int := t.sec * 1000000000 + t.nsec

/-- A reading of the monotonic clock, not later than `u`. -/
def By (t : Timespec) (u : Int) : Prop :=
  0 ≤ t.sec ∧ 0 ≤ t.nsec ∧ t.nsec < 1000000000 ∧ t.ns ≤ u

theorem By.mono {t : Timespec} (h : t.By u) (hu : u ≤ u') : t.By u' :=
  ⟨h.1, h.2.1, h.2.2.1, Int.le_trans h.2.2.2 hu⟩

theorem By.sec_zero {t : Timespec} (h : t.By u) : ({ t with sec := 0 } : Timespec).By u := by
  obtain ⟨h1, h2, h3, h4⟩ := h
  unfold ns at h4
  refine ⟨Int.le_refl _, h2, h3, ?_⟩
  simp only [ns]
  omega

end Timespec

theorem tdiv_ge (a k : Int) (h : k * 1000000 ≤ a) : k ≤ a.tdiv 1000000 := by
  rcases Int.le_total 0 a with ha | ha
  · rw [Int.tdiv_eq_ediv_of_nonneg ha]
    omega
  · obtain ⟨m, rfl⟩ : ∃ m, a = -m := ⟨-a, by omega⟩
    rw [Int.neg_tdiv, Int.tdiv_eq_ediv_of_nonneg (by omega)]
    omega

/-- An interval has elapsed when the readings are that far apart. -/
theorem msElapsed_of_le {now since : Timespec} {ms : Int}
    (h : since.ns + ms * 1000000 ≤ now.ns) : msElapsed now since ms = true := by
  have hk : ms - (now.sec - since.sec) * 1000 ≤ (now.nsec - since.nsec).tdiv 1000000 := by
    apply tdiv_ge
    unfold Timespec.ns at h
    omega
  rw [msElapsed, decide_eq_true_eq, msSince]
  omega

theorem lt_of_not_msElapsed {now since : Timespec} {ms : Int}
    (h : ¬msElapsed now since ms = true) : now.ns < since.ns + ms * 1000000 := by
  by_contra hn
  exact h (msElapsed_of_le (by omega))

/-- The readings of the clock between two times. -/
def Clock.Within (c : Clock) (t u : Int) : Prop := ∀ i, (c i).By u ∧ t ≤ (c i).ns

theorem Clock.within_stopped {t u : Int} (ms : Nat) (ht : t ≤ (ms : Int) * 1000000)
    (hu : (ms : Int) * 1000000 ≤ u) : (Clock.stopped ms).Within t u := by
  have hns : (Timespec.mk (ms / 1000 : Nat) (ms % 1000 * 1000000 : Nat)).ns = ms * 1000000 := by
    unfold Timespec.ns
    simp only
    omega
  intro i
  change (Timespec.mk (ms / 1000 : Nat) (ms % 1000 * 1000000 : Nat)).By u ∧
    t ≤ (Timespec.mk (ms / 1000 : Nat) (ms % 1000 * 1000000 : Nat)).ns
  rw [Timespec.By, hns]
  simp only
  omega

namespace Bridge

/-- The clock is read between these times, and no time stamp of the bridge is later. -/
structure Stamped (b : Bridge) (t u : Int) : Prop where
  clock : b.clock.Within t u
  dmr : b.lastDmrTx.By u
  ysf : b.lastYsfTx.By u
  ptt : b.connectPttStart.By u

theorem Stamped.read {b : Bridge} (h : b.Stamped s t) {c : Clock} (hc : c.Within t u)
    (hu : t ≤ u) : ({ b with clock := c } : Bridge).Stamped t u :=
  ⟨hc, h.dmr.mono hu, h.ysf.mono hu, h.ptt.mono hu⟩

/-- What everything but sending to YSF does to the stamps. -/
structure InTime (b b' : Bridge) : Prop where
  stamped : ∀ {t u}, b.Stamped t u → b'.Stamped t u
  lastYsfTx : b'.lastYsfTx = b.lastYsfTx

namespace InTime

variable {e : Env} {b b' b'' : Bridge}

theorem refl (b : Bridge) : InTime b b := ⟨id, rfl⟩

theorem trans (h : InTime b b') (h' : InTime b' b'') : InTime b b'' :=
  ⟨fun hs => h'.stamped (h.stamped hs), h'.lastYsfTx.trans h.lastYsfTx⟩

/-- Other fields than the clock and the stamps do not count. -/
theorem congr (h : InTime b b') (hc : b''.clock = b'.clock) (hd : b''.lastDmrTx = b'.lastDmrTx)
    (hy : b''.lastYsfTx = b'.lastYsfTx) (hp : b''.connectPttStart = b'.connectPttStart) :
    InTime b b'' := by
  constructor
  · intro t u hs
    obtain ⟨h1, h2, h3, h4⟩ := h.stamped hs
    exact ⟨by rwa [hc], by rwa [hd], by rwa [hy], by rwa [hp]⟩
  · exact hy.trans h.lastYsfTx

theorem tock (h : InTime b b') : InTime b b'.tock :=
  ⟨fun hs => ⟨fun i => (h.stamped hs).clock (i + 1), (h.stamped hs).dmr, (h.stamped hs).ysf,
    (h.stamped hs).ptt⟩, h.lastYsfTx⟩

theorem sendDmrd (h : InTime b b') (e : Env) (o : Origin) (ft : UInt8)
    (v : Option (List UInt8)) : InTime b (b'.sendDmrd e o ft v) := by
  obtain ⟨p, _, _, _, hb⟩ := sendDmrd_eq e b' o ft v
  rw [hb]
  refine h.trans ⟨fun hs => ?_, rfl⟩
  exact ⟨fun i => hs.clock (i + 1), (hs.clock 0).1, hs.ysf, hs.ptt⟩

theorem beginStream (h : InTime b b') (e : Env) (tg : Int) (clearing : Bool) :
    InTime b (b'.connectPttBeginStream e tg clearing) := by
  refine h.trans ⟨fun hs => ?_, rfl⟩
  exact ⟨fun i => hs.clock (i + 2), (hs.clock 1).1.sec_zero, hs.ysf, (hs.clock 0).1⟩

theorem pad (h : InTime b b') (e : Env) (n : Nat) : InTime b (connectPttPad e n b') := by
  induction n generalizing b' with
  | zero => exact h
  | succ n ih =>
    rw [connectPttPad]
    split
    next => exact ih ((h.sendDmrd e .ptt _ _).congr rfl rfl rfl rfl)
    next => exact h

theorem finish (h : InTime b b') (e : Env) : InTime b (b'.connectPttFinish e) := by
  have h1 := (h.pad e 6).sendDmrd e .ptt vtermB15 (some dmrSilenceData)
  rw [connectPttFinish]
  split
  next => exact h1.beginStream e _ _
  next => exact h1.congr rfl rfl rfl rfl

theorem abort (h : InTime b b') (e : Env) : InTime b (b'.abortConnectPtt e) := by
  rw [abortConnectPtt]
  split
  next => exact h
  next =>
    split
    next =>
      have h1 : InTime b { b' with connectPttClearing := false } := h.congr rfl rfl rfl rfl
      exact h1.finish e
    next => exact h.congr rfl rfl rfl rfl

theorem start (h : InTime b b') (e : Env) : InTime b (b'.startConnectPtt e) := by
  rw [startConnectPtt]
  split
  next => exact h
  next =>
    split
    next => exact h
    next => split <;> exact h.beginStream e _ _

theorem emit (h : InTime b b') (e : Env) : InTime b (b'.emitConnectPtt e) := by
  rw [emitConnectPtt]
  split
  next => exact h
  next =>
    split
    next =>
      have h1 := ((h.sendDmrd e .ptt vheadB15 none).sendDmrd e .ptt vheadB15 none).sendDmrd e .ptt
        vheadB15 none
      refine h1.trans ⟨fun hs => ?_, rfl⟩
      exact ⟨fun i => hs.clock (i + 1), hs.dmr, hs.ysf, (hs.clock 0).1⟩
    next =>
      split
      next => exact h.tock.finish e
      next => exact (h.tock.sendDmrd e .ptt _ _).congr rfl rfl rfl rfl

theorem poll (h : InTime b b') (e : Env) (connected : Bool) :
    InTime b (b'.pollConnectPtt e connected) := by
  rw [pollConnectPtt]
  have h1 : InTime b (if connected && !b'.dmrWasConnected then b'.startConnectPtt e else b') := by
    split
    next => exact h.start e
    next => exact h
  generalize (if connected && !b'.dmrWasConnected then b'.startConnectPtt e else b') = b1 at h1
  have h2 : InTime b (if connected then b1 else (b1.log (.stop .ptt)).connectPttOff) := by
    split
    next => exact h1
    next => exact h1.congr rfl rfl rfl rfl
  generalize (if connected then b1 else (b1.log (.stop .ptt)).connectPttOff) = b2 at h2
  have h3 : InTime b { b2 with dmrWasConnected := connected } := h2.congr rfl rfl rfl rfl
  simp only
  split
  next => exact h3
  next =>
    split
    next => exact h3.tock.emit e
    next => exact h3.tock

theorem reset (h : InTime b b') : InTime b b'.resetCall := h.congr rfl rfl rfl rfl

theorem withConv (h : InTime b b') (m : ModeConv) : InTime b { b' with conv := m } :=
  h.congr rfl rfl rfl rfl

theorem withTxFrames (h : InTime b b') (n : Nat) : InTime b { b' with dmrTxFrames := n } :=
  h.congr rfl rfl rfl rfl

theorem withSeq (h : InTime b b') (n : UInt8) : InTime b { b' with dmrSeq := n } :=
  h.congr rfl rfl rfl rfl

theorem emitPad (h : InTime b b') (e : Env) (n : Nat) : InTime b (emitPad e n b') := by
  induction n generalizing b' with
  | zero => exact h
  | succ n ih =>
    rw [Bridge.emitPad]
    split
    next => exact ih ((h.sendDmrd e .call _ _).withTxFrames _)
    next => exact h

theorem emitDmrFromConv (h : InTime b b') (e : Env) : InTime b (b'.emitDmrFromConv e) := by
  rw [Bridge.emitDmrFromConv]
  generalize b'.conv.getDmr = r
  obtain ⟨tag, voice, conv⟩ := r
  have h1 := h.withConv conv
  simp only
  split
  next => exact h1
  next =>
    split
    next => exact ((h1.sendDmrd e .call _ _).sendDmrd e .call _ _).sendDmrd e .call _ _
    next =>
      split
      next => exact ((h1.emitPad e 6).sendDmrd e .call _ _).reset
      next =>
        split
        next => exact (h1.sendDmrd e .call _ _).withTxFrames _
        next => exact h1

theorem paceDmr (h : InTime b b') (e : Env) : InTime b (b'.paceDmr e) := by
  rw [Bridge.paceDmr]
  split
  next => exact h
  next =>
    split
    next => exact h.tock.emitDmrFromConv e
    next => exact h.tock

theorem newStreamId (h : InTime b b') (e : Env) : InTime b (b'.newStreamId e).2 :=
  h.congr rfl rfl rfl rfl

theorem beginDmrToYsf (h : InTime b b') (e : Env) (pkt : List UInt8) :
    InTime b (b'.beginDmrToYsf e pkt) := by
  have h1 : InTime b (if dmrdStream pkt = 0 then b'.newStreamId e else (dmrdStream pkt, b')).2 := by
    split
    next => exact h.newStreamId e
    next => exact h
  rw [Bridge.beginDmrToYsf]
  generalize (if dmrdStream pkt = 0 then b'.newStreamId e else (dmrdStream pkt, b')) = r at h1 ⊢
  exact h1.congr rfl rfl rfl rfl

theorem startYsfCall (h : InTime b b') (e : Env) (pkt : List UInt8) :
    InTime b (b'.startYsfCall e pkt) := by
  have h1 := h.abort e
  rw [Bridge.startYsfCall]
  generalize b'.abortConnectPtt e = b1 at h1
  exact h1.congr rfl rfl rfl rfl

theorem modeconv (h : InTime b b') (e : Env) (o : ConvOp) : InTime b (b'.modeconv e o) :=
  h.congr rfl rfl rfl rfl

theorem dmrVoice (h : InTime b b') (n : Nat) (d : UInt8) :
    InTime b { b' with dmrVoiceFrames := n, dmrLastDtype := d } := h.congr rfl rfl rfl rfl

theorem ysfVoice (h : InTime b b') (n : Nat) : InTime b { b' with ysfVoiceFrames := n } :=
  h.congr rfl rfl rfl rfl

theorem lastDtype (h : InTime b b') (d : UInt8) : InTime b { b' with dmrLastDtype := d } :=
  h.congr rfl rfl rfl rfl

theorem onDmrd (h : InTime b b') (e : Env) (pkt : List UInt8) : InTime b (b'.onDmrd e pkt) := by
  rw [Bridge.onDmrd]
  split
  next => exact h
  next =>
    split
    next =>
      have h1 : InTime b (if !b'.callActive || (dmrdStream pkt != 0 &&
          dmrdStream pkt != b'.dmrStreamId) then b'.beginDmrToYsf e pkt
          else b'.setDmrRxIdentity pkt) := by
        split
        next => exact h.beginDmrToYsf e pkt
        next =>
          obtain ⟨src, dst, hid⟩ := setDmrRxIdentity_eq b' pkt
          rw [hid]
          exact h.congr rfl rfl rfl rfl
      simp only
      generalize (if !b'.callActive || (dmrdStream pkt != 0 && dmrdStream pkt != b'.dmrStreamId)
        then b'.beginDmrToYsf e pkt else b'.setDmrRxIdentity pkt) = b1 at h1
      split
      next => exact (h1.modeconv e .putDmrHeader).lastDtype _
      next => exact h1.lastDtype _
    next =>
      split
      next =>
        simp only
        split
        next => exact (h.modeconv e .putDmrEot).lastDtype _
        next => exact h.lastDtype _
      next =>
        split
        next =>
          simp only
          split
          next => exact (h.modeconv e _).dmrVoice _ _
          next =>
            have h1 := (h.beginDmrToYsf e pkt).withSeq (byteAt pkt 4)
            exact ((h1.modeconv e .putDmrHeader).modeconv e _).dmrVoice _ _
        next =>
          split
          next => exact h.congr rfl rfl rfl rfl
          next => exact h

theorem onYsfd (h : InTime b b') (e : Env) (pkt : List UInt8) : InTime b (b'.onYsfd e pkt) := by
  rw [Bridge.onYsfd]
  split
  next => exact h
  next f _ =>
    split
    next =>
      have h1 : InTime b (b'.resolveYsfHeader e pkt).2 := by
        obtain ⟨cs, id, hr⟩ := resolveYsfHeader_eq e b' pkt
        rw [hr]
        exact h.congr rfl rfl rfl rfl
      simp only
      generalize b'.resolveYsfHeader e pkt = r at h1
      split
      next => exact h1
      next =>
        split
        next => exact h1.modeconv e _
        next => exact (h1.startYsfCall e pkt).modeconv e _
    next =>
      split
      next =>
        split
        next => exact h.modeconv e _
        next => exact h
      next =>
        split
        next =>
          split
          next => exact h
          next =>
            simp only
            split
            next => exact (h.modeconv e _).ysfVoice _
            next => exact (((h.startYsfCall e pkt).ysfVoice 0).modeconv e _).ysfVoice _
        next => exact h

end InTime

variable {e : Env} {b b' : Bridge}

/-- What sending to YSF does to the stamps, and to what the DMR side looks at. -/
structure YsfTurn (b b' : Bridge) : Prop where
  stamped : ∀ {t u}, b.Stamped t u → b'.Stamped t u
  lastDmrTx : b'.lastDmrTx = b.lastDmrTx
  active : b'.connectPttActive = b.connectPttActive
  phase : b'.connectPttPhase = b.connectPttPhase
  clearing : b'.connectPttClearing = b.connectPttClearing
  start : b'.connectPttStart = b.connectPttStart

namespace YsfTurn

theorem refl (b : Bridge) : YsfTurn b b := ⟨id, rfl, rfl, rfl, rfl, rfl⟩

theorem tock (h : YsfTurn b b') : YsfTurn b b'.tock :=
  ⟨fun hs => ⟨fun i => (h.stamped hs).clock (i + 1), (h.stamped hs).dmr, (h.stamped hs).ysf,
    (h.stamped hs).ptt⟩, h.lastDmrTx, h.active, h.phase, h.clearing, h.start⟩

theorem withConv (h : YsfTurn b b') (m : ModeConv) : YsfTurn b { b' with conv := m } :=
  ⟨fun hs => ⟨(h.stamped hs).clock, (h.stamped hs).dmr, (h.stamped hs).ysf, (h.stamped hs).ptt⟩,
    h.lastDmrTx, h.active, h.phase, h.clearing, h.start⟩

theorem withCnt (h : YsfTurn b b') (n : UInt8) : YsfTurn b { b' with ysfCnt := n } :=
  ⟨fun hs => ⟨(h.stamped hs).clock, (h.stamped hs).dmr, (h.stamped hs).ysf, (h.stamped hs).ptt⟩,
    h.lastDmrTx, h.active, h.phase, h.clearing, h.start⟩

theorem sendYsfd (h : YsfTurn b b') (e : Env) (fi fn net : UInt8) (v : Option (List UInt8)) :
    YsfTurn b (b'.sendYsfd e fi fn net v) :=
  ⟨fun hs => ⟨fun i => (h.stamped hs).clock (i + 1), (h.stamped hs).dmr, ((h.stamped hs).clock 0).1,
    (h.stamped hs).ptt⟩, h.lastDmrTx, h.active, h.phase, h.clearing, h.start⟩

theorem reset (h : YsfTurn b b') : YsfTurn b b'.resetCall :=
  ⟨fun hs => ⟨(h.stamped hs).clock, (h.stamped hs).dmr, (h.stamped hs).ysf, (h.stamped hs).ptt⟩,
    h.lastDmrTx, h.active, h.phase, h.clearing, h.start⟩

theorem emit (h : YsfTurn b b') (e : Env) : YsfTurn b (b'.emitYsfFromConv e) := by
  rw [emitYsfFromConv]
  generalize b'.conv.getYsf = r
  obtain ⟨tag, payload, conv⟩ := r
  have h1 := h.withConv conv
  simp only
  split
  next => exact h1
  next =>
    split
    next => exact ((h1.withCnt 0).sendYsfd e _ _ _ _).withCnt 1
    next =>
      split
      next => exact (h1.sendYsfd e _ _ _ _).reset
      next =>
        split
        next => exact (h1.sendYsfd e _ _ _ _).withCnt _
        next => exact h1

theorem pace (e : Env) (b : Bridge) : YsfTurn b (b.paceYsf e) := by
  rw [paceYsf]
  split
  next => exact (refl b).tock.emit e
  next => exact (refl b).tock

end YsfTurn

end Bridge

/-- When an event takes place: its clock is read in this window. -/
def BridgeEvent.Within : BridgeEvent → Int → Int → Prop
  | .dmrd c _, t, u => c.Within t u
  | .ysfd c _, t, u => c.Within t u
  | .tick c _ _, t, u => c.Within t u
  | .aliases _, _, _ => True

namespace Bridge

variable {e : Env} {b : Bridge} {ev : BridgeEvent} {evs : List BridgeEvent}

/-- The time stamps are never in the future. -/
theorem Stamped.step (h : b.Stamped s t) (hev : ev.Within t u) (hu : t ≤ u) :
    ∃ s, (b.step e ev).Stamped s u := by
  cases ev with
  | dmrd c pkt => exact ⟨t, ((InTime.refl _).onDmrd e pkt).stamped (h.read hev hu)⟩
  | ysfd c pkt => exact ⟨t, ((InTime.refl _).onYsfd e pkt).stamped (h.read hev hu)⟩
  | tick c dmrUp ysfUp =>
    have h1 := ((InTime.refl { b with clock := c }).poll e dmrUp).stamped (h.read hev hu)
    refine ⟨t, ?_⟩
    change Stamped (tick e { b with clock := c } dmrUp ysfUp) t u
    rw [tick]
    split
    next => exact h1
    next => exact (YsfTurn.pace e _).stamped (((InTime.refl _).paceDmr e).stamped h1)
  | aliases db =>
    exact ⟨s, fun i => ⟨(h.clock i).1.mono hu, (h.clock i).2⟩, h.dmr.mono hu, h.ysf.mono hu,
      h.ptt.mono hu⟩

/-- The bridge starts with readings of the clock in its stamps. -/
theorem stamped_init (hc : c.Within t u) (ht : 0 ≤ t) (db : AliasDb) :
    (init c db).Stamped t u := by
  obtain ⟨⟨_, _, _, h4⟩, h5⟩ := hc 0
  refine ⟨fun i => hc (i + 2), (hc 0).1, (hc 1).1, Int.le_refl _, Int.le_refl _, ?_, ?_⟩
  · change (0 : Int) < 1000000000
    decide
  · simp only [init, Timespec.ns]
    omega

theorem stamped_run (h : b.Stamped s t) (hev : Timed BridgeEvent.Within t evs t') :
    ∃ s, (evs.foldl (step e) b).Stamped s t' := by
  apply hev.foldl (I := fun t b => ∃ s, Stamped b s t) ?_ ⟨s, h⟩
  rintro b ev t u ⟨s, hs⟩ hw hu
  exact hs.step hw hu

end Bridge

end AdnBridge
