import AdnBridge.Bridge.Clearing
import AdnBridge.BridgeEl.Streams

namespace AdnBridge
set_option autoImplicit true

namespace BridgeEl

variable {e : ElEnv} {b b' b'' : BridgeEl} {voc : Vocoder} {st st' : ClearStage}
  {m : Dmrd → TgMark}

/-- The DMR packets sent between two states. -/
def dmrdSince (b b' : BridgeEl) : List Dmrd :=
  (sentDmrd (b'.trace.drop b.trace.length)).map Prod.fst

/-- The link to DMR comes up with a tick, after it was `up` at the tick before. -/
def edges (up : Bool) : BridgeElEvent → List TgMark
  | .tick _ dmrUp => if dmrUp && !up then [.edge] else []
  | _ => []

def linkAfter (up : Bool) : BridgeElEvent → Bool
  | .tick _ dmrUp => dmrUp
  | _ => up

/-- The part of an event that belongs to the connect PTT: its poll, at the start of a tick. -/
def pttPart (e : ElEnv) (b : BridgeEl) : BridgeElEvent → BridgeEl
  | .tick c dmrUp => { b with clock := c }.pollConnectPtt e dmrUp
  | _ => b

def noteTg (e : ElEnv) (log : TgLog) (b : BridgeEl) (ev : BridgeElEvent) (b' : BridgeEl) :
    TgLog where
  up := linkAfter log.up ev
  marks := log.marks ++ (edges log.up ev ++ ((dmrdSince b (b.pttPart e ev)).map .ptt ++
    (dmrdSince (b.pttPart e ev) b').map .call))

/-- The bridge as an observer of its DMR side sees it. -/
def watched (e : ElEnv) (c : Clock) (db : AliasDb) (el : PeerEl) :
    Machine (BridgeEl × TgLog) BridgeElEvent :=
  (machine e c db el).observe ⟨false, []⟩ (noteTg e)

def pttView (b : BridgeEl) : PttView :=
  ⟨b.connectPttActive, b.connectPttTg, b.connectPttPhase, b.dmrWasConnected⟩

abbrev Fits (e : ElEnv) (b : BridgeEl) (st : ClearStage) : Prop := b.pttView.Fits e.cfg.tg st

theorem Fits.congr (h : b.Fits e st) (hs : b'.pttView = b.pttView) : b'.Fits e st := by
  rw [Fits, hs]
  exact h

/-- The observer lets what is sent pass, marked by `m`. -/
def Passes (e : ElEnv) (m : Dmrd → TgMark) (b : BridgeEl) (st : ClearStage) (b' : BridgeEl)
    (st' : ClearStage) : Prop :=
  ∃ as, b'.trace = b.trace ++ as ∧
    (((sentDmrd as).map Prod.fst).map m).foldlM (ClearStage.step (wireTg e.cfg.tg)) st = some st'

theorem Passes.same (ht : b'.trace = b.trace) : Passes e m b st b' st :=
  ⟨[], ht.trans (List.append_nil _).symm, rfl⟩

theorem Passes.trans (h : Passes e m b st b' st') (h' : Passes e m b' st' b'' st'') :
    Passes e m b st b'' st'' := by
  obtain ⟨as, ht, hs⟩ := h
  obtain ⟨as', ht', hs'⟩ := h'
  refine ⟨as ++ as', by rw [ht', ht, List.append_assoc], ?_⟩
  have ha : sentDmrd (as ++ as') = sentDmrd as ++ sentDmrd as' := List.filterMap_append
  rw [ha, List.map_append, List.map_append, foldlM_append_some hs]
  exact hs'

theorem Passes.since (h : Passes e m b st b' st') :
    ((dmrdSince b b').map m).foldlM (ClearStage.step (wireTg e.cfg.tg)) st = some st' := by
  obtain ⟨as, ht, hs⟩ := h
  rw [dmrdSince, ht, List.drop_left]
  exact hs

/-- The observer lets what is sent pass, what it has seen fits again, and the bridge takes the link
to be `up`. -/
def Clears (e : ElEnv) (m : Dmrd → TgMark) (up : Bool) (b : BridgeEl) (st : ClearStage)
    (b' : BridgeEl) : Prop :=
  ∃ st', Passes e m b st b' st' ∧ b'.Fits e st' ∧ b'.dmrWasConnected = up

theorem Clears.same (ht : b'.trace = b.trace) (hs : b'.pttView = b.pttView) (h : b.Fits e st) :
    Clears e m b.dmrWasConnected b st b' :=
  ⟨st, .same ht, h.congr hs, congrArg PttView.up hs⟩

theorem Clears.trans (h : Clears e m up b st b')
    (h' : ∀ st', b'.Fits e st' → Clears e m b'.dmrWasConnected b' st' b'') :
    Clears e m up b st b'' := by
  obtain ⟨st', hp, hf, hu⟩ := h
  obtain ⟨st'', hp', hf', hu'⟩ := h' st' hf
  exact ⟨st'', hp.trans hp', hf', hu'.trans hu⟩

theorem Clears.congr (h : Clears e m up b st b') (ht : b''.trace = b'.trace)
    (hs : b''.pttView = b'.pttView) : Clears e m up b st b'' :=
  h.trans fun _ hf => .same ht hs hf

theorem sendDmrd_full (e : ElEnv) (b : BridgeEl) (ft : UInt8) (v : Option (List UInt8))
    (cut : Bool) : ∃ p : Dmrd, p.b15 = ft ∧ p.voice33 = v ∧ p.dst = b.txTg e ∧
      b.sendDmrd e ft v cut =
        { b.tock.log (.dmrd p cut) with dmrSeq := b.dmrSeq + 1, lastDmrTx := b.clock.now } := by
  rw [sendDmrd]
  simp only [if_neg (dmrid_not_le e b.elRfId)]
  exact ⟨_, rfl, rfl, rfl, rfl⟩

@[simp] theorem sendDmrd_pttView (e : ElEnv) (b : BridgeEl) (ft : UInt8)
    (v : Option (List UInt8)) (cut : Bool) : (b.sendDmrd e ft v cut).pttView = b.pttView := by
  obtain ⟨p, _, _, _, hb⟩ := sendDmrd_full e b ft v cut
  rw [hb]
  rfl

theorem connectPttPad_pttView (e : ElEnv) (n : Nat) (b : BridgeEl) :
    (connectPttPad e n b).pttView = b.pttView := by
  induction n generalizing b with
  | zero => rfl
  | succ n ih =>
    rw [connectPttPad]
    split
    next => exact (ih _).trans (sendDmrd_pttView e b _ _ false)
    next => rfl

/-- A packet of the connect PTT. -/
theorem passes_ptt (hm : e.cfg.mode = .echolinkDmr) (hne : wireTg e.cfg.tg ≠ dmrClearDynamicTg)
    (h : b.pttView.On e.cfg.tg) {ft : UInt8} {v : Option (List UInt8)} {st1 : ClearStage}
    (hst : b.connectPttTg = dmrClearDynamicTg → ∀ p : Dmrd, p.b15 = ft → p.voice33 = v →
      st.onPtt p = some st1) :
    ∃ st', Passes e .ptt b st (b.sendDmrd e ft v false) st' ∧
      (b.connectPttTg = dmrClearDynamicTg → st' = st1) := by
  obtain ⟨p, hft, hv, hdst, hb⟩ := sendDmrd_full e b ft v false
  have hpos : b.connectPttTg > 0 := by
    rcases h.tg with ht | ht
    · change b.connectPttTg = _ at ht
      rw [ht]
      decide
    · change b.connectPttTg = _ at ht
      rw [ht]
      exact e.cfg.tg_pos hm
  have hact : b.connectPttActive = true := h.active
  have hd : p.dst = b.pttView.tg := by
    rw [hdst, txTg, hact, Bool.true_and, if_pos (decide_eq_true hpos)]
    rfl
  obtain ⟨st', hs, h1⟩ := h.step_ptt hne hd fun hc => hst hc p hft hv
  refine ⟨st', ⟨[.dmrd p false], ?_, ?_⟩, h1⟩
  · rw [hb]
    rfl
  · change Option.bind (ClearStage.step _ st (.ptt p)) _ = _
    rw [hs]
    rfl

section
variable (hm : e.cfg.mode = .echolinkDmr) (hne : wireTg e.cfg.tg ≠ dmrClearDynamicTg)
include hm hne

theorem passes_silence (h : b.pttView.On e.cfg.tg) (hg : b.pttView.Going st) {ft : UInt8}
    (hft : ft = voiceB15 n) :
    ∃ st', Passes e .ptt b st (b.sendDmrd e ft (some dmrSilenceData) false) st' ∧
      b.pttView.Going st' := by
  obtain ⟨st', hp, hst⟩ := passes_ptt hm hne h fun hc p hb hv =>
    ClearStage.onPtt_silence (hb.trans hft) hv (hg hc)
  exact ⟨st', hp, fun hc => .inr (hst hc)⟩

theorem passes_pad (h : b.pttView.On e.cfg.tg) (hg : b.pttView.Going st) (n : Nat) :
    ∃ st', Passes e .ptt b st (connectPttPad e n b) st' ∧ b.pttView.Going st' := by
  induction n generalizing b st with
  | zero => exact ⟨st, .same rfl, hg⟩
  | succ n ih =>
    rw [connectPttPad]
    split
    next hn =>
      obtain ⟨st1, hp1, hg1⟩ := passes_silence hm hne h hg (padB15_eq hn)
      have hs : { b.sendDmrd e (padB15 b.connectPttVoiceFrames) (some dmrSilenceData) false with
          connectPttVoiceFrames := (b.sendDmrd e (padB15 b.connectPttVoiceFrames)
            (some dmrSilenceData) false).connectPttVoiceFrames + 1 }.pttView = b.pttView :=
        sendDmrd_pttView e b _ _ false
      rw [← hs] at h hg1
      obtain ⟨st2, hp2, hg2⟩ := ih h hg1
      rw [hs] at hg2
      exact ⟨st2, (hp1.trans (.same rfl)).trans hp2, hg2⟩
    next => exact ⟨st, .same rfl, hg⟩

/-- The end of a stage, and the beginning of the one to the configured talkgroup after a clear
stage. -/
theorem clears_finish (h : b.pttView.On e.cfg.tg) (hg : b.pttView.Going st) :
    Clears e .ptt b.dmrWasConnected b st (b.connectPttFinish e) := by
  obtain ⟨st1, hp1, hg1⟩ := passes_pad hm hne h hg 6
  have hs1 := connectPttPad_pttView e 6 b
  rw [connectPttFinish]
  generalize connectPttPad e 6 b = b1 at hp1 hs1
  rw [← hs1] at h hg1
  obtain ⟨st2, hp2, _⟩ := passes_ptt hm hne h (v := some dmrSilenceData) fun hc p hb hv =>
    ClearStage.onPtt_end hb hv (hg1 hc)
  have hs2 := sendDmrd_pttView e b1 vtermB15 (some dmrSilenceData) false
  generalize b1.sendDmrd e vtermB15 (some dmrSilenceData) false = b2 at hp2 hs2
  have hp := hp1.trans hp2
  have hup : b2.dmrWasConnected = true := (congrArg PttView.up hs2).trans h.up
  have hflag : b2.dmrWasConnected = b.dmrWasConnected :=
    (congrArg PttView.up hs2).trans (congrArg PttView.up hs1)
  split
  · have hfit : (b2.connectPttBeginStream e e.cfg.tg false).Fits e st2 :=
      PttView.fits_own hne rfl hup st2
    exact ⟨st2, hp.trans (.same rfl), hfit, hflag⟩
  · exact ⟨st2, hp.trans (.same rfl), .off rfl, hflag⟩

/-- The one header, where the other bridge sends three. -/
theorem passes_head (h : b.pttView.On e.cfg.tg)
    (hst : b.connectPttTg = dmrClearDynamicTg → st = .fresh) :
    ∃ st', Passes e .ptt b st (b.sendDmrd e vheadB15 none false) st' ∧
      (b.connectPttTg = dmrClearDynamicTg → st' = .heads) :=
  passes_ptt hm hne h fun hc _ hb hv => ClearStage.onPtt_head hb hv (.inl (hst hc))

omit hm in
/-- The connect PTT begins right after the edge. -/
theorem clears_start (ha : b.connectPttActive = false) :
    Clears e .ptt true b .fresh { b.startConnectPtt e with dmrWasConnected := true } := by
  have hoff : Clears e .ptt true b .fresh { b with dmrWasConnected := true } :=
    ⟨.fresh, .same rfl, .off ha, rfl⟩
  rw [startConnectPtt]
  split
  · exact hoff
  · split
    · exact hoff
    · split
      · have hfit : Fits e { b.connectPttBeginStream e dmrClearDynamicTg true with
            dmrWasConnected := true } .fresh := PttView.fits_fresh rfl rfl rfl
        exact ⟨.fresh, .same rfl, hfit, rfl⟩
      · have hfit : Fits e { b.connectPttBeginStream e e.cfg.tg false with
            dmrWasConnected := true } .fresh := PttView.fits_own hne rfl rfl .fresh
        exact ⟨.fresh, .same rfl, hfit, rfl⟩

theorem clears_emit (hf : b.Fits e st) :
    Clears e .ptt b.dmrWasConnected b st (b.emitConnectPtt e) := by
  rw [emitConnectPtt]
  split
  · exact .same rfl rfl hf
  next ha =>
    have ha' : b.connectPttActive = true := by simpa using ha
    have hon := hf.on ha'
    split
    next h0 =>
      have hfirst := hf.fresh ha'
      obtain ⟨st1, hp, h1⟩ := passes_head hm hne hon fun hc => hfirst hc h0
      have hs := sendDmrd_pttView e b vheadB15 none false
      generalize b.sendDmrd e vheadB15 none false = b1 at hp hs
      refine ⟨st1, hp.trans (.same rfl), PttView.On.fits ?_ Nat.one_ne_zero ?_,
        congrArg PttView.up hs⟩
      · rw [← hs] at hon
        exact ⟨hon.active, hon.up, hon.tg⟩
      · exact fun hc => .inl (h1 ((congrArg PttView.tg hs).symm.trans hc))
    next h0 =>
      have hgo := hf.hasBegun ha' h0
      split
      · obtain ⟨st', hp, hfit⟩ := clears_finish hm hne (b := b.tock) hon hgo
        exact ⟨st', (Passes.same rfl).trans hp, hfit⟩
      · obtain ⟨st', hp, hg⟩ := passes_silence hm hne (b := b.tock) hon hgo
          (rfl : voiceB15 b.connectPttVoiceFrames = _)
        have hs := sendDmrd_pttView e b.tock (voiceB15 b.connectPttVoiceFrames)
          (some dmrSilenceData) false
        have hfit : (b.tock.sendDmrd e (voiceB15 b.connectPttVoiceFrames)
            (some dmrSilenceData) false).Fits e st' := by
          rw [Fits, hs]
          exact PttView.On.fits hon h0 hg
        exact ⟨st', ((Passes.same rfl).trans hp).trans (.same rfl), hfit, congrArg PttView.up hs⟩

/-- Polling the connect PTT; the edge, if there is one, comes first. -/
theorem clears_poll (hf : b.Fits e st) (connected : Bool) :
    ∃ st', ((if connected && !b.dmrWasConnected then [TgMark.edge] else []).foldlM
        (ClearStage.step (wireTg e.cfg.tg)) st) = some st' ∧
      Clears e .ptt connected b st' (b.pollConnectPtt e connected) := by
  have hrest {b1 b2 : BridgeEl} {st' : ClearStage} (h : Clears e .ptt connected b1 st' b2) :
      Clears e .ptt connected b1 st'
        (if !b2.connectPttActive then b2
          else if msElapsed b2.clock.now b2.lastDmrTx elDmrFrameMs then b2.tock.emitConnectPtt e
          else b2.tock) := by
    split
    · exact h
    · have htock : Clears e .ptt connected b1 st' b2.tock := h.congr rfl rfl
      split
      · exact htock.trans fun _ hf => clears_emit hm hne hf
      · exact htock
  cases connected with
  | false => exact ⟨st, rfl, hrest ⟨st, .same rfl, .off rfl, rfl⟩⟩
  | true =>
    cases hup : b.dmrWasConnected with
    | false =>
      have ha : b.connectPttActive = false := by
        cases ha : b.connectPttActive with
        | false => rfl
        | true => exact absurd (hup.symm.trans (hf.up ha)) (by decide)
      refine ⟨.fresh, rfl, ?_⟩
      have h := hrest (clears_start hne ha)
      rw [pollConnectPtt, hup]
      exact h
    | true =>
      refine ⟨st, rfl, ?_⟩
      have hs : { b with dmrWasConnected := true }.pttView = b.pttView := by
        rw [pttView, pttView, hup]
      have h0 : Clears e .ptt true b st { b with dmrWasConnected := true } :=
        ⟨st, .same rfl, hf.congr hs, rfl⟩
      have h := hrest h0
      rw [pollConnectPtt, hup]
      exact h

end

theorem Clears.after (h : Clears e m up b' st b'') (ht : b'.trace = b.trace) :
    Clears e m up b st b'' := by
  obtain ⟨st', hp, hf⟩ := h
  exact ⟨st', (Passes.same ht).trans hp, hf⟩

/-- A packet of a call, sent while there is no connect PTT. -/
theorem clears_call (hp : b.connectPttActive = false) (ft : UInt8) (v : Option (List UInt8))
    (cut : Bool) : Clears e .call b.dmrWasConnected b st (b.sendDmrd e ft v cut) := by
  obtain ⟨p, _, _, hdst, hb⟩ := sendDmrd_full e b ft v cut
  have hd : p.dst = e.cfg.tg := by
    rw [hdst, txTg, hp]
    rfl
  rw [hb]
  refine ⟨.over, ⟨[.dmrd p cut], rfl, ?_⟩, .off hp, rfl⟩
  change Option.bind (ClearStage.step _ st (.call p)) _ = _
  rw [PttView.step_call hd]
  rfl

theorem openDmrCall_pttView (e : ElEnv) (b : BridgeEl) :
    (b.openDmrCall e).pttView = b.pttView := by
  rw [openDmrCall, newStreamId]
  simp only
  generalize hb1 : ({ b with
    callActive := .elTx, draws := b.draws + 1, dmrStreamId := streamId e b.draws, dmrSeq := 0,
    dmrVoiceFrames := 0, conv := .reset } : BridgeEl) = b1
  obtain ⟨src, id, hr⟩ := resolveElTalker_eq e b1
  rw [hr]
  have hs := sendDmrd_pttView e { b1 with netSrc := src, elRfId := id } vheadB15 none false
  rw [← hb1] at hs ⊢
  exact hs

theorem clears_openDmrCall (hp : b.connectPttActive = false) :
    Clears e .call b.dmrWasConnected b st (b.openDmrCall e) := by
  rw [openDmrCall, newStreamId]
  simp only
  generalize hb1 : ({ b with
    callActive := .elTx, draws := b.draws + 1, dmrStreamId := streamId e b.draws, dmrSeq := 0,
    dmrVoiceFrames := 0, conv := .reset } : BridgeEl) = b1
  obtain ⟨src, id, hr⟩ := resolveElTalker_eq e b1
  rw [hr]
  have hp1 : ({ b1 with netSrc := src, elRfId := id } : BridgeEl).connectPttActive = false := by
    rw [← hb1]
    exact hp
  have ht : ({ b1 with netSrc := src, elRfId := id } : BridgeEl).trace = b.trace := by
    rw [← hb1]
  have hu : b.dmrWasConnected = b1.dmrWasConnected := by
    rw [← hb1]
  rw [hu]
  exact ((clears_call hp1 vheadB15 none false).after ht).congr rfl rfl

theorem clears_emitDmrVoice (hp : b.connectPttActive = false) (hf : b.Fits e st)
    (voice33 : List UInt8) : Clears e .call b.dmrWasConnected b st (b.emitDmrVoice e voice33) := by
  have h1 : Clears e .call b.dmrWasConnected b st
        (if b.callActive = .idle then b.openDmrCall e else b) ∧
      (if b.callActive = .idle then b.openDmrCall e else b).connectPttActive = false := by
    split
    · exact ⟨clears_openDmrCall hp, (congrArg PttView.active (openDmrCall_pttView e b)).trans hp⟩
    · exact ⟨.same rfl rfl hf, hp⟩
  rw [emitDmrVoice]
  generalize (if b.callActive = .idle then b.openDmrCall e else b) = b1 at h1
  obtain ⟨h1, hp1⟩ := h1
  exact (h1.trans fun _ _ => clears_call hp1 _ _ _).congr rfl rfl

theorem clears_paceDmrTx (hf : b.Fits e st) :
    Clears e .call b.dmrWasConnected b st (b.paceDmrTx e) := by
  rw [paceDmrTx]
  split
  · exact .same rfl rfl hf
  next hn =>
    rw [not_or, not_or] at hn
    have hp : b.connectPttActive = false := Bool.eq_false_of_not_eq_true hn.2.1
    split
    · exact .same rfl rfl hf
    · have h1 : ∃ c, (if b.callActive = .elTx then b.tock else b) = { b with clock := c } := by
        split
        · exact ⟨b.clock.next, rfl⟩
        · exact ⟨b.clock, rfl⟩
      obtain ⟨c, hc⟩ := h1
      rw [hc]
      simp only
      generalize b.conv.getDmr = r
      obtain ⟨tag, voice33, conv⟩ := r
      simp only
      split
      · have h := clears_emitDmrVoice (b := { b with clock := c, conv := conv }) hp hf voice33
        exact h.after rfl
      · exact .same rfl rfl hf

/-- The padding and the VTERM of a call, with which no connect PTT goes together. -/
theorem clears_paceDmrEnd (h : b.TxInv e cs) (hf : b.Fits e st) :
    Clears e .call b.dmrWasConnected b st (b.paceDmrEnd e) := by
  rw [paceDmrEnd]
  split
  · exact .same rfl rfl hf
  next hc =>
    rw [not_or, not_not] at hc
    have hp : b.connectPttActive = false := (ElTxState.Inv.callOpen h hc.2).2
    split
    · exact .same rfl rfl hf
    · split
      · have hs : Clears e .call b.dmrWasConnected b.tock st
            (b.tock.sendDmrd e (voiceB15 b.dmrVoiceFrames) (some dmrSilenceData) false) :=
          clears_call (b := b.tock) hp _ _ _
        exact (hs.after rfl).congr rfl rfl
      · have hs : Clears e .call b.dmrWasConnected b.tock st
            (b.tock.sendDmrd e vtermB15 (some dmrSilenceData) false) :=
          clears_call (b := b.tock) hp _ _ _
        exact (hs.after rfl).congr rfl rfl

theorem clears_endDmrCall (h : b.TxInv e cs) (hf : b.Fits e st) :
    Clears e .call b.dmrWasConnected b st (b.endDmrCall e) := by
  rw [endDmrCall]
  split
  · exact .same rfl rfl hf
  · split
    next hc =>
      have hp : b.connectPttActive = false := (ElTxState.Inv.callOpen h hc).2
      exact (clears_call hp vtermB15 (some dmrSilenceData) true).congr rfl rfl
    next => exact .same rfl rfl hf

theorem clears_onDmrd (h : b.TxInv e cs) (hf : b.Fits e st) (hb : b.onDmrd e voc pkt = some b') :
    Clears e .call b.dmrWasConnected b st b' := by
  have hsame : Clears e .call b.dmrWasConnected b st b := .same rfl rfl hf
  rw [onDmrd] at hb
  split at hb
  · cases hb
    exact hsame
  · split at hb
    · cases hb
      exact hsame
    · split at hb
      · simp only at hb
        split at hb
        · cases hb
          exact .same rfl rfl hf
        · have h1 : Clears e .call b.dmrWasConnected b st
              (if b.callActive = .elTx then b.endDmrCall e else b) := by
            split
            · exact clears_endDmrCall h hf
            · exact hsame
          generalize (if b.callActive = .elTx then b.endDmrCall e else b) = b1 at h1 hb
          cases hb
          refine h1.congr ?_ ?_
          · split <;> rfl
          · split <;> rfl
      · split at hb
        · split at hb
          · cases hb
            exact .same rfl rfl hf
          · cases hb
            exact hsame
        · split at hb
          · cases hb
            exact hsame
          · obtain ⟨el, rfl⟩ := playAmbe_eq hb
            exact .same rfl rfl hf

theorem processElAudio_same (e : ElEnv) (b : BridgeEl) (voc : Vocoder) :
    (b.processElAudio e voc).trace = b.trace ∧ (b.processElAudio e voc).pttView = b.pttView := by
  rw [processElAudio]
  split
  · exact ⟨rfl, rfl⟩
  · split
    · exact ⟨rfl, rfl⟩
    · apply elLoop_invariant (I := fun b' => b'.trace = b.trace ∧ b'.pttView = b.pttView)
      · intro b1 el acc c speech run h
        exact h
      · intro b1 h
        exact h
      · intro ambe b1 h
        rw [takeDmrAmbe]
        simp only
        split
        · exact h
        · obtain ⟨conv, hc⟩ := foldl_modeconv_eq e .putAmbe7 (b1.elAmbe ++ [ambe])
            { b1 with elAmbe := b1.elAmbe ++ [ambe] }
          rw [hc]
          exact h
      · exact ⟨rfl, rfl⟩

theorem hangElTx_same (hm : e.cfg.mode = .echolinkDmr) (b : BridgeEl) :
    (b.hangElTx e).trace = b.trace ∧ (b.hangElTx e).pttView = b.pttView := by
  simp only [hangElTx, hm]
  split
  · exact ⟨rfl, rfl⟩
  · split
    · rw [beginDmrEnd]
      split
      · exact ⟨rfl, rfl⟩
      · exact ⟨rfl, rfl⟩
    · exact ⟨rfl, rfl⟩

theorem hangElRx_same (hm : e.cfg.mode = .echolinkDmr) (b : BridgeEl) :
    (b.hangElRx e).trace = b.trace ∧ (b.hangElRx e).pttView = b.pttView := by
  simp only [hangElRx, hm]
  split
  · exact ⟨rfl, rfl⟩
  · split
    · exact ⟨rfl, rfl⟩
    · exact ⟨rfl, rfl⟩

/-- What a tick sends after the poll is traffic of the call. -/
theorem clears_tick (hm : e.cfg.mode = .echolinkDmr) (h : (b.pollConnectPtt e dmrUp).TxInv e cs)
    (hf : (b.pollConnectPtt e dmrUp).Fits e st) :
    Clears e .call (b.pollConnectPtt e dmrUp).dmrWasConnected (b.pollConnectPtt e dmrUp) st
      (b.tick e dmrUp) := by
  have h1 : Clears e .call (b.pollConnectPtt e dmrUp).dmrWasConnected (b.pollConnectPtt e dmrUp) st
      (b.paceTx e dmrUp) := by
    simp only [paceTx, hm]
    split
    · exact clears_paceDmrEnd h hf
    · exact clears_paceDmrTx hf
  rw [tick]
  obtain ⟨ht, hv⟩ := hangElTx_same hm (b.paceTx e dmrUp)
  obtain ⟨ht', hv'⟩ := hangElRx_same hm ((b.paceTx e dmrUp).hangElTx e)
  exact (h1.congr ht hv).congr ht' hv'

/-- The observer has let everything pass so far, and what it has seen fits the connect PTT. -/
structure ClearInv (e : ElEnv) (p : BridgeEl × TgLog) : Prop where
  sends : ∃ cs, p.1.TxInv e cs
  up : p.2.up = p.1.dmrWasConnected
  fits : ∃ st, p.2.marks.foldlM (ClearStage.step (wireTg e.cfg.tg)) .over = some st ∧ p.1.Fits e st

/-- What one event makes the bridge send passes: first the edge, then the connect PTT, then the
call. -/
theorem clears_step (hm : e.cfg.mode = .echolinkDmr) (hne : wireTg e.cfg.tg ≠ dmrClearDynamicTg)
    (h : b.TxInv e cs) (hf : b.Fits e st) (ev : BridgeElEvent) (hb : b.step e ev = some b') :
    ∃ st1 st2, (edges b.dmrWasConnected ev).foldlM (ClearStage.step (wireTg e.cfg.tg)) st =
        some st1 ∧
      Passes e .ptt b st1 (b.pttPart e ev) st2 ∧
      Clears e .call (linkAfter b.dmrWasConnected ev) (b.pttPart e ev) st2 b' := by
  cases ev with
  | audio c voc =>
    simp only [BridgeEl.step, hm, Option.some.injEq] at hb
    rw [← hb]
    obtain ⟨ht, hv⟩ := processElAudio_same e { b with clock := c } voc
    exact ⟨st, st, rfl, .same rfl, .same ht hv hf⟩
  | dmrd c voc pkt =>
    have h1 := clears_onDmrd (b := { b with clock := c }) h hf hb
    exact ⟨st, st, rfl, .same rfl, h1.after rfl⟩
  | ysfd c voc pkt =>
    have hn : e.cfg.mode ≠ .echolinkYsf := by
      rw [hm]
      decide
    rw [BridgeEl.step, BridgeEl.onYsfd, if_pos hn] at hb
    cases hb
    exact ⟨st, st, rfl, .same rfl, .same rfl rfl hf⟩
  | tick c dmrUp =>
    cases hb
    have hf' : Fits e { b with clock := c } st := hf
    obtain ⟨st1, he, st2, hp, hfit, hup⟩ := clears_poll hm hne hf' dmrUp
    have hi : (pollConnectPtt e { b with clock := c } dmrUp).TxInv e cs :=
      TxInv.pollConnectPtt (b := { b with clock := c }) h dmrUp
    have ht := clears_tick hm hi hfit
    rw [hup] at ht
    exact ⟨st1, st2, he, hp, ht⟩
  | rtp | identity | link | aliases =>
    cases hb
    exact ⟨st, st, rfl, .same rfl, .same rfl rfl hf⟩

theorem ClearInv.step (hm : e.cfg.mode = .echolinkDmr)
    (hne : wireTg e.cfg.tg ≠ dmrClearDynamicTg) {log : TgLog} (h : ClearInv e (b, log))
    (ev : BridgeElEvent) (hb : b.step e ev = some b') : ClearInv e (b', noteTg e log b ev b') := by
  obtain ⟨⟨cs, hi⟩, hup, st, hl, hf⟩ := h
  have hup : log.up = b.dmrWasConnected := hup
  obtain ⟨st1, st2, he, hp, st3, hc, hfit, hup3⟩ := clears_step hm hne hi hf ev hb
  obtain ⟨cs', hi', -⟩ := hi.step hm ev hb
  rw [noteTg, hup]
  refine ⟨⟨cs', hi'⟩, hup3.symm, st3, ?_, hfit⟩
  rw [foldlM_append_some hl, foldlM_append_some he, foldlM_append_some hp.since]
  exact hc.since

/-- In every run of the EchoLink–DMR bridge, calls go to the talkgroup of the configuration, as the
packet can say it, and what goes to the clear talkgroup is one clear stage for each connection. -/
theorem clearsOnce_of_run (hm : e.cfg.mode = .echolinkDmr)
    (hne : wireTg e.cfg.tg ≠ dmrClearDynamicTg) {c : Clock} {db : AliasDb} {el : PeerEl}
    {evs : List BridgeElEvent} {p : BridgeEl × TgLog}
    (hr : (watched e c db el).run evs = some p) : ClearsOnce (wireTg e.cfg.tg) p.2.marks := by
  have h : ClearInv e p := by
    refine Machine.run_invariant (M := watched e c db el) (fun q ev q' hi hs => ?_) ?_ hr
    · obtain ⟨b, log⟩ := q
      obtain ⟨hs, hq⟩ := Machine.observe_step hs
      have hi' := hi.step hm hne ev hs
      rw [← hq] at hi'
      exact hi'
    · exact ⟨⟨[], init_txInv e c db el⟩, rfl, .over, rfl, .off rfl⟩
  obtain ⟨_, _, st, hl, _⟩ := h
  exact clearsOnce_of_fold hne hl

end BridgeEl

/-- In every run of either bridge whose talkgroup fits the three bytes that a packet has for it, and
is not the clear one, call audio goes to the talkgroup and the clear talkgroup gets one clear stage
for each connection. -/
theorem clearsOnce_run (tg : Int) (hne : tg ≠ dmrClearDynamicTg) (hw : wireTg tg = tg) :
    (∀ (e : Env) (c : Clock) (db : AliasDb) (evs : List BridgeEvent) (p : Bridge × TgLog),
      e.cfg.tg = tg → (Bridge.watched e c db).run evs = some p → ClearsOnce tg p.2.marks) ∧
    ∀ (e : ElEnv) (c : Clock) (db : AliasDb) (el : PeerEl) (evs : List BridgeElEvent)
      (p : BridgeEl × TgLog), e.cfg.mode = .echolinkDmr → e.cfg.tg = tg →
      (BridgeEl.watched e c db el).run evs = some p → ClearsOnce tg p.2.marks := by
  constructor
  · intro e c db evs p htg hr
    subst htg
    rw [← hw] at hne ⊢
    exact Bridge.clearsOnce_of_run hne hr
  · intro e c db el evs p hm htg hr
    subst htg
    rw [← hw] at hne ⊢
    exact BridgeEl.clearsOnce_of_run hm hne hr

def sampleClearEnv (tg : Int) (h : 0 < tg) : Env :=
  { sampleEnv with cfg := { sampleEnv.cfg with tg := tg, clearDynamicTg := true, tg_pos := h } }

def sampleClearElEnv : ElEnv :=
  { sampleElEnv .echolinkDmr with
    cfg := { (sampleElEnv .echolinkDmr).cfg with clearDynamicTg := true } }

/-- A clear stage with its headers, a burst of silence, the padding and the VTERM, and the headers
of the next stage. -/
theorem clearsOnce_run_sample :
    (∃ p, (Bridge.watched (sampleClearEnv 730 (by decide)) (.stopped 0) noAliases).run
        [tickAt 1000 true true, tickAt 1060 true true, tickAt 1700 true true,
          tickAt 1760 true true] = some p ∧ p.2.marks.length = 14 ∧ ClearsOnce 730 p.2.marks) ∧
    ∃ p, (BridgeEl.watched sampleClearElEnv (.stopped 0) noAliases samplePeerEl).run
        [elTickAt 1000, elTickAt 1060, elTickAt 1700, elTickAt 1760] = some p ∧
      p.2.marks.length = 10 ∧ ClearsOnce 730 p.2.marks := by
  constructor
  · have hl : ((Bridge.watched (sampleClearEnv 730 (by decide)) (.stopped 0) noAliases).run
        [tickAt 1000 true true, tickAt 1060 true true, tickAt 1700 true true,
          tickAt 1760 true true]).map (fun p => p.2.marks.length) = some 14 := by
      decide +kernel
    obtain ⟨p, hp, hl⟩ := Option.map_eq_some_iff.1 hl
    exact ⟨p, hp, hl,
      (clearsOnce_run 730 (by decide) (by decide)).1 (sampleClearEnv 730 (by decide)) _ _ _ p rfl
        hp⟩
  · have hl : ((BridgeEl.watched sampleClearElEnv (.stopped 0) noAliases samplePeerEl).run
        [elTickAt 1000, elTickAt 1060, elTickAt 1700, elTickAt 1760]).map
          (fun p => p.2.marks.length) = some 10 := by
      decide +kernel
    obtain ⟨p, hp, hl⟩ := Option.map_eq_some_iff.1 hl
    exact ⟨p, hp, hl,
      (clearsOnce_run 730 (by decide) (by decide)).2 sampleClearElEnv _ _ _ _ p rfl rfl hp⟩

def TgMark.clearVoice : TgMark → Bool
  | .call p => p.isVoice && p.wireDst == dmrClearDynamicTg
  | _ => false

/-- With the talkgroup 4000 + 2^24 the voice of a call goes to the clear talkgroup. -/
theorem not_clearsOnce_run :
    ¬∀ (e : Env) (c : Clock) (db : AliasDb) (evs : List BridgeEvent) (p : Bridge × TgLog),
      e.cfg.tg ≠ dmrClearDynamicTg → (Bridge.watched e c db).run evs = some p →
      ClearsOnce e.cfg.tg p.2.marks := by
  intro h
  have hc : ((Bridge.watched (sampleClearEnv 16781216 (by decide)) (.stopped 0) noAliases).run
      [ysfdAt 1000 headerFich, ysfdAt 1100 communicationsFich, tickAt 1200 true true,
        tickAt 1300 true true]).map (fun p => p.2.marks.any TgMark.clearVoice) = some true := by
    decide +kernel
  obtain ⟨p, hp, hc⟩ := Option.map_eq_some_iff.1 hc
  obtain ⟨m, hm, hv⟩ := List.any_eq_true.1 hc
  have hcall := (h _ _ _ _ p (by decide) hp).call
  cases m with
  | edge => cases hv
  | ptt q => cases hv
  | call q =>
    rw [TgMark.clearVoice, Bool.and_eq_true, beq_iff_eq, hcall q hm] at hv
    exact absurd hv.2 (by decide)

end AdnBridge
