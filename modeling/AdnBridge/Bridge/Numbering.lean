import AdnBridge.Bridge.Following
import AdnBridge.Ysf.Numbering

namespace AdnBridge
set_option autoImplicit true

namespace Bridge

variable {e : Env} {b b' b'' : Bridge} {k : CallBook Direction}

theorem sendDmrd_ysfCnt (e : Env) (b : Bridge) (o : Origin) (ft : UInt8)
    (v : Option (List UInt8)) : (b.sendDmrd e o ft v).ysfCnt = b.ysfCnt := by
  obtain ⟨p, _, _, _, hb⟩ := sendDmrd_eq e b o ft v
  rw [hb]
  rfl

theorem connectPttPad_ysfCnt (e : Env) (n : Nat) (b : Bridge) :
    (connectPttPad e n b).ysfCnt = b.ysfCnt := by
  induction n generalizing b with
  | zero => rfl
  | succ n ih =>
    rw [connectPttPad]
    split
    · exact (ih _).trans (sendDmrd_ysfCnt e b _ _ _)
    · rfl

theorem connectPttFinish_ysfCnt (e : Env) (b : Bridge) :
    (b.connectPttFinish e).ysfCnt = b.ysfCnt := by
  have h : ((connectPttPad e 6 b).sendDmrd e .ptt vtermB15 (some dmrSilenceData)).ysfCnt =
      b.ysfCnt := (sendDmrd_ysfCnt e _ _ _ _).trans (connectPttPad_ysfCnt e 6 b)
  rw [connectPttFinish]
  split
  · exact h
  · exact h

theorem abortConnectPtt_ysfCnt (e : Env) (b : Bridge) :
    (b.abortConnectPtt e).ysfCnt = b.ysfCnt := by
  rw [abortConnectPtt]
  split
  · rfl
  · split
    · exact connectPttFinish_ysfCnt e _
    · rfl

theorem startConnectPtt_ysfCnt (e : Env) (b : Bridge) :
    (b.startConnectPtt e).ysfCnt = b.ysfCnt := by
  rw [startConnectPtt]
  split
  · rfl
  · split
    · rfl
    · split
      · rfl
      · rfl

theorem emitConnectPtt_ysfCnt (e : Env) (b : Bridge) : (b.emitConnectPtt e).ysfCnt = b.ysfCnt := by
  rw [emitConnectPtt]
  split
  · rfl
  · split
    · have h := fun b => sendDmrd_ysfCnt e b .ptt vheadB15 none
      exact (h _).trans ((h _).trans (h b))
    · split
      · exact connectPttFinish_ysfCnt e b.tock
      · exact sendDmrd_ysfCnt e b.tock _ _ _

theorem pollConnectPtt_ysfCnt (e : Env) (b : Bridge) (connected : Bool) :
    (b.pollConnectPtt e connected).ysfCnt = b.ysfCnt := by
  have h1 : (if connected && !b.dmrWasConnected then b.startConnectPtt e else b).ysfCnt =
      b.ysfCnt := by
    split
    · exact startConnectPtt_ysfCnt e b
    · rfl
  rw [pollConnectPtt]
  generalize (if connected && !b.dmrWasConnected then b.startConnectPtt e else b) = b1 at h1
  have h2 : (if connected then b1 else (b1.log (.stop .ptt)).connectPttOff).ysfCnt = b.ysfCnt := by
    split
    · exact h1
    · exact h1
  generalize (if connected then b1 else (b1.log (.stop .ptt)).connectPttOff) = b2 at h2
  simp only
  split
  · exact h2
  · split
    · exact (emitConnectPtt_ysfCnt e _).trans h2
    · exact h2

theorem modeconv_ysfCnt (e : Env) (b : Bridge) (o : ConvOp) :
    (b.modeconv e o).ysfCnt = b.ysfCnt := rfl

theorem startYsfCall_ysfCnt (e : Env) (b : Bridge) (pkt : List UInt8) :
    (b.startYsfCall e pkt).ysfCnt = b.ysfCnt := by
  have h := abortConnectPtt_ysfCnt e b
  rw [startYsfCall]
  generalize b.abortConnectPtt e = b1 at h
  exact h

theorem onYsfd_ysfCnt (e : Env) (b : Bridge) (pkt : List UInt8) :
    (b.onYsfd e pkt).ysfCnt = b.ysfCnt := by
  obtain ⟨cs, id, hr⟩ := resolveYsfHeader_eq e b pkt
  rw [onYsfd]
  cases acceptedFich e pkt with
  | none => rfl
  | some f =>
    simp only [resolveYsfHeader_ok, hr, ysfTalkerReady_eq, Bool.not_true, Bool.or_self,
      Bool.false_eq_true, if_false]
    split
    · rw [modeconv_ysfCnt]
      split
      · rfl
      · exact startYsfCall_ysfCnt e _ pkt
    · split
      · split
        · exact modeconv_ysfCnt e b _
        · rfl
      · split
        · rw [modeconv_ysfCnt]
          split
          · rfl
          · exact startYsfCall_ysfCnt e b pkt
        · rfl

theorem onDmrd_ysfCnt (e : Env) (h : b.beginsDmrCall pkt = false) :
    (b.onDmrd e pkt).ysfCnt = b.ysfCnt := by
  obtain ⟨hh, hv⟩ := Bool.or_eq_false_iff.1 h
  rw [onDmrd]
  split
  · rfl
  · split
    next hd =>
      have hc : (!b.callActive || (dmrdStream pkt != 0 && dmrdStream pkt != b.dmrStreamId)) =
          false := by
        rw [hd] at hh
        exact hh
      obtain ⟨src, dst, hid⟩ := setDmrRxIdentity_eq b pkt
      simp only [hc, Bool.false_eq_true, if_false, hid]
      split
      · exact modeconv_ysfCnt e _ _
      · rfl
    · split
      · simp only
        split
        · exact modeconv_ysfCnt e _ _
        · rfl
      · split
        next hd =>
          have hc : b.callActive = true := by
            rw [hd] at hv
            simpa using hv
          simp only [hc, if_true]
          exact modeconv_ysfCnt e _ _
        · split
          · rfl
          · rfl

theorem sendYsfd_frame (e : Env) (b : Bridge) (fi fn net : UInt8) (v : Option (List UInt8)) :
    ∃ f : Ysfd, (b.sendYsfd e fi fn net v).trace = b.trace ++ [.ysfd f] ∧ f.fi = fi ∧ f.fn = fn ∧
      f.netCnt = net ∧ f.payload = v.map fun v => (v, ysfDchSlot f.src b.netDst fn) :=
  ⟨_, rfl, rfl, rfl, rfl, rfl⟩

theorem resetCall_trace (b : Bridge) :
    b.resetCall.trace = b.trace ++ [.stop .call, .convReset] := by
  rw [resetCall, modeconvReset, log, log, List.append_assoc]
  rfl

/-- What is sent carries the count of the open call on, or the call ends. -/
def CarriesCount (b b' : Bridge) : Prop :=
  ∃ as, b'.trace = b.trace ++ as ∧ ∀ gs, Counting gs b.ysfCnt →
    VoiceCounted (gs ++ as.filterMap Act.ysfFrame) ∧
      (Counting (gs ++ as.filterMap Act.ysfFrame) b'.ysfCnt ∨ b'.Idle)

theorem filterMap_ysfFrame_silent {as : List Act} (h : ∀ a ∈ as, a.isFrame = false) :
    as.filterMap Act.ysfFrame = [] := by
  rw [List.filterMap_eq_nil_iff]
  intro a ha
  have hf := h a ha
  cases a with
  | ysfd f => cases hf
  | _ => rfl

namespace CarriesCount

theorem silent (h : Silent b b') (hc : b'.ysfCnt = b.ysfCnt) : CarriesCount b b' := by
  obtain ⟨as, ht, ha⟩ := h
  refine ⟨as, ht, fun gs hg => ?_⟩
  rw [filterMap_ysfFrame_silent ha, List.append_nil, hc]
  exact ⟨hg.sent, .inl hg⟩

/-- An idle bridge stays idle while it is drained. -/
theorem trans (h : CarriesCount b b') (h' : CarriesCount b' b'')
    (hi : b'.Idle → b''.Idle ∧ Silent b' b'') : CarriesCount b b'' := by
  obtain ⟨as, ht, ha⟩ := h
  obtain ⟨as', ht', ha'⟩ := h'
  refine ⟨as ++ as', by rw [ht', ht, List.append_assoc], fun gs hg => ?_⟩
  rw [List.filterMap_append, ← List.append_assoc]
  obtain ⟨hv, hc | hc⟩ := ha gs hg
  · exact ha' _ hc
  · obtain ⟨hi', bs, hb, hs⟩ := hi hc
    have he : as' = bs := List.append_cancel_left (ht'.symm.trans hb)
    rw [he, filterMap_ysfFrame_silent hs, List.append_nil]
    exact ⟨hv, .inr hi'⟩

theorem emitYsf (e : Env) (b : Bridge) : CarriesCount b (b.emitYsfFromConv e) := by
  rw [emitYsfFromConv]
  generalize b.conv.getYsf = r
  obtain ⟨tag, payload, conv⟩ := r
  have hnone : CarriesCount b { b with conv := conv } :=
    ⟨[], (List.append_nil _).symm, fun gs hg => by
      rw [List.filterMap_nil, List.append_nil]
      exact ⟨hg.sent, .inl hg⟩⟩
  simp only
  split
  · exact hnone
  · split
    · obtain ⟨f, ht, hfi, _⟩ := sendYsfd_frame e { b with conv := conv, ysfCnt := 0 } ysfFiHeader
        0 0 none
      refine ⟨[.ysfd f], ht, fun gs hg => ?_⟩
      have h : Counting (gs ++ [f]) 1 := hg.header hfi
      exact ⟨h.sent, .inl h⟩
    · split
      · obtain ⟨f, ht, hfi, _⟩ := sendYsfd_frame e { b with conv := conv } ysfFiTerminator 0
          b.ysfCnt none
        refine ⟨[.ysfd f, .stop .call, .convReset], ?_, fun gs hg => ?_⟩
        · rw [resetCall_trace, ht, List.append_assoc]
          rfl
        · have h : Counting (gs ++ [f]) 0 := hg.terminator hfi 0
          exact ⟨h.sent, .inl h⟩
      · split
        · obtain ⟨f, ht, hfi, hfn, hnet, hp⟩ := sendYsfd_frame e { b with conv := conv }
            ysfFiCommunications (ysfVoiceFn b.ysfCnt) (ysfVoiceNet b.ysfCnt) (some payload)
          refine ⟨[.ysfd f], ht, fun gs hg => ?_⟩
          have h : Counting (gs ++ [f]) (b.ysfCnt + 1) := hg.voice ⟨hfn, hnet, _, _, hp⟩ hfi
          exact ⟨h.sent, .inl h⟩
        · exact hnone

theorem paceYsf (e : Env) (b : Bridge) : CarriesCount b (b.paceYsf e) := by
  rw [Bridge.paceYsf]
  split
  · exact emitYsf e b.tock
  · exact silent (.refl b) rfl

theorem emitDmr (e : Env) (b : Bridge) : CarriesCount b (b.emitDmrFromConv e) := by
  by_cases h : b.conv.getDmr.1 = tagEot
  · obtain ⟨ha, hc, ps, p, ht, _⟩ := emitDmrFromConv_eot e b h
    refine ⟨ps.map (.dmrd .call) ++ [.dmrd .call p, .stop .call, .convReset], ?_, fun gs hg => ?_⟩
    · rw [ht, List.append_assoc]
    · have hn : (ps.map (Act.dmrd .call) ++
          [Act.dmrd .call p, .stop .call, .convReset]).filterMap Act.ysfFrame = [] := by
        rw [List.filterMap_append, List.filterMap_map]
        exact List.append_eq_nil_iff.2 ⟨List.filterMap_eq_nil_iff.2 fun _ _ => rfl, rfl⟩
      rw [hn, List.append_nil]
      exact ⟨hg.sent, .inr ⟨ha, hc⟩⟩
  · have hcnt : (b.emitDmrFromConv e).ysfCnt = b.ysfCnt := by
      have hs := fun b ft v => sendDmrd_ysfCnt e b .call ft v
      rw [emitDmrFromConv]
      generalize b.conv.getDmr = r at h
      obtain ⟨tag, voice, conv⟩ := r
      simp only [if_neg h]
      split
      · rfl
      · split
        · exact (hs _ _ _).trans ((hs _ _ _).trans (hs _ _ _))
        · split
          · exact hs _ _ _
          · rfl
    obtain ⟨_, _, ps, ht, _⟩ := emitDmrFromConv_other e b h
    refine ⟨ps.map (.dmrd .call), ht, fun gs hg => ?_⟩
    have hn : (ps.map (Act.dmrd .call)).filterMap Act.ysfFrame = [] := by
      rw [List.filterMap_map]
      exact List.filterMap_eq_nil_iff.2 fun _ _ => rfl
    rw [hn, List.append_nil, hcnt]
    exact ⟨hg.sent, .inl hg⟩

theorem paceDmr (e : Env) (b : Bridge) : CarriesCount b (b.paceDmr e) := by
  rw [Bridge.paceDmr]
  split
  · exact silent (.refl b) rfl
  · split
    · exact emitDmr e b.tock
    · exact silent (.refl b) rfl

theorem tick (e : Env) (b : Bridge) (dmrUp ysfUp : Bool) :
    CarriesCount b (b.tick e dmrUp ysfUp) := by
  have hp := PttStep.poll e b dmrUp
  have h1 := silent (.ptt hp) (pollConnectPtt_ysfCnt e b dmrUp)
  rw [Bridge.tick]
  split
  · exact h1
  · have h2 := h1.trans (paceDmr e _) (paceDmr_idle e)
    exact h2.trans (paceYsf e _) (paceYsf_idle e)

end CarriesCount

/-- The voice frames of all calls so far have been counted, and the counter is that of the call
that is open. -/
structure CountInv (b : Bridge) (k : CallBook Direction) : Prop where
  closed : ∀ r ∈ k.closed, VoiceCounted r.ysfFrames
  current : ∀ r ∈ k.current, Counting r.ysfFrames b.ysfCnt

namespace CountInv

theorem all (h : CountInv b k) : ∀ r ∈ k.all, VoiceCounted r.ysfFrames := by
  intro r hr
  rcases List.mem_append.1 hr with hr | hr
  · exact h.closed r hr
  · exact (h.current r (Option.mem_toList.1 hr)).sent

/-- A step that begins a call sends no YSF frame. -/
theorem begin (h : CountInv b k) (hs : Silent b b') (d : Direction) (active : Bool) :
    CountInv b' (k.note (some d) (actsSince b b') active) := by
  obtain ⟨as, ht, ha⟩ := hs
  rw [actsSince_eq ht]
  refine ⟨h.all, ?_⟩
  rintro r ⟨⟩
  rw [CallRec.ysfFrames, filterMap_ysfFrame_silent ha]
  exact counting_nil _

/-- Any other step carries the count on. -/
theorem carry (h : CountInv b k) (hc : CarriesCount b b') :
    CountInv b' (k.note none (actsSince b b') b'.callActive) := by
  obtain ⟨as, ht, ha⟩ := hc
  rw [actsSince_eq ht]
  cases hact : b'.callActive with
  | true =>
    refine ⟨h.closed, fun r hr => ?_⟩
    obtain ⟨r, hm, rfl⟩ := Option.map_eq_some_iff.1 hr
    rw [CallRec.ysfFrames_add]
    rcases (ha _ (h.current r hm)).2 with hg | hi
    · exact hg
    · exact absurd (hi.1.symm.trans hact) (by decide)
  | false =>
    refine ⟨fun r hr => ?_, nofun⟩
    rcases List.mem_append.1 hr with hr | hr
    · exact h.closed r hr
    · obtain ⟨r, hm, rfl⟩ := Option.map_eq_some_iff.1 (Option.mem_toList.1 hr)
      rw [CallRec.ysfFrames_add]
      exact (ha _ (h.current r hm)).1

theorem step {p : Bridge × CallBook Direction} (h : CountInv p.1 p.2) (ev : BridgeEvent) :
    CountInv (bookedStep e p ev).1 (bookedStep e p ev).2 := by
  have h' (c : Clock) : CountInv { p.1 with clock := c } p.2 := ⟨h.closed, h.current⟩
  cases ev with
  | dmrd c pkt =>
    have hs := (onDmrd_received e { p.1 with clock := c } pkt).silent
    change CountInv _ (p.2.note (if p.1.beginsDmrCall pkt then some .dmrToYsf else none) _ _)
    cases hb : p.1.beginsDmrCall pkt with
    | true => exact (h' c).begin hs _ _
    | false => exact (h' c).carry (.silent hs (onDmrd_ysfCnt e hb))
  | ysfd c pkt =>
    obtain ⟨a, hr, _⟩ := onYsfd_received e { p.1 with clock := c } pkt
    have hcnt := onYsfd_ysfCnt e { p.1 with clock := c } pkt
    change CountInv _ (p.2.note
      (if !p.1.callActive && (p.1.step e (.ysfd c pkt)).callActive then some .ysfToDmr else none)
      _ _)
    split
    · exact (h' c).begin hr.silent _ _
    · exact (h' c).carry (.silent hr.silent hcnt)
  | tick c dmrUp ysfUp => exact (h' c).carry (.tick e _ dmrUp ysfUp)
  | aliases db => exact h.carry (.silent (.refl p.1) rfl)

theorem run {c : Clock} {db : AliasDb} {p : Bridge × CallBook Direction}
    (hp : (booked e c db).run evs = some p) : CountInv p.1 p.2 := by
  apply Machine.run_invariant (I := fun p => CountInv p.1 p.2) ?_ ?_ hp
  · intro p ev q h hs
    cases hs
    exact h.step ev
  · exact ⟨List.forall_mem_nil _, nofun⟩

end CountInv

theorem booked_runFrom (e : Env) (p : Bridge × CallBook Direction) (evs : List BridgeEvent) :
    (booked e c db).runFrom p evs = some (evs.foldl (bookedStep e) p) :=
  Machine.runFrom_foldl (fun _ _ => rfl) p evs

/-- A DMR→YSF call whose HEADER was sent: `q` voices wait in the converter, and `n` voice frames
have gone out, the last frame of all `ms` milliseconds after the start. -/
structure Talking (ms q n : Nat) (p : Bridge × CallBook Direction) : Prop where
  active : p.1.callActive = true
  ptt : p.1.connectPttActive = false
  up : p.1.dmrWasConnected = true
  dmr : p.1.conv.dmr.Holds 9 []
  ysf : ∃ vs : List (Vector UInt8 13), vs.length = q ∧ p.1.conv.ysf.Holds 13 (vs.map .voice)
  last : p.1.lastYsfTx = (Clock.stopped ms).now
  place : ∃ r ∈ p.2.current, ysfPlace r.ysfFrames = some n

/-- `k` rounds of five voice bursts and three ticks, 90 ms apart. -/
def talk (pkt : List UInt8) (ms : Nat) : Nat → List BridgeEvent
  | 0 => []
  | k + 1 =>
    [.dmrd (.stopped ms) pkt, .dmrd (.stopped ms) pkt, .dmrd (.stopped ms) pkt,
      .dmrd (.stopped ms) pkt, .dmrd (.stopped ms) pkt, .tick (.stopped (ms + 90)) true true,
      .tick (.stopped (ms + 90 + 90)) true true, .tick (.stopped (ms + 90 + 90 + 90)) true true] ++
      talk pkt (ms + 90 + 90 + 90) k

theorem msSince_stopped (ms d : Nat) :
    msSince (Clock.stopped (ms + d)).now (Clock.stopped ms).now = d := by
  have h : ((((ms + d) % 1000 * 1000000 : Nat) : Int) - ((ms % 1000 * 1000000 : Nat) : Int)).tdiv
      1000000 = ((ms + d) % 1000 : Nat) - (ms % 1000 : Nat) := by
    rw [Nat.cast_mul, Nat.cast_mul, ← Int.sub_mul]
    exact Int.mul_tdiv_cancel _ (by decide)
  simp only [msSince, Clock.now, Clock.stopped]
  push_cast at h ⊢
  rw [h]
  omega

theorem emitDmrFromConv_none (e : Env) {b : Bridge} (h : b.conv.getDmr.1 = tagNoData) :
    b.emitDmrFromConv e = { b with conv := b.conv.getDmr.2.2 } := by
  rw [emitDmrFromConv]
  simp only [h, if_true]

theorem emitYsfFromConv_voice (e : Env) {b : Bridge} (h : b.conv.getYsf.1 = tagData) :
    ∃ f : Ysfd, f.fi = ysfFiCommunications ∧ b.emitYsfFromConv e = { b.tock with
      conv := b.conv.getYsf.2.2, trace := b.trace ++ [.ysfd f], ysfFn := b.ysfFn + 2,
      lastYsfTx := b.clock.now, ysfCnt := b.ysfCnt + 1 } := by
  rw [emitYsfFromConv]
  simp only [h, if_neg (show tagData ≠ tagNoData by decide),
    if_neg (show tagData ≠ tagHeader by decide), if_neg (show tagData ≠ tagEot by decide), if_true]
  exact ⟨_, rfl, rfl⟩

/-- With nothing on the queue to DMR, pacing to DMR changes nothing that matters. -/
theorem paceDmr_quiet (e : Env) {b : Bridge} (hclock : b.tock = b) (hp : b.connectPttActive = false)
    (hc : b.conv.dmr.Holds 9 []) :
    ∃ conv, b.paceDmr e = { b with conv := conv } ∧ conv.dmr.Holds 9 [] ∧
      conv.ysf = b.conv.ysf := by
  obtain ⟨htag, hchan⟩ := dmrSide.get_none (m := b.conv) (by decide) hc rfl
  have hpn : ¬b.connectPttActive = true := by
    rw [hp]
    decide
  rw [paceDmr, hclock, if_neg hpn]
  split
  · refine ⟨b.conv.getDmr.2.2, emitDmrFromConv_none e htag, ?_, rfl⟩
    have hd : b.conv.getDmr.2.2.dmr = b.conv.dmr := hchan
    rw [hd]
    exact hc
  · exact ⟨b.conv, rfl, hc, rfl⟩

theorem paceYsf_voice (e : Env) {b : Bridge} (hclock : b.tock = b)
    (hdue : msElapsed b.clock.now b.lastYsfTx ysfFrameMs = true)
    {vs : List (Vector UInt8 13)} (hvs : b.conv.ysf.Holds 13 (vs.map .voice)) (hq : 5 ≤ vs.length) :
    ∃ (f : Ysfd) (conv : ModeConv), f.fi = ysfFiCommunications ∧ b.paceYsf e = { b with
      conv := conv, trace := b.trace ++ [.ysfd f], ysfFn := b.ysfFn + 2, lastYsfTx := b.clock.now,
      ysfCnt := b.ysfCnt + 1 } ∧ conv.dmr = b.conv.dmr ∧
      conv.ysf.Holds 13 ((vs.drop 5).map .voice) := by
  have hpull : Regroup.pull 5 (vs.map (Entry.voice (μ := Marker))) =
      some ((vs.map .voice).take 5, (vs.map .voice).drop 5) := by
    cases vs with
    | nil => exact absurd hq (by decide)
    | cons v vs =>
      have hlen : 5 ≤ (vs.map (Entry.voice (μ := Marker))).length + 1 := by
        rw [List.length_map]
        exact hq
      exact if_pos hlen
  obtain ⟨htag, -, hrest⟩ := ysfSide.get_some (m := b.conv) (by decide) hvs hpull
  have htag' : b.conv.getYsf.1 = tagData := by
    refine htag.trans ?_
    cases vs with
    | nil => exact absurd hq (by decide)
    | cons v vs => rfl
  obtain ⟨f, hf, hemit⟩ := emitYsfFromConv_voice e htag'
  rw [hclock] at hemit
  rw [paceYsf, hclock, if_pos hdue]
  refine ⟨f, _, hf, hemit, rfl, ?_⟩
  rw [List.map_drop]
  exact hrest

/-- A burst of DMR voice within a call. -/
theorem onDmrd_voice (e : Env) {b : Bridge} (hb : b.callActive = true) (hp : dmrdIsPacket pkt = true)
    (hv : dmrdIsVoice pkt = true) (hh : dmrdIsHeader pkt = false)
    (ht : dmrdIsTerminator pkt = false) :
    b.onDmrd e pkt = { b.modeconv e (.putDmrVoice ((pkt.drop 20).take 33)) with
      dmrVoiceFrames := (b.modeconv e (.putDmrVoice ((pkt.drop 20).take 33))).dmrVoiceFrames + 1,
      dmrLastDtype := dmrdB15Dtype pkt } := by
  simp only [onDmrd, hp, hh, ht, hv, hb, Bool.not_true, Bool.false_eq_true, if_false, if_true]

namespace Talking

/-- A burst of DMR voice puts three voices on the queue. -/
theorem burst {p : Bridge × CallBook Direction} (h : Talking ms q n p) (hq : q + 3 ≤ 300)
    (hv : dmrdIsVoice pkt = true) (hh : dmrdIsHeader pkt = false)
    (ht : dmrdIsTerminator pkt = false) (c : Clock) :
    Talking ms (q + 3) n (bookedStep e p (.dmrd c pkt)) := by
  have hp : dmrdIsPacket pkt = true := by
    cases hp : dmrdIsPacket pkt with
    | true => rfl
    | false => exact absurd ((not_packet hp).2.2.symm.trans hv) (by decide)
  have hb : p.1.beginsDmrCall pkt = false := by
    rw [beginsDmrCall, hh, h.active]
    simp
  have hstep := onDmrd_voice (b := { p.1 with clock := c }) e h.active hp hv hh ht
  have hs := (onDmrd_received e { p.1 with clock := c } pkt).silent
  have hact : (onDmrd e { p.1 with clock := c } pkt).callActive = true := by
    rw [hstep]
    exact h.active
  obtain ⟨vs, rfl, hvs⟩ := h.ysf
  obtain ⟨r, hr, hpl⟩ := h.place
  have hne : ConvOp.putDmrVoice ((pkt.drop 20).take 33) ≠ .getDmr := by simp
  have hne' : ConvOp.putDmrVoice ((pkt.drop 20).take 33) ≠ .getYsf := by simp
  have hcd := ConvOp.conv_dmr (k := e.codec) (m := p.1.conv) hne
  have hcy := ConvOp.conv_ysf (k := e.codec) (m := p.1.conv) hne'
  constructor
  · exact hact
  · change (onDmrd e { p.1 with clock := c } pkt).connectPttActive = false
    rw [hstep]
    exact h.ptt
  · change (onDmrd e { p.1 with clock := c } pkt).dmrWasConnected = true
    rw [hstep]
    exact h.up
  · change (onDmrd e { p.1 with clock := c } pkt).conv.dmr.Holds 9 []
    rw [hstep]
    exact hcd ▸ h.dmr
  · refine ⟨vs ++ (List.finRange 3).map (e.codec.dmrToYsf ((pkt.drop 20).take 33)), ?_, ?_⟩
    · rw [List.length_append, List.length_map, List.length_finRange]
    · change (onDmrd e { p.1 with clock := c } pkt).conv.ysf.Holds 13 _
      rw [hstep, List.map_append, List.map_map]
      have hroom : p.1.conv.ysf.Room 13 ((List.finRange 3).map
          (Entry.voice (μ := Marker) ∘ e.codec.dmrToYsf ((pkt.drop 20).take 33))).length := by
        rw [hvs.room_iff, List.length_map, List.length_map, List.length_finRange]
        omega
      exact hcy ▸ hvs.addAll (by decide) hroom
  · change (onDmrd e { p.1 with clock := c } pkt).lastYsfTx = _
    rw [hstep]
    exact h.last
  · refine ⟨r.add (actsSince p.1 (onDmrd e { p.1 with clock := c } pkt)), ?_, ?_⟩
    · rw [bookedStep, noteCalls, begun, hb]
      change _ ∈ (p.2.note none _ (onDmrd e { p.1 with clock := c } pkt).callActive).current
      rw [hact]
      exact congrArg (Option.map _) hr
    · obtain ⟨as, hta, ha⟩ := hs
      rw [CallRec.ysfFrames_add, actsSince_eq (b := p.1) hta, filterMap_ysfFrame_silent ha,
        List.append_nil]
      exact hpl

/-- A tick in time takes five voices off the queue and sends them. -/
theorem tick {p : Bridge × CallBook Direction} (h : Talking ms q n p) (hq : 5 ≤ q) :
    Talking (ms + 90) (q - 5) (n + 1)
      (bookedStep e p (.tick (.stopped (ms + 90)) true true)) := by
  obtain ⟨vs, rfl, hvs⟩ := h.ysf
  obtain ⟨r, hr, hpl⟩ := h.place
  have hpoll : pollConnectPtt e { p.1 with clock := .stopped (ms + 90) } true =
      { p.1 with clock := .stopped (ms + 90), dmrWasConnected := true } := by
    simp only [pollConnectPtt, h.up, h.ptt, Bool.not_true, Bool.and_false, Bool.false_eq_true,
      if_false, if_true, Bool.not_false]
  obtain ⟨conv1, hpace, hdmr, hysf⟩ := paceDmr_quiet e
    (b := { p.1 with clock := .stopped (ms + 90), dmrWasConnected := true }) rfl h.ptt h.dmr
  have hdue : msElapsed (Clock.stopped (ms + 90)).now p.1.lastYsfTx ysfFrameMs = true := by
    rw [h.last, msElapsed, msSince_stopped]
    rfl
  obtain ⟨f, conv2, hf, hsend, hdmr2, hrest⟩ := paceYsf_voice e
    (b := { p.1 with clock := .stopped (ms + 90), dmrWasConnected := true, conv := conv1 }) rfl hdue
    (hysf ▸ hvs) hq
  have htick : Bridge.tick e { p.1 with clock := .stopped (ms + 90) } true true = { p.1 with
        clock := .stopped (ms + 90), dmrWasConnected := true,
        conv := conv2, trace := p.1.trace ++ [.ysfd f], ysfFn := p.1.ysfFn + 2,
        lastYsfTx := (Clock.stopped (ms + 90)).now, ysfCnt := p.1.ysfCnt + 1 } := by
    rw [Bridge.tick, hpoll, hpace]
    exact hsend
  have hstep : bookedStep e p (.tick (.stopped (ms + 90)) true true) =
      ({ p.1 with
        clock := .stopped (ms + 90), dmrWasConnected := true,
        conv := conv2, trace := p.1.trace ++ [.ysfd f], ysfFn := p.1.ysfFn + 2,
        lastYsfTx := (Clock.stopped (ms + 90)).now, ysfCnt := p.1.ysfCnt + 1 },
        p.2.note none [.ysfd f] true) := by
    have hacts : ∀ b' : Bridge, b'.trace = p.1.trace ++ [.ysfd f] → actsSince p.1 b' = [.ysfd f] :=
      fun _ h => actsSince_eq h
    rw [bookedStep, step, noteCalls, htick]
    simp only [hacts]
    exact congrArg (fun a => (_, p.2.note none [.ysfd f] a)) h.active
  rw [hstep]
  refine ⟨h.active, h.ptt, rfl, hdmr2 ▸ hdmr, ⟨vs.drop 5, List.length_drop, hrest⟩, rfl,
    r.add [.ysfd f], congrArg (Option.map _) hr, ?_⟩
  have hne : f.fi ≠ ysfFiHeader := by
    rw [hf]
    decide
  rw [CallRec.ysfFrames_add]
  change ysfPlace (r.ysfFrames ++ [f]) = _
  rw [ysfPlace_append, Ysfd.next, if_neg hne, if_pos hf, hpl]
  rfl

/-- As many rounds of five bursts and three ticks send three times as many voice frames. -/
theorem rounds {p : Bridge × CallBook Direction} (h : Talking ms 0 n p)
    (hv : dmrdIsVoice pkt = true) (hh : dmrdIsHeader pkt = false)
    (ht : dmrdIsTerminator pkt = false) (k : Nat) :
    Talking (ms + 270 * k) 0 (n + 3 * k) ((talk pkt ms k).foldl (bookedStep e) p) := by
  induction k generalizing ms n p with
  | zero => exact h
  | succ k ih =>
    have hburst {q : Nat} {p : Bridge × CallBook Direction} (h : Talking ms q n p)
        (hq : q + 3 ≤ 300) : Talking ms (q + 3) n (bookedStep e p (.dmrd (.stopped ms) pkt)) :=
      h.burst hq hv hh ht _
    have h3 := hburst (hburst (hburst h (by decide)) (by decide)) (by decide)
    have h5 := hburst (hburst h3 (by decide)) (by decide)
    have h8 := ((h5.tick (e := e) (by decide)).tick (e := e) (by decide)).tick (e := e) (by decide)
    have hk := ih h8
    rw [talk, List.foldl_append]
    have hms : ms + 90 + 90 + 90 + 270 * k = ms + 270 * (k + 1) := by omega
    have hn : n + 1 + 1 + 1 + 3 * k = n + 3 * (k + 1) := by omega
    rw [hms, hn] at hk
    exact hk

end Talking

end Bridge

end AdnBridge
