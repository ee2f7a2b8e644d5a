import AdnBridge.Bridge.Numbering
import AdnBridge.BridgeEl.Terminator

namespace AdnBridge
set_option autoImplicit true

namespace BridgeEl

variable {e : ElEnv} {b b' b'' : BridgeEl} {voc : Vocoder} {k : YsfBook}

/-- What is sent carries the count of the frames on. -/
def CarriesCount (b b' : BridgeEl) : Prop :=
  ∃ as, b'.trace = b.trace ++ as ∧ ∀ gs, Counting gs b.ysfCnt →
    Counting (gs ++ as.filterMap ElAct.ysfFrame) b'.ysfCnt

namespace CarriesCount

theorem quiet (ht : b'.trace = b.trace) (hc : b'.ysfCnt = b.ysfCnt) : CarriesCount b b' := by
  refine ⟨[], ht.trans (List.append_nil _).symm, fun gs hg => ?_⟩
  rw [List.filterMap_nil, List.append_nil, hc]
  exact hg

theorem trans (h : CarriesCount b b') (h' : CarriesCount b' b'') : CarriesCount b b'' := by
  obtain ⟨as, ht, ha⟩ := h
  obtain ⟨as', ht', ha'⟩ := h'
  refine ⟨as ++ as', by rw [ht', ht, List.append_assoc], fun gs hg => ?_⟩
  rw [List.filterMap_append, ← List.append_assoc]
  exact ha' _ (ha gs hg)

theorem emitYsf (e : ElEnv) (b : BridgeEl) : CarriesCount b (b.emitYsfFromConv e) := by
  have hsend (b : BridgeEl) (fi fn net : UInt8) (v : Option (List UInt8)) :
      ∃ f : Ysfd, (b.sendYsfd e fi fn net v).trace = b.trace ++ [.ysfd f] ∧ f.fi = fi ∧
        f.fn = fn ∧ f.netCnt = net ∧
        f.payload = v.map fun v => (v, ysfDchSlot f.src b.netDst fn) :=
    ⟨_, rfl, rfl, rfl, rfl, rfl⟩
  rw [emitYsfFromConv]
  generalize b.conv.getYsf = r
  obtain ⟨tag, payload, conv⟩ := r
  simp only
  split
  · exact quiet rfl rfl
  · split
    · obtain ⟨f, ht, hfi, _⟩ := hsend { b with conv := conv, ysfCnt := 0 } ysfFiHeader 0 0 none
      refine ⟨[.ysfd f], ht, fun gs hg => ?_⟩
      exact (hg.header hfi : Counting (gs ++ [f]) 1)
    · split
      · obtain ⟨f, ht, hfi, _⟩ := hsend { b with conv := conv } ysfFiTerminator 0 b.ysfCnt none
        refine ⟨[.ysfd f], ht, fun gs hg => ?_⟩
        exact (hg.terminator hfi 0 : Counting (gs ++ [f]) 0)
      · split
        · obtain ⟨f, ht, hfi, hfn, hnet, hp⟩ := hsend { b with conv := conv } ysfFiCommunications
            (ysfVoiceFn b.ysfCnt) (ysfVoiceNet b.ysfCnt) (some payload)
          refine ⟨[.ysfd f], ht, fun gs hg => ?_⟩
          exact (hg.voice ⟨hfn, hnet, _, _, hp⟩ hfi : Counting (gs ++ [f]) (b.ysfCnt + 1))
        · exact quiet rfl rfl

theorem paceTx (hm : e.cfg.mode = .echolinkYsf) (b : BridgeEl) (dmrUp : Bool) :
    CarriesCount b (b.paceTx e dmrUp) := by
  simp only [BridgeEl.paceTx, hm]
  split
  · exact quiet rfl rfl
  · split
    · exact emitYsf e b.tock
    · exact quiet rfl rfl

theorem modeconv (e : ElEnv) (b : BridgeEl) (o : ConvOp) : CarriesCount b (b.modeconv e o) :=
  quiet rfl rfl

theorem endYsfCall (e : ElEnv) (b : BridgeEl) : CarriesCount b (b.endYsfCall e) := by
  have hend : CarriesCount b { b with ysfEnding := true } := quiet rfl rfl
  rw [BridgeEl.endYsfCall]
  split
  · exact quiet rfl rfl
  · exact hend.trans (modeconv e _ .putDmrEot)

theorem hangElTx (hm : e.cfg.mode = .echolinkYsf) (b : BridgeEl) :
    CarriesCount b (b.hangElTx e) := by
  simp only [BridgeEl.hangElTx, hm]
  split
  · exact quiet rfl rfl
  · split
    · exact endYsfCall e b.tock
    · exact quiet rfl rfl

theorem hangElRx (hm : e.cfg.mode = .echolinkYsf) (b : BridgeEl) :
    CarriesCount b (b.hangElRx e) := by
  simp only [BridgeEl.hangElRx, hm]
  split
  · exact quiet rfl rfl
  · split
    · exact quiet rfl rfl
    · exact quiet rfl rfl

theorem tick (hm : e.cfg.mode = .echolinkYsf) (b : BridgeEl) (dmrUp : Bool) :
    CarriesCount b (b.tick e dmrUp) :=
  ((paceTx hm b dmrUp).trans (hangElTx hm _)).trans (hangElRx hm _)

end CarriesCount

theorem onYsfd_ysfCnt (h : b.onYsfd e voc pkt = some b') : b'.ysfCnt = b.ysfCnt := by
  have hend (b : BridgeEl) : (if b.callActive = .elTx then b.endYsfCall e else b).ysfCnt =
      b.ysfCnt := by
    split
    · rw [endYsfCall]
      split
      · rfl
      · rfl
    · rfl
  rw [onYsfd] at h
  split at h
  · cases h
    rfl
  · split at h
    · cases h
      rfl
    · split at h
      · cases h
        refine Eq.trans ?_ (hend b)
        generalize (if b.callActive = .elTx then b.endYsfCall e else b) = b1
        change (if b1.callActive = .elRx then _ else b1).ysfCnt = _
        split
        · rfl
        · rfl
      · split at h
        · split at h
          · obtain ⟨b1, h1, rfl⟩ := Option.map_eq_some_iff.1 h
            obtain ⟨conv, el, rfl⟩ := drainYsfToElPcm_eq h1
            rfl
          · cases h
            rfl
        · split at h
          · obtain ⟨conv, el, rfl⟩ := drainYsfToElPcm_eq h
            split
            · exact hend b
            · rfl
          · cases h
            rfl

/-- The audio loop leaves the counter of a call that is up alone. -/
theorem processElToYsf_ysfCnt (hc : b.callActive = .elTx) (voc : Vocoder) :
    (b.processElToYsf e voc).ysfCnt = b.ysfCnt := by
  rw [processElToYsf]
  split
  · rfl
  · split
    · rfl
    · have h1 : (b.ysfReheaderIfTalkerChanged e).callActive = .elTx ∧
          (b.ysfReheaderIfTalkerChanged e).ysfCnt = b.ysfCnt := by
        obtain ⟨src, id, hre⟩ := resolveElTalker_eq e b
        rw [ysfReheaderIfTalkerChanged]
        split
        · exact ⟨hc, rfl⟩
        · split
          · exact ⟨hc, rfl⟩
          · split
            · exact ⟨hc, rfl⟩
            · simp only [hre]
              split
              · exact ⟨hc, rfl⟩
              · exact ⟨hc, rfl⟩
      generalize b.ysfReheaderIfTalkerChanged e = b1 at h1
      have hloop := @elLoop_invariant e b1 voc
        (fun b' => b'.callActive = .elTx ∧ b'.ysfCnt = b.ysfCnt) dropYsfAmbe
        (fun ambe b => b.takeYsfAmbe e ambe)
        (fun _ _ _ _ _ _ hb => hb) (fun _ hb => hb) ?_ b1.el.pcmIn.length 0 0 h1
      · exact hloop.2
      · intro ambe b' hb
        have hidle : ¬b'.callActive = .idle := by
          rw [hb.1]
          decide
        simp only [takeYsfAmbe, if_neg hidle]
        split
        · exact hb
        · obtain ⟨conv, hconv⟩ := foldl_modeconv_eq e .putAmbe7Ysf (b'.ysfAmbe ++ [ambe])
            { b' with ysfAmbe := b'.ysfAmbe ++ [ambe] }
          rw [hconv]
          exact hb

/-- The voice frames of all calls so far have been counted, and the counter is that of the call
that is up. -/
structure CountInv (b : BridgeEl) (k : YsfBook) : Prop where
  closed : ∀ fs ∈ k.closed, VoiceCounted fs
  current : ∀ fs ∈ k.current, Counting fs b.ysfCnt ∧ b.callActive = .elTx

namespace CountInv

/-- A step that carries the count on, or one that sends nothing outside a call. -/
theorem note (h : CountInv b k)
    (hs : CarriesCount b b' ∨ b'.trace = b.trace ∧ b.callActive ≠ .elTx) :
    CountInv b' (k.note b.callActive b'.callActive (ysfSince b b')) := by
  have hfresh : Counting (ysfSince b b') b'.ysfCnt := by
    rcases hs with ⟨as, ht, ha⟩ | ⟨ht, _⟩
    · rw [ysfSince_eq ht]
      exact ha [] (counting_nil _)
    · rw [ysfSince_nil ht]
      exact counting_nil _
  by_cases hb : b.callActive = .elTx
  · have hadd : ∀ gs ∈ k.current, Counting (gs ++ ysfSince b b') b'.ysfCnt := by
      intro gs hgs
      rcases hs with ⟨as, ht, ha⟩ | ⟨_, hn⟩
      · rw [ysfSince_eq ht]
        exact ha gs (h.current gs hgs).1
      · exact absurd hb hn
    rw [YsfBook.note, if_pos hb]
    split
    next ha =>
      refine ⟨h.closed, fun fs hfs => ?_⟩
      obtain ⟨gs, hgs, rfl⟩ := Option.map_eq_some_iff.1 hfs
      exact ⟨hadd gs hgs, ha⟩
    next =>
      refine ⟨fun fs hfs => ?_, fun _ h => by cases h⟩
      rcases List.mem_append.1 hfs with hfs | hfs
      · exact h.closed fs hfs
      · obtain ⟨gs, hgs, rfl⟩ := Option.map_eq_some_iff.1 (Option.mem_toList.1 hfs)
        exact (hadd gs hgs).sent
  · rw [YsfBook.note, if_neg hb]
    split
    next ha =>
      refine ⟨h.closed, fun fs hfs => ?_⟩
      cases hfs
      exact ⟨hfresh, ha⟩
    next => exact ⟨h.closed, fun fs hfs => absurd (h.current fs hfs).2 hb⟩

theorem step (hm : e.cfg.mode = .echolinkYsf) (h : CountInv b k) (ev : BridgeElEvent)
    (hs : b.step e ev = some b') :
    CountInv b' (k.note b.callActive b'.callActive (ysfSince b b')) := by
  apply h.note
  cases ev with
  | audio c voc =>
    simp only [BridgeEl.step, hm, Option.some.injEq] at hs
    have ht := (processElToYsf_frame (e := e) { b with clock := c } voc).1
    rw [hs] at ht
    by_cases hb : b.callActive = .elTx
    · left
      have hcnt := processElToYsf_ysfCnt (e := e) (b := { b with clock := c }) hb voc
      rw [hs] at hcnt
      exact .quiet ht hcnt
    · exact .inr ⟨ht, hb⟩
  | dmrd c voc pkt =>
    rw [BridgeEl.step, onDmrd, if_pos (by rw [hm]; decide)] at hs
    cases hs
    exact .inl (.quiet rfl rfl)
  | ysfd c voc pkt =>
    left
    exact .quiet (onYsfd_trace (b := { b with clock := c }) hs)
      (onYsfd_ysfCnt (b := { b with clock := c }) hs)
  | tick c dmrUp =>
    cases hs
    left
    exact (CarriesCount.tick hm { b with clock := c } dmrUp)
  | rtp | identity | link | aliases =>
    cases hs
    exact .inl (.quiet rfl rfl)

theorem run {c : Clock} {db : AliasDb} {el : PeerEl} {p : BridgeEl × YsfBook}
    (hm : e.cfg.mode = .echolinkYsf) (hp : (booked e c db el).run evs = some p) :
    CountInv p.1 p.2 := by
  apply Machine.run_invariant (I := fun p => CountInv p.1 p.2) ?_ ?_ hp
  · rintro ⟨b, k⟩ ev ⟨b', k'⟩ h hs
    obtain ⟨hs, hnote⟩ := Machine.observe_step hs
    simp only at hs hnote
    rw [hnote]
    exact h.step hm ev hs
  · exact ⟨List.forall_mem_nil _, nofun⟩

theorem all (h : CountInv b k) : ∀ fs ∈ k.closed ++ k.current.toList, VoiceCounted fs := by
  intro fs hfs
  rcases List.mem_append.1 hfs with hfs | hfs
  · exact h.closed fs hfs
  · exact (h.current fs (Option.mem_toList.1 hfs)).1.sent

end CountInv

end BridgeEl

/-- In every run of either bridge, a voice frame of a call carries the number, the counter and the
label of its place after the HEADER exactly in the first of every seven rounds of the counter. -/
theorem ysfVoice_numbered_iff (e : Env) (e' : ElEnv) (c : Clock) (db : AliasDb) (el : PeerEl) :
    (∀ (evs : List BridgeEvent) (p : Bridge × CallBook Direction),
      (Bridge.booked e c db).run evs = some p →
      ∀ r ∈ p.2.all, ∀ i f, VoiceAt r.ysfFrames i f → (f.Numbered i ↔ i % 1792 < 256)) ∧
    ∀ (evs : List BridgeElEvent) (p : BridgeEl × YsfBook), e'.cfg.mode = .echolinkYsf →
      (BridgeEl.booked e' c db el).run evs = some p →
      ∀ fs ∈ p.2.closed ++ p.2.current.toList, ∀ i f, VoiceAt fs i f →
        (f.Numbered i ↔ i % 1792 < 256) := by
  constructor
  · intro evs p hp r hr i f hf
    exact ((Bridge.CountInv.run hp).all r hr).numbered_iff hf
  · intro evs p hm hp fs hfs i f hf
    exact ((BridgeEl.CountInv.run hm hp).all fs hfs).numbered_iff hf

/-- A voice header, whose HEADER goes out half a second later. -/
def sampleTalkStart : Bridge × CallBook Direction :=
  [dmrdAt 0 vheadB15, tickAt 500 true true].foldl (Bridge.bookedStep sampleEnv)
    (Bridge.booked sampleEnv (.stopped 0) noAliases).init

theorem talking_start : Bridge.Talking 500 0 0 sampleTalkStart := by
  have hplace : (sampleTalkStart.2.current.bind fun r => ysfPlace r.ysfFrames) = some 0 := by
    decide +kernel
  constructor
  · decide +kernel
  · decide +kernel
  · decide +kernel
  · constructor
    · decide +kernel
    · decide +kernel
  · refine ⟨[], rfl, ?_⟩
    constructor
    · decide +kernel
    · decide +kernel
  · decide +kernel
  · exact Option.bind_eq_some_iff.1 hplace

/-- A call of `k` rounds of five voice bursts. -/
def sampleCall (k : Nat) : List BridgeEvent :=
  [dmrdAt 0 vheadB15, tickAt 500 true true] ++ Bridge.talk (sampleDmrd (voiceB15 1)) 500 k

theorem sampleCall_run (k : Nat) : ∃ p, (Bridge.booked sampleEnv (.stopped 0) noAliases).run
    (sampleCall k) = some p ∧ Bridge.Talking (500 + 270 * k) 0 (3 * k) p := by
  have h : Bridge.Talking (500 + 270 * k) 0 (0 + 3 * k)
      ((Bridge.talk (sampleDmrd (voiceB15 1)) 500 k).foldl (Bridge.bookedStep sampleEnv)
        sampleTalkStart) :=
    talking_start.rounds (by decide) (by decide) (by decide) k
  rw [Nat.zero_add] at h
  refine ⟨_, Bridge.booked_runFrom sampleEnv _ (sampleCall k), ?_⟩
  rw [sampleCall, List.foldl_append]
  exact h

/-- The first voice frames of a call of either bridge. -/
theorem ysfVoice_numbered_iff_sample :
    (∃ p r f, (Bridge.booked sampleEnv (.stopped 0) noAliases).run (sampleCall 1) = some p ∧
      r ∈ p.2.all ∧ VoiceAt r.ysfFrames 2 f ∧ f.Numbered 2) ∧
    ∃ p fs f, BridgeEl.sampleBooked.run
        [rtpOf 5, elAudioAt 1000, elTickAt 1100, elTickAt 1200] = some p ∧
      fs ∈ p.2.closed ++ p.2.current.toList ∧ VoiceAt fs 0 f ∧ f.Numbered 0 := by
  constructor
  · obtain ⟨p, hp, ht⟩ := sampleCall_run 1
    obtain ⟨r, hr, hpl⟩ := ht.place
    obtain ⟨f, hf⟩ := exists_voiceAt hpl (by decide : 2 < 3 * 1)
    have hm : r ∈ p.2.all := List.mem_append_right _ (Option.mem_toList.2 hr)
    exact ⟨p, r, f, hp, hm, hf,
      ((ysfVoice_numbered_iff _ (sampleElEnv .echolinkYsf) _ _ samplePeerEl).1 _ p hp r hm 2 f hf).2
        (by decide)⟩
  · have hplace : ((BridgeEl.sampleBooked.run
        [rtpOf 5, elAudioAt 1000, elTickAt 1100, elTickAt 1200]).bind fun p =>
          p.2.current.bind ysfPlace) = some 1 := by
      decide +kernel
    obtain ⟨p, hp, hpl⟩ := Option.bind_eq_some_iff.1 hplace
    obtain ⟨fs, hfs, hpl⟩ := Option.bind_eq_some_iff.1 hpl
    obtain ⟨f, hf⟩ := exists_voiceAt hpl Nat.zero_lt_one
    have hm : fs ∈ p.2.closed ++ p.2.current.toList :=
      List.mem_append_right _ (Option.mem_toList.2 hfs)
    exact ⟨p, fs, f, hp, hm, hf,
      ((ysfVoice_numbered_iff sampleEnv _ _ _ _).2 _ p rfl hp fs hm 0 f hf).2 (by decide)⟩

/-- After 256 voice frames the counter has wrapped, and the next frame has number 0 instead of 4. -/
theorem not_ysfVoice_numbered :
    ∃ p, (Bridge.booked sampleEnv (.stopped 0) noAliases).run (sampleCall 86) = some p ∧
      ¬∀ r ∈ p.2.all, ∀ i f, VoiceAt r.ysfFrames i f → f.Numbered i := by
  obtain ⟨p, hp, ht⟩ := sampleCall_run 86
  obtain ⟨r, hr, hpl⟩ := ht.place
  obtain ⟨f, hf⟩ := exists_voiceAt hpl (by decide : 256 < 3 * 86)
  have hm : r ∈ p.2.all := List.mem_append_right _ (Option.mem_toList.2 hr)
  refine ⟨p, hp, fun h => ?_⟩
  have hcount := ((Bridge.CountInv.run hp).all r hm).numbered_iff hf
  exact absurd (hcount.1 (h r hm 256 f hf)) (by decide)

end AdnBridge
