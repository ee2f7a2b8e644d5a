import AdnBridge.BridgeEl.Audio

namespace AdnBridge
set_option autoImplicit true

namespace BridgeEl

variable {e : ElEnv} {b b' : BridgeEl} {voc : Vocoder}

/-- While a YSF EOT is being sent, the EL→YSF call is still up. -/
def EndsCall (b : BridgeEl) : Prop := b.ysfEnding = true → b.callActive = .elTx

theorem EndsCall.congr (h : b.EndsCall) (hc : b'.callActive = b.callActive)
    (hy : b'.ysfEnding = b.ysfEnding) : b'.EndsCall := by
  rw [EndsCall, hc, hy]
  exact h

theorem EndsCall.of_not_ending (h : b.ysfEnding = false) : b.EndsCall :=
  fun hy => absurd (h.symm.trans hy) Bool.false_ne_true

theorem EndsCall.not_ending (h : b.EndsCall) (hc : b.callActive ≠ .elTx) : b.ysfEnding = false :=
  Bool.eq_false_of_not_eq_true fun hy => hc (h hy)

theorem endYsfCall_spec (e : ElEnv) (b : BridgeEl) :
    (b.endYsfCall e).callActive = b.callActive ∧
      (b.callActive = .elTx → (b.endYsfCall e).ysfEnding = true) ∧
      (b.callActive ≠ .elTx → b.endYsfCall e = b) := by
  rw [endYsfCall]
  split
  next h => exact ⟨rfl, fun hc => (h.resolve_left fun hn => hn hc), fun _ => rfl⟩
  next h =>
    rw [not_or, not_not] at h
    exact ⟨rfl, fun _ => rfl, fun hc => absurd h.1 hc⟩

/-- The flag that a preempted call leaves behind. -/
theorem preempt_ysfEnding (e : ElEnv) (b : BridgeEl) :
    (if b.callActive = .elTx then b.endYsfCall e else b).ysfEnding =
      (b.callActive = .elTx || b.ysfEnding) := by
  split
  next h => rw [(endYsfCall_spec e b).2.1 h, decide_eq_true h, Bool.true_or]
  next h => rw [decide_eq_false h, Bool.false_or]

/-- An accepted HEADER or voice frame is received; a call that it preempts leaves its flag set. -/
theorem onYsfd_receives (hm : e.cfg.mode = .echolinkYsf) (hf : acceptedFich e pkt = some f)
    (hfi : f.fi = ysfFiHeader ∨ f.fi = ysfFiCommunications)
    (h : b.onYsfd e voc pkt = some b') :
    b'.callActive = .elRx ∧ b'.ysfEnding = (b.callActive = .elTx || b.ysfEnding) := by
  have hp := preempt_ysfEnding e b
  generalize hb1 : (if b.callActive = .elTx then b.endYsfCall e else b) = b1 at hp
  simp only [onYsfd, hm, ne_eq, not_true_eq_false, if_false, hf, hb1] at h
  rcases hfi with hfi | hfi
  · rw [if_pos hfi] at h
    cases h
    refine ⟨rfl, ?_⟩
    rw [← hp]
    change (if b1.callActive = .elRx then _ else b1).ysfEnding = _
    split <;> rfl
  · rw [hfi, if_neg (by decide), if_neg (by decide), if_pos rfl] at h
    obtain ⟨conv, el, rfl⟩ := drainYsfToElPcm_eq h
    by_cases hr : b.callActive = .elRx
    · have hn : ¬b.callActive ≠ .elRx := not_not_intro hr
      have ht : b.callActive ≠ .elTx := by
        rw [hr]
        decide
      simp only [if_neg hn]
      refine ⟨hr, ?_⟩
      rw [decide_eq_false ht, Bool.false_or]
      rfl
    · simp only [if_pos (show b.callActive ≠ .elRx from hr)]
      exact ⟨rfl, hp⟩

/-- Any other packet leaves the flag alone, and ends a reception at most. -/
theorem onYsfd_others (hf : ∀ f, acceptedFich e pkt = some f →
      f.fi ≠ ysfFiHeader ∧ f.fi ≠ ysfFiCommunications)
    (h : b.onYsfd e voc pkt = some b') :
    b'.ysfEnding = b.ysfEnding ∧ (b'.callActive = b.callActive ∨ b.callActive = .elRx) := by
  rw [onYsfd] at h
  split at h
  · cases h
    exact ⟨rfl, .inl rfl⟩
  · cases ha : acceptedFich e pkt with
    | none =>
      rw [ha] at h
      cases h
      exact ⟨rfl, .inl rfl⟩
    | some f =>
      obtain ⟨h1, h2⟩ := hf f ha
      simp only [ha, if_neg h1, if_neg h2] at h
      split at h
      · split at h
        next hr =>
          obtain ⟨b1, h1, rfl⟩ := Option.map_eq_some_iff.1 h
          obtain ⟨conv, el, rfl⟩ := drainYsfToElPcm_eq h1
          exact ⟨rfl, .inr hr⟩
        next =>
          cases h
          exact ⟨rfl, .inl rfl⟩
      · cases h
        exact ⟨rfl, .inl rfl⟩

theorem EndsCall.emitYsfFromConv (h : b.EndsCall) : (b.emitYsfFromConv e).EndsCall := by
  rw [BridgeEl.emitYsfFromConv]
  generalize b.conv.getYsf = r
  obtain ⟨tag, payload, conv⟩ := r
  simp only
  split
  · exact h
  · split
    · exact h
    · split
      · exact .of_not_ending rfl
      · split
        · exact h
        · exact h

theorem EndsCall.endYsfCall (h : b.EndsCall) : (b.endYsfCall e).EndsCall := by
  obtain ⟨hc, _, hn⟩ := endYsfCall_spec e b
  by_cases ht : b.callActive = .elTx
  · exact fun _ => hc.trans ht
  · rw [hn ht]
    exact h

theorem EndsCall.paceTx (hm : e.cfg.mode = .echolinkYsf) (h : b.EndsCall) (dmrUp : Bool) :
    (b.paceTx e dmrUp).EndsCall := by
  simp only [BridgeEl.paceTx, hm]
  split
  · exact h
  · split
    · exact EndsCall.emitYsfFromConv (b := b.tock) h
    · exact h

theorem EndsCall.hangElTx (hm : e.cfg.mode = .echolinkYsf) (h : b.EndsCall) :
    (b.hangElTx e).EndsCall := by
  simp only [BridgeEl.hangElTx, hm]
  split
  · exact h
  · split
    · exact EndsCall.endYsfCall (b := b.tock) h
    · exact h

theorem EndsCall.hangElRx (hm : e.cfg.mode = .echolinkYsf) (h : b.EndsCall) :
    (b.hangElRx e).EndsCall := by
  simp only [BridgeEl.hangElRx, hm]
  split
  · exact h
  next hr =>
    split
    · refine .of_not_ending (h.not_ending fun ht => hr ?_)
      rw [ht]
      decide
    · exact h

theorem EndsCall.tick (hm : e.cfg.mode = .echolinkYsf) (h : b.EndsCall) (dmrUp : Bool) :
    (b.tick e dmrUp).EndsCall :=
  ((h.paceTx hm dmrUp).hangElTx hm).hangElRx hm

theorem EndsCall.reheader (h : b.EndsCall) : (b.ysfReheaderIfTalkerChanged e).EndsCall := by
  rw [BridgeEl.ysfReheaderIfTalkerChanged]
  obtain ⟨src, id, hr⟩ := resolveElTalker_eq e b
  split
  · exact h
  · split
    · exact h
    · split
      · exact h
      · simp only [hr]
        split
        · exact h
        · exact h

theorem EndsCall.takeYsfAmbe (h : b.EndsCall) (ambe : List UInt8) :
    (b.takeYsfAmbe e ambe).EndsCall := by
  have h1 : (if b.callActive = .idle then b.beginElToYsf e else b).EndsCall := by
    split
    · exact .of_not_ending rfl
    · exact h
  rw [BridgeEl.takeYsfAmbe]
  generalize (if b.callActive = .idle then b.beginElToYsf e else b) = b1 at h1
  simp only
  split
  · exact h1
  · obtain ⟨conv, hc⟩ := foldl_modeconv_eq e .putAmbe7Ysf (b1.ysfAmbe ++ [ambe])
      { b1 with ysfAmbe := b1.ysfAmbe ++ [ambe] }
    rw [hc]
    exact h1

theorem EndsCall.processElToYsf (h : b.EndsCall) (voc : Vocoder) :
    (b.processElToYsf e voc).EndsCall := by
  rw [BridgeEl.processElToYsf]
  split
  · exact h
  · split
    · exact h
    · have h1 : (if b.callActive = .elTx then b.ysfReheaderIfTalkerChanged e else b).EndsCall := by
        split
        · exact h.reheader
        · exact h
      simp only
      apply elLoop_invariant (I := EndsCall)
      · intro b el acc c speech run hb
        exact hb
      · intro b hb
        exact hb
      · intro ambe b hb
        exact hb.takeYsfAmbe ambe
      · exact h1

/-- With a whole frame of inbound PCM, outside the cooldown and with a vocoder that answers, the
audio loop leaves an EL→YSF call up. -/
def Opens (e : ElEnv) (b : BridgeEl) : Prop :=
  b.callActive = .idle → ∀ (c : Clock) (voc : Vocoder), 160 ≤ b.el.pcmIn.length →
    ({ b with clock := c }.readFrame.hear.inCooldown).1 = false →
    (∀ frame, (voc.encode 0 frame).isSome = true) →
    ({ b with clock := c }.processElToYsf e voc).callActive = .elTx

theorem takeYsfAmbe_elTx (hr : b.callActive ≠ .elRx) (ambe : List UInt8) :
    (b.takeYsfAmbe e ambe).callActive = .elTx := by
  have h1 : (if b.callActive = .idle then b.beginElToYsf e else b).callActive = .elTx := by
    split
    next => rfl
    next hi =>
      cases hc : b.callActive with
      | idle => exact absurd hc hi
      | elTx => rfl
      | elRx => exact absurd hc hr
  rw [BridgeEl.takeYsfAmbe]
  generalize (if b.callActive = .idle then b.beginElToYsf e else b) = b1 at h1
  simp only
  split
  · exact h1
  · obtain ⟨conv, hc⟩ := foldl_modeconv_eq e .putAmbe7Ysf (b1.ysfAmbe ++ [ambe])
      { b1 with ysfAmbe := b1.ysfAmbe ++ [ambe] }
    rw [hc]
    exact h1

/-- The first turn of the audio loop, when it has a whole frame, no cooldown and an answer. -/
theorem elLoop_first {drop : BridgeEl → BridgeEl} {take : List UInt8 → BridgeEl → BridgeEl}
    (hpcm : 160 ≤ b.el.pcmIn.length) (hcool : b.readFrame.hear.inCooldown.1 = false)
    (henc : ∀ frame, (voc.encode 0 frame).isSome = true) :
    ∃ n ambe b1, b1.callActive = b.callActive ∧
      elLoop e voc drop take b.el.pcmIn.length 0 0 b = elLoop e voc drop take n 1 0 (take ambe b1) := by
  obtain ⟨n, hn⟩ := Nat.exists_eq_add_of_le' (Nat.le_trans (by decide : 1 ≤ 160) hpcm)
  have he : ¬b.el.pcmIn.isEmpty = true := by
    intro he
    rw [List.isEmpty_iff.1 he] at hpcm
    exact absurd hpcm (by decide)
  have hacc : ¬b.readFrame.pcmElAcc.length < 160 := by
    simp only [readFrame, PeerEl.readPcm, List.length_take, List.length_append]
    omega
  have hc : b.readFrame.hear.inCooldown.2.callActive = b.callActive := by
    obtain ⟨c, hc⟩ := inCooldown_eq b.readFrame.hear
    rw [hc]
    rfl
  rw [hn, elLoop, if_neg he]
  simp only [if_neg hacc]
  generalize b.readFrame.hear.inCooldown = r at hcool hc ⊢
  simp only [hcool, Bool.false_eq_true, and_false, if_false]
  obtain ⟨ambe, ha⟩ := Option.isSome_iff_exists.1 (henc (r.2.pcmElAcc.map e.gain))
  rw [ha]
  refine ⟨n, ambe, { r.2 with
    pcmElAcc := [], elSpeechRun := if r.2.callActive = .idle then true else r.2.elSpeechRun }, hc, ?_⟩
  rfl

theorem EndsCall.opens (hm : e.cfg.mode = .echolinkYsf) (h : b.EndsCall) : b.Opens e := by
  intro hi c voc hpcm hcool henc
  have hy : b.ysfEnding = false := h.not_ending (by rw [hi]; decide)
  have hi' : { b with clock := c }.callActive = .idle := hi
  have hy' : { b with clock := c }.ysfEnding = false := hy
  have hpcm' : 160 ≤ { b with clock := c }.el.pcmIn.length := hpcm
  generalize ({ b with clock := c } : BridgeEl) = b0 at hi' hy' hpcm' hcool ⊢
  have hr : ¬(b0.callActive = .elRx ∨ b0.ysfEnding = true) := by
    rw [hi', hy']
    decide
  have ht : ¬b0.callActive = .elTx := by
    rw [hi']
    decide
  rw [BridgeEl.processElToYsf, if_neg (not_not_intro hm), if_neg hr]
  simp only [if_neg ht]
  obtain ⟨n, ambe, b1, hb1, heq⟩ := @elLoop_first e _ voc dropYsfAmbe
    (fun ambe b => b.takeYsfAmbe e ambe) hpcm' hcool henc
  rw [heq]
  apply elLoop_invariant (I := fun b => b.callActive = .elTx)
  · intro b el acc c speech run hb
    exact hb
  · intro b hb
    exact hb
  · intro ambe b hb
    exact takeYsfAmbe_elTx (by rw [hb]; decide) ambe
  · exact takeYsfAmbe_elTx (by rw [hb1, hi']; decide) ambe

/-- The half-duplex lock is never stuck: a set ending flag has a call to end, and an idle bridge
can be opened from EchoLink. -/
def NeverWedged (e : ElEnv) (b : BridgeEl) : Prop := b.EndsCall ∧ b.Opens e

/-- No HEADER or voice frame is accepted from YSF while an EL→YSF call is up. -/
def KeepsEnding (e : ElEnv) (b : BridgeEl) : BridgeElEvent → Prop
  | .ysfd _ _ pkt => b.callActive = .elTx → ∀ f, acceptedFich e pkt = some f →
      f.fi ≠ ysfFiHeader ∧ f.fi ≠ ysfFiCommunications
  | _ => True

theorem EndsCall.onYsfd (hm : e.cfg.mode = .echolinkYsf) (hb : b.EndsCall)
    (h : b.onYsfd e voc pkt = some b') :
    b'.EndsCall ↔ (b.callActive = .elTx → ∀ f, acceptedFich e pkt = some f →
      f.fi ≠ ysfFiHeader ∧ f.fi ≠ ysfFiCommunications) := by
  by_cases hf : ∀ f, acceptedFich e pkt = some f → f.fi ≠ ysfFiHeader ∧ f.fi ≠ ysfFiCommunications
  · obtain ⟨hy, hc⟩ := onYsfd_others hf h
    refine iff_of_true ?_ fun _ => hf
    rcases hc with hc | hc
    · exact hb.congr hc hy
    · exact .of_not_ending (hy.trans (hb.not_ending (by rw [hc]; decide)))
  · push Not at hf
    obtain ⟨f, ha, hfi⟩ := hf
    have hfi' : f.fi = ysfFiHeader ∨ f.fi = ysfFiCommunications := by
      by_cases h1 : f.fi = ysfFiHeader
      · exact .inl h1
      · exact .inr (hfi h1)
    obtain ⟨hc, hy⟩ := onYsfd_receives hm ha hfi' h
    by_cases ht : b.callActive = .elTx
    · refine iff_of_false (fun he => ?_) (fun hn => (hn ht f ha).2 (hfi (hn ht f ha).1))
      rw [decide_eq_true ht, Bool.true_or] at hy
      exact absurd (hc.symm.trans (he hy)) (by decide)
    · refine iff_of_true (.of_not_ending ?_) fun hn => absurd hn ht
      rw [hy, decide_eq_false ht, Bool.false_or]
      exact hb.not_ending ht

/-- A step keeps the invariant exactly when it meets the condition. -/
theorem EndsCall.step (hm : e.cfg.mode = .echolinkYsf) (hb : b.EndsCall) (ev : BridgeElEvent)
    (h : b.step e ev = some b') : b'.EndsCall ↔ b.KeepsEnding e ev := by
  cases ev with
  | audio c voc =>
    simp only [BridgeEl.step, hm, Option.some.injEq] at h
    rw [← h]
    exact iff_of_true (EndsCall.processElToYsf (b := { b with clock := c }) hb voc) trivial
  | dmrd c voc pkt =>
    have hne : e.cfg.mode ≠ .echolinkDmr := by
      rw [hm]
      decide
    rw [BridgeEl.step, BridgeEl.onDmrd, if_pos hne] at h
    cases h
    exact iff_of_true hb trivial
  | ysfd c voc pkt => exact EndsCall.onYsfd (b := { b with clock := c }) hm hb h
  | tick c dmrUp =>
    cases h
    exact iff_of_true (EndsCall.tick (b := { b with clock := c }) hm hb dmrUp) trivial
  | rtp | identity | link | aliases =>
    cases h
    exact iff_of_true hb trivial

/-- The lock holds in every state of a run exactly when no step of the run preempts an EL→YSF
call. -/
theorem neverWedged_iff {c : Clock} {db : AliasDb} {el : PeerEl}
    (hm : e.cfg.mode = .echolinkYsf) (evs : List BridgeElEvent) :
    (machine e c db el).Always (NeverWedged e) (machine e c db el).init evs ↔
      (machine e c db el).Meets (KeepsEnding e) (machine e c db el).init evs := by
  apply Machine.always_iff_meets (I := EndsCall)
  · intro b ev b' hb hk h
    exact (hb.step hm ev h).2 hk
  · intro b hb
    exact ⟨hb, hb.opens hm⟩
  · intro b ev b' hb hk h hw
    exact hk ((hb.step hm ev h).1 hw.1)
  · exact .of_not_ending rfl

/-- A reception that times out, and then an EL→YSF call. -/
theorem neverWedged_sample :
    (sampleMachine .echolinkYsf).Always (NeverWedged (sampleElEnv .echolinkYsf))
      (sampleMachine .echolinkYsf).init
      [elYsfdAt 1000 headerFich, elTickAt 3000, rtpOf 1, elAudioAt 3100, elTickAt 3200] := by
  apply (neverWedged_iff rfl _).2
  intro b1 _
  refine ⟨nofun, fun b2 _ => ⟨trivial, fun b3 _ => ⟨trivial, fun b4 _ => ?_⟩⟩⟩
  exact ⟨trivial, fun b5 _ => ⟨trivial, trivial⟩⟩

/-- A YSF HEADER preempts an EL→YSF call: the flag outlives the reception. -/
theorem not_neverWedged : ¬(sampleMachine .echolinkYsf).Always
    (NeverWedged (sampleElEnv .echolinkYsf)) (sampleMachine .echolinkYsf).init
      [rtpOf 1, elAudioAt 1000, elYsfdAt 1100 headerFich, elYsfdAt 1200 terminatorFich] := by
  intro h
  have hr : ((sampleMachine .echolinkYsf).run
      [rtpOf 1, elAudioAt 1000, elYsfdAt 1100 headerFich, elYsfdAt 1200 terminatorFich]).map
        (fun b => (b.callActive, b.ysfEnding)) = some (.idle, true) := by
    decide +kernel
  obtain ⟨b, hb, hs⟩ := Option.map_eq_some_iff.1 hr
  obtain ⟨hc, hy⟩ := Prod.mk.inj hs
  have hw := (Machine.always_iff.1 h _ b (List.prefix_refl _) hb).1 hy
  rw [hc] at hw
  exact absurd hw (by decide)

end BridgeEl

end AdnBridge
