import AdnBridge.Bridge.Bridge
import AdnBridge.BridgeEl.Requests

namespace AdnBridge
set_option autoImplicit true

/-- A voice or VTERM packet of another stream than `s`. -/
def ForeignTo (s : UInt32) (pkt : List UInt8) : Prop :=
  (dmrdIsVoice pkt = true ∨ dmrdIsTerminator pkt = true) ∧ dmrdStream pkt ≠ s

theorem dmrdIsPacket_of_voice {pkt : List UInt8} (h : dmrdIsVoice pkt = true) :
    dmrdIsPacket pkt = true := by
  rw [dmrdIsVoice, Bool.and_eq_true, Bool.and_eq_true] at h
  exact h.1.1

theorem dmrdIsPacket_of_terminator {pkt : List UInt8} (h : dmrdIsTerminator pkt = true) :
    dmrdIsPacket pkt = true := by
  rw [dmrdIsTerminator, Bool.and_eq_true] at h
  exact h.1

theorem not_header_of_voice {pkt : List UInt8} (h : dmrdIsVoice pkt = true) :
    dmrdIsHeader pkt = false ∧ dmrdIsTerminator pkt = false := by
  have hft : (dmrdParseB15 (byteAt pkt 15)).1 ≤ 1 := by
    rw [dmrdIsVoice, Bool.and_eq_true] at h
    exact of_decide_eq_true h.2
  have hne (d : UInt8) : (dmrdParseB15 (byteAt pkt 15) == (dmrdFtDataSync, d)) = false := by
    apply beq_false_of_ne
    intro he
    rw [he] at hft
    exact absurd hft (show ¬dmrdFtDataSync ≤ 1 by decide)
  constructor
  · rw [dmrdIsHeader, hne, Bool.and_false]
  · rw [dmrdIsTerminator, hne, Bool.and_false]

theorem not_header_of_terminator {pkt : List UInt8} (h : dmrdIsTerminator pkt = true) :
    dmrdIsHeader pkt = false := by
  have hb : dmrdParseB15 (byteAt pkt 15) = (dmrdFtDataSync, dmrdDtypeVterm) := by
    rw [dmrdIsTerminator, Bool.and_eq_true] at h
    exact eq_of_beq h.2
  have hne : ((dmrdFtDataSync, dmrdDtypeVterm) == (dmrdFtDataSync, dmrdDtypeVhead)) = false := by
    decide
  rw [dmrdIsHeader, hb, hne, Bool.and_false]

namespace Bridge

variable {e : Env} {b : Bridge}

/-- The packet opens a DMR→YSF call: a VHEAD, or a late-entry voice. -/
def opensDmrCall (b : Bridge) (pkt : List UInt8) : Bool :=
  dmrdIsHeader pkt &&
      (!b.callActive || (dmrdStream pkt != 0 && dmrdStream pkt != b.dmrStreamId)) ||
    dmrdIsVoice pkt && !b.callActive

/-- The stream that the active call relays to YSF, if it relays one. -/
def noteRelay (r : Option UInt32) (b : Bridge) (ev : BridgeEvent) (b' : Bridge) :
    Option UInt32 :=
  match ev with
  | .dmrd _ pkt =>
    if opensDmrCall b pkt then some (dmrdStream pkt) else if b'.callActive then r else none
  | _ => if b'.callActive then r else none

def relayMachine (e : Env) (clock : Clock) (db : AliasDb) :
    Machine (Bridge × Option UInt32) BridgeEvent :=
  (machine e clock db).observe none noteRelay

/-- The packet belongs to another stream than the one that is being relayed. -/
def Intrudes (s : Bridge × Option UInt32) (pkt : List UInt8) : Prop :=
  ∃ sid, s.2 = some sid ∧ sid ≠ 0 ∧ s.1.callActive = true ∧ ForeignTo sid pkt

/-- A voice or VTERM packet of another stream neither adds to the queue towards YSF nor ends the
call. -/
def Isolated (e : Env) (s : Bridge × Option UInt32) (ev : BridgeEvent) : Prop :=
  ∀ clock pkt, ev = .dmrd clock pkt → Intrudes s pkt →
    (s.1.step e ev).callActive = true ∧ (s.1.step e ev).conv.ysf = s.1.conv.ysf

/-- No such packet comes. -/
def KeepsToStream (s : Bridge × Option UInt32) (ev : BridgeEvent) : Prop :=
  ∀ clock pkt, ev = .dmrd clock pkt → ¬Intrudes s pkt

theorem put_n (c : Channel) (tag : UInt8) (payload : List UInt8) :
    (c.put tag payload).n = c.n + 1 := rfl

theorem putEot_n (w g : Nat) (silence : List UInt8) (c : Channel) :
    c.n < (c.putEot w g silence).n := by
  have hpad (k : Nat) (c : Channel) : c.n ≤ ((fun c => Channel.put c tagData silence)^[k] c).n := by
    induction k generalizing c with
    | zero => exact Nat.le_refl _
    | succ k ih =>
      rw [Function.iterate_succ_apply]
      exact Nat.le_trans (Nat.le_succ _) (ih (c.put tagData silence))
  rw [Channel.putEot, put_n]
  exact Nat.lt_succ_of_le (hpad _ c)

/-- A voice or VTERM packet always adds to the queue of an active call. -/
theorem onDmrd_adds (b : Bridge) (hb : b.callActive = true) (pkt : List UInt8)
    (h : dmrdIsVoice pkt = true ∨ dmrdIsTerminator pkt = true) :
    b.conv.ysf.n < (b.onDmrd e pkt).conv.ysf.n := by
  rcases h with h | h
  · have hp := dmrdIsPacket_of_voice h
    obtain ⟨hh, ht⟩ := not_header_of_voice h
    rw [onDmrd, hp, hh, ht, h, hb]
    change b.conv.ysf.n < b.conv.ysf.n + 1 + 1 + 1
    omega
  · have hp := dmrdIsPacket_of_terminator h
    have hh := not_header_of_terminator h
    rw [onDmrd, hp, hh, h, hb]
    exact putEot_n 13 5 _ b.conv.ysf

theorem isolated_iff (s : Bridge × Option UInt32) (ev : BridgeEvent) :
    Isolated e s ev ↔ KeepsToStream s ev := by
  constructor
  · rintro hi clock pkt rfl hint
    obtain ⟨_, hconv⟩ := hi clock pkt rfl hint
    obtain ⟨sid, _, _, hact, hfor, _⟩ := hint
    have hn := onDmrd_adds (e := e) { s.1 with clock := clock } hact pkt hfor
    change s.1.conv.ysf.n < (s.1.step e (.dmrd clock pkt)).conv.ysf.n at hn
    rw [hconv] at hn
    exact absurd hn (Nat.lt_irrefl _)
  · intro hk clock pkt he hint
    exact absurd hint (hk clock pkt he)

end Bridge

/-- The samples of a packet. -/
def ElPacket.samples : ElPacket → Nat
  | .rtp _ pcm _ => pcm.length
  | .sdes _ => 0

namespace PeerEl

variable {p p' : PeerEl}

/-- The samples handed to the peer so far, sent or not. -/
def written (p : PeerEl) : Nat := (p.sent.map ElPacket.samples).sum + p.pcmOut.length

theorem flushFull_written (p : PeerEl) : p.flushFull.written = p.written := by
  rw [flushFull]
  split
  next hl =>
    rw [flushRtpTx]
    split
    · rfl
    · have hz : elRtpSamples - p.pcmOut.length = 0 := Nat.sub_eq_zero_of_le hl
      simp only [written, hz, List.replicate_zero, List.append_nil, List.map_append,
        List.map_singleton, List.sum_append, List.sum_singleton, List.length_nil]
      rfl
  next => rfl

theorem writePcm_written (pcm : List Int16) (h : p.writePcm pcm = some p') :
    p'.written = p.written + pcm.length := by
  rw [writePcm] at h
  induction pcm generalizing p with
  | nil =>
    cases h
    rfl
  | cons x pcm ih =>
    rw [List.foldlM_cons] at h
    have hw := flushFull_written p
    generalize p.flushFull = p1 at h hw
    by_cases hl : p1.pcmOut.length ≥ elRtpSamples
    · rw [if_pos hl] at h
      cases h
    · rw [if_neg hl] at h
      have hx := flushFull_written { p1 with pcmOut := p1.pcmOut ++ [x] }
      have hone : ({ p1 with pcmOut := p1.pcmOut ++ [x] } : PeerEl).written = p1.written + 1 := by
        simp only [written, List.length_append, List.length_singleton]
        omega
      rw [ih h, hx, hone, hw, List.length_cons]
      omega

end PeerEl

namespace BridgeEl

variable {e : ElEnv} {b b' : BridgeEl} {voc : Vocoder}

theorem playFrames_written (calls : Nat) (l : List (List UInt8))
    (h : playFrames voc calls l b = some b') :
    b'.el.written = b.el.written + 160 * voc.decoded calls l := by
  induction l generalizing calls b with
  | nil =>
    cases h
    rfl
  | cons a l ih =>
    rw [playFrames] at h
    rw [Vocoder.decoded]
    cases hd : voc.decode calls a with
    | none =>
      rw [hd] at h
      rw [ih (calls + 1) h]
      simp
    | some pcm =>
      rw [hd] at h
      obtain ⟨b1, hb1, h⟩ := Option.bind_eq_some_iff.1 h
      obtain ⟨el, hel, rfl⟩ := Option.map_eq_some_iff.1 hb1
      have hw := PeerEl.writePcm_written pcm.toList hel
      rw [Vector.length_toList] at hw
      rw [ih (calls + 1) h, hw]
      simp
      omega

/-- The VHEAD opens a DMR→EchoLink call. -/
def opensDmrCall (e : ElEnv) (b : BridgeEl) (pkt : List UInt8) : Bool :=
  e.cfg.mode = .echolinkDmr ∧ dmrdIsHeader pkt = true ∧
    ¬(b.callActive = .elRx ∧ dmrdStream pkt = b.dmrRxStreamId)

/-- The stream that the active call relays to EchoLink, if it relays one. -/
def noteRelay (e : ElEnv) (r : Option UInt32) (b : BridgeEl) (ev : BridgeElEvent)
    (b' : BridgeEl) : Option UInt32 :=
  match ev with
  | .dmrd _ _ pkt =>
    if opensDmrCall e b pkt then some (dmrdStream pkt)
    else if b'.callActive = .elRx then r else none
  | _ => if b'.callActive = .elRx then r else none

def relayMachine (e : ElEnv) (clock : Clock) (db : AliasDb) (el : PeerEl) :
    Machine (BridgeEl × Option UInt32) BridgeElEvent :=
  (machine e clock db el).observe none (noteRelay e)

/-- The packet belongs to another stream than the one that is being relayed. -/
def Intrudes (e : ElEnv) (s : BridgeEl × Option UInt32) (pkt : List UInt8) : Prop :=
  e.cfg.mode = .echolinkDmr ∧
    ∃ sid, s.2 = some sid ∧ sid ≠ 0 ∧ s.1.callActive = .elRx ∧ ForeignTo sid pkt

/-- A voice or VTERM packet of another stream neither gives samples to EchoLink nor ends the
call. -/
def Isolated (e : ElEnv) (s : BridgeEl × Option UInt32) (ev : BridgeElEvent) : Prop :=
  ∀ clock voc pkt b', ev = .dmrd clock voc pkt → Intrudes e s pkt → s.1.step e ev = some b' →
    b'.callActive = .elRx ∧ b'.el.written = s.1.el.written

/-- No VTERM of another stream comes, and no voice of one that the vocoder decodes. -/
def KeepsToStream (e : ElEnv) (s : BridgeEl × Option UInt32) (ev : BridgeElEvent) : Prop :=
  ∀ clock voc pkt, ev = .dmrd clock voc pkt → Intrudes e s pkt →
    dmrdIsVoice pkt = true ∧
      voc.decoded 0 ((List.finRange 3).map (e.codec.dmr33ToAmbe ((pkt.drop 20).take 33))) = 0

theorem onDmrd_voice (hm : e.cfg.mode = .echolinkDmr) (hb : b.callActive = .elRx)
    {pkt : List UInt8} (h : dmrdIsVoice pkt = true) (hs : b.onDmrd e voc pkt = some b') :
    b'.callActive = .elRx ∧ b'.el.written = b.el.written +
      160 * voc.decoded 0
        ((List.finRange 3).map (e.codec.dmr33ToAmbe ((pkt.drop 20).take 33))) := by
  have hp := dmrdIsPacket_of_voice h
  obtain ⟨hh, ht⟩ := not_header_of_voice h
  have hn : ¬(!true) = true := Bool.false_ne_true
  rw [onDmrd, if_neg (not_not.2 hm), hp, hh, ht, if_neg hn, if_neg Bool.false_ne_true,
    if_neg Bool.false_ne_true, if_neg (not_not.2 hb)] at hs
  constructor
  · obtain ⟨el, rfl⟩ := playAmbe_eq hs
    exact hb
  · rw [playAmbe_frames] at hs
    have hw := playFrames_written 0 _ hs
    exact hw

theorem onDmrd_vterm (hm : e.cfg.mode = .echolinkDmr) (hb : b.callActive = .elRx)
    {pkt : List UInt8} (h : dmrdIsTerminator pkt = true) (hs : b.onDmrd e voc pkt = some b') :
    b'.callActive = .idle := by
  have hp := dmrdIsPacket_of_terminator h
  have hh := not_header_of_terminator h
  have hn : ¬(!true) = true := Bool.false_ne_true
  rw [onDmrd, if_neg (not_not.2 hm), hp, hh, h, if_neg hn, if_neg Bool.false_ne_true,
    if_pos rfl, if_pos hb] at hs
  cases hs
  rfl

theorem isolated_iff (s : BridgeEl × Option UInt32) (ev : BridgeElEvent)
    (hs : s.1.step e ev = some b') : Isolated e s ev ↔ KeepsToStream e s ev := by
  constructor
  · rintro hi clock voc pkt rfl hint
    obtain ⟨hact', hw⟩ := hi clock voc pkt b' rfl hint hs
    obtain ⟨hm, sid, _, _, hact, hfor, _⟩ := hint
    rcases hfor with hv | ht
    · refine ⟨hv, ?_⟩
      have hw' := (onDmrd_voice (b := { s.1 with clock := clock }) hm hact hv hs).2
      simp only at hw'
      omega
    · have hidle := onDmrd_vterm (b := { s.1 with clock := clock }) hm hact ht hs
      cases hidle.symm.trans hact'
  · rintro hk clock voc pkt b'' rfl hint hs'
    cases hs.symm.trans hs'
    obtain ⟨hv, hd⟩ := hk clock voc pkt rfl hint
    obtain ⟨hm, sid, _, _, hact, _⟩ := hint
    obtain ⟨hact', hw⟩ := onDmrd_voice (b := { s.1 with clock := clock }) hm hact hv hs
    rw [hd] at hw
    exact ⟨hact', hw⟩

end BridgeEl

/-- In both bridges a relayed DMR stream is isolated in a run exactly when the run brings no
voice or VTERM packet of another stream meanwhile (for EchoLink, none whose voice decodes). -/
theorem streamsIsolated_iff (e : Env) (clock : Clock) (db : AliasDb) (evs : List BridgeEvent)
    (e' : ElEnv) (clock' : Clock) (db' : AliasDb) (el : PeerEl) (evs' : List BridgeElEvent) :
    ((Bridge.relayMachine e clock db).Meets (Bridge.Isolated e)
        (Bridge.relayMachine e clock db).init evs ↔
      (Bridge.relayMachine e clock db).Meets Bridge.KeepsToStream
        (Bridge.relayMachine e clock db).init evs) ∧
    ((BridgeEl.relayMachine e' clock' db' el).Meets (BridgeEl.Isolated e')
        (BridgeEl.relayMachine e' clock' db' el).init evs' ↔
      (BridgeEl.relayMachine e' clock' db' el).Meets (BridgeEl.KeepsToStream e')
        (BridgeEl.relayMachine e' clock' db' el).init evs') := by
  constructor
  · apply Machine.meets_congr
    intro s ev _ _
    exact Bridge.isolated_iff s ev
  · apply Machine.meets_congr
    intro s ev s' hs
    exact BridgeEl.isolated_iff s ev (Machine.observe_step hs).1

/-- The packet of another stream, on the first timeslot. -/
def strayDmrd (b15 : UInt8) : List UInt8 :=
  dmrdMagic ++ [0, 0, 1, 2, 0, 0, 3, 0, 0, 0, 9, b15, 1, 0, 0, 0] ++ List.replicate 35 0

def sampleRelayMachine : Machine (BridgeEl × Option UInt32) BridgeElEvent :=
  BridgeEl.relayMachine (sampleElEnv .echolinkDmr) (.stopped 0) noAliases samplePeerEl

/-- A VTERM of another stream ends the call that a VHEAD has opened. -/
theorem not_streamsIsolated :
    ¬(Bridge.relayMachine sampleEnv (.stopped 0) noAliases).Meets (Bridge.Isolated sampleEnv)
      (Bridge.relayMachine sampleEnv (.stopped 0) noAliases).init
      [.dmrd (.stopped 100) (sampleDmrd vheadB15), .dmrd (.stopped 160) (strayDmrd 0x22)] ∧
    ¬sampleRelayMachine.Meets (BridgeEl.Isolated (sampleElEnv .echolinkDmr))
      sampleRelayMachine.init
      [.dmrd (.stopped 100) sampleVocoder (sampleDmrd vheadB15),
        .dmrd (.stopped 160) sampleVocoder (strayDmrd 0x22)] := by
  constructor
  · intro h
    have h2 := ((h _ rfl).2 _ rfl).1
    apply (Bridge.isolated_iff _ _).1 h2 _ _ rfl
    refine ⟨dmrdStream (sampleDmrd vheadB15), ?_, ?_, ?_, .inr ?_, ?_⟩ <;> decide +kernel
  · intro h
    have hret : (sampleRelayMachine.run
        [.dmrd (.stopped 100) sampleVocoder (sampleDmrd vheadB15),
          .dmrd (.stopped 160) sampleVocoder (strayDmrd 0x22)]).isSome = true := by
      decide +kernel
    obtain ⟨t, ht⟩ := Option.isSome_iff_exists.1 hret
    obtain ⟨s1, h1, ht⟩ := Machine.runFrom_cons_some.1 ht
    obtain ⟨s2, h2, _⟩ := Machine.runFrom_cons_some.1 ht
    have hopen : (sampleRelayMachine.step sampleRelayMachine.init
        (.dmrd (.stopped 100) sampleVocoder (sampleDmrd vheadB15))).map
          (fun s => (s.2, s.1.callActive)) = some (some 0x0A0B0C0D, .elRx) := by
      decide +kernel
    rw [h1] at hopen
    obtain ⟨hsid, hact⟩ := Prod.mk.inj (Option.some.inj hopen)
    have hint : BridgeEl.Intrudes (sampleElEnv .echolinkDmr) s1 (strayDmrd 0x22) := by
      refine ⟨rfl, 0x0A0B0C0D, hsid, by decide, hact, .inr ?_, ?_⟩ <;> decide +kernel
    have hs2 : s1.1.step (sampleElEnv .echolinkDmr)
        (.dmrd (.stopped 160) sampleVocoder (strayDmrd 0x22)) = some s2.1 :=
      (Machine.observe_step h2).1
    have hi := ((h s1 h1).2 s2 h2).1
    have hk := (BridgeEl.isolated_iff s1 _ hs2).1 hi
    exact absurd (hk _ _ _ rfl hint).1 (by decide +kernel)

end AdnBridge
