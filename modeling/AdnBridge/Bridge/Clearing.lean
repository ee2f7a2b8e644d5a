import AdnBridge.Bridge.Calls
import AdnBridge.Hbp.DmrHbp

namespace AdnBridge
set_option autoImplicit true

namespace Dmrd

/-- The destination in bytes 8 to 10 of the packet. -/
def wireDst (p : Dmrd) : Int := be24 p.head 8

theorem wireDst_eq (p : Dmrd) : p.wireDst = p.dst % 16777216 := by
  have hb (k : Nat) : ((intByte p.dst k).toNat : Int) = p.dst / 2 ^ k % 256 := by
    rw [intByte, UInt8.toNat_ofNat']
    omega
  change ((intByte p.dst 16).toNat : Int) * 65536 + (intByte p.dst 8).toNat * 256 +
    (intByte p.dst 0).toNat = _
  rw [hb, hb, hb]
  norm_num
  omega

/-- The packets that a stage of the connect PTT consists of. -/
def IsHead (p : Dmrd) : Prop := p.isVhead = true ∧ p.voice33 = none

def IsSilence (p : Dmrd) : Prop := p.isVoice = true ∧ p.voice33 = some dmrSilenceData

def IsEnd (p : Dmrd) : Prop := p.isVterm = true ∧ p.voice33 = some dmrSilenceData

instance (p : Dmrd) : Decidable p.IsHead := inferInstanceAs (Decidable (_ ∧ _))

instance (p : Dmrd) : Decidable p.IsSilence := inferInstanceAs (Decidable (_ ∧ _))

instance (p : Dmrd) : Decidable p.IsEnd := inferInstanceAs (Decidable (_ ∧ _))

end Dmrd

/-- What an observer of the DMR side sees: the link coming up, a packet of the connect PTT, and a
packet of a call. -/
inductive TgMark where
  | edge
  | ptt (p : Dmrd)
  | call (p : Dmrd)

/-- What was seen so far, and whether the last tick found the link up. -/
structure TgLog where
  up : Bool
  marks : List TgMark

theorem foldlM_append_some {f : α → β → Option α} {l l' : List β} {a a' : α}
    (h : l.foldlM f a = some a') : (l ++ l').foldlM f a = l'.foldlM f a' := by
  rw [List.foldlM_append, h]
  rfl

/-- How far the clear stage after a connect edge has come. -/
inductive ClearStage where
  | fresh
  | heads
  | voice
  | over
deriving DecidableEq

namespace ClearStage

/-- A packet to the clear talkgroup carries the stage on, if it may come now. -/
def onPtt (st : ClearStage) (p : Dmrd) : Option ClearStage :=
  if p.IsHead then if st = .fresh ∨ st = .heads then some .heads else none
  else if p.IsSilence then if st = .heads ∨ st = .voice then some .voice else none
  else if p.IsEnd then if st = .heads ∨ st = .voice then some .over else none
  else none

/-- One clear stage after each edge, then nothing but traffic to `tg`; calls only ever go there. -/
def step (tg : Int) (st : ClearStage) : TgMark → Option ClearStage
  | .edge => some .fresh
  | .call p => if p.wireDst = tg then some .over else none
  | .ptt p =>
    if p.wireDst = tg then some .over
    else if p.wireDst = dmrClearDynamicTg then st.onPtt p
    else none

end ClearStage

/-- Call traffic goes to `tg`, what goes to the clear talkgroup is a header, a silence burst or a
terminator of a clear stage, and every edge is followed by one clear stage at most, then only by
traffic to `tg`. -/
structure ClearsOnce (tg : Int) (log : List TgMark) : Prop where
  call : ∀ p, .call p ∈ log → p.wireDst = tg
  clear : ∀ p, .ptt p ∈ log ∨ .call p ∈ log → p.wireDst = dmrClearDynamicTg →
    .ptt p ∈ log ∧ (p.IsHead ∨ p.IsSilence ∨ p.IsEnd)
  once : (log.foldlM (ClearStage.step tg) .over).isSome = true

theorem ClearStage.shape (h : onPtt st p = some st') : p.IsHead ∨ p.IsSilence ∨ p.IsEnd := by
  rw [onPtt] at h
  split at h
  next hp => exact .inl hp
  next =>
    split at h
    next hp => exact .inr (.inl hp)
    next =>
      split at h
      next hp => exact .inr (.inr hp)
      next => cases h

/-- What the monitor lets through is as it should be. -/
theorem ClearStage.step_mem {tg : Int} {st st' : ClearStage} {log : List TgMark}
    (h : log.foldlM (ClearStage.step tg) st = some st') (hm : m ∈ log) :
    ∃ s s', ClearStage.step tg s m = some s' := by
  induction log generalizing st with
  | nil => cases hm
  | cons a log ih =>
    rw [List.foldlM_cons] at h
    obtain ⟨s1, h1, h⟩ := Option.bind_eq_some_iff.1 h
    rcases List.mem_cons.1 hm with rfl | hm
    · exact ⟨st, s1, h1⟩
    · exact ih h hm

theorem clearsOnce_of_fold {tg : Int} {st : ClearStage} {log : List TgMark}
    (hne : tg ≠ dmrClearDynamicTg)
    (h : log.foldlM (ClearStage.step tg) .over = some st) : ClearsOnce tg log := by
  have hcall (p : Dmrd) (hp : .call p ∈ log) : p.wireDst = tg := by
    obtain ⟨s, s', hs⟩ := ClearStage.step_mem h hp
    rw [ClearStage.step] at hs
    split at hs
    next he => exact he
    next => cases hs
  refine ⟨hcall, fun p hp hd => ?_, by rw [h]; rfl⟩
  rcases hp with hp | hp
  · refine ⟨hp, ?_⟩
    obtain ⟨s, s', hs⟩ := ClearStage.step_mem h hp
    rw [ClearStage.step, if_neg (by rw [hd]; exact hne.symm), if_pos hd] at hs
    exact ClearStage.shape hs
  · exact absurd ((hcall p hp).symm.trans hd) hne

theorem ClearStage.onPtt_head {st : ClearStage} {p : Dmrd} (h : p.b15 = vheadB15)
    (hv : p.voice33 = none)
    (hst : st = .fresh ∨ st = .heads) : st.onPtt p = some .heads := by
  have hp : p.IsHead := ⟨(Dmrd.isVhead_of_b15 h).1, hv⟩
  rw [ClearStage.onPtt, if_pos hp, if_pos hst]

theorem ClearStage.onPtt_silence {st : ClearStage} {p : Dmrd} (h : p.b15 = voiceB15 n)
    (hv : p.voice33 = some dmrSilenceData)
    (hst : st = .heads ∨ st = .voice) : st.onPtt p = some .voice := by
  obtain ⟨hn, _, hp, _⟩ := Dmrd.isVoice_of_b15 h
  have hh : ¬p.IsHead := by
    rintro ⟨hx, _⟩
    exact absurd (hn.symm.trans hx) (by decide)
  rw [ClearStage.onPtt, if_neg hh, if_pos ⟨hp, hv⟩, if_pos hst]

theorem ClearStage.onPtt_end {st : ClearStage} {p : Dmrd} (h : p.b15 = vtermB15)
    (hv : p.voice33 = some dmrSilenceData)
    (hst : st = .heads ∨ st = .voice) : st.onPtt p = some .over := by
  obtain ⟨hn, hp, hm⟩ := Dmrd.isVterm_of_b15 h
  have hh : ¬p.IsHead := by
    rintro ⟨hx, _⟩
    exact absurd (hn.symm.trans hx) (by decide)
  have hs : ¬p.IsSilence := by
    rintro ⟨hx, _⟩
    exact absurd (hm.symm.trans hx) (by decide)
  rw [ClearStage.onPtt, if_neg hh, if_neg hs, if_pos ⟨hp, hv⟩, if_pos hst]

/-- The talkgroup of the configuration, in the three bytes that a packet has for it. -/
def wireTg (tg : Int) : Int := tg % 16777216

/-- The state of the connect PTT and of the link. -/
structure PttView where
  active : Bool
  tg : Int
  phase : Nat
  up : Bool

namespace PttView

variable {own : Int} {v : PttView} {st st1 : ClearStage} {p : Dmrd}

/-- What the observer has seen fits the state of the connect PTT. -/
structure Fits (own : Int) (v : PttView) (st : ClearStage) : Prop where
  tg : v.active = true → v.tg = dmrClearDynamicTg ∨ v.tg = own
  fresh : v.active = true → v.tg = dmrClearDynamicTg → v.phase = 0 → st = .fresh
  going : v.active = true → v.tg = dmrClearDynamicTg → v.phase ≠ 0 → st = .heads ∨ st = .voice
  up : v.active = true → v.up = true

theorem Fits.off (h : v.active = false) : v.Fits own st := by
  have hn : ¬v.active = true := by
    rw [h]
    decide
  exact ⟨fun ha => absurd ha hn, fun ha => absurd ha hn, fun ha => absurd ha hn,
    fun ha => absurd ha hn⟩

/-- The connect PTT is on, for one of its two talkgroups. -/
structure On (own : Int) (v : PttView) : Prop where
  active : v.active = true
  up : v.up = true
  tg : v.tg = dmrClearDynamicTg ∨ v.tg = own

theorem Fits.on (h : v.Fits own st) (ha : v.active = true) : v.On own := ⟨ha, h.up ha, h.tg ha⟩

/-- The clear stage has sent its header. -/
def Going (v : PttView) (st : ClearStage) : Prop :=
  v.tg = dmrClearDynamicTg → st = .heads ∨ st = .voice

theorem Fits.hasBegun (h : v.Fits own st) (ha : v.active = true) (hp : v.phase ≠ 0) : v.Going st :=
  fun hc => h.going ha hc hp

/-- After a header of the clear stage, or a packet of the other stage. -/
theorem On.fits (h : v.On own) (hp : v.phase ≠ 0) (hg : v.Going st) : v.Fits own st :=
  ⟨fun _ => h.tg, fun _ _ h0 => absurd h0 hp, fun _ hc _ => hg hc, fun _ => h.up⟩

theorem ne_of_wireTg (hne : wireTg own ≠ dmrClearDynamicTg) : own ≠ dmrClearDynamicTg := by
  intro h
  rw [h] at hne
  exact hne (by decide)

/-- The stage to the talkgroup of the configuration begins. -/
theorem fits_own (hne : wireTg own ≠ dmrClearDynamicTg) (ht : v.tg = own) (hup : v.up = true)
    (st : ClearStage) : v.Fits own st := by
  have hn : v.tg ≠ dmrClearDynamicTg := by
    rw [ht]
    exact ne_of_wireTg hne
  exact ⟨fun _ => .inr ht, fun _ h => absurd h hn, fun _ h => absurd h hn, fun _ => hup⟩

/-- The clear stage begins, right after the edge. -/
theorem fits_fresh (hc : v.tg = dmrClearDynamicTg) (h0 : v.phase = 0) (hup : v.up = true) :
    v.Fits own .fresh :=
  ⟨fun _ => .inl hc, fun _ _ _ => rfl, fun _ _ h => absurd h0 h, fun _ => hup⟩

/-- A packet of the connect PTT; only in the clear stage it matters which. -/
theorem On.step_ptt (h : v.On own) (hne : wireTg own ≠ dmrClearDynamicTg) (hdst : p.dst = v.tg)
    (hst : v.tg = dmrClearDynamicTg → st.onPtt p = some st1) :
    ∃ st', ClearStage.step (wireTg own) st (.ptt p) = some st' ∧
      (v.tg = dmrClearDynamicTg → st' = st1) := by
  rcases h.tg with ht | ht
  · have hclear : p.wireDst = dmrClearDynamicTg := by
      rw [p.wireDst_eq, hdst, ht]
      rfl
    refine ⟨st1, ?_, fun _ => rfl⟩
    rw [ClearStage.step, if_neg (by rw [hclear]; exact hne.symm), if_pos hclear]
    exact hst ht
  · have hown : p.wireDst = wireTg own := by
      rw [p.wireDst_eq, hdst, ht]
      rfl
    refine ⟨.over, ?_, fun hc => ?_⟩
    · rw [ClearStage.step, if_pos hown]
    · exact absurd (ht.symm.trans hc) (ne_of_wireTg hne)

theorem step_call (hdst : p.dst = own) :
    ClearStage.step (wireTg own) st (.call p) = some .over := by
  have hown : p.wireDst = wireTg own := by
    rw [p.wireDst_eq, hdst]
    rfl
  rw [ClearStage.step, if_pos hown]

end PttView

def Act.tgMark : Act → Option TgMark
  | .dmrd .ptt p => some (.ptt p)
  | .dmrd .call p => some (.call p)
  | _ => none

namespace Bridge

variable {e : Env} {b b' b'' : Bridge} {st st' : ClearStage}

/-- The link to DMR comes up with a tick, after it was `up` at the tick before. -/
def edges (up : Bool) : BridgeEvent → List TgMark
  | .tick _ dmrUp _ => if dmrUp && !up then [.edge] else []
  | _ => []

def linkAfter (up : Bool) : BridgeEvent → Bool
  | .tick _ dmrUp _ => dmrUp
  | _ => up

def noteTg (log : TgLog) (b : Bridge) (ev : BridgeEvent) (b' : Bridge) : TgLog where
  up := linkAfter log.up ev
  marks := log.marks ++ (edges log.up ev ++ (actsSince b b').filterMap Act.tgMark)

/-- The bridge as an observer of its DMR side sees it. -/
def watched (e : Env) (c : Clock) (db : AliasDb) : Machine (Bridge × TgLog) BridgeEvent :=
  (machine e c db).observe ⟨false, []⟩ noteTg

def pttView (b : Bridge) : PttView :=
  ⟨b.connectPttActive, b.connectPttTg, b.connectPttPhase, b.dmrWasConnected⟩

abbrev Fits (e : Env) (b : Bridge) (st : ClearStage) : Prop := b.pttView.Fits e.cfg.tg st

theorem Fits.congr (h : b.Fits e st) (hs : b'.pttView = b.pttView) : b'.Fits e st := by
  rw [Fits, hs]
  exact h

/-- The observer lets what is sent pass. -/
def Passes (e : Env) (b : Bridge) (st : ClearStage) (b' : Bridge) (st' : ClearStage) : Prop :=
  ∃ as, b'.trace = b.trace ++ as ∧
    (as.filterMap Act.tgMark).foldlM (ClearStage.step (wireTg e.cfg.tg)) st = some st'

theorem Passes.quiet (as : List Act) (ht : b'.trace = b.trace ++ as)
    (ha : as.filterMap Act.tgMark = []) :
    Passes e b st b' st :=
  ⟨as, ht, by rw [ha]; rfl⟩

theorem Passes.same (ht : b'.trace = b.trace) : Passes e b st b' st :=
  quiet [] (ht.trans (List.append_nil _).symm) rfl

theorem Passes.trans (h : Passes e b st b' st') (h' : Passes e b' st' b'' st'') :
    Passes e b st b'' st'' := by
  obtain ⟨as, ht, hs⟩ := h
  obtain ⟨as', ht', hs'⟩ := h'
  refine ⟨as ++ as', by rw [ht', ht, List.append_assoc], ?_⟩
  rw [List.filterMap_append, foldlM_append_some hs]
  exact hs'

/-- The observer lets what is sent pass, what it has seen fits again, and the bridge takes the link
to be `up`. -/
def Clears (e : Env) (up : Bool) (b : Bridge) (st : ClearStage) (b' : Bridge) : Prop :=
  ∃ st', Passes e b st b' st' ∧ b'.Fits e st' ∧ b'.dmrWasConnected = up

theorem Clears.refl (h : b.Fits e st) : Clears e b.dmrWasConnected b st b := ⟨st, .same rfl, h, rfl⟩

theorem Clears.trans (h : Clears e up b st b')
    (h' : ∀ st', b'.Fits e st' → Clears e b'.dmrWasConnected b' st' b'') :
    Clears e up b st b'' := by
  obtain ⟨st', hp, hf, hu⟩ := h
  obtain ⟨st'', hp', hf', hu'⟩ := h' st' hf
  exact ⟨st'', hp.trans hp', hf', hu'.trans hu⟩

/-- Changes that concern neither the connect PTT nor what is sent. -/
theorem Clears.congr (h : Clears e up b st b') (ht : b''.trace = b'.trace)
    (hs : b''.pttView = b'.pttView) : Clears e up b st b'' := by
  obtain ⟨st', h, hf, hu⟩ := h
  exact ⟨st', h.trans (.same ht), hf.congr hs, (congrArg PttView.up hs).trans hu⟩

theorem sendDmrd_full (e : Env) (b : Bridge) (o : Origin) (ft : UInt8) (v : Option (List UInt8)) :
    ∃ p : Dmrd, p.b15 = ft ∧ p.voice33 = v ∧ p.dst = b.txTg e ∧ b.sendDmrd e o ft v =
      { b.tock.log (.dmrd o p) with dmrSeq := b.dmrSeq + 1, lastDmrTx := b.clock.now } := by
  have hd := e.cfg.dmrid_pos
  have hrf : ¬(if b.ysfRfId > 0 then b.ysfRfId else e.cfg.dmrid) ≤ 0 := by
    split <;> omega
  rw [sendDmrd]
  simp only [if_neg hrf]
  exact ⟨_, rfl, rfl, rfl, rfl⟩

@[simp] theorem sendDmrd_pttView (e : Env) (b : Bridge) (o : Origin) (ft : UInt8)
    (v : Option (List UInt8)) : (b.sendDmrd e o ft v).pttView = b.pttView := by
  obtain ⟨p, _, _, _, hb⟩ := sendDmrd_full e b o ft v
  rw [hb]
  rfl

theorem connectPttPad_pttView (e : Env) (n : Nat) (b : Bridge) :
    (connectPttPad e n b).pttView = b.pttView := by
  induction n generalizing b with
  | zero => rfl
  | succ n ih =>
    rw [connectPttPad]
    split
    next => exact (ih _).trans (sendDmrd_pttView e b .ptt _ _)
    next => rfl

/-- A packet of the connect PTT. -/
theorem passes_ptt (hne : wireTg e.cfg.tg ≠ dmrClearDynamicTg) (h : b.pttView.On e.cfg.tg)
    {ft : UInt8} {v : Option (List UInt8)} {st1 : ClearStage}
    (hst : b.connectPttTg = dmrClearDynamicTg → ∀ p : Dmrd, p.b15 = ft → p.voice33 = v →
      st.onPtt p = some st1) :
    ∃ st', Passes e b st (b.sendDmrd e .ptt ft v) st' ∧
      (b.connectPttTg = dmrClearDynamicTg → st' = st1) := by
  obtain ⟨p, hft, hv, hdst, hb⟩ := sendDmrd_full e b .ptt ft v
  have hpos : b.connectPttTg > 0 := by
    rcases h.tg with ht | ht
    · change b.connectPttTg = _ at ht
      rw [ht]
      decide
    · change b.connectPttTg = _ at ht
      rw [ht]
      exact e.cfg.tg_pos
  have hact : b.connectPttActive = true := h.active
  have hd : p.dst = b.pttView.tg := by
    rw [hdst, txTg, hact, Bool.true_and, if_pos (decide_eq_true hpos)]
    rfl
  obtain ⟨st', hs, h1⟩ := h.step_ptt hne hd fun hc => hst hc p hft hv
  refine ⟨st', ⟨[.dmrd .ptt p], ?_, ?_⟩, h1⟩
  · rw [hb]
    rfl
  · simp only [List.filterMap_cons, List.filterMap_nil, Act.tgMark, List.foldlM_cons,
      List.foldlM_nil, hs]
    rfl

section
variable (hne : wireTg e.cfg.tg ≠ dmrClearDynamicTg)
include hne

theorem passes_silence (h : b.pttView.On e.cfg.tg) (hg : b.pttView.Going st) {ft : UInt8}
    (hft : ft = voiceB15 n) :
    ∃ st', Passes e b st (b.sendDmrd e .ptt ft (some dmrSilenceData)) st' ∧
      b.pttView.Going st' := by
  obtain ⟨st', hp, hst⟩ := passes_ptt hne h fun hc p hb hv =>
    ClearStage.onPtt_silence (hb.trans hft) hv (hg hc)
  exact ⟨st', hp, fun hc => .inr (hst hc)⟩

theorem passes_pad (h : b.pttView.On e.cfg.tg) (hg : b.pttView.Going st) (n : Nat) :
    ∃ st', Passes e b st (connectPttPad e n b) st' ∧ b.pttView.Going st' := by
  induction n generalizing b st with
  | zero => exact ⟨st, .same rfl, hg⟩
  | succ n ih =>
    rw [connectPttPad]
    split
    next hn =>
      obtain ⟨st1, hp1, hg1⟩ := passes_silence hne h hg (padB15_eq hn)
      have hs : { b.sendDmrd e .ptt (padB15 b.connectPttVoiceFrames) (some dmrSilenceData) with
          connectPttVoiceFrames := (b.sendDmrd e .ptt (padB15 b.connectPttVoiceFrames)
            (some dmrSilenceData)).connectPttVoiceFrames + 1 }.pttView = b.pttView :=
        sendDmrd_pttView e b .ptt _ _
      rw [← hs] at h hg1
      obtain ⟨st2, hp2, hg2⟩ := ih h hg1
      rw [hs] at hg2
      exact ⟨st2, (hp1.trans (.same rfl)).trans hp2, hg2⟩
    next => exact ⟨st, .same rfl, hg⟩

/-- The end of a stage, and the beginning of the one to the configured talkgroup after a clear
stage. -/
theorem clears_finish (h : b.pttView.On e.cfg.tg) (hg : b.pttView.Going st) :
    Clears e b.dmrWasConnected b st (b.connectPttFinish e) := by
  obtain ⟨st1, hp1, hg1⟩ := passes_pad hne h hg 6
  have hs1 := connectPttPad_pttView e 6 b
  rw [connectPttFinish]
  generalize connectPttPad e 6 b = b1 at hp1 hs1
  rw [← hs1] at h hg1
  obtain ⟨st2, hp2, _⟩ := passes_ptt hne h (v := some dmrSilenceData) fun hc p hb hv =>
    ClearStage.onPtt_end hb hv (hg1 hc)
  have hs2 := sendDmrd_pttView e b1 .ptt vtermB15 (some dmrSilenceData)
  generalize b1.sendDmrd e .ptt vtermB15 (some dmrSilenceData) = b2 at hp2 hs2
  have hp := hp1.trans hp2
  have hup : b2.dmrWasConnected = true := (congrArg PttView.up hs2).trans h.up
  have hflag : b2.dmrWasConnected = b.dmrWasConnected :=
    (congrArg PttView.up hs2).trans (congrArg PttView.up hs1)
  split
  · have hfit : (b2.connectPttBeginStream e e.cfg.tg false).Fits e st2 :=
      PttView.fits_own hne rfl hup st2
    exact ⟨st2, hp.trans (.quiet [.start .ptt _] rfl rfl), hfit, hflag⟩
  · exact ⟨st2, hp.trans (.same rfl), .off rfl, hflag⟩

theorem clears_abort (hf : b.Fits e st) :
    Clears e b.dmrWasConnected b st (b.abortConnectPtt e) := by
  rw [abortConnectPtt]
  split
  · exact .refl hf
  next ha =>
    have ha' : b.connectPttActive = true := by simpa using ha
    split
    next hph =>
      have hf' : Fits e { b with connectPttClearing := false } st := hf
      have hgo := hf'.hasBegun ha' hph.ne'
      obtain ⟨st', hp, hfit⟩ := clears_finish hne (hf'.on ha') hgo
      exact ⟨st', (Passes.same rfl).trans hp, hfit⟩
    next => exact ⟨st, .quiet [.stop .ptt] rfl rfl, .off rfl, rfl⟩

/-- The connect PTT begins right after the edge. -/
theorem clears_start (ha : b.connectPttActive = false) :
    Clears e true b .fresh { b.startConnectPtt e with dmrWasConnected := true } := by
  have hoff : Clears e true b .fresh { b with dmrWasConnected := true } :=
    ⟨.fresh, .same rfl, .off ha, rfl⟩
  rw [startConnectPtt]
  split
  · exact hoff
  · split
    · exact hoff
    · split
      · have hfit : Fits e { b.connectPttBeginStream e dmrClearDynamicTg true with
            dmrWasConnected := true } .fresh := PttView.fits_fresh rfl rfl rfl
        exact ⟨.fresh, .quiet [.start .ptt _] rfl rfl, hfit, rfl⟩
      · have hfit : Fits e { b.connectPttBeginStream e e.cfg.tg false with
            dmrWasConnected := true } .fresh := PttView.fits_own hne rfl rfl .fresh
        exact ⟨.fresh, .quiet [.start .ptt _] rfl rfl, hfit, rfl⟩

/-- A header of the connect PTT, the first one right after the edge when the stage is the clear
one. -/
theorem passes_head (h : b.pttView.On e.cfg.tg)
    (hst : b.connectPttTg = dmrClearDynamicTg → st = .fresh ∨ st = .heads) :
    ∃ st', Passes e b st (b.sendDmrd e .ptt vheadB15 none) st' ∧
      (b.connectPttTg = dmrClearDynamicTg → st' = .heads) :=
  passes_ptt hne h fun hc _ hb hv => ClearStage.onPtt_head hb hv (hst hc)

theorem clears_emit (hf : b.Fits e st) : Clears e b.dmrWasConnected b st (b.emitConnectPtt e) := by
  rw [emitConnectPtt]
  split
  · exact .refl hf
  next ha =>
    have ha' : b.connectPttActive = true := by simpa using ha
    have hon := hf.on ha'
    split
    next h0 =>
      have hs (b : Bridge) := sendDmrd_pttView e b .ptt vheadB15 none
      obtain ⟨st1, hp1, h1⟩ := passes_head hne hon fun hc => .inl (hf.fresh ha' hc h0)
      simp only [Function.iterate_succ, Function.iterate_zero, Function.comp, id]
      have hs1 := hs b
      generalize b.sendDmrd e .ptt vheadB15 none = b1 at hp1 hs1
      rw [← hs1] at hon
      obtain ⟨st2, hp2, h2⟩ := passes_head hne hon fun hc =>
        .inr (h1 ((congrArg PttView.tg hs1).symm.trans hc))
      have hs2 := hs b1
      generalize b1.sendDmrd e .ptt vheadB15 none = b2 at hp2 hs2
      rw [← hs2] at hon
      obtain ⟨st3, hp3, h3⟩ := passes_head hne hon fun hc =>
        .inr (h2 ((congrArg PttView.tg hs2).symm.trans hc))
      have hs3 := hs b2
      generalize b2.sendDmrd e .ptt vheadB15 none = b3 at hp3 hs3
      have hu : b3.dmrWasConnected = b.dmrWasConnected :=
        congrArg PttView.up (hs3.trans (hs2.trans hs1))
      refine ⟨st3, ((hp1.trans hp2).trans hp3).trans (.same rfl),
        PttView.On.fits ?_ Nat.one_ne_zero ?_, hu⟩
      · rw [← hs3] at hon
        exact ⟨hon.active, hon.up, hon.tg⟩
      · exact fun hc => .inl (h3 ((congrArg PttView.tg hs3).symm.trans hc))
    next h0 =>
      have hgo := hf.hasBegun ha' h0
      split
      · obtain ⟨st', hp, hfit⟩ := clears_finish hne (b := b.tock) hon hgo
        exact ⟨st', (Passes.same rfl).trans hp, hfit⟩
      · obtain ⟨st', hp, hg⟩ := passes_silence hne (b := b.tock) hon hgo
          (rfl : voiceB15 b.connectPttVoiceFrames = _)
        have hs := sendDmrd_pttView e b.tock .ptt (voiceB15 b.connectPttVoiceFrames)
          (some dmrSilenceData)
        have hfit : (b.tock.sendDmrd e .ptt (voiceB15 b.connectPttVoiceFrames)
            (some dmrSilenceData)).Fits e st' := by
          rw [Fits, hs]
          exact PttView.On.fits hon h0 hg
        exact ⟨st', ((Passes.same rfl).trans hp).trans (.same rfl), hfit, congrArg PttView.up hs⟩

/-- Polling the connect PTT; the edge, if there is one, comes first. -/
theorem clears_poll (hf : b.Fits e st) (connected : Bool) :
    ∃ st', ((if connected && !b.dmrWasConnected then [TgMark.edge] else []).foldlM
        (ClearStage.step (wireTg e.cfg.tg)) st) = some st' ∧
      Clears e connected b st' (b.pollConnectPtt e connected) := by
  have hrest {b1 b2 : Bridge} {st' : ClearStage} (h : Clears e connected b1 st' b2) :
      Clears e connected b1 st' (if !b2.connectPttActive then b2
        else if msElapsed b2.clock.now b2.lastDmrTx dmrFrameMs then b2.tock.emitConnectPtt e
        else b2.tock) := by
    split
    · exact h
    · have htock : Clears e connected b1 st' b2.tock := h.congr rfl rfl
      split
      · exact htock.trans fun _ hf => clears_emit hne hf
      · exact htock
  cases connected with
  | false => exact ⟨st, rfl, hrest ⟨st, .quiet [.stop .ptt] rfl rfl, .off rfl, rfl⟩⟩
  | true =>
    cases hup : b.dmrWasConnected with
    | false =>
      have ha : b.connectPttActive = false := by
        cases ha : b.connectPttActive with
        | false => rfl
        | true => exact absurd (hup.symm.trans (hf.up ha)) (by decide)
      refine ⟨.fresh, rfl, ?_⟩
      have h := hrest (clears_start hne ha)
      rw [pollConnectPtt, hup]
      exact h
    | true =>
      refine ⟨st, rfl, ?_⟩
      have hs : { b with dmrWasConnected := true }.pttView = b.pttView := by
        rw [pttView, pttView, hup]
      have h0 : Clears e true b st { b with dmrWasConnected := true } :=
        ⟨st, .same rfl, hf.congr hs, rfl⟩
      have h := hrest h0
      rw [pollConnectPtt, hup]
      exact h

end

/-- What is sent while there is no connect PTT passes, and there is none afterwards. -/
structure CallsOnly (e : Env) (b b' : Bridge) : Prop where
  view : b'.pttView = b.pttView
  passes : b.connectPttActive = false → ∀ st, ∃ st', Passes e b st b' st'

namespace CallsOnly

theorem off (h : CallsOnly e b b') (hp : b.connectPttActive = false) :
    b'.connectPttActive = false :=
  (congrArg PttView.active h.view).trans hp

theorem quiet (as : List Act) (hv : b'.pttView = b.pttView) (ht : b'.trace = b.trace ++ as)
    (hq : as.filterMap Act.tgMark = []) : CallsOnly e b b' :=
  ⟨hv, fun _ st => ⟨st, .quiet as ht hq⟩⟩

theorem same (hv : b'.pttView = b.pttView) (ht : b'.trace = b.trace) : CallsOnly e b b' :=
  quiet [] hv (ht.trans (List.append_nil _).symm) rfl

theorem trans (h : CallsOnly e b b') (h' : CallsOnly e b' b'') : CallsOnly e b b'' where
  view := h'.view.trans h.view
  passes := by
    intro hp st
    obtain ⟨st', hs⟩ := h.passes hp st
    obtain ⟨st'', hs'⟩ := h'.passes (h.off hp) st'
    exact ⟨st'', hs.trans hs'⟩

theorem clears (h : CallsOnly e b b') (hp : b.connectPttActive = false) (st : ClearStage) :
    Clears e b.dmrWasConnected b st b' := by
  obtain ⟨st', hs⟩ := h.passes hp st
  exact ⟨st', hs, .off (h.off hp), congrArg PttView.up h.view⟩

/-- A packet of a call. -/
theorem send (e : Env) (b : Bridge) (ft : UInt8) (v : Option (List UInt8)) :
    CallsOnly e b (b.sendDmrd e .call ft v) := by
  refine ⟨sendDmrd_pttView e b .call ft v, fun hp st => ?_⟩
  obtain ⟨p, _, _, hdst, hb⟩ := sendDmrd_full e b .call ft v
  have hd : p.dst = e.cfg.tg := by
    rw [hdst, txTg, hp]
    rfl
  rw [hb]
  refine ⟨.over, [.dmrd .call p], rfl, ?_⟩
  simp only [List.filterMap_cons, List.filterMap_nil, Act.tgMark, List.foldlM_cons,
    List.foldlM_nil, PttView.step_call hd]
  rfl

theorem frames (h : CallsOnly e b b') (n : Nat) : CallsOnly e b { b' with dmrTxFrames := n } :=
  h.trans (same rfl rfl)

theorem pad (e : Env) (n : Nat) (b : Bridge) : CallsOnly e b (emitPad e n b) := by
  induction n generalizing b with
  | zero => exact same rfl rfl
  | succ n ih =>
    rw [emitPad]
    split
    next =>
      have hs := send e b (padB15 b.dmrTxFrames) (some dmrSilenceData)
      exact (hs.frames _).trans (ih _)
    next => exact same rfl rfl

theorem resetCall (e : Env) (b : Bridge) : CallsOnly e b b.resetCall :=
  quiet [.stop .call, .convReset] rfl (List.append_assoc _ _ _) rfl

theorem emitDmr (e : Env) (b : Bridge) : CallsOnly e b (b.emitDmrFromConv e) := by
  rw [emitDmrFromConv]
  generalize b.conv.getDmr = r
  obtain ⟨tag, voice, conv⟩ := r
  have h0 : CallsOnly e b { b with conv := conv } := same rfl rfl
  simp only
  split
  · exact h0
  · split
    · exact ((h0.trans (send e _ _ _)).trans (send e _ _ _)).trans (send e _ _ _)
    · split
      · have hend := ((h0.trans (pad e 6 _)).trans (send e _ vtermB15 (some voice)))
        exact hend.trans (resetCall e _)
      · split
        · exact (h0.trans (send e _ (voiceB15 b.dmrTxFrames) (some voice))).frames _
        · exact h0

end CallsOnly

/-- The YSF side sends no DMRD and leaves the connect PTT as it is. -/
structure YsfSide (b b' : Bridge) : Prop where
  same : b'.pttView = b.pttView
  trace : ∃ as, b'.trace = b.trace ++ as ∧ as.filterMap Act.tgMark = []

namespace YsfSide

theorem refl (b : Bridge) : YsfSide b b := ⟨rfl, [], (List.append_nil _).symm, rfl⟩

theorem congr (h : YsfSide b b') (ht : b''.trace = b'.trace) (hs : b''.pttView = b'.pttView) :
    YsfSide b b'' := by
  obtain ⟨as, h1, h2⟩ := h.trace
  exact ⟨hs.trans h.same, as, ht.trans h1, h2⟩

theorem log (h : YsfSide b b') {a : Act} (ha : a.tgMark = none) : YsfSide b (b'.log a) := by
  obtain ⟨as, h1, h2⟩ := h.trace
  refine ⟨h.same, as ++ [a], ?_, ?_⟩
  · rw [Bridge.log, h1, List.append_assoc]
  · rw [List.filterMap_append, h2, List.filterMap_cons, ha]
    rfl

theorem modeconv (h : YsfSide b b') (e : Env) (o : ConvOp) : YsfSide b (b'.modeconv e o) :=
  (h.log rfl).congr rfl rfl

theorem sendYsfd (h : YsfSide b b') (e : Env) (fi fn netCnt : UInt8)
    (payload : Option (List UInt8)) : YsfSide b (b'.sendYsfd e fi fn netCnt payload) :=
  (h.log rfl).congr rfl rfl

theorem resetCall (h : YsfSide b b') : YsfSide b b'.resetCall :=
  ((h.log (a := .stop .call) rfl).log (a := .convReset) rfl).congr rfl rfl

theorem emitYsf (e : Env) (b : Bridge) : YsfSide b (b.emitYsfFromConv e) := by
  rw [emitYsfFromConv]
  generalize b.conv.getYsf = r
  obtain ⟨tag, payload, conv⟩ := r
  have h0 : YsfSide b { b with conv := conv } := (refl b).congr rfl rfl
  simp only
  split
  · exact h0
  · split
    · have h1 : YsfSide b { b with conv := conv, ysfCnt := 0 } :=
        (refl b).congr rfl rfl
      exact (h1.sendYsfd e ysfFiHeader 0 0 none).congr rfl rfl
    · split
      · exact (h0.sendYsfd e _ _ _ _).resetCall
      · split
        · have h1 := h0.sendYsfd e ysfFiCommunications (ysfVoiceFn b.ysfCnt)
            (ysfVoiceNet b.ysfCnt) (some payload)
          exact h1.congr rfl rfl
        · exact h0

theorem paceYsf (e : Env) (b : Bridge) : YsfSide b (b.paceYsf e) := by
  have ht : YsfSide b b.tock := (refl b).congr rfl rfl
  rw [Bridge.paceYsf]
  split
  · obtain ⟨as, h1, h2⟩ := (emitYsf e b.tock).trace
    exact ⟨(emitYsf e b.tock).same, as, h1, h2⟩
  · exact ht

theorem beginDmrToYsf (e : Env) (b : Bridge) (pkt : List UInt8) :
    YsfSide b (b.beginDmrToYsf e pkt) := by
  rw [Bridge.beginDmrToYsf]
  split
  next sid b1 h =>
    have h1 : YsfSide b b1 := by
      split at h
      · rw [← (Prod.mk.inj h).2]
        exact (refl b).congr rfl rfl
      · rw [← (Prod.mk.inj h).2]
        exact refl b
    exact (h1.log (a := .convReset) rfl).congr rfl rfl

theorem header (h : YsfSide b b') (e : Env) : YsfSide b
    { (if b'.dmrLastDtype ≠ dmrdDtypeVhead then b'.modeconv e .putDmrHeader else b') with
      dmrLastDtype := dmrdDtypeVhead } := by
  split
  next => exact (h.modeconv e .putDmrHeader).congr rfl rfl
  next => exact h.congr rfl rfl

theorem onDmrd (e : Env) (b : Bridge) (pkt : List UInt8) : YsfSide b (b.onDmrd e pkt) := by
  have hb := refl b
  rw [Bridge.onDmrd]
  split
  · exact hb
  · split
    · apply header
      split
      next => exact beginDmrToYsf e b pkt
      next =>
        obtain ⟨src, dst, hid⟩ := setDmrRxIdentity_eq b pkt
        rw [hid]
        exact hb.congr rfl rfl
    · split
      · have hend {b1 : Bridge} (h : YsfSide b b1) :
            YsfSide b { b1 with dmrLastDtype := dmrdDtypeVterm } :=
          h.congr rfl rfl
        apply hend
        split
        next => exact hb.modeconv e .putDmrEot
        next => exact hb
      · split
        · have hvoice {b1 : Bridge} (h : YsfSide b b1) : YsfSide b
              { b1.modeconv e (.putDmrVoice ((pkt.drop 20).take 33)) with
                dmrVoiceFrames :=
                  (b1.modeconv e (.putDmrVoice ((pkt.drop 20).take 33))).dmrVoiceFrames + 1
                dmrLastDtype := dmrdB15Dtype pkt } :=
            (h.modeconv e (.putDmrVoice ((pkt.drop 20).take 33))).congr rfl rfl
          apply hvoice
          split
          next => exact hb
          next =>
            have h1 : YsfSide b { b.beginDmrToYsf e pkt with dmrSeq := byteAt pkt 4 } :=
              (beginDmrToYsf e b pkt).congr rfl rfl
            exact h1.modeconv e .putDmrHeader
        · split
          next => exact hb.congr rfl rfl
          next => exact hb

theorem clears (h : YsfSide b b') (hf : b.Fits e st) : Clears e b.dmrWasConnected b st b' := by
  obtain ⟨as, ht, ha⟩ := h.trace
  exact ⟨st, .quiet as ht ha, hf.congr h.same, congrArg PttView.up h.same⟩

end YsfSide

theorem Clears.ysf (h : Clears e up b st b') (hy : YsfSide b' b'') : Clears e up b st b'' :=
  h.trans fun _ hf => hy.clears hf

section
variable (hne : wireTg e.cfg.tg ≠ dmrClearDynamicTg)
include hne

theorem clears_startYsfCall (hf : b.Fits e st) (pkt : List UInt8) :
    Clears e b.dmrWasConnected b st (b.startYsfCall e pkt) := by
  have h := clears_abort hne hf
  rw [startYsfCall]
  generalize b.abortConnectPtt e = b1 at h
  have h1 : YsfSide b1 ((b1.log (.start .call (e.rand b1.draws ||| 1))).log .convReset) :=
    ((YsfSide.refl b1).log rfl).log rfl
  exact h.ysf (h1.congr rfl rfl)

theorem clears_onYsfd (hf : b.Fits e st) (pkt : List UInt8) :
    Clears e b.dmrWasConnected b st (b.onYsfd e pkt) := by
  have hb := YsfSide.refl b
  rw [onYsfd]
  cases acceptedFich e pkt with
  | none => exact .refl hf
  | some f =>
    simp only
    split
    next =>
      have hr : YsfSide b (b.resolveYsfHeader e pkt).2 := by
        obtain ⟨cs, id, h⟩ := resolveYsfHeader_eq e b pkt
        rw [h]
        exact hb.congr rfl rfl
      generalize b.resolveYsfHeader e pkt = r at hr
      split
      next => exact hr.clears hf
      next =>
        have hput {b1 : Bridge} (h : Clears e b.dmrWasConnected b st b1) :
            Clears e b.dmrWasConnected b st (b1.modeconv e .putYsfHeader) :=
          h.ysf ((YsfSide.refl b1).modeconv e .putYsfHeader)
        apply hput
        split
        next => exact hr.clears hf
        next => exact (hr.clears hf).trans fun _ hf => clears_startYsfCall hne hf pkt
    next =>
      split
      next =>
        split
        next => exact (hb.modeconv e .putYsfEot).clears hf
        next => exact .refl hf
      next =>
        split
        next =>
          split
          next => exact .refl hf
          next =>
            have hput {b1 : Bridge} (h : Clears e b.dmrWasConnected b st b1) :
                Clears e b.dmrWasConnected b st
                { b1.modeconv e (.putYsfPayload (ysfModeconvChunk pkt)) with
                  ysfVoiceFrames :=
                    (b1.modeconv e (.putYsfPayload (ysfModeconvChunk pkt))).ysfVoiceFrames + 1 } :=
              (h.ysf ((YsfSide.refl b1).modeconv e (.putYsfPayload (ysfModeconvChunk pkt)))).congr
                rfl rfl
            apply hput
            split
            next => exact .refl hf
            next => exact (clears_startYsfCall hne hf pkt).congr rfl rfl
        next => exact .refl hf

omit hne in
theorem clears_paceDmr (hf : b.Fits e st) : Clears e b.dmrWasConnected b st (b.paceDmr e) := by
  rw [paceDmr]
  split
  · exact .refl hf
  next ha =>
    have ha : b.connectPttActive = false := Bool.eq_false_of_not_eq_true ha
    have ht : CallsOnly e b b.tock := .same rfl rfl
    split
    · exact (ht.trans (.emitDmr e b.tock)).clears ha st
    · exact ht.clears ha st

theorem clears_tick (hf : b.Fits e st) (dmrUp ysfUp : Bool) :
    ∃ st', ((if dmrUp && !b.dmrWasConnected then [TgMark.edge] else []).foldlM
        (ClearStage.step (wireTg e.cfg.tg)) st) = some st' ∧
      Clears e dmrUp b st' (b.tick e dmrUp ysfUp) := by
  obtain ⟨st', he, h⟩ := clears_poll hne hf dmrUp
  refine ⟨st', he, ?_⟩
  rw [tick]
  split
  · exact h
  · exact (h.trans fun _ hf => clears_paceDmr hf).ysf (.paceYsf e _)

/-- What one event makes the bridge send passes. -/
theorem clears_step (hf : b.Fits e st) (ev : BridgeEvent) :
    ∃ st', (edges b.dmrWasConnected ev).foldlM (ClearStage.step (wireTg e.cfg.tg)) st = some st' ∧
      Clears e (linkAfter b.dmrWasConnected ev) b st' (b.step e ev) := by
  have hc (c : Clock) : Fits e { b with clock := c } st := hf.congr rfl
  cases ev with
  | dmrd c pkt =>
    have h := (YsfSide.onDmrd e { b with clock := c } pkt).clears (hc c)
    exact ⟨st, rfl, h⟩
  | ysfd c pkt =>
    have h := clears_onYsfd hne (hc c) pkt
    exact ⟨st, rfl, h⟩
  | tick c dmrUp ysfUp =>
    obtain ⟨st', he, h⟩ := clears_tick hne (hc c) dmrUp ysfUp
    exact ⟨st', he, h⟩
  | aliases db => exact ⟨st, rfl, st, .same rfl, hf.congr rfl, rfl⟩

end

/-- The observer has let everything pass so far, and what it has seen fits the connect PTT. -/
structure ClearInv (e : Env) (p : Bridge × TgLog) : Prop where
  up : p.2.up = p.1.dmrWasConnected
  fits : ∃ st, p.2.marks.foldlM (ClearStage.step (wireTg e.cfg.tg)) .over = some st ∧ p.1.Fits e st

theorem ClearInv.step (hne : wireTg e.cfg.tg ≠ dmrClearDynamicTg) {log : TgLog}
    (h : ClearInv e (b, log)) (ev : BridgeEvent) :
    ClearInv e (b.step e ev, noteTg log b ev (b.step e ev)) := by
  obtain ⟨hup, st, hl, hf⟩ := h
  have hup : log.up = b.dmrWasConnected := hup
  obtain ⟨st1, he, st2, ⟨as, ht, ha⟩, hf2, hup2⟩ := clears_step hne hf ev
  rw [noteTg, hup, actsSince_eq ht]
  refine ⟨hup2.symm, st2, ?_, hf2⟩
  rw [foldlM_append_some hl, foldlM_append_some he]
  exact ha

/-- In every run, calls go to the talkgroup of the configuration, as the packet can say it, and what
goes to the clear talkgroup is one clear stage for each connection. -/
theorem clearsOnce_of_run (hne : wireTg e.cfg.tg ≠ dmrClearDynamicTg) {c : Clock} {db : AliasDb}
    {evs : List BridgeEvent} {p : Bridge × TgLog}
    (hr : (watched e c db).run evs = some p) : ClearsOnce (wireTg e.cfg.tg) p.2.marks := by
  have h : ClearInv e p := by
    refine Machine.run_invariant (M := watched e c db) (fun q ev q' hi hs => ?_) ?_ hr
    · cases hs
      exact hi.step hne ev
    · exact ⟨rfl, .over, rfl, .off rfl⟩
  obtain ⟨_, st, hl, _⟩ := h
  exact clearsOnce_of_fold hne hl

end Bridge

end AdnBridge
