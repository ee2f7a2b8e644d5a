import AdnBridge.BridgeEl.Audio

namespace AdnBridge
set_option autoImplicit true

/-- `dmrd_class_label` shows `OTHER` for it. -/
def dmrdIsOther (pkt : List UInt8) : Bool :=
  dmrdIsPacket pkt && !dmrdIsHeader pkt && !dmrdIsTerminator pkt && !dmrdIsVoice pkt

theorem dmrdIsOther_iff : dmrdIsOther pkt = true ↔ dmrdIsPacket pkt = true ∧
    dmrdIsHeader pkt = false ∧ dmrdIsTerminator pkt = false ∧ dmrdIsVoice pkt = false := by
  simp only [dmrdIsOther, Bool.and_eq_true, Bool.not_eq_true', and_assoc]

/-- Such a packet leaves the queue of the YSF↔DMR bridge and its count of voice frames alone. -/
theorem Bridge.onDmrd_other (e : Env) (b : Bridge) (h : dmrdIsOther pkt = true) :
    (b.onDmrd e pkt).conv = b.conv ∧ (b.onDmrd e pkt).dmrVoiceFrames = b.dmrVoiceFrames := by
  obtain ⟨hpkt, hhead, hterm, hvoice⟩ := dmrdIsOther_iff.1 h
  rw [onDmrd, if_neg (by rw [hpkt]; decide), if_neg (by rw [hhead]; decide),
    if_neg (by rw [hterm]; decide), if_neg (by rw [hvoice]; decide)]
  split
  · exact ⟨rfl, rfl⟩
  · exact ⟨rfl, rfl⟩

namespace BridgeEl

variable {e : ElEnv} {b : BridgeEl}

/-- The packet brings no PCM to the EchoLink side and changes nothing of the call; whatever the
vocoder would answer makes no difference, as it is not asked. -/
def IgnoresDmrd (e : ElEnv) (b : BridgeEl) (pkt : List UInt8) : Prop :=
  ∃ b' : BridgeEl, (∀ voc, b.onDmrd e voc pkt = some b') ∧ b'.el = b.el ∧
    b'.callActive = b.callActive ∧ b'.dmrVoiceFrames = b.dmrVoiceFrames ∧
      b'.lastDmrRx = b.lastDmrRx

/-- What plays the frames of a burst counts no further burst. -/
theorem playAmbe_dmrVoiceFrames {voc : Vocoder} {calls : Nat}
    (h : b.playAmbe e voc calls voice33 = some b') : b'.dmrVoiceFrames = b.dmrVoiceFrames := by
  obtain ⟨el, rfl⟩ := playAmbe_eq h
  rfl

/-- A packet in no class is left alone by both bridges just if no DMR reception is under way. -/
theorem ignoresDmrd_iff (e : ElEnv) (b : BridgeEl) (h : dmrdIsOther pkt = true) :
    (b.IgnoresDmrd e pkt ∧ ∀ (e' : Env) (b' : Bridge), (b'.onDmrd e' pkt).conv = b'.conv ∧
      (b'.onDmrd e' pkt).dmrVoiceFrames = b'.dmrVoiceFrames) ↔
    e.cfg.mode ≠ .echolinkDmr ∨ b.callActive ≠ .elRx := by
  obtain ⟨hpkt, hhead, hterm, -⟩ := dmrdIsOther_iff.1 h
  have hvoc (voc : Vocoder) (hm : e.cfg.mode = .echolinkDmr) : b.onDmrd e voc pkt =
      if b.callActive ≠ .elRx then some b
      else { b.tock with
        lastDmrRx := b.clock.now, dmrVoiceFrames := b.dmrVoiceFrames + 1 }.playAmbe e voc 0
          ((pkt.drop 20).take 33) := by
    rw [onDmrd, if_neg (not_not.2 hm), if_neg (by rw [hpkt]; decide),
      if_neg (by rw [hhead]; decide), if_neg (by rw [hterm]; decide)]
  constructor
  · rintro ⟨⟨b', hrun, -, -, hframes, -⟩, -⟩
    by_contra hn
    rw [not_or, not_not, not_not] at hn
    obtain ⟨hm, hcall⟩ := hn
    have hplay := hrun ⟨fun _ _ => none, fun _ _ => none⟩
    rw [hvoc _ hm, if_neg (not_not.2 hcall)] at hplay
    have hcount := playAmbe_dmrVoiceFrames hplay
    rw [hframes] at hcount
    exact Nat.succ_ne_self _ hcount.symm
  · intro hcond
    constructor
    · refine ⟨b, fun voc => ?_, rfl, rfl, rfl, rfl⟩
      by_cases hm : e.cfg.mode = .echolinkDmr
      · rw [hvoc voc hm, if_pos (hcond.resolve_left (not_not.2 hm))]
      · rw [onDmrd, if_pos hm]
    · exact fun e' b' => b'.onDmrd_other e' h

/-- A data packet, to a bridge where nothing goes on. -/
theorem ignoresDmrd_iff_sample : dmrdIsOther (sampleDmrd 0xA3) = true ∧
    (init (.stopped 0) noAliases samplePeerEl).IgnoresDmrd (sampleElEnv .echolinkDmr)
      (sampleDmrd 0xA3) := by
  have h : dmrdIsOther (sampleDmrd 0xA3) = true := by decide +kernel
  exact ⟨h, ((ignoresDmrd_iff (sampleElEnv .echolinkDmr) _ h).2 (.inr (by decide))).1⟩

/-- After a voice header, a data packet is played like voice. -/
theorem not_ignoresDmrd : ¬∀ (e : ElEnv) (c : Clock) (db : AliasDb) (el : PeerEl)
    (evs : List BridgeElEvent) (b : BridgeEl) (pkt : List UInt8),
    (machine e c db el).run evs = some b → dmrdIsOther pkt = true → b.IgnoresDmrd e pkt := by
  intro hall
  have h : dmrdIsOther (sampleDmrd 0xA3) = true := by decide +kernel
  have hrx : ((sampleMachine .echolinkDmr).run [elDmrdAt 100 vheadB15]).map (·.callActive) =
      some .elRx := by decide +kernel
  obtain ⟨b, hb, hcall⟩ := Option.map_eq_some_iff.1 hrx
  have hign := hall _ _ _ _ _ b (sampleDmrd 0xA3) hb h
  have hcond := (ignoresDmrd_iff (sampleElEnv .echolinkDmr) b h).1
    ⟨hign, fun e' b' => b'.onDmrd_other e' h⟩
  rcases hcond with hm | hc
  · exact hm rfl
  · exact hc hcall

end BridgeEl

end AdnBridge
