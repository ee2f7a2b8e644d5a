import AdnBridge.Bridge.Calls
import AdnBridge.DataSync
import AdnBridge.Identities

namespace AdnBridge
set_option autoImplicit true

def Act.callPacket : Act → Option Dmrd
  | .dmrd .call p => some p
  | _ => none

theorem Act.mem_of_callPacket {as : List Act} {p : Dmrd} (h : p ∈ as.filterMap Act.callPacket) :
    .dmrd .call p ∈ as := by
  obtain ⟨a, ha, hp⟩ := List.mem_filterMap.1 h
  cases a with
  | dmrd o q => cases o with
    | call =>
      cases hp
      exact ha
    | ptt => cases hp
  | ysfd f => cases hp
  | start o s => cases hp
  | stop o => cases hp
  | convReset => cases hp
  | convPut ds ys => cases hp

namespace Bridge

variable {e : Env} {b b' b'' : Bridge}

/-- The talker of a call. -/
def talker (b : Bridge) : List UInt8 × Int := (b.netSrc, b.ysfRfId)

theorem talker_fst (b : Bridge) : b.talker.1 = b.netSrc := rfl

theorem talker_snd (b : Bridge) : b.talker.2 = b.ysfRfId := rfl

@[simp] theorem sendDmrd_talker (e : Env) (b : Bridge) (o : Origin) (ft : UInt8)
    (v : Option (List UInt8)) : (b.sendDmrd e o ft v).talker = b.talker := by
  obtain ⟨p, _, _, _, hb⟩ := sendDmrd_eq e b o ft v
  rw [hb]
  rfl

theorem connectPttPad_talker (e : Env) (n : Nat) (b : Bridge) :
    (connectPttPad e n b).talker = b.talker := by
  induction n generalizing b with
  | zero => rfl
  | succ n ih =>
    rw [connectPttPad]
    split
    · rw [ih]
      exact sendDmrd_talker e b _ _ _
    · rfl

theorem connectPttFinish_talker (e : Env) (b : Bridge) :
    (b.connectPttFinish e).talker = b.talker := by
  have h := (sendDmrd_talker e (connectPttPad e 6 b) .ptt vtermB15 (some dmrSilenceData)).trans
    (connectPttPad_talker e 6 b)
  rw [connectPttFinish]
  split
  · exact h
  · exact h

theorem abortConnectPtt_talker (e : Env) (b : Bridge) :
    (b.abortConnectPtt e).talker = b.talker := by
  rw [abortConnectPtt]
  split
  · rfl
  · split
    · exact connectPttFinish_talker e _
    · rfl

theorem startYsfCall_talker (e : Env) (b : Bridge) (pkt : List UInt8) :
    (b.startYsfCall e pkt).talker = b.talker :=
  abortConnectPtt_talker e b

theorem startConnectPtt_talker (e : Env) (b : Bridge) :
    (b.startConnectPtt e).talker = b.talker := by
  rw [startConnectPtt]
  split
  · rfl
  · split
    · rfl
    · split
      · rfl
      · rfl

theorem emitConnectPtt_talker (e : Env) (b : Bridge) :
    (b.emitConnectPtt e).talker = b.talker := by
  rw [emitConnectPtt]
  split
  · rfl
  · split
    · have h := (sendDmrd_talker e (sendDmrd e b .ptt vheadB15 none) .ptt vheadB15 none).trans
        (sendDmrd_talker e b .ptt vheadB15 none)
      exact (sendDmrd_talker e _ .ptt vheadB15 none).trans h
    · split
      · exact connectPttFinish_talker e b.tock
      · exact sendDmrd_talker e b.tock _ _ _

theorem pollConnectPtt_talker (e : Env) (b : Bridge) (connected : Bool) :
    (b.pollConnectPtt e connected).talker = b.talker := by
  rw [pollConnectPtt]
  have h1 : (if connected && !b.dmrWasConnected then b.startConnectPtt e else b).talker =
      b.talker := by
    split
    · exact startConnectPtt_talker e b
    · rfl
  generalize (if connected && !b.dmrWasConnected then b.startConnectPtt e else b) = b1 at h1
  have h2 : (if connected then b1 else (b1.log (.stop .ptt)).connectPttOff).talker = b1.talker := by
    split
    · rfl
    · rfl
  generalize (if connected then b1 else (b1.log (.stop .ptt)).connectPttOff) = b2 at h2
  have h3 : ({ b2 with dmrWasConnected := connected } : Bridge).talker = b.talker := h2.trans h1
  simp only
  split
  · exact h3
  · split
    · exact (emitConnectPtt_talker e _).trans h3
    · exact h3

theorem modeconv_talker (e : Env) (b : Bridge) (o : ConvOp) :
    (b.modeconv e o).talker = b.talker := rfl

theorem setDmrRxIdentity_ysfRfId (b : Bridge) (pkt : List UInt8) :
    (b.setDmrRxIdentity pkt).ysfRfId = b.ysfRfId := by
  obtain ⟨src, dst, h⟩ := setDmrRxIdentity_eq b pkt
  rw [h]

theorem beginDmrToYsf_ysfRfId (e : Env) (b : Bridge) (pkt : List UInt8) :
    (b.beginDmrToYsf e pkt).ysfRfId = b.ysfRfId := by
  rw [beginDmrToYsf]
  split
  next sid b1 h =>
    have h1 : b1.ysfRfId = b.ysfRfId := by
      split at h
      · rw [← (Prod.mk.inj h).2]
      · rw [← (Prod.mk.inj h).2]
    exact h1

@[simp] theorem modeconv_ysfRfId (e : Env) (b : Bridge) (o : ConvOp) :
    (b.modeconv e o).ysfRfId = b.ysfRfId := rfl

/-- No DMRD changes the id of the talker. -/
theorem onDmrd_ysfRfId (e : Env) (b : Bridge) (pkt : List UInt8) :
    (b.onDmrd e pkt).ysfRfId = b.ysfRfId := by
  have hbegin := beginDmrToYsf_ysfRfId e b pkt
  rw [onDmrd]
  simp only
  split
  · rfl
  · split
    · simp only [apply_ite ysfRfId, modeconv_ysfRfId, setDmrRxIdentity_ysfRfId, hbegin, ite_self]
    · split
      · simp only [apply_ite ysfRfId, modeconv_ysfRfId, ite_self]
      · split
        · simp only [apply_ite ysfRfId, modeconv_ysfRfId, hbegin, ite_self]
        · simp only [apply_ite ysfRfId, ite_self]

/-- A header that a bridge takes names a talker. -/
def NamesTalker (e : Env) : BridgeEvent → Prop
  | .ysfd _ pkt => ysfdPut e pkt = some .putYsfHeader
  | _ => False

/-- In a call nothing but a header changes the id of the talker. -/
theorem onYsfd_ysfRfId (hcall : b.callActive = true) (hpkt : ysfdPut e pkt ≠ some .putYsfHeader) :
    (b.onYsfd e pkt).ysfRfId = b.ysfRfId := by
  rw [ysfdPut] at hpkt
  rw [onYsfd]
  cases hfich : acceptedFich e pkt with
  | none => rfl
  | some f =>
    rw [hfich, Option.bind_some] at hpkt
    simp only [hcall, if_true]
    split
    next hfi => exact absurd (if_pos hfi) hpkt
    next =>
      split
      · rfl
      · simp only [apply_ite ysfRfId, modeconv_ysfRfId, ite_self]

/-- In a stretch of a call all its packets carry the id of the talker, who stays for as long as the
call is open. -/
structure Says (e : Env) (b b' : Bridge) : Prop where
  sent : ∃ as, b'.trace = b.trace ++ as ∧ ∀ p, .dmrd .call p ∈ as → p.src = dmrIdRf24 (b.rfId e)
  kept : b'.callActive = true → b'.ysfRfId = b.ysfRfId

theorem rfId_congr (h : b'.ysfRfId = b.ysfRfId) : b'.rfId e = b.rfId e := by
  rw [rfId, rfId, h]

namespace Says

theorem silent (h : Silent b b') (hkept : b'.callActive = true → b'.ysfRfId = b.ysfRfId) :
    Says e b b' := by
  obtain ⟨as, ht, ha⟩ := h
  exact ⟨⟨as, ht, fun p hp => absurd (ha _ hp) Bool.noConfusion⟩, hkept⟩

theorem refl (e : Env) (b : Bridge) : Says e b b := silent (.refl b) fun _ => rfl

theorem trans (h : Says e b b') (hid : b'.ysfRfId = b.ysfRfId) (h' : Says e b' b'') :
    Says e b b'' := by
  obtain ⟨as, ht, ha⟩ := h.sent
  obtain ⟨as', ht', ha'⟩ := h'.sent
  rw [rfId_congr hid] at ha'
  refine ⟨⟨as ++ as', by rw [ht', ht, List.append_assoc], fun p hp => ?_⟩, fun hcall => ?_⟩
  · exact (List.mem_append.1 hp).elim (ha p) (ha' p)
  · exact (h'.kept hcall).trans hid

/-- What follows a call that is over says nothing in its name. -/
theorem quiet (h : Says e b b') (htrace : ∃ as, b''.trace = b'.trace ++ as ∧
    ∀ p, .dmrd .call p ∉ as)
    (hkept : b''.callActive = true → b'.callActive = true ∧ b''.ysfRfId = b'.ysfRfId) :
    Says e b b'' := by
  obtain ⟨as, ht, ha⟩ := h.sent
  obtain ⟨as', ht', ha'⟩ := htrace
  refine ⟨⟨as ++ as', by rw [ht', ht, List.append_assoc], fun p hp => ?_⟩, fun hcall => ?_⟩
  · exact (List.mem_append.1 hp).elim (ha p) fun hp => absurd hp (ha' p)
  · obtain ⟨hcall, hid⟩ := hkept hcall
    exact hid.trans (h.kept hcall)

theorem sendDmrd (e : Env) (b : Bridge) (ft : UInt8) (v : Option (List UInt8)) :
    Says e b (b.sendDmrd e .call ft v) := by
  obtain ⟨p, _, _, _, hb⟩ := sendDmrd_eq e b .call ft v
  have ht : (b.sendDmrd e .call ft v).trace = b.trace ++ [.dmrd .call p] := by
    rw [hb]
    rfl
  obtain ⟨-, -, -, hsrc⟩ := of_sent ht
  refine ⟨⟨_, ht, fun q hq => ?_⟩, fun _ => congrArg Prod.snd (sendDmrd_talker e b .call ft v)⟩
  cases List.mem_singleton.1 hq
  exact hsrc

theorem emitPad (e : Env) (n : Nat) (b : Bridge) :
    Says e b (Bridge.emitPad e n b) ∧ (Bridge.emitPad e n b).ysfRfId = b.ysfRfId := by
  induction n generalizing b with
  | zero => exact ⟨refl e b, rfl⟩
  | succ n ih =>
    rw [Bridge.emitPad]
    split
    · have hid : (b.sendDmrd e .call (padB15 b.dmrTxFrames) (some dmrSilenceData)).ysfRfId =
          b.ysfRfId := congrArg Prod.snd (sendDmrd_talker e b _ _ _)
      have hsend : Says e b { b.sendDmrd e .call (padB15 b.dmrTxFrames) (some dmrSilenceData) with
          dmrTxFrames := (b.sendDmrd e .call (padB15 b.dmrTxFrames)
            (some dmrSilenceData)).dmrTxFrames + 1 } :=
        ⟨(sendDmrd e b _ _).sent, fun _ => hid⟩
      obtain ⟨hpad, hpadId⟩ := ih { b.sendDmrd e .call (padB15 b.dmrTxFrames)
        (some dmrSilenceData) with
          dmrTxFrames := (b.sendDmrd e .call (padB15 b.dmrTxFrames)
            (some dmrSilenceData)).dmrTxFrames + 1 }
      exact ⟨hsend.trans hid hpad, hpadId.trans hid⟩
    · exact ⟨refl e b, rfl⟩

theorem resetCall (h : Says e b b') : Says e b b'.resetCall := by
  refine h.quiet ⟨[.stop .call, .convReset], List.append_assoc _ _ _, ?_⟩ fun hcall => ?_
  · simp
  · cases hcall

theorem emitDmrFromConv (e : Env) (b : Bridge) : Says e b (b.emitDmrFromConv e) := by
  rw [Bridge.emitDmrFromConv]
  generalize b.conv.getDmr = r
  obtain ⟨tag, voice, conv⟩ := r
  simp only
  have hid (b : Bridge) (ft : UInt8) (v : Option (List UInt8)) :
      (b.sendDmrd e .call ft v).ysfRfId = b.ysfRfId := congrArg Prod.snd (sendDmrd_talker e b _ _ _)
  have hconv : Says e b { b with conv := conv } := silent ⟨[], (List.append_nil _).symm, by simp⟩
    fun _ => rfl
  split
  · exact hconv
  · split
    · have h1 := sendDmrd e { b with conv := conv } vheadB15 none
      have h2 := sendDmrd e (Bridge.sendDmrd e { b with conv := conv } .call vheadB15 none)
        vheadB15 none
      have h3 := sendDmrd e (Bridge.sendDmrd e (Bridge.sendDmrd e { b with conv := conv } .call
        vheadB15 none) .call vheadB15 none) vheadB15 none
      exact hconv.trans rfl (h1.trans (hid _ _ _) (h2.trans (hid _ _ _) h3))
    · split
      · obtain ⟨hpad, hpadId⟩ := emitPad e 6 { b with conv := conv }
        exact ((hconv.trans rfl hpad).trans hpadId (sendDmrd e _ vtermB15 (some voice))).resetCall
      · split
        · have h := hconv.trans rfl (sendDmrd e _ (voiceB15 b.dmrTxFrames) (some voice))
          exact ⟨h.sent, h.kept⟩
        · exact hconv

theorem paceDmr (e : Env) (b : Bridge) : Says e b (b.paceDmr e) := by
  rw [Bridge.paceDmr]
  split
  · exact refl e b
  · split
    · have h := emitDmrFromConv e b.tock
      exact ⟨h.sent, h.kept⟩
    · exact silent (.refl b) fun _ => rfl

theorem emitYsfFromConv_ysfRfId (e : Env) (b : Bridge) (h : b.conv.getYsf.1 ≠ tagEot) :
    (b.emitYsfFromConv e).ysfRfId = b.ysfRfId := by
  rw [Bridge.emitYsfFromConv]
  generalize b.conv.getYsf = r at h
  obtain ⟨tag, payload, conv⟩ := r
  simp only at h ⊢
  split
  · rfl
  · split
    · rfl
    · split
      · rfl
      · rfl

/-- What goes out on the other side is no packet of the call; its end there ends the call. -/
theorem paceYsf (h : Says e b b') : Says e b (b'.paceYsf e) := by
  refine h.quiet ?_ fun hcall => ?_
  · rcases paceYsf_cases e b' with ⟨fs, ht, -⟩ | ⟨-, -, -, f, ht, -⟩
    · exact ⟨_, ht, by simp⟩
    · exact ⟨_, ht, by simp⟩
  · rcases paceYsf_cases e b' with ⟨-, -, hactive, -⟩ | ⟨-, hover, -⟩
    · refine ⟨hactive.symm.trans hcall, ?_⟩
      rw [Bridge.paceYsf] at hcall ⊢
      split at hcall
      next hdue =>
        rw [if_pos hdue]
        by_cases htag : b'.conv.getYsf.1 = tagEot
        · have hover := (emitYsfFromConv_eot e b'.tock htag).1
          exact absurd (hover.symm.trans hcall) Bool.false_ne_true
        · exact emitYsfFromConv_ysfRfId e b'.tock htag
      next hdue =>
        rw [if_neg hdue]
        rfl
    · exact absurd (hover.symm.trans hcall) Bool.false_ne_true

theorem clock (b : Bridge) (c : Clock) (h : Says e { b with clock := c } b') : Says e b b' :=
  ⟨h.sent, h.kept⟩

theorem tick (e : Env) (b : Bridge) (dmrUp ysfUp : Bool) : Says e b (b.tick e dmrUp ysfUp) := by
  have hid : (b.pollConnectPtt e dmrUp).ysfRfId = b.ysfRfId :=
    congrArg Prod.snd (pollConnectPtt_talker e b dmrUp)
  have hpoll : Says e b (b.pollConnectPtt e dmrUp) := silent (.ptt (.poll e b dmrUp)) fun _ => hid
  rw [Bridge.tick]
  split
  · exact hpoll
  · exact (hpoll.trans hid (paceDmr e _)).paceYsf

theorem step (hcall : b.callActive = true) {ev : BridgeEvent} (hev : ¬NamesTalker e ev) :
    Says e b (b.step e ev) := by
  cases ev with
  | dmrd c pkt =>
    exact clock b c (silent (onDmrd_received e _ pkt).silent fun _ => onDmrd_ysfRfId e _ pkt)
  | ysfd c pkt =>
    obtain ⟨_, hr, _⟩ := onYsfd_received e { b with clock := c } pkt
    exact clock b c (silent hr.silent fun _ => onYsfd_ysfRfId hcall hev)
  | tick c dmrUp ysfUp => exact clock b c (tick e _ dmrUp ysfUp)
  | aliases db => exact silent ⟨[], (List.append_nil _).symm, by simp⟩ fun _ => rfl

/-- As long as a call is open and no other header comes, its packets carry the id of its talker. -/
theorem run {c : Clock} {db : AliasDb} {evs : List BridgeEvent}
    (h : (machine e c db).Meets (fun b ev => b.callActive = true ∧ ¬NamesTalker e ev) b evs) :
    Says e b (evs.foldl (Bridge.step e) b) := by
  induction evs generalizing b with
  | nil => exact refl e b
  | cons ev evs ih =>
    obtain ⟨⟨hcall, hev⟩, hrest⟩ := meets_cons.1 h
    have hstep := step hcall hev
    cases evs with
    | nil => exact hstep
    | cons ev' evs =>
      have hopen : (b.step e ev).callActive = true := (meets_cons.1 hrest).1.1
      exact hstep.trans (hstep.kept hopen) (ih hrest)

end Says

theorem Says.src (h : Says e b b') (hp : .dmrd .call p ∈ actsSince b b') :
    p.src = dmrIdRf24 (b.rfId e) := by
  obtain ⟨as, ht, ha⟩ := h.sent
  rw [actsSince_eq ht] at hp
  exact ha p hp

end Bridge

end AdnBridge
