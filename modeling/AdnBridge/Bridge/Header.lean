import AdnBridge.Bridge.Queue

namespace AdnBridge
set_option autoImplicit true

def Tx.OpensWithHeader (t : Tx) : Prop := ∀ p, t.packets.head? = some p → p.isVhead = true

instance (t : Tx) : Decidable t.OpensWithHeader :=
  decidable_of_iff (t.packets.head?.all Dmrd.isVhead = true)
    ((Option.all_eq_true _ _).trans (forall_congr' fun _ => Iff.rfl))

namespace TxLog

/-- A call has started and nothing has been sent for it yet. -/
def Pending (l : TxLog) : Prop := ∃ t, l.current = some t ∧ t.packets = []

/-- Every call that has sent anything has sent a voice header first, and none is pending. -/
structure Settled (l : TxLog) : Prop where
  opens : ∀ t ∈ l.all, t.OpensWithHeader
  sent : ¬l.Pending

/-- While a call is pending, the DMR queue of the converter begins with its header. -/
structure HeaderInv (l : TxLog) (c : Channel) : Prop where
  opens : ∀ t ∈ l.all, t.OpensWithHeader
  front : l.Pending → ∃ q, c.Holds 9 (.mark .header :: q)

variable {l : TxLog} {c c' : Channel} {p : Dmrd}

theorem Settled.inv (h : l.Settled) (c : Channel) : l.HeaderInv c :=
  ⟨h.opens, fun hp => absurd hp h.sent⟩

theorem HeaderInv.settled (h : l.HeaderInv c) (hp : ¬l.Pending) : l.Settled := ⟨h.opens, hp⟩

theorem HeaderInv.close (h : l.HeaderInv c) : l.close.Settled := by
  refine ⟨fun t ht => h.opens t ?_, ?_⟩
  · rwa [all, TxLog.close, Option.toList_none, List.append_nil] at ht
  · rintro ⟨t, ht, _⟩
    cases ht

theorem Settled.close (h : l.Settled) : l.close.Settled := (h.inv .empty).close

theorem HeaderInv.start (h : l.HeaderInv c) (sid : UInt32)
    (hc : ∃ q, c'.Holds 9 (.mark .header :: q)) :
    HeaderInv ⟨l.close.closed, some ⟨sid, []⟩⟩ c' := by
  refine ⟨fun t ht => ?_, fun _ => hc⟩
  rcases List.mem_append.1 ht with ht | ht
  · exact h.opens t ht
  · rw [List.mem_singleton.1 ht]
    intro p hp
    cases hp

theorem push_opens {t : Tx} (ht : t.OpensWithHeader) (h : t.packets = [] → p.isVhead = true) :
    (t.push p).OpensWithHeader := by
  intro x hx
  rw [Tx.push] at hx
  cases hp : t.packets with
  | nil =>
    rw [hp] at hx
    cases hx
    exact h hp
  | cons y ys =>
    rw [hp] at hx
    exact ht x (by rw [hp]; exact hx)

/-- A packet may go out when it is a voice header or when one has gone out before. -/
theorem HeaderInv.send (h : l.HeaderInv c) (hp : p.isVhead = true ∨ ¬l.Pending) :
    (l.send p).Settled := by
  cases hc : l.current with
  | none =>
    have hs : l.send p = l := by rw [TxLog.send, hc]
    rw [hs]
    refine h.settled ?_
    rintro ⟨t, ht, _⟩
    rw [hc] at ht
    cases ht
  | some t =>
    have ht : t ∈ l.all := List.mem_append_right _ (by rw [hc]; exact List.mem_singleton_self t)
    have hto : (t.push p).OpensWithHeader :=
      push_opens (h.opens t ht) fun he => hp.resolve_right fun hn => hn ⟨t, hc, he⟩
    have hne : (t.push p).packets ≠ [] := List.append_ne_nil_of_right_ne_nil _ (by simp)
    have hall : ∀ u ∈ l.closed ++ [t.push p], u.OpensWithHeader := by
      intro u hu
      rcases List.mem_append.1 hu with hu | hu
      · exact h.opens u (List.mem_append_left _ hu)
      · rw [List.mem_singleton.1 hu]
        exact hto
    rw [TxLog.send, hc]
    simp only
    split
    · refine ⟨fun u hu => hall u ?_, ?_⟩
      · rwa [all, Option.toList_none, List.append_nil] at hu
      · rintro ⟨u, hu, _⟩
        cases hu
    · refine ⟨hall, ?_⟩
      rintro ⟨u, hu, he⟩
      cases hu
      exact hne he

end TxLog

namespace Bridge

variable {e : Env} {b b' : Bridge}

def calls (b : Bridge) : TxLog := txLog .call b.trace

def HeaderInv (b : Bridge) : Prop := b.calls.HeaderInv b.conv.dmr

theorem foldl_step_ptt {as : List Act} (h : ∀ a ∈ as, a.isPtt = true) (l : TxLog) :
    as.foldl (TxLog.step .call) l = l := by
  induction as with
  | nil => rfl
  | cons a as ih =>
    obtain ⟨ha, has⟩ := List.forall_mem_cons.1 h
    have hstep : TxLog.step .call l a = l := by
      cases a with
      | dmrd o p => cases o with
        | call => cases ha
        | ptt => rfl
      | start o sid => cases o with
        | call => cases ha
        | ptt => rfl
      | stop o => cases o with
        | call => cases ha
        | ptt => rfl
      | _ => rfl
    rw [List.foldl_cons, hstep]
    exact ih has

theorem PttStep.calls (h : PttStep b b') : b'.calls = b.calls := by
  obtain ⟨as, ht, ha⟩ := h.trace
  rw [Bridge.calls, txLog, ht, List.foldl_append, foldl_step_ptt ha]
  rfl

theorem PttStep.headerInv (h : PttStep b b') (hb : b.HeaderInv) : b'.HeaderInv := by
  rw [HeaderInv, h.calls, h.conv]
  exact hb

theorem calls_sendDmrd (e : Env) (b : Bridge) (ft : UInt8) (v : Option (List UInt8)) :
    ∃ p : Dmrd, p.b15 = ft ∧ (b.sendDmrd e .call ft v).calls = b.calls.send p := by
  obtain ⟨p, hb15, _, _, hb⟩ := sendDmrd_eq e b .call ft v
  refine ⟨p, hb15, ?_⟩
  rw [hb]
  simp only [calls, log, txLog_append, TxLog.step, if_true]
  rfl

theorem calls_send (h : b.calls.Settled) (ft : UInt8) (v : Option (List UInt8)) :
    (b.sendDmrd e .call ft v).calls.Settled := by
  obtain ⟨p, _, hp⟩ := calls_sendDmrd e b ft v
  rw [hp]
  exact (h.inv b.conv.dmr).send (.inr h.sent)

theorem calls_emitPad (h : b.calls.Settled) (n : Nat) : (emitPad e n b).calls.Settled := by
  induction n generalizing b with
  | zero => exact h
  | succ n ih =>
    rw [emitPad]
    split
    next => exact ih (calls_send (e := e) h _ _)
    next => exact h

theorem calls_resetCall (b : Bridge) : b.resetCall.calls = b.calls.close := by
  simp only [calls, resetCall, modeconvReset, log, txLog_append, TxLog.step, if_true]

theorem calls_modeconv (e : Env) (b : Bridge) (o : ConvOp) : (b.modeconv e o).calls = b.calls := by
  simp only [calls, modeconv, log, txLog_append, TxLog.step]

/-- The header at the front of the queue is what a pending call sends first. -/
theorem emitDmrFromConv_headerInv (h : b.HeaderInv) : (b.emitDmrFromConv e).HeaderInv := by
  rw [emitDmrFromConv]
  by_cases hp : b.calls.Pending
  · obtain ⟨q, hq⟩ := h.front hp
    have hpull : Regroup.pull 3 (.mark .header :: q) = some ([.mark .header], q) := rfl
    obtain ⟨c', hc, _⟩ := hq.get_some hpull
    have ht : b.conv.getDmr.1 = tagHeader := by
      rw [ModeConv.getDmr, hc]
      rfl
    generalize b.conv.getDmr = r at ht
    obtain ⟨tag, voice, conv⟩ := r
    cases ht
    have h1 : (sendDmrd e { b with conv := conv } .call vheadB15 none).calls.Settled := by
      obtain ⟨p, hb15, hps⟩ := calls_sendDmrd e { b with conv := conv } vheadB15 none
      rw [hps]
      exact TxLog.HeaderInv.send h (.inl (Dmrd.isVhead_of_b15 hb15).1)
    have h2 := calls_send (e := e) (calls_send (e := e) h1 vheadB15 none) vheadB15 none
    exact h2.inv _
  · have hs : b.calls.Settled := h.settled hp
    generalize b.conv.getDmr = r
    obtain ⟨tag, voice, conv⟩ := r
    have h0 : { b with conv := conv }.calls.Settled := hs
    simp only
    split
    next => exact h0.inv _
    next =>
      split
      next =>
        have h1 := calls_send (e := e) (calls_send (e := e) h0 vheadB15 none) vheadB15 none
        exact (calls_send (e := e) h1 vheadB15 none).inv _
      next =>
        split
        next =>
          rw [HeaderInv, calls_resetCall]
          have h1 := calls_send (e := e) (calls_emitPad (e := e) h0 6) vtermB15 (some voice)
          exact h1.close.inv _
        next =>
          split
          next => exact (calls_send (e := e) h0 _ _).inv _
          next => exact h0.inv _

theorem emitYsfFromConv_headerInv (h : b.HeaderInv) : (b.emitYsfFromConv e).HeaderInv := by
  have hconv : b.conv.getYsf.2.2.dmr = b.conv.dmr := rfl
  have hy (b : Bridge) (fi fn net : UInt8) (v : Option (List UInt8)) (h : b.HeaderInv) :
      (b.sendYsfd e fi fn net v).HeaderInv := by
    have hc : (b.sendYsfd e fi fn net v).calls = b.calls := by
      simp only [calls, sendYsfd, log, txLog_append, TxLog.step]
      rfl
    rw [HeaderInv, hc]
    exact h
  rw [emitYsfFromConv]
  generalize b.conv.getYsf = r at hconv
  obtain ⟨tag, payload, conv⟩ := r
  have h0 : { b with conv := conv }.HeaderInv := by
    change b.calls.HeaderInv conv.dmr
    rw [hconv]
    exact h
  simp only
  split
  next => exact h0
  next =>
    split
    next => exact hy { b with conv := conv, ysfCnt := 0 } _ _ _ _ h0
    next =>
      split
      next =>
        rw [HeaderInv, calls_resetCall]
        exact (TxLog.HeaderInv.close (hy _ _ _ _ _ h0)).inv _
      next =>
        split
        next => exact hy { b with conv := conv } _ _ _ _ h0
        next => exact h0

theorem paceDmr_headerInv (h : b.HeaderInv) : (b.paceDmr e).HeaderInv := by
  rw [paceDmr]
  split
  next => exact h
  next =>
    split
    next => exact emitDmrFromConv_headerInv (b := b.tock) h
    next => exact h

theorem paceYsf_headerInv (h : b.HeaderInv) : (b.paceYsf e).HeaderInv := by
  rw [paceYsf]
  split
  · exact emitYsfFromConv_headerInv (b := b.tock) h
  · exact h

theorem tick_headerInv (h : b.HeaderInv) (dmrUp ysfUp : Bool) :
    (b.tick e dmrUp ysfUp).HeaderInv := by
  have h1 := (PttStep.poll e b dmrUp).headerInv h
  rw [Bridge.tick]
  split
  · exact h1
  · exact paceYsf_headerInv (paceDmr_headerInv h1)

theorem modeconv_headerInv (h : b.HeaderInv) {o : ConvOp} (ho : o ≠ .getDmr)
    (hr : b.calls.Pending → b.conv.dmr.Room 9 (o.dmrPuts e.codec b.conv).length) :
    (b.modeconv e o).HeaderInv := by
  have hc : (b.modeconv e o).conv.dmr = b.conv.dmr.addAll (o.dmrPuts e.codec b.conv) :=
    ConvOp.conv_dmr ho
  rw [HeaderInv, calls_modeconv, hc]
  refine ⟨h.opens, fun hp => ?_⟩
  obtain ⟨q, hq⟩ := h.front hp
  exact ⟨_, hq.addAll (by decide) (hr hp)⟩

theorem startYsfCall_calls (e : Env) (b : Bridge) (pkt : List UInt8) :
    ∃ sid, (b.startYsfCall e pkt).calls = ⟨b.calls.close.closed, some ⟨sid, []⟩⟩ ∧
      (b.startYsfCall e pkt).conv = .reset := by
  have hc := (PttStep.abort e b).calls
  rw [startYsfCall]
  generalize b.abortConnectPtt e = b1 at hc
  refine ⟨e.rand b1.draws ||| 1, ?_, rfl⟩
  rw [← hc]
  simp only [calls, newStreamId, modeconvReset, log, txLog_append, TxLog.step, if_true]

/-- A call that begins with a HEADER has it in front of the emptied queue. -/
theorem startYsfCall_headerInv (h : b.HeaderInv) (pkt : List UInt8) :
    ((b.startYsfCall e pkt).modeconv e .putYsfHeader).HeaderInv := by
  obtain ⟨sid, hs, hconv⟩ := startYsfCall_calls e b pkt
  have hd : ((b.startYsfCall e pkt).modeconv e .putYsfHeader).conv.dmr =
      Channel.empty.addAll [(.mark .header : Entry Marker (Vector UInt8 9))] := by
    have hcd : ((b.startYsfCall e pkt).modeconv e .putYsfHeader).conv.dmr =
        (b.startYsfCall e pkt).conv.dmr.addAll [.mark .header] :=
      ConvOp.conv_dmr (k := e.codec) (o := .putYsfHeader) (by decide)
    rw [hcd, hconv]
    rfl
  rw [HeaderInv, calls_modeconv, hs, hd]
  exact TxLog.HeaderInv.start h sid ⟨[], Channel.holds_empty.addAll (by decide)
    ((Channel.holds_empty.room_iff 1).2 (by decide))⟩

/-- No call is started by a frame other than a HEADER, nothing takes over a call before it has
sent anything, and until then the DMR queue has room for what is put behind the header. -/
def KeepsHeader (e : Env) (b : Bridge) : BridgeEvent → Prop
  | .ysfd _ pkt =>
    (b.callActive = false → ∀ p, ysfdPut e pkt ≠ some (.putYsfPayload p)) ∧
    (b.callActive = true → b.calls.Pending → ∀ o, ysfdPut e pkt = some o → o.Room b.conv)
  | .dmrd _ pkt => b.calls.Pending → b.beginsDmrCall pkt = false
  | _ => True

theorem headerInv_ysfVoice (h : b.HeaderInv) (n : Nat) :
    { b with ysfVoiceFrames := n }.HeaderInv := h

theorem headerInv_dmrVoice (h : b.HeaderInv) (n : Nat) (d : UInt8) :
    { b with dmrVoiceFrames := n, dmrLastDtype := d }.HeaderInv := h

theorem headerInv_lastDtype (h : b.HeaderInv) (d : UInt8) :
    { b with dmrLastDtype := d }.HeaderInv := h

theorem onYsfd_headerInv (h : b.HeaderInv) (pkt : List UInt8)
    (hk : ∀ c, KeepsHeader e b (.ysfd c pkt)) : (b.onYsfd e pkt).HeaderInv := by
  obtain ⟨hstart, hroom⟩ := hk b.clock
  obtain ⟨cs, id, hr⟩ := resolveYsfHeader_eq e b pkt
  have hroom' (ha : b.callActive = true) (o : ConvOp) (ho : ysfdPut e pkt = some o)
      (hp : b.calls.Pending) : b.conv.dmr.Room 9 (o.dmrPuts e.codec b.conv).length :=
    ((o.room_iff e.codec b.conv).1 (hroom ha hp o ho)).1
  rw [ysfdPut] at hstart hroom'
  rw [onYsfd]
  cases hf : acceptedFich e pkt with
  | none => exact h
  | some f =>
    rw [hf, Option.bind_some] at hstart hroom'
    simp only [resolveYsfHeader_ok, hr, ysfTalkerReady_eq, Bool.not_true, Bool.or_self,
      Bool.false_eq_true, if_false]
    split
    next hfi =>
      have h1 : { b with netSrc := cs, ysfRfId := id }.HeaderInv := h
      split
      next ha => exact modeconv_headerInv h1 (by decide) (hroom' ha .putYsfHeader (if_pos hfi))
      next => exact startYsfCall_headerInv h1 pkt
    next hfi =>
      rw [if_neg hfi] at hstart hroom'
      split
      next hft =>
        split
        next ha => exact modeconv_headerInv h (by decide) (hroom' ha .putYsfEot (if_pos hft))
        next => exact h
      next hft =>
        rw [if_neg hft] at hstart hroom'
        split
        next hfc =>
          cases ha : b.callActive with
          | true =>
            have hput : ConvOp.putYsfPayload (ysfModeconvChunk pkt) ≠ .getDmr := by simp
            have hm := modeconv_headerInv h hput (hroom' ha _ (if_pos hfc))
            exact headerInv_ysfVoice hm _
          | false => exact absurd (if_pos hfc) (hstart ha _)
        next => exact h

theorem beginDmrToYsf_calls (e : Env) (b : Bridge) (pkt : List UInt8) :
    (b.beginDmrToYsf e pkt).calls = b.calls := by
  rw [beginDmrToYsf]
  simp only
  split <;>
    simp only [calls, newStreamId, modeconvReset, setDmrRxIdentity, log, txLog_append, TxLog.step]

theorem modeconv_ysf_headerInv (h : b.HeaderInv) {o : ConvOp}
    (ho : o.dmrPuts e.codec b.conv = []) (hne : o ≠ .getDmr) : (b.modeconv e o).HeaderInv :=
  modeconv_headerInv h hne fun _ => by
    rw [ho]
    exact room_zero _

theorem onDmrd_headerInv (h : b.HeaderInv) (pkt : List UInt8)
    (hk : b.calls.Pending → b.beginsDmrCall pkt = false) : (b.onDmrd e pkt).HeaderInv := by
  have hbegin (hb : b.beginsDmrCall pkt = true) : (b.beginDmrToYsf e pkt).HeaderInv := by
    have hp : ¬b.calls.Pending := fun hp => absurd (hb.symm.trans (hk hp)) (by decide)
    rw [HeaderInv, beginDmrToYsf_calls]
    exact (h.settled hp).inv _
  rw [onDmrd]
  split
  next => exact h
  next =>
    split
    next hh =>
      have h1 : (if !b.callActive || (dmrdStream pkt != 0 && dmrdStream pkt != b.dmrStreamId)
          then b.beginDmrToYsf e pkt else b.setDmrRxIdentity pkt).HeaderInv := by
        split
        next hc =>
          refine hbegin ?_
          rw [beginsDmrCall, hh, hc]
          rfl
        next =>
          obtain ⟨src, dst, hid⟩ := setDmrRxIdentity_eq b pkt
          rw [hid]
          exact h
      simp only
      generalize (if !b.callActive || (dmrdStream pkt != 0 && dmrdStream pkt != b.dmrStreamId)
          then b.beginDmrToYsf e pkt else b.setDmrRxIdentity pkt) = b1 at h1
      split
      next => exact headerInv_lastDtype (modeconv_ysf_headerInv h1 rfl (by decide)) _
      next => exact headerInv_lastDtype h1 _
    next hh =>
      split
      next =>
        split
        next => exact headerInv_lastDtype (modeconv_ysf_headerInv h rfl (by decide)) _
        next => exact headerInv_lastDtype h _
      next =>
        split
        next hv =>
          have h1 : (if b.callActive then b
              else { b.beginDmrToYsf e pkt with dmrSeq := byteAt pkt 4 }.modeconv e
                .putDmrHeader).HeaderInv := by
            split
            next => exact h
            next hc =>
              have hb : b.beginsDmrCall pkt = true := by
                rw [beginsDmrCall, hv, Bool.eq_false_of_not_eq_true hc]
                exact Bool.or_true _
              have h2 : { b.beginDmrToYsf e pkt with dmrSeq := byteAt pkt 4 }.HeaderInv := hbegin hb
              exact modeconv_ysf_headerInv h2 rfl (by decide)
          simp only
          exact headerInv_dmrVoice (modeconv_ysf_headerInv h1 rfl (by simp)) _ _
        next => split <;> exact h

theorem step_headerInv (h : b.HeaderInv) (ev : BridgeEvent) (hk : KeepsHeader e b ev) :
    (b.step e ev).HeaderInv := by
  cases ev with
  | dmrd c pkt => exact onDmrd_headerInv (b := { b with clock := c }) h pkt hk
  | ysfd c pkt => exact onYsfd_headerInv (b := { b with clock := c }) h pkt fun _ => hk
  | tick c dmrUp ysfUp => exact tick_headerInv (b := { b with clock := c }) h dmrUp ysfUp
  | aliases db => exact h

/-- The first packet sent for any YSF→DMR call so far is a voice header. -/
def CallsOpenWithHeader (b : Bridge) : Prop :=
  ∀ t ∈ transmissions .call b.trace, t.OpensWithHeader

instance (b : Bridge) : Decidable b.CallsOpenWithHeader := List.decidableBAll _ _

theorem init_headerInv (c : Clock) (db : AliasDb) : (init c db).HeaderInv :=
  ⟨List.forall_mem_nil _, fun ⟨_, ht, _⟩ => nomatch ht⟩

/-- In a run that starts its YSF→DMR calls with a HEADER and leaves them alone until it is sent,
every such call opens with a voice header. -/
theorem callsOpenWithHeader_run (e : Env) (c : Clock) (db : AliasDb) {evs : List BridgeEvent}
    (h : (machine e c db).Meets (KeepsHeader e) (init c db) evs) :
    (machine e c db).Always CallsOpenWithHeader (init c db) evs :=
  h.always (fun _ ev _ hi hc hs => by cases hs; exact step_headerInv hi ev hc)
    (fun _ hi => hi.opens) (init_headerInv c db)

/-- A call whose HEADER and first voice frame arrive before the header is sent. -/
theorem callsOpenWithHeader_run_sample :
    (machine sampleEnv (.stopped 0) noAliases).Always CallsOpenWithHeader (init (.stopped 0) noAliases)
      [ysfdAt 1000 headerFich, ysfdAt 1100 communicationsFich, tickAt 1200 true true,
       tickAt 1300 true true] := by
  refine callsOpenWithHeader_run sampleEnv (.stopped 0) noAliases ?_
  simp only [meets_cons]
  have h1 : ysfdPut sampleEnv (sampleYsfd headerFich) = some .putYsfHeader := by decide +kernel
  have h2 : ysfdPut sampleEnv (sampleYsfd communicationsFich) =
      some (.putYsfPayload (ysfModeconvChunk (sampleYsfd communicationsFich))) := by decide +kernel
  have hc : ((init (.stopped 0) noAliases).step sampleEnv (ysfdAt 1000 headerFich)).callActive = true := by
    decide +kernel
  have hr : ((init (.stopped 0) noAliases).step sampleEnv (ysfdAt 1000 headerFich)).conv.dmr.Room 9 5 := by
    decide +kernel
  refine ⟨⟨fun _ p hp => ?_, fun h => ?_⟩, ⟨fun h => ?_, fun _ _ o ho => ?_⟩, trivial, trivial,
    trivial⟩
  · cases h1.symm.trans hp
  · cases h
  · exact absurd (hc.symm.trans h) (by decide)
  · cases h2.symm.trans ho
    exact hr

/-- A voice frame after a lost HEADER starts its call with a voice burst. -/
theorem not_callsOpenWithHeader_run :
    ¬(machine sampleEnv (.stopped 0) noAliases).Always CallsOpenWithHeader (init (.stopped 0) noAliases)
      [tickAt 1000 true true, tickAt 1100 true true, tickAt 1700 true true,
       ysfdAt 2000 communicationsFich, tickAt 2100 true true] := by
  exact fun h => absurd (always_run h) (by decide +kernel)

end Bridge

end AdnBridge
