import AdnBridge.Bridge.Frame

namespace AdnBridge
set_option autoImplicit true

/-- The converter with the entries that were put on each queue since its last reset. -/
structure Queues where
  conv : ModeConv
  dmr : List (Entry Marker (Vector UInt8 9))
  ysf : List (Entry Marker (Vector UInt8 13))

namespace Queues

def reset : Queues := ⟨.reset, [], []⟩

def put (k : Codec) (q : Queues) (o : ConvOp) : Queues where
  conv := o.conv k q.conv
  dmr := q.dmr ++ o.dmrPuts k q.conv
  ysf := q.ysf ++ o.ysfPuts k q.conv

@[simp] theorem put_conv (k : Codec) (q : Queues) (o : ConvOp) :
    (q.put k o).conv = o.conv k q.conv := rfl

def noteAct (p : List (Entry Marker (Vector UInt8 9)) × List (Entry Marker (Vector UInt8 13))) :
    Act → List (Entry Marker (Vector UInt8 9)) × List (Entry Marker (Vector UInt8 13))
  | .convReset => ([], [])
  | .convPut dmr ysf => (p.1 ++ dmr, p.2 ++ ysf)
  | _ => p

end Queues

/-- The counter is the number of whole entries in the ring, these are the last ones put, and a
read returns the tag of the oldest of them or `NODATA`. -/
def Channel.Synced (w g : Nat) (put : List (Entry Marker (Vector UInt8 w))) (c : Channel) : Prop :=
  c.ring.dataSize = (w + 1) * c.n ∧ ∃ q, q <:+ put ∧ c.Holds w q ∧
    ((c.get w g).1 = tagNoData ∨ ∃ x, q.head? = some x ∧ (c.get w g).1 = x.tag)

def Queues.Synced (q : Queues) : Prop :=
  q.conv.dmr.Synced 9 3 q.dmr ∧ q.conv.ysf.Synced 13 5 q.ysf

/-- Room in the ring for the entries of a put, as the queue stands. -/
def ConvOp.Room (m : ModeConv) : ConvOp → Prop
  | .putYsfHeader => m.dmr.Room 9 1
  | .putYsfPayload _ => m.dmr.Room 9 5
  | .putYsfEot => m.dmr.Room 9 (3 - m.dmr.n % 3 + 1)
  | .putAmbe7 _ => m.dmr.Room 9 1
  | .putDmrHeader => m.ysf.Room 13 1
  | .putDmrVoice _ => m.ysf.Room 13 3
  | .putDmrEot => m.ysf.Room 13 (5 - m.ysf.n % 5 + 1)
  | .putAmbe7Ysf _ => m.ysf.Room 13 1
  | _ => True

instance (m : ModeConv) (o : ConvOp) : Decidable (o.Room m) :=
  match o with
  | .putYsfHeader | .putYsfPayload _ | .putYsfEot | .putAmbe7 _ => Nat.decLt _ _
  | .putDmrHeader | .putDmrVoice _ | .putDmrEot | .putAmbe7Ysf _ => Nat.decLt _ _
  | .getDmr | .getYsf => instDecidableTrue

section
variable {w g : Nat} {c : Channel} {k : Codec} {o : ConvOp}
variable {put q : List (Entry Marker (Vector UInt8 w))}

theorem Channel.Holds.get (hg : 0 < g) (h : c.Holds w q) :
    (∃ q', q' <:+ q ∧ (c.get w g).2.2.Holds w q') ∧
      ((c.get w g).1 = tagNoData ∨ ∃ x, q.head? = some x ∧ (c.get w g).1 = x.tag) := by
  cases hp : Regroup.pull g q with
  | none =>
    rw [h.get_none hg hp]
    exact ⟨⟨q, List.suffix_refl q, h⟩, .inl rfl⟩
  | some r =>
    obtain ⟨p, q'⟩ := r
    obtain ⟨c', hc, hc'⟩ := h.get_some hp
    rw [hc]
    refine ⟨⟨q', ⟨p, (Regroup.pull_eq_append hp).symm⟩, hc'⟩, ?_⟩
    cases q with
    | nil => exact .inl rfl
    | cons x q => exact .inr ⟨x, rfl, rfl⟩

theorem Channel.Synced.of_holds (hg : 0 < g) (hs : q <:+ put) (h : c.Holds w q) :
    c.Synced w g put :=
  ⟨by rw [CRingBuffer.dataSize_eq, h.length, h.count], q, hs, h, (h.get hg).2⟩

theorem Channel.Synced.get (hg : 0 < g) (h : c.Synced w g put) :
    (c.get w g).2.2.Synced w g put := by
  obtain ⟨_, q, hs, hq, _⟩ := h
  obtain ⟨q', hs', hq'⟩ := (hq.get hg).1
  exact .of_holds hg (hs'.trans hs) hq'

theorem Channel.Synced.addAll (hw : ¬w + 1 ∣ 4999) (hg : 0 < g) (h : c.Synced w g put)
    {es : List (Entry Marker (Vector UInt8 w))} (hr : c.Room w es.length) :
    (c.addAll es).Synced w g (put ++ es) := by
  obtain ⟨_, q, ⟨t, ht⟩, hq, _⟩ := h
  refine .of_holds hg ⟨t, ?_⟩ (hq.addAll hw hr)
  rw [← ht, List.append_assoc]

theorem Channel.Synced.addAll_overflow (hw : ¬w + 1 ∣ 4999) (h : c.Synced w g put)
    {es put' : List (Entry Marker (Vector UInt8 w))} (hr : ¬c.Room w es.length) :
    ¬(c.addAll es).Synced w g put' := by
  obtain ⟨_, q, _, hq, _⟩ := h
  rintro ⟨_, q', _, hq', _⟩
  exact (hq.addAll_lagging hw hr).not_holds hq'

theorem Channel.synced_empty (hg : 0 < g) : Channel.empty.Synced w g [] :=
  .of_holds hg (List.suffix_refl _) Channel.holds_empty

theorem Channel.Synced.room (h : c.Synced w g put) (hk : (w + 1) * (put.length + k') < 5000) :
    c.Room w k' := by
  obtain ⟨_, q, hs, hq, _⟩ := h
  rw [hq.room_iff]
  exact (Nat.mul_le_mul_left _ (Nat.add_le_add_right hs.length_le _)).trans_lt hk

theorem Queues.reset_synced : Queues.reset.Synced :=
  ⟨Channel.synced_empty (by decide), Channel.synced_empty (by decide)⟩

theorem room_zero (c : Channel) : c.Room w ([] : List (Entry Marker (Vector UInt8 w))).length :=
  c.ring.view_length_lt

/-- `Room` counts the entries that the operation puts. -/
theorem ConvOp.room_iff (k : Codec) (m : ModeConv) (o : ConvOp) :
    o.Room m ↔ m.dmr.Room 9 (o.dmrPuts k m).length ∧ m.ysf.Room 13 (o.ysfPuts k m).length := by
  have hd := room_zero (w := 9) m.dmr
  have hy := room_zero (w := 13) m.ysf
  cases o with
  | putYsfEot => simp only [Room, dmrPuts, ysfPuts, Regroup.finishing, Regroup.fill,
      List.length_append, List.length_replicate, List.length_singleton, and_iff_left hy]
  | putDmrEot => simp only [Room, dmrPuts, ysfPuts, Regroup.finishing, Regroup.fill,
      List.length_append, List.length_replicate, List.length_singleton, and_iff_right hd]
  | putYsfHeader => exact (and_iff_left hy).symm
  | putYsfPayload p => exact (and_iff_left hy).symm
  | putAmbe7 a => exact (and_iff_left hy).symm
  | putDmrHeader => exact (and_iff_right hd).symm
  | putDmrVoice f => exact (and_iff_right hd).symm
  | putAmbe7Ysf a => exact (and_iff_right hd).symm
  | getDmr => exact ⟨fun _ => ⟨hd, hy⟩, fun _ => trivial⟩
  | getYsf => exact ⟨fun _ => ⟨hd, hy⟩, fun _ => trivial⟩

/-- A put keeps the queues synchronised exactly when there is room for it. -/
theorem Queues.Synced.put_iff {q : Queues} (h : q.Synced) (hd : o ≠ .getDmr) (hy : o ≠ .getYsf) :
    (q.put k o).Synced ↔ o.Room q.conv := by
  have hcd : (q.put k o).conv.dmr = q.conv.dmr.addAll (o.dmrPuts k q.conv) := ConvOp.conv_dmr hd
  have hcy : (q.put k o).conv.ysf = q.conv.ysf.addAll (o.ysfPuts k q.conv) := ConvOp.conv_ysf hy
  rw [o.room_iff k, Queues.Synced, hcd, hcy]
  constructor
  · rintro ⟨h1, h2⟩
    constructor
    · by_contra hr
      exact h.1.addAll_overflow (by decide) hr h1
    · by_contra hr
      exact h.2.addAll_overflow (by decide) hr h2
  · rintro ⟨h1, h2⟩
    exact ⟨h.1.addAll (by decide) (by decide) h1, h.2.addAll (by decide) (by decide) h2⟩

theorem Queues.Synced.getDmr {q : Queues} (h : q.Synced) :
    Synced { q with conv := q.conv.getDmr.2.2 } :=
  ⟨h.1.get (by decide), h.2⟩

theorem Queues.Synced.getYsf {q : Queues} (h : q.Synced) :
    Synced { q with conv := q.conv.getYsf.2.2 } :=
  ⟨h.1, h.2.get (by decide)⟩

end

namespace Bridge

variable {e : Env} {b : Bridge}

def queues (b : Bridge) : Queues where
  conv := b.conv
  dmr := (b.trace.foldl Queues.noteAct ([], [])).1
  ysf := (b.trace.foldl Queues.noteAct ([], [])).2

theorem log_foldl (b : Bridge) (a : Act) :
    (b.log a).trace.foldl Queues.noteAct ([], []) =
      Queues.noteAct (b.trace.foldl Queues.noteAct ([], [])) a := by
  rw [log, List.foldl_append]
  rfl

theorem modeconv_queues (e : Env) (b : Bridge) (o : ConvOp) :
    (b.modeconv e o).queues = b.queues.put e.codec o := by
  simp only [queues, modeconv, log_foldl]
  rfl

theorem modeconvReset_queues (b : Bridge) : b.modeconvReset.queues = .reset := by
  simp only [queues, modeconvReset, log_foldl]
  rfl

theorem resetCall_queues (b : Bridge) : b.resetCall.queues = .reset := by
  rw [resetCall, modeconvReset_queues]

theorem log_queues (b : Bridge) {a : Act} (h : ∀ p, Queues.noteAct p a = p) :
    (b.log a).queues = b.queues := by
  simp only [queues, log_foldl, h]
  rfl

theorem sendDmrd_queues (e : Env) (b : Bridge) (o : Origin) (ft : UInt8)
    (v : Option (List UInt8)) : (b.sendDmrd e o ft v).queues = b.queues := by
  obtain ⟨p, _, _, _, hb⟩ := sendDmrd_eq e b o ft v
  rw [hb]
  exact log_queues b fun _ => rfl

theorem sendYsfd_queues (e : Env) (b : Bridge) (fi fn net : UInt8) (v : Option (List UInt8)) :
    (b.sendYsfd e fi fn net v).queues = b.queues :=
  log_queues b fun _ => rfl

theorem foldl_noteAct_ptt {as : List Act} (h : ∀ a ∈ as, a.isPtt = true)
    (p : List (Entry Marker (Vector UInt8 9)) × List (Entry Marker (Vector UInt8 13))) :
    as.foldl Queues.noteAct p = p := by
  induction as with
  | nil => rfl
  | cons a as ih =>
    obtain ⟨ha, has⟩ := List.forall_mem_cons.1 h
    cases a with
    | convReset => cases ha
    | convPut => cases ha
    | _ => exact ih has

theorem PttStep.queues (h : PttStep b b') : b'.queues = b.queues := by
  obtain ⟨as, ht, ha⟩ := h.trace
  simp only [Bridge.queues, h.conv, ht, List.foldl_append, foldl_noteAct_ptt ha]

/-- Emitting to DMR reads the DMR queue once; the end of a call resets the converter. -/
theorem emitDmrFromConv_queues (e : Env) (b : Bridge) :
    (b.emitDmrFromConv e).queues = { b.queues with conv := b.conv.getDmr.2.2 } ∨
      (b.emitDmrFromConv e).queues = .reset := by
  have hs := fun b => sendDmrd_queues e b .call vheadB15 none
  rw [emitDmrFromConv]
  generalize b.conv.getDmr = r
  obtain ⟨tag, voice, conv⟩ := r
  simp only
  split
  next => exact .inl rfl
  next =>
    split
    next => exact .inl ((hs _).trans ((hs _).trans (hs _)))
    next =>
      split
      next => exact .inr (resetCall_queues _)
      next =>
        split
        next => exact .inl (sendDmrd_queues e { b with conv := conv } _ _ _)
        next => exact .inl rfl

theorem emitYsfFromConv_queues (e : Env) (b : Bridge) :
    (b.emitYsfFromConv e).queues = { b.queues with conv := b.conv.getYsf.2.2 } ∨
      (b.emitYsfFromConv e).queues = .reset := by
  rw [emitYsfFromConv]
  generalize b.conv.getYsf = r
  obtain ⟨tag, payload, conv⟩ := r
  simp only
  split
  next => exact .inl rfl
  next =>
    split
    next => exact .inl (sendYsfd_queues e { b with conv := conv, ysfCnt := 0 } _ _ _ _)
    next =>
      split
      next => exact .inr (resetCall_queues _)
      next =>
        split
        next => exact .inl (sendYsfd_queues e { b with conv := conv } _ _ _ _)
        next => exact .inl rfl

theorem paceDmr_queues (h : b.queues.Synced) : (b.paceDmr e).queues.Synced := by
  rw [paceDmr]
  split
  next => exact h
  next =>
    split
    next =>
      rcases emitDmrFromConv_queues e b.tock with hq | hq
      · rw [hq]
        exact h.getDmr
      · rw [hq]
        exact Queues.reset_synced
    next => exact h

theorem paceYsf_queues (h : b.queues.Synced) : (b.paceYsf e).queues.Synced := by
  rw [paceYsf]
  split
  next =>
    rcases emitYsfFromConv_queues e b.tock with hq | hq
    · rw [hq]
      exact h.getYsf
    · rw [hq]
      exact Queues.reset_synced
  next => exact h

theorem tick_queues (h : b.queues.Synced) (dmrUp ysfUp : Bool) :
    (b.tick e dmrUp ysfUp).queues.Synced := by
  have h1 : (b.pollConnectPtt e dmrUp).queues.Synced := by
    rw [(PttStep.poll e b dmrUp).queues]
    exact h
  rw [tick]
  split
  · exact h1
  · exact paceYsf_queues (paceDmr_queues h1)

/-- What a DMRD asks the converter to queue when it begins no call. -/
def dmrdPut (b : Bridge) (pkt : List UInt8) : Option ConvOp :=
  if dmrdIsHeader pkt then
    if b.dmrLastDtype ≠ dmrdDtypeVhead then some .putDmrHeader else none
  else if dmrdIsTerminator pkt then some .putDmrEot
  else if dmrdIsVoice pkt then some (.putDmrVoice ((pkt.drop 20).take 33))
  else none

/-- What an event puts on the converter queues as they stand, no call being begun. -/
def putOnQueues (e : Env) (b : Bridge) : BridgeEvent → Option ConvOp
  | .ysfd _ pkt => if b.callActive then ysfdPut e pkt else none
  | .dmrd _ pkt => if b.callActive && !b.beginsDmrCall pkt then b.dmrdPut pkt else none
  | _ => none

theorem resolveYsfHeader_queues (e : Env) (b : Bridge) (pkt : List UInt8) :
    (b.resolveYsfHeader e pkt).2.queues = b.queues ∧
      (b.resolveYsfHeader e pkt).2.callActive = b.callActive := by
  obtain ⟨cs, id, h⟩ := resolveYsfHeader_eq e b pkt
  rw [h]
  exact ⟨rfl, rfl⟩

theorem startYsfCall_queues (e : Env) (b : Bridge) (pkt : List UInt8) :
    (b.startYsfCall e pkt).queues = .reset :=
  modeconvReset_queues _

theorem setDmrRxIdentity_queues (b : Bridge) (pkt : List UInt8) :
    (b.setDmrRxIdentity pkt).queues = b.queues := by
  obtain ⟨src, dst, h⟩ := setDmrRxIdentity_eq b pkt
  rw [h]
  rfl

theorem beginDmrToYsf_queues (e : Env) (b : Bridge) (pkt : List UInt8) :
    (b.beginDmrToYsf e pkt).queues = .reset := by
  rw [beginDmrToYsf]
  split
  rw [setDmrRxIdentity_queues]
  exact modeconvReset_queues _

theorem queues_ysfVoice (b : Bridge) (n : Nat) :
    { b with ysfVoiceFrames := n }.queues = b.queues := rfl

theorem queues_dmrVoice (b : Bridge) (n : Nat) (d : UInt8) :
    { b with dmrVoiceFrames := n, dmrLastDtype := d }.queues = b.queues := rfl

theorem queues_lastDtype (b : Bridge) (d : UInt8) :
    { b with dmrLastDtype := d }.queues = b.queues := rfl

/-- Within a call an accepted YSFD makes one put and nothing else to the queues. -/
theorem onYsfd_queues_active (h : b.callActive = true) (pkt : List UInt8) :
    (b.onYsfd e pkt).queues = ((ysfdPut e pkt).map (b.queues.put e.codec)).getD b.queues := by
  obtain ⟨hrq, hra⟩ := resolveYsfHeader_queues e b pkt
  rw [onYsfd, ysfdPut]
  cases acceptedFich e pkt with
  | none => rfl
  | some f =>
    simp only [Option.bind_some, h, if_true, resolveYsfHeader_ok, ysfTalkerReady_eq, hra,
      Bool.not_true, Bool.or_self, Bool.false_eq_true, if_false]
    split
    next => rw [modeconv_queues, hrq]; rfl
    next =>
      split
      next => exact modeconv_queues e b _
      next =>
        split
        next => rw [queues_ysfVoice, modeconv_queues]; rfl
        next => rfl

/-- With no call open, a YSFD other than a TERMINATOR begins one on empty queues. -/
theorem onYsfd_queues_idle (h : b.callActive = false) (pkt : List UInt8) :
    (∃ o, ysfdPut e pkt = some o ∧ o ≠ .putYsfEot ∧ (b.onYsfd e pkt).callActive = true ∧
      (b.onYsfd e pkt).queues = Queues.reset.put e.codec o) ∨
    ((ysfdPut e pkt = none ∨ ysfdPut e pkt = some .putYsfEot) ∧
      (b.onYsfd e pkt).callActive = false ∧ (b.onYsfd e pkt).queues = b.queues) := by
  obtain ⟨hrq, hra⟩ := resolveYsfHeader_queues e b pkt
  rw [onYsfd, ysfdPut]
  cases acceptedFich e pkt with
  | none => exact .inr ⟨.inl rfl, h, rfl⟩
  | some f =>
    simp only [Option.bind_some, h, resolveYsfHeader_ok, ysfTalkerReady_eq, hra, Bool.not_true,
      Bool.or_self, Bool.false_eq_true, if_false]
    split
    next =>
      refine .inl ⟨.putYsfHeader, rfl, by decide, rfl, ?_⟩
      rw [modeconv_queues, startYsfCall_queues]
    next =>
      split
      next => exact .inr ⟨.inr rfl, h, rfl⟩
      next =>
        split
        next =>
          refine .inl ⟨.putYsfPayload (ysfModeconvChunk pkt), rfl, by simp, rfl, ?_⟩
          rw [queues_ysfVoice, modeconv_queues, queues_ysfVoice, startYsfCall_queues]
        next => exact .inr ⟨.inl rfl, h, rfl⟩

theorem ysfdPut_cases (h : ysfdPut e pkt = some o) : o = .putYsfHeader ∨ o = .putYsfEot ∨
    o = .putYsfPayload (ysfModeconvChunk pkt) := by
  rw [ysfdPut] at h
  obtain ⟨f, _, h⟩ := Option.bind_eq_some_iff.1 h
  split at h
  next =>
    cases h
    exact .inl rfl
  next =>
    split at h
    next =>
      cases h
      exact .inr (.inl rfl)
    next =>
      split at h
      next =>
        cases h
        exact .inr (.inr rfl)
      next => cases h

theorem onYsfd_synced_idle (h : b.callActive = false) (hs : b.queues.Synced) (pkt : List UInt8) :
    (b.onYsfd e pkt).queues.Synced := by
  have hroom (k : Nat) (hk : k ≤ 5) : (Queues.reset.conv.dmr).Room 9 k :=
    Queues.reset_synced.1.room (by simp only [Queues.reset, List.length_nil]; omega)
  rcases onYsfd_queues_idle (e := e) h pkt with ⟨o, ho, hne, _, hq⟩ | ⟨_, _, hq⟩
  · rw [hq]
    rcases ysfdPut_cases ho with rfl | rfl | rfl
    · exact (Queues.reset_synced.put_iff (by decide) (by decide)).2 (hroom 1 (by decide))
    · exact absurd rfl hne
    · exact (Queues.reset_synced.put_iff (o := .putYsfPayload _) (by simp) (by simp)).2
        (hroom 5 (by decide))
  · rw [hq]
    exact hs

/-- Within a call a DMRD that begins no other makes at most one put. -/
theorem onDmrd_queues_active (h : b.callActive = true) (pkt : List UInt8)
    (hn : b.beginsDmrCall pkt = false) :
    (b.onDmrd e pkt).queues = ((b.dmrdPut pkt).map (b.queues.put e.codec)).getD b.queues := by
  rw [onDmrd, dmrdPut]
  cases hp : dmrdIsPacket pkt with
  | false =>
    obtain ⟨h1, h2, h3⟩ := not_packet hp
    simp only [h1, h2, h3, Bool.not_false, if_true, Bool.false_eq_true, if_false]
    rfl
  | true =>
    cases hh : dmrdIsHeader pkt with
    | true =>
      have hs : (!b.callActive || (dmrdStream pkt != 0 && dmrdStream pkt != b.dmrStreamId)) =
          false := by
        rw [beginsDmrCall, hh, Bool.true_and, Bool.or_eq_false_iff] at hn
        exact hn.1
      simp only [Bool.not_true, Bool.false_eq_true, if_false, if_true, hs, queues_lastDtype]
      have hd : (b.setDmrRxIdentity pkt).dmrLastDtype = b.dmrLastDtype := rfl
      rw [hd]
      split
      next => rw [modeconv_queues, setDmrRxIdentity_queues]; rfl
      next => exact setDmrRxIdentity_queues b pkt
    | false =>
      simp only [Bool.not_true, Bool.false_eq_true, if_false, h, if_true]
      split
      next => rw [queues_lastDtype, modeconv_queues]; rfl
      next =>
        split
        next => rw [queues_dmrVoice, modeconv_queues]; rfl
        next => rfl

theorem reset_header_synced (k : Codec) : (Queues.reset.put k .putDmrHeader).Synced :=
  (Queues.reset_synced.put_iff (by decide) (by decide)).2
    (Queues.reset_synced.2.room (by decide))

theorem modeconv_header_queues (h : b.queues = .reset) :
    (b.modeconv e .putDmrHeader).queues = Queues.reset.put e.codec .putDmrHeader := by
  rw [modeconv_queues, h]

theorem beginsDmrCall_header (hh : dmrdIsHeader pkt = true) : b.beginsDmrCall pkt =
    (!b.callActive || (dmrdStream pkt != 0 && dmrdStream pkt != b.dmrStreamId)) := by
  rw [beginsDmrCall, hh, Bool.true_and, Bool.or_eq_left_iff_imp, Bool.and_eq_true]
  rintro ⟨_, h⟩
  rw [h, Bool.true_or]

theorem beginsDmrCall_other (hh : dmrdIsHeader pkt = false) : b.beginsDmrCall pkt =
    (dmrdIsVoice pkt && !b.callActive) := by
  rw [beginsDmrCall, hh, Bool.false_and, Bool.false_or]

theorem not_terminator_of_voice (h : dmrdIsVoice pkt = true) : dmrdIsTerminator pkt = false := by
  rw [dmrdIsVoice, Bool.and_eq_true, decide_eq_true_eq] at h
  rw [dmrdIsTerminator, Bool.and_eq_false_iff]
  right
  rw [beq_eq_false_iff_ne]
  intro hp
  have hle := h.2
  rw [hp] at hle
  exact absurd hle (by decide)

theorem isPacket_of_begins (h : b.beginsDmrCall pkt = true) : dmrdIsPacket pkt = true := by
  by_contra hp
  obtain ⟨h1, _, h3⟩ := not_packet (Bool.eq_false_of_not_eq_true hp)
  rw [beginsDmrCall_other h1, h3] at h
  cases h

theorem beginDmrToYsf_lastDtype (e : Env) (b : Bridge) (pkt : List UInt8) :
    (b.beginDmrToYsf e pkt).dmrLastDtype = b.dmrLastDtype := by
  rw [beginDmrToYsf]
  split
  next sid b1 h =>
    split at h
    · rw [← (Prod.mk.inj h).2]
      rfl
    · rw [← (Prod.mk.inj h).2]
      rfl

/-- A DMRD that begins a call leaves its header on empty queues, unless it is a voice header and
one was the last thing received. -/
theorem onDmrd_queues_begins (hb : b.beginsDmrCall pkt = true) :
    (b.onDmrd e pkt).queues =
      if dmrdIsHeader pkt then
        if b.dmrLastDtype ≠ dmrdDtypeVhead then Queues.reset.put e.codec .putDmrHeader else .reset
      else (Queues.reset.put e.codec .putDmrHeader).put e.codec
        (.putDmrVoice ((pkt.drop 20).take 33)) := by
  rw [onDmrd, isPacket_of_begins hb]
  simp only [Bool.not_true, Bool.false_eq_true, if_false]
  split
  next hh =>
    rw [beginsDmrCall_header hh] at hb
    simp only [hb, if_true, queues_lastDtype, beginDmrToYsf_lastDtype]
    split
    next => exact modeconv_header_queues (beginDmrToYsf_queues e b pkt)
    next => exact beginDmrToYsf_queues e b pkt
  next hh =>
    rw [beginsDmrCall_other (Bool.eq_false_of_not_eq_true hh), Bool.and_eq_true,
      Bool.not_eq_true'] at hb
    simp only [not_terminator_of_voice hb.1, hb.1, hb.2, Bool.false_eq_true, if_false, if_true]
    rw [queues_dmrVoice, modeconv_queues, modeconv_header_queues
      (b := { b.beginDmrToYsf e pkt with dmrSeq := byteAt pkt 4 }) (beginDmrToYsf_queues e b pkt)]

theorem onDmrd_queues_idle (ha : b.callActive = false) (hn : b.beginsDmrCall pkt = false) :
    (b.onDmrd e pkt).queues = b.queues := by
  have hh : dmrdIsHeader pkt = false := by
    by_contra hh
    rw [beginsDmrCall_header (Bool.eq_true_of_not_eq_false hh), ha] at hn
    cases hn
  have hv : dmrdIsVoice pkt = false := by
    rwa [beginsDmrCall_other hh, ha, Bool.not_false, Bool.and_true] at hn
  rw [onDmrd]
  simp only [hh, hv, ha, Bool.false_eq_true, if_false]
  split
  next => rfl
  next => split <;> rfl

theorem onDmrd_synced_begin (hs : b.queues.Synced) (pkt : List UInt8)
    (hn : b.callActive = false ∨ b.beginsDmrCall pkt = true) :
    (b.onDmrd e pkt).queues.Synced := by
  cases hb : b.beginsDmrCall pkt with
  | true =>
    rw [onDmrd_queues_begins hb]
    split
    next =>
      split
      next => exact reset_header_synced _
      next => exact Queues.reset_synced
    next =>
      refine ((reset_header_synced e.codec).put_iff (o := .putDmrVoice _) (by simp) (by simp)).2 ?_
      exact (reset_header_synced e.codec).2.room (show (13 + 1) * (1 + 3) < 5000 by decide)
  | false =>
    rw [onDmrd_queues_idle (hn.resolve_right (by rw [hb]; decide)) hb]
    exact hs

/-- There is room in the converter queues, as they stand, for what the event puts on them. -/
def HasRoom (e : Env) (b : Bridge) (ev : BridgeEvent) : Prop :=
  ∀ o, putOnQueues e b ev = some o → o.Room b.conv

instance (e : Env) (b : Bridge) (ev : BridgeEvent) : Decidable (HasRoom e b ev) :=
  decidable_of_iff (∀ o ∈ putOnQueues e b ev, o.Room b.conv) Iff.rfl

/-- Both frame counters agree with their rings, and what is read is what was put. -/
def QueuesSynced (b : Bridge) : Prop := b.queues.Synced

theorem ysfdPut_ne_get (h : ysfdPut e pkt = some o) : o ≠ .getDmr ∧ o ≠ .getYsf := by
  rcases ysfdPut_cases h with rfl | rfl | rfl
  · decide
  · decide
  · simp

theorem dmrdPut_ne_get (h : b.dmrdPut pkt = some o) : o ≠ .getDmr ∧ o ≠ .getYsf := by
  rw [dmrdPut] at h
  split at h
  next =>
    split at h
    next => cases h; decide
    next => cases h
  next =>
    split at h
    next => cases h; decide
    next =>
      split at h
      next => cases h; simp
      next => cases h

/-- Every event either puts one thing on queues that stand, or keeps them synchronised. -/
theorem step_queues (hs : b.queues.Synced) (ev : BridgeEvent) :
    (∃ o, putOnQueues e b ev = some o ∧ o ≠ .getDmr ∧ o ≠ .getYsf ∧
      (b.step e ev).queues = b.queues.put e.codec o) ∨
    (putOnQueues e b ev = none ∧ (b.step e ev).queues.Synced) := by
  cases ev with
  | dmrd c pkt =>
    cases hn : b.callActive && !b.beginsDmrCall pkt with
    | false =>
      refine .inr ⟨by rw [putOnQueues, hn]; rfl, ?_⟩
      refine onDmrd_synced_begin (b := { b with clock := c }) hs pkt ?_
      rw [Bool.and_eq_false_iff, Bool.not_eq_false'] at hn
      exact hn
    | true =>
      have hput : putOnQueues e b (.dmrd c pkt) = b.dmrdPut pkt := by
        rw [putOnQueues, hn]; rfl
      rw [Bool.and_eq_true, Bool.not_eq_true'] at hn
      have hq := onDmrd_queues_active (e := e) (b := { b with clock := c }) hn.1 pkt hn.2
      have hd : { b with clock := c }.dmrdPut pkt = b.dmrdPut pkt := rfl
      rw [hput]
      rw [hd] at hq
      cases ho : b.dmrdPut pkt with
      | none =>
        rw [ho] at hq
        exact .inr ⟨rfl, by rw [step, hq]; exact hs⟩
      | some o =>
        rw [ho] at hq
        exact .inl ⟨o, rfl, (dmrdPut_ne_get ho).1, (dmrdPut_ne_get ho).2, hq⟩
  | ysfd c pkt =>
    cases ha : b.callActive with
    | false =>
      refine .inr ⟨by rw [putOnQueues, ha]; rfl, ?_⟩
      exact onYsfd_synced_idle (b := { b with clock := c }) ha hs pkt
    | true =>
      have hput : putOnQueues e b (.ysfd c pkt) = ysfdPut e pkt := by
        rw [putOnQueues, ha]; rfl
      have hq := onYsfd_queues_active (e := e) (b := { b with clock := c }) ha pkt
      rw [hput]
      cases ho : ysfdPut e pkt with
      | none =>
        rw [ho] at hq
        exact .inr ⟨rfl, by rw [step, hq]; exact hs⟩
      | some o =>
        rw [ho] at hq
        exact .inl ⟨o, rfl, (ysfdPut_ne_get ho).1, (ysfdPut_ne_get ho).2, hq⟩
  | tick c dmrUp ysfUp =>
    exact .inr ⟨rfl, tick_queues (b := { b with clock := c }) hs dmrUp ysfUp⟩
  | aliases db => exact .inr ⟨rfl, hs⟩

theorem step_synced_iff (hs : b.queues.Synced) (ev : BridgeEvent) :
    (b.step e ev).queues.Synced ↔ HasRoom e b ev := by
  rcases step_queues (e := e) hs ev with ⟨o, ho, hd, hy, hq⟩ | ⟨ho, hq⟩
  · rw [hq, hs.put_iff hd hy]
    refine ⟨fun h o' ho' => ?_, fun h => h o ho⟩
    cases ho.symm.trans ho'
    exact h
  · refine iff_of_true hq fun o' ho' => ?_
    cases ho.symm.trans ho'

theorem modeconv_callActive (e : Env) (b : Bridge) (o : ConvOp) :
    (b.modeconv e o).callActive = b.callActive := rfl

/-- A voice burst within a call adds three entries. -/
theorem dmrd_voice (ha : b.callActive = true) (hh : dmrdIsHeader pkt = false)
    (ht : dmrdIsTerminator pkt = false) (hv : dmrdIsVoice pkt = true) (c : Clock) :
    (b.step e (.dmrd c pkt)).callActive = true ∧
      (b.step e (.dmrd c pkt)).conv.ysf.n = b.conv.ysf.n + 3 := by
  have hp : dmrdIsPacket pkt = true := by
    rw [dmrdIsVoice, Bool.and_assoc, Bool.and_eq_true] at hv
    exact hv.1
  simp only [step, onDmrd, hp, hh, ht, hv, ha, Bool.not_true, Bool.false_eq_true, if_false,
    if_true, modeconv_callActive]
  exact ⟨trivial, rfl⟩

/-- While YSF is not linked, a tick takes nothing. -/
theorem tick_unlinked (e : Env) (b : Bridge) (c : Clock) (dmrUp : Bool) :
    (b.step e (.tick c dmrUp false)).callActive = b.callActive ∧
      (b.step e (.tick c dmrUp false)).conv = b.conv := by
  have h := PttStep.poll e { b with clock := c } dmrUp
  simp only [step, tick, Bool.not_false, Bool.or_true, if_true]
  exact ⟨h.call, h.conv⟩

theorem sampleDmrd_voice (i : Nat) : dmrdIsHeader (sampleDmrd (voiceB15 i)) = false ∧
    dmrdIsTerminator (sampleDmrd (voiceB15 i)) = false ∧
    dmrdIsVoice (sampleDmrd (voiceB15 i)) = true := by
  have h6 : i % 6 < 6 := Nat.mod_lt _ (by decide)
  rw [voiceB15]
  generalize i % 6 = n at h6
  revert n
  decide

/-- The voice bursts of a received call, each with the tick that follows it while YSF is not
linked. -/
def outage (bursts : List Nat) : List BridgeEvent :=
  bursts.flatMap fun i => [dmrdAt (60 * i) (voiceB15 i), tickAt (60 * i) true false]

theorem outage_step (ha : b.callActive = true) (i : Nat) :
    ((b.step e (dmrdAt (60 * i) (voiceB15 i))).step e (tickAt (60 * i) true false)).callActive =
        true ∧
      ((b.step e (dmrdAt (60 * i) (voiceB15 i))).step e (tickAt (60 * i) true false)).conv.ysf.n =
        b.conv.ysf.n + 3 := by
  obtain ⟨hh, ht, hv⟩ := sampleDmrd_voice i
  obtain ⟨hd, hn⟩ := dmrd_voice (e := e) ha hh ht hv _
  obtain ⟨hu, hc⟩ := tick_unlinked e (b.step e (dmrdAt (60 * i) (voiceB15 i))) _ true
  exact ⟨hu.trans hd, (congrArg (fun c => c.ysf.n) hc).trans hn⟩

theorem outage_desyncs (ha : b.callActive = true) (bursts : List Nat)
    (hn : 357 < b.conv.ysf.n + 3 * bursts.length) :
    ¬(machine e c db).Always QueuesSynced b (outage bursts) := by
  induction bursts generalizing b with
  | nil =>
    intro h
    have hc := h.head.2.1
    have hd := b.conv.ysf.ring.view_length_lt
    have hq : b.queues.conv = b.conv := rfl
    rw [hq, CRingBuffer.dataSize_eq] at hc
    rw [List.length_nil] at hn
    omega
  | cons i bursts ih =>
    intro h
    have hs := outage_step (e := e) ha i
    simp only [outage, List.flatMap_cons, List.cons_append, List.nil_append, always_cons] at h
    obtain ⟨-, -, h⟩ := h
    refine ih hs.1 ?_ h
    rw [List.length_cons] at hn
    omega

/-- Along a run the converter queues stay synchronised exactly when each put finds room. -/
theorem queuesSynced_iff (e : Env) (c : Clock) (db : AliasDb) (evs : List BridgeEvent) :
    (machine e c db).Always QueuesSynced (init c db) evs ↔
      (machine e c db).Meets (HasRoom e) (init c db) evs := by
  refine Machine.always_iff_meets (I := QueuesSynced) (fun s ev s' hs hc he => ?_)
    (fun _ hs => hs) (fun s ev s' hs hc he => ?_) Queues.reset_synced
  · cases he
    exact (step_synced_iff hs ev).2 hc
  · cases he
    exact fun h => hc ((step_synced_iff hs ev).1 h)

/-- A received call of seven seconds overflows the YSF queue while YSF is not linked. -/
theorem not_queuesSynced_run :
    ¬(machine sampleEnv (.stopped 0) noAliases).Always QueuesSynced (init (.stopped 0) noAliases)
      (outage (List.range 119)) := by
  intro h
  have hb : outage (List.range 119) = dmrdAt (60 * 0) (voiceB15 0) :: tickAt (60 * 0) true false ::
      outage (List.range' 1 118) := rfl
  rw [hb, always_cons, always_cons] at h
  exact outage_desyncs (by decide +kernel) _ (by decide +kernel) h.2.2

end Bridge

end AdnBridge
