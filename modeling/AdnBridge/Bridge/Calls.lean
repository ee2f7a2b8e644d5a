import AdnBridge.Bridge.Queue

namespace AdnBridge
set_option autoImplicit true

/-- Packets and frames of the relayed calls, as against the connect PTT and the converter. -/
def Act.isFrame : Act → Bool
  | .dmrd .call _ => true
  | .ysfd _ => true
  | _ => false

theorem Act.isFrame_of_ptt {a : Act} (h : a.isPtt = true) : a.isFrame = false := by
  cases a with
  | dmrd o p => cases o with
    | call => cases h
    | ptt => rfl
  | ysfd f => cases h
  | _ => rfl

inductive Direction where
  | ysfToDmr
  | dmrToYsf
deriving DecidableEq

/-- The frame that ends a call of this direction on the wire. -/
def Direction.endsCall : Direction → Act → Bool
  | .ysfToDmr, .dmrd .call p => p.isVterm
  | .dmrToYsf, .ysfd f => f.fi == ysfFiTerminator
  | _, _ => false

namespace Bridge

variable {e : Env} {b b' b'' : Bridge}

/-- Nothing of a relayed call has been sent. -/
def Silent (b b' : Bridge) : Prop :=
  ∃ as, b'.trace = b.trace ++ as ∧ ∀ a ∈ as, a.isFrame = false

namespace Silent

theorem refl (b : Bridge) : Silent b b := ⟨[], (List.append_nil _).symm, List.forall_mem_nil _⟩

theorem trans (h : Silent b b') (h' : Silent b' b'') : Silent b b'' := by
  obtain ⟨as, ht, ha⟩ := h
  obtain ⟨as', ht', ha'⟩ := h'
  refine ⟨as ++ as', ?_, List.forall_mem_append.2 ⟨ha, ha'⟩⟩
  rw [ht', ht, List.append_assoc]

theorem log (b : Bridge) {a : Act} (h : a.isFrame = false) : Silent b (b.log a) :=
  ⟨[a], rfl, List.forall_mem_singleton.2 h⟩

theorem modeconv (e : Env) (b : Bridge) (o : ConvOp) : Silent b (b.modeconv e o) := log b rfl

theorem ptt (h : PttStep b b') : Silent b b' := by
  obtain ⟨as, ht, ha⟩ := h.trace
  exact ⟨as, ht, fun a hm => Act.isFrame_of_ptt (ha a hm)⟩

theorem startYsfCall (e : Env) (b : Bridge) (pkt : List UInt8) :
    Silent b (b.startYsfCall e pkt) := by
  have h := ptt (PttStep.abort e b)
  rw [Bridge.startYsfCall]
  generalize b.abortConnectPtt e = b1 at h
  exact h.trans ((log b1 (a := .start .call (e.rand b1.draws ||| 1)) rfl).trans (log _ rfl))

theorem beginDmrToYsf (e : Env) (b : Bridge) (pkt : List UInt8) :
    Silent b (b.beginDmrToYsf e pkt) := by
  rw [Bridge.beginDmrToYsf]
  split
  next sid b1 h =>
    have h1 : b1.trace = b.trace := by
      split at h
      · rw [← (Prod.mk.inj h).2]
      · rw [← (Prod.mk.inj h).2]
    refine ⟨[.convReset], ?_, List.forall_mem_singleton.2 rfl⟩
    rw [← h1]
    rfl

end Silent

/-- What a received packet comes to: nothing is sent, and a call is open behind it or not. -/
structure Received (b b' : Bridge) (active : Bool) : Prop where
  silent : Silent b b'
  active : b'.callActive = active

namespace Received

theorem refl (b : Bridge) : Received b b b.callActive := ⟨.refl b, rfl⟩

theorem congr (h : Received b b' a) (ht : b''.trace = b'.trace)
    (ha : b''.callActive = b'.callActive) : Received b b'' a := by
  obtain ⟨as, h1, h2⟩ := h.silent
  exact ⟨⟨as, ht.trans h1, h2⟩, ha.trans h.active⟩

theorem modeconv (h : Received b b' a) (e : Env) (o : ConvOp) :
    Received b (b'.modeconv e o) a :=
  ⟨h.silent.trans (.modeconv e b' o), h.active⟩

theorem startYsfCall (h : Received b b' a) (e : Env) (pkt : List UInt8) :
    Received b (b'.startYsfCall e pkt) true :=
  ⟨h.silent.trans (.startYsfCall e b' pkt), rfl⟩

theorem beginDmrToYsf (e : Env) (b : Bridge) (pkt : List UInt8) :
    Received b (b.beginDmrToYsf e pkt) true := by
  refine ⟨.beginDmrToYsf e b pkt, ?_⟩
  rw [Bridge.beginDmrToYsf]
  split
  rfl

theorem dmrVoice (h : Received b b' a) (n : Nat) (d : UInt8) :
    Received b { b' with dmrVoiceFrames := n, dmrLastDtype := d } a :=
  h.congr rfl rfl

theorem ysfVoice (h : Received b b' a) (n : Nat) :
    Received b { b' with ysfVoiceFrames := n } a :=
  h.congr rfl rfl

/-- The gate of a voice header. -/
theorem header (h : Received b b' a) (e : Env) : Received b
    { (if b'.dmrLastDtype ≠ dmrdDtypeVhead then b'.modeconv e .putDmrHeader else b') with
      dmrLastDtype := dmrdDtypeVhead } a := by
  split
  next => exact (h.modeconv e .putDmrHeader).congr rfl rfl
  next => exact h.congr rfl rfl

end Received

/-- A received DMRD sends nothing, and a call is open behind it when one was or it began one. -/
theorem onDmrd_received (e : Env) (b : Bridge) (pkt : List UInt8) :
    Received b (b.onDmrd e pkt) (b.callActive || b.beginsDmrCall pkt) := by
  have hb := Received.refl b
  rw [onDmrd]
  cases hp : dmrdIsPacket pkt with
  | false =>
    obtain ⟨h1, _, h3⟩ := not_packet hp
    rw [beginsDmrCall_other h1, h3, Bool.false_and, Bool.or_false]
    exact hb
  | true =>
    simp only [Bool.not_true, Bool.false_eq_true, if_false]
    split
    next hh =>
      rw [beginsDmrCall_header hh]
      split
      next hc =>
        rw [hc, Bool.or_true]
        exact (Received.beginDmrToYsf e b pkt).header e
      next hc =>
        rw [Bool.eq_false_of_not_eq_true hc, Bool.or_false]
        obtain ⟨src, dst, hid⟩ := setDmrRxIdentity_eq b pkt
        rw [hid]
        have hid : Received b { b with netSrc := src, netDst := dst } b.callActive :=
          hb.congr rfl rfl
        exact hid.header e
    next hh =>
      rw [beginsDmrCall_other (Bool.eq_false_of_not_eq_true hh)]
      split
      next ht =>
        have hv : dmrdIsVoice pkt = false := by
          by_contra hv
          rw [not_terminator_of_voice (Bool.eq_true_of_not_eq_false hv)] at ht
          cases ht
        rw [hv, Bool.false_and, Bool.or_false]
        split
        next => exact (hb.modeconv e .putDmrEot).congr rfl rfl
        next => exact hb.congr rfl rfl
      next =>
        split
        next hv =>
          rw [hv, Bool.true_and]
          split
          next ha =>
            rw [ha, Bool.true_or]
            rw [ha] at hb
            exact (hb.modeconv e (.putDmrVoice ((pkt.drop 20).take 33))).dmrVoice _ _
          next ha =>
            rw [Bool.eq_false_of_not_eq_true ha, Bool.not_false, Bool.or_true]
            have h1 : Received b { b.beginDmrToYsf e pkt with dmrSeq := byteAt pkt 4 } true :=
              (Received.beginDmrToYsf e b pkt).congr rfl rfl
            have h2 := h1.modeconv e .putDmrHeader
            exact (h2.modeconv e (.putDmrVoice ((pkt.drop 20).take 33))).dmrVoice _ _
        next hv =>
          rw [Bool.eq_false_of_not_eq_true hv, Bool.false_and, Bool.or_false]
          split
          next => exact hb.congr rfl rfl
          next => exact hb

/-- A received YSFD sends nothing of a relayed call, and closes none. -/
theorem onYsfd_received (e : Env) (b : Bridge) (pkt : List UInt8) :
    ∃ a, Received b (b.onYsfd e pkt) a ∧ (b.callActive = true → a = true) := by
  have hb := Received.refl b
  rw [onYsfd]
  cases acceptedFich e pkt with
  | none => exact ⟨_, hb, id⟩
  | some f =>
    simp only
    split
    next =>
      have hr : Received b (b.resolveYsfHeader e pkt).2 b.callActive := by
        obtain ⟨cs, id, h⟩ := resolveYsfHeader_eq e b pkt
        rw [h]
        exact hb.congr rfl rfl
      split
      next => exact ⟨_, hr, id⟩
      next =>
        split
        next => exact ⟨_, hr.modeconv e .putYsfHeader, id⟩
        next => exact ⟨_, (hr.startYsfCall e pkt).modeconv e .putYsfHeader, fun _ => rfl⟩
    next =>
      split
      next =>
        split
        next => exact ⟨_, hb.modeconv e .putYsfEot, id⟩
        next => exact ⟨_, hb, id⟩
      next =>
        split
        next =>
          split
          next => exact ⟨_, hb, id⟩
          next =>
            split
            next =>
              have h1 := hb.modeconv e (.putYsfPayload (ysfModeconvChunk pkt))
              exact ⟨_, h1.ysfVoice _, id⟩
            next =>
              have h1 : Received b { b.startYsfCall e pkt with ysfVoiceFrames := 0 } true :=
                (hb.startYsfCall e pkt).congr rfl rfl
              have h2 := h1.modeconv e (.putYsfPayload (ysfModeconvChunk pkt))
              exact ⟨_, h2.ysfVoice _, fun _ => rfl⟩
        next => exact ⟨_, hb, id⟩

/-- Pacing to DMR either ends the call with its VTERM, or sends other packets, none from an empty
queue, and keeps the queue to YSF. -/
theorem paceDmr_cases (e : Env) (b : Bridge) :
    (∃ ps : List Dmrd, (b.paceDmr e).trace = b.trace ++ ps.map (.dmrd .call) ∧
      (b.paceDmr e).callActive = b.callActive ∧ (b.paceDmr e).conv.ysf = b.conv.ysf ∧
      (b.conv.getDmr.1 = tagNoData → ps = []) ∧ ∀ p ∈ ps, p.isVterm = false) ∨
    (b.conv.getDmr.1 = tagEot ∧ (b.paceDmr e).callActive = false ∧ (b.paceDmr e).conv = .reset ∧
      ∃ (ps : List Dmrd) (p : Dmrd), (b.paceDmr e).trace =
          b.trace ++ ps.map (.dmrd .call) ++ [.dmrd .call p, .stop .call, .convReset] ∧
        p.isVterm = true) := by
  have hquiet (b' : Bridge) (h : b'.trace = b.trace) :
      ∃ ps : List Dmrd, b'.trace = b.trace ++ ps.map (.dmrd .call) ∧
        (b.conv.getDmr.1 = tagNoData → ps = []) ∧ ∀ p ∈ ps, p.isVterm = false :=
    ⟨[], h.trans (List.append_nil _).symm, fun _ => rfl, List.forall_mem_nil _⟩
  rw [paceDmr]
  split
  next =>
    obtain ⟨ps, ht, hp⟩ := hquiet b rfl
    exact .inl ⟨ps, ht, rfl, rfl, hp⟩
  next =>
    split
    next =>
      by_cases h : b.conv.getDmr.1 = tagEot
      · exact .inr ⟨h, emitDmrFromConv_eot e b.tock h⟩
      · obtain ⟨ha, hc, ps, ht, hp⟩ := emitDmrFromConv_other e b.tock h
        exact .inl ⟨ps, ht, ha, by rw [hc]; rfl, hp⟩
    next =>
      obtain ⟨ps, ht, hp⟩ := hquiet b.tock rfl
      exact .inl ⟨ps, ht, rfl, rfl, hp⟩

/-- Pacing to YSF either ends the call with its TERMINATOR, or sends frames: none from an empty
queue, a HEADER when one is in front. -/
theorem paceYsf_cases (e : Env) (b : Bridge) :
    (∃ fs : List Ysfd, (b.paceYsf e).trace = b.trace ++ fs.map .ysfd ∧
      (b.paceYsf e).callActive = b.callActive ∧ (b.conv.getYsf.1 = tagNoData → fs = []) ∧
      (b.conv.getYsf.1 = tagHeader →
        (fs = [] ∧ (b.paceYsf e).conv = b.conv) ∨ ∃ f, fs = [f] ∧ f.fi = ysfFiHeader)) ∨
    (b.conv.getYsf.1 = tagEot ∧ (b.paceYsf e).callActive = false ∧ (b.paceYsf e).conv = .reset ∧
      ∃ f, (b.paceYsf e).trace = b.trace ++ [.ysfd f, .stop .call, .convReset] ∧
        f.fi = ysfFiTerminator) := by
  rw [paceYsf]
  split
  next =>
    by_cases h : b.conv.getYsf.1 = tagEot
    · exact .inr ⟨h, emitYsfFromConv_eot e b.tock h⟩
    · obtain ⟨ha, _, fs, ht, hn, hh⟩ := emitYsfFromConv_other e b.tock h
      exact .inl ⟨fs, ht, ha, hn, fun hg => .inr (hh hg)⟩
  next =>
    exact .inl ⟨[], (List.append_nil _).symm, rfl, fun _ => rfl, fun _ => .inl ⟨rfl, rfl⟩⟩

/-- The direction of the call that this event opens, going from `b` to `b'`. -/
def begun (b b' : Bridge) : BridgeEvent → Option Direction
  | .dmrd _ pkt => if b.beginsDmrCall pkt then some .dmrToYsf else none
  | .ysfd _ _ => if !b.callActive && b'.callActive then some .ysfToDmr else none
  | _ => none

/-- What the bridge has done between two states. -/
def actsSince (b b' : Bridge) : List Act := b'.trace.drop b.trace.length

theorem actsSince_eq (h : b'.trace = b.trace ++ as) : actsSince b b' = as := by
  rw [actsSince, h, List.drop_left]

def noteCalls (k : CallBook Direction) (b : Bridge) (ev : BridgeEvent) (b' : Bridge) :
    CallBook Direction :=
  k.note (begun b b' ev) (actsSince b b') b'.callActive

/-- The bridge with a book of its calls. -/
def booked (e : Env) (c : Clock) (db : AliasDb) :
    Machine (Bridge × CallBook Direction) BridgeEvent :=
  (machine e c db).observe .empty noteCalls

def bookedStep (e : Env) (p : Bridge × CallBook Direction) (ev : BridgeEvent) :
    Bridge × CallBook Direction :=
  (p.1.step e ev, noteCalls p.2 p.1 ev (p.1.step e ev))

theorem booked_meets_cons {C : Bridge × CallBook Direction → BridgeEvent → Prop} :
    (booked e c db).Meets C p (ev :: evs) ↔
      C p ev ∧ (booked e c db).Meets C (bookedStep e p ev) evs :=
  Machine.meets_cons_some rfl

end Bridge

/-- The call was ended on the wire by the frame of its own side. -/
def CallRec.EndedByOwn (r : CallRec Direction) : Prop := ∃ a ∈ r.acts, r.dir.endsCall a = true

instance (r : CallRec Direction) : Decidable r.EndedByOwn := List.decidableBEx _ _

section
variable {w g : Nat} {k : Codec} {m : ModeConv} {o : ConvOp}

theorem Entry.eq_eot_of_tag {x : Entry Marker (Vector UInt8 w)} (h : x.tag = tagEot) :
    x = .mark .eot := by
  cases x with
  | mark m => cases m with
    | header => exact absurd h (by decide : tagHeader ≠ tagEot)
    | eot => rfl
  | voice v => exact absurd h (by decide : tagData ≠ tagEot)

/-- An EOT is read off a synchronised queue only when one was put on it. -/
theorem Channel.Synced.eot_mem {c : Channel} {put : List (Entry Marker (Vector UInt8 w))}
    (h : c.Synced w g put) (ht : (c.get w g).1 = tagEot) : .mark .eot ∈ put := by
  obtain ⟨_, q, hq, _, hn | ⟨x, hx, hxt⟩⟩ := h
  · exact absurd (ht.symm.trans hn) (by decide)
  · have he := Entry.eq_eot_of_tag (hxt.symm.trans ht)
    rw [← he]
    exact hq.subset (List.mem_of_head? hx)

theorem ConvOp.eot_mem_dmrPuts (h : .mark .eot ∈ o.dmrPuts k m) : o = .putYsfEot := by
  cases o with
  | putYsfEot => rfl
  | _ => simp [dmrPuts] at h

theorem ConvOp.eot_mem_ysfPuts (h : .mark .eot ∈ o.ysfPuts k m) : o = .putDmrEot := by
  cases o with
  | putDmrEot => rfl
  | _ => simp [ysfPuts] at h

end

namespace Bridge

variable {e : Env} {b b' : Bridge} {k : CallBook Direction} {as : List Act}

theorem paceDmr_eot_mem (e : Env) (b : Bridge) :
    (.mark .eot ∈ (b.paceDmr e).queues.dmr → .mark .eot ∈ b.queues.dmr) ∧
      (.mark .eot ∈ (b.paceDmr e).queues.ysf → .mark .eot ∈ b.queues.ysf) := by
  rw [paceDmr]
  split
  next => exact ⟨id, id⟩
  next =>
    split
    next =>
      rcases emitDmrFromConv_queues e b.tock with hq | hq
      · rw [hq]
        exact ⟨id, id⟩
      · rw [hq]
        exact ⟨fun h => (by cases h), fun h => (by cases h)⟩
    next => exact ⟨id, id⟩

theorem paceYsf_eot_mem (e : Env) (b : Bridge) :
    (.mark .eot ∈ (b.paceYsf e).queues.dmr → .mark .eot ∈ b.queues.dmr) ∧
      (.mark .eot ∈ (b.paceYsf e).queues.ysf → .mark .eot ∈ b.queues.ysf) := by
  rw [paceYsf]
  split
  next =>
    rcases emitYsfFromConv_queues e b.tock with hq | hq
    · rw [hq]
      exact ⟨id, id⟩
    · rw [hq]
      exact ⟨fun h => (by cases h), fun h => (by cases h)⟩
  next => exact ⟨id, id⟩

/-- The book agrees with the bridge on what is open, all that is closed was ended by its own
side, and the queue that leads to the side of the open call's talker holds no EOT. -/
structure SideInv (b : Bridge) (k : CallBook Direction) : Prop where
  synced : b.queues.Synced
  isOpen : k.current.isSome = b.callActive
  ended : ∀ r ∈ k.closed, r.EndedByOwn
  dmr : k.heading = some .dmrToYsf → .mark .eot ∉ b.queues.dmr
  ysf : k.heading = some .ysfToDmr → .mark .eot ∉ b.queues.ysf

namespace SideInv

theorem current_none (h : SideInv b k) (ha : b.callActive = false) : k.current = none := by
  have ho := h.isOpen
  rw [ha] at ho
  exact Option.isSome_eq_false_iff.1 ho |> Option.isNone_iff_eq_none.1

/-- A step that opens and ends no call. -/
theorem keep (h : SideInv b k) (hs : b'.queues.Synced) (ha : b'.callActive = b.callActive)
    (hd : k.heading = some .dmrToYsf → .mark .eot ∈ b'.queues.dmr → .mark .eot ∈ b.queues.dmr)
    (hy : k.heading = some .ysfToDmr → .mark .eot ∈ b'.queues.ysf → .mark .eot ∈ b.queues.ysf)
    (as : List Act) : SideInv b' (k.note none as b'.callActive) := by
  cases hb : b.callActive with
  | true =>
    have hh : (k.note none as true).heading = k.heading := by
      simp only [CallBook.note, CallBook.heading, Option.map_map]
      rfl
    rw [ha, hb]
    constructor
    · exact hs
    · rw [ha, ← h.isOpen]
      exact Option.isSome_map
    · exact h.ended
    · rw [hh]
      exact fun he hm => h.dmr he (hd he hm)
    · rw [hh]
      exact fun he hm => h.ysf he (hy he hm)
  | false =>
    have hn : k.note none as false = ⟨k.closed, none⟩ := by
      simp only [CallBook.note, h.current_none hb, Option.map_none, Option.toList_none,
        List.append_nil]
    rw [ha, hb, hn]
    refine ⟨hs, ?_, h.ended, nofun, nofun⟩
    rw [ha, hb]
    rfl

/-- A step that opens a call where none was open. -/
theorem opened (h : SideInv b k) (hb : b.callActive = false) (ha : b'.callActive = true)
    (hs : b'.queues.Synced) (d : Direction)
    (hd : d = .dmrToYsf → .mark .eot ∉ b'.queues.dmr)
    (hy : d = .ysfToDmr → .mark .eot ∉ b'.queues.ysf) (as : List Act) (a : Bool) :
    SideInv b' (k.note (some d) as a) := by
  constructor
  · exact hs
  · rw [ha]
    rfl
  · intro r hr
    change r ∈ k.all at hr
    rw [CallBook.all, h.current_none hb, Option.toList_none, List.append_nil] at hr
    exact h.ended r hr
  · exact fun he => hd (Option.some.inj he)
  · exact fun he => hy (Option.some.inj he)

/-- A step that ends the open call with the frame of its own side. -/
theorem closed (h : SideInv b k) (ha : b'.callActive = false) (hs : b'.queues.Synced)
    (hr : ∀ r, k.current = some r → ∃ a ∈ as, r.dir.endsCall a = true) :
    SideInv b' (k.note none as b'.callActive) := by
  rw [ha]
  refine ⟨hs, ?_, ?_, nofun, nofun⟩
  · rw [ha]
    rfl
  · intro r hm
    rcases List.mem_append.1 hm with hm | hm
    · exact h.ended r hm
    · obtain ⟨r', hr', rfl⟩ := Option.map_eq_some_iff.1 (Option.mem_toList.1 hm)
      obtain ⟨a, ham, hae⟩ := hr r' hr'
      exact ⟨a, List.mem_append_right _ ham, hae⟩

end SideInv

/-- Room for every put; while a call is open no DMRD begins another, and neither a DMRD nor a
YSFD ends the call of the other side. -/
def KeepsSides (e : Env) (p : Bridge × CallBook Direction) (ev : BridgeEvent) : Prop :=
  HasRoom e p.1 ev ∧
    match ev with
    | .dmrd _ pkt =>
      (p.1.callActive = true → p.1.beginsDmrCall pkt = false) ∧
      (p.2.heading = some .ysfToDmr → p.1.dmrdPut pkt ≠ some .putDmrEot)
    | .ysfd _ pkt => p.2.heading = some .dmrToYsf → ysfdPut e pkt ≠ some .putYsfEot
    | _ => True

/-- What a DMRD asks for goes on the queue to YSF. -/
theorem dmrdPut_dmrPuts (h : b.dmrdPut pkt = some o) (k : Codec) (m : ModeConv) :
    o.dmrPuts k m = [] := by
  rw [dmrdPut] at h
  split at h
  next =>
    split at h
    next =>
      cases h
      rfl
    next => cases h
  next =>
    split at h
    next =>
      cases h
      rfl
    next =>
      split at h
      next =>
        cases h
        rfl
      next => cases h

theorem ysfdPut_ysfPuts (h : ysfdPut e pkt = some o) (k : Codec) (m : ModeConv) :
    o.ysfPuts k m = [] := by
  rcases ysfdPut_cases h with rfl | rfl | rfl <;> rfl

theorem onDmrd_sideInv (h : SideInv b k) (pkt : List UInt8)
    (hs : (b.onDmrd e pkt).queues.Synced)
    (hbegin : b.callActive = true → b.beginsDmrCall pkt = false)
    (hput : k.heading = some .ysfToDmr → b.dmrdPut pkt ≠ some .putDmrEot) (as : List Act) :
    SideInv (b.onDmrd e pkt) (k.note (if b.beginsDmrCall pkt then some .dmrToYsf else none) as
      (b.onDmrd e pkt).callActive) := by
  have hr := (onDmrd_received e b pkt).active
  cases hb : b.beginsDmrCall pkt with
  | true =>
    have ha : b.callActive = false := by
      by_contra ha
      have hf := hbegin (Bool.eq_true_of_not_eq_false ha)
      rw [hb] at hf
      cases hf
    rw [hb, Bool.or_true] at hr
    refine h.opened ha hr hs .dmrToYsf (fun _ => ?_) nofun as _
    rw [onDmrd_queues_begins hb]
    split
    next => split <;> exact List.not_mem_nil
    next => exact List.not_mem_nil
  | false =>
    rw [hb, Bool.or_false] at hr
    cases ha : b.callActive with
    | true =>
      have hq := onDmrd_queues_active (e := e) ha pkt hb
      refine h.keep hs hr (fun _ hm => ?_) (fun hh hm => ?_) as
      · rw [hq] at hm
        cases ho : b.dmrdPut pkt with
        | none =>
          rw [ho] at hm
          exact hm
        | some o =>
          rw [ho] at hm
          change _ ∈ b.queues.dmr ++ o.dmrPuts _ _ at hm
          rwa [dmrdPut_dmrPuts ho, List.append_nil] at hm
      · rw [hq] at hm
        cases ho : b.dmrdPut pkt with
        | none =>
          rw [ho] at hm
          exact hm
        | some o =>
          rw [ho] at hm
          rcases List.mem_append.1 hm with hm | hm
          · exact hm
          · have he := ConvOp.eot_mem_ysfPuts hm
            rw [he] at ho
            exact absurd ho (hput hh)
    | false =>
      have hq := onDmrd_queues_idle (e := e) ha hb
      refine h.keep hs hr (fun _ hm => ?_) (fun _ hm => ?_) as
      · rwa [hq] at hm
      · rwa [hq] at hm

theorem onYsfd_sideInv (h : SideInv b k) (pkt : List UInt8)
    (hs : (b.onYsfd e pkt).queues.Synced)
    (hput : k.heading = some .dmrToYsf → ysfdPut e pkt ≠ some .putYsfEot) (as : List Act) :
    SideInv (b.onYsfd e pkt)
      (k.note (if !b.callActive && (b.onYsfd e pkt).callActive then some .ysfToDmr else none) as
        (b.onYsfd e pkt).callActive) := by
  cases ha : b.callActive with
  | true =>
    obtain ⟨a, hr, hact⟩ := onYsfd_received e b pkt
    have hr : (b.onYsfd e pkt).callActive = b.callActive := by rw [hr.active, hact ha, ha]
    have hq := onYsfd_queues_active (e := e) ha pkt
    refine h.keep hs hr (fun hh hm => ?_) (fun _ hm => ?_) as
    · rw [hq] at hm
      cases ho : ysfdPut e pkt with
      | none =>
        rw [ho] at hm
        exact hm
      | some o =>
        rw [ho] at hm
        rcases List.mem_append.1 hm with hm | hm
        · exact hm
        · have he := ConvOp.eot_mem_dmrPuts hm
          rw [he] at ho
          exact absurd ho (hput hh)
    · rw [hq] at hm
      cases ho : ysfdPut e pkt with
      | none =>
        rw [ho] at hm
        exact hm
      | some o =>
        rw [ho] at hm
        change _ ∈ b.queues.ysf ++ o.ysfPuts _ _ at hm
        rwa [ysfdPut_ysfPuts ho, List.append_nil] at hm
  | false =>
    rcases onYsfd_queues_idle (e := e) ha pkt with ⟨o, ho, _, hact, hq⟩ | ⟨_, hact, hq⟩
    · rw [hact]
      refine h.opened ha hact hs .ysfToDmr nofun (fun _ => ?_) as _
      rw [hq]
      change _ ∉ [] ++ o.ysfPuts _ _
      rw [ysfdPut_ysfPuts ho]
      exact List.not_mem_nil
    · have hk := h.keep hs (hact.trans ha.symm) (fun _ hm => by rwa [hq] at hm)
        (fun _ hm => by rwa [hq] at hm) as
      rw [hact] at hk ⊢
      exact hk

theorem tick_sideInv (h : SideInv b k) (dmrUp ysfUp : Bool) :
    SideInv (b.tick e dmrUp ysfUp)
      (k.note none (actsSince b (b.tick e dmrUp ysfUp)) (b.tick e dmrUp ysfUp).callActive) := by
  have hs : (b.tick e dmrUp ysfUp).queues.Synced := tick_queues h.synced dmrUp ysfUp
  have hp := PttStep.poll e b dmrUp
  rw [tick] at hs ⊢
  generalize b.pollConnectPtt e dmrUp = b1 at hp hs
  obtain ⟨as, ht, _⟩ := hp.trace
  have hs1 : b1.queues.Synced := by
    rw [hp.queues]
    exact h.synced
  by_cases hup : (!dmrUp || !ysfUp) = true
  · rw [if_pos hup] at hs ⊢
    refine h.keep hs hp.call (fun _ hm => ?_) (fun _ hm => ?_) _
    · rwa [hp.queues] at hm
    · rwa [hp.queues] at hm
  · rw [if_neg hup] at hs ⊢
    have hdir (r : CallRec Direction) (hr : k.current = some r) : k.heading = some r.dir := by
      rw [CallBook.heading, hr]
      rfl
    have hs2 := paceDmr_queues (e := e) hs1
    obtain ⟨hd2, hy2⟩ := paceDmr_eot_mem e b1
    rcases paceDmr_cases e b1 with ⟨ps, ht2, ha2, hc2, _⟩ | ⟨htag, ha2, hc2, ps, p, ht2, hv⟩
    · generalize b1.paceDmr e = b2 at hs hs2 ht2 ha2 hc2 hd2 hy2
      obtain ⟨hd3, hy3⟩ := paceYsf_eot_mem e b2
      rcases paceYsf_cases e b2 with ⟨fs, ht3, ha3, _⟩ | ⟨htag, ha3, _, f, ht3, hf⟩
      · refine h.keep hs (ha3.trans (ha2.trans hp.call)) (fun _ hm => ?_) (fun _ hm => ?_) _
        · rw [← hp.queues]
          exact hd2 (hd3 hm)
        · rw [← hp.queues]
          exact hy2 (hy3 hm)
      · refine h.closed ha3 hs fun r hr => ?_
        have hts : (b2.paceYsf e).trace = b.trace ++ (as ++ ps.map (.dmrd .call) ++
            [.ysfd f, .stop .call, .convReset]) := by
          rw [ht3, ht2, ht, List.append_assoc, List.append_assoc, List.append_assoc]
        rw [actsSince_eq hts]
        cases hrd : r.dir with
        | ysfToDmr =>
          have hm := hy2 (hs2.2.eot_mem htag)
          rw [hp.queues] at hm
          exact absurd hm (h.ysf ((hdir r hr).trans (congrArg some hrd)))
        | dmrToYsf => exact ⟨.ysfd f, by simp, beq_iff_eq.2 hf⟩
    · generalize b1.paceDmr e = b2 at hs ht2 ha2 hc2
      rcases paceYsf_cases e b2 with ⟨fs, ht3, ha3, _⟩ | ⟨htag3, _⟩
      · refine h.closed (ha3.trans ha2) hs fun r hr => ?_
        have hts : (b2.paceYsf e).trace = b.trace ++ (as ++ ps.map (.dmrd .call) ++
            [.dmrd .call p, .stop .call, .convReset] ++ fs.map .ysfd) := by
          rw [ht3, ht2, ht]
          simp only [List.append_assoc]
        rw [actsSince_eq hts]
        cases hrd : r.dir with
        | ysfToDmr => exact ⟨.dmrd .call p, by simp, hv⟩
        | dmrToYsf =>
          have hm := hs1.1.eot_mem htag
          rw [hp.queues] at hm
          exact absurd hm (h.dmr ((hdir r hr).trans (congrArg some hrd)))
      · rw [hc2] at htag3
        exact absurd htag3 (by decide +kernel)

theorem bookedStep_sideInv {p : Bridge × CallBook Direction} (h : SideInv p.1 p.2)
    (ev : BridgeEvent) (hc : KeepsSides e p ev) :
    SideInv (bookedStep e p ev).1 (bookedStep e p ev).2 := by
  obtain ⟨hroom, hc⟩ := hc
  have hs : (p.1.step e ev).queues.Synced := (step_synced_iff h.synced ev).2 hroom
  have h' (c : Clock) : SideInv { p.1 with clock := c } p.2 :=
    ⟨h.synced, h.isOpen, h.ended, h.dmr, h.ysf⟩
  cases ev with
  | dmrd c pkt => exact onDmrd_sideInv (h' c) pkt hs hc.1 hc.2 _
  | ysfd c pkt => exact onYsfd_sideInv (h' c) pkt hs hc _
  | tick c dmrUp ysfUp => exact tick_sideInv (h' c) dmrUp ysfUp
  | aliases db => exact h.keep hs rfl (fun _ hm => hm) (fun _ hm => hm) _

/-- Every call that is over was ended by the VTERM or the TERMINATOR of its own side, and the book
shows an open call exactly while the bridge has one. -/
def CallsEndedByOwn (p : Bridge × CallBook Direction) : Prop :=
  (∀ r ∈ p.2.closed, r.EndedByOwn) ∧ p.2.current.isSome = p.1.callActive

/-- A packet of one side leaves the open call of the other side and its queued voice as they are. -/
def LeavesCall (p : Bridge × CallBook Direction) (ev : BridgeEvent)
    (p' : Bridge × CallBook Direction) : Prop :=
  let kept := p'.1.callActive = true ∧ p'.2.heading = p.2.heading ∧ p'.2.closed = p.2.closed
  match ev with
  | .dmrd _ _ => p.2.heading = some .ysfToDmr → kept ∧ p'.1.conv.dmr = p.1.conv.dmr
  | .ysfd _ _ => p.2.heading = some .dmrToYsf → kept ∧ p'.1.conv.ysf = p.1.conv.ysf
  | _ => True

theorem SideInv.active (h : SideInv b k) (hd : k.heading = some d) : b.callActive = true := by
  obtain ⟨r, hr, _⟩ := Option.map_eq_some_iff.1 hd
  rw [← h.isOpen, hr]
  rfl

theorem note_kept (k : CallBook Direction) (as : List Act) :
    (k.note none as true).heading = k.heading ∧ (k.note none as true).closed = k.closed := by
  refine ⟨?_, rfl⟩
  simp only [CallBook.note, CallBook.heading, Option.map_map]
  rfl

theorem onDmrd_conv_dmr (h : b.callActive = true) (pkt : List UInt8)
    (hn : b.beginsDmrCall pkt = false) : (b.onDmrd e pkt).conv.dmr = b.conv.dmr := by
  have hq := congrArg Queues.conv (onDmrd_queues_active (e := e) h pkt hn)
  change (b.onDmrd e pkt).conv = _ at hq
  rw [hq]
  cases ho : b.dmrdPut pkt with
  | none => rfl
  | some o =>
    have hc := ConvOp.conv_dmr (k := e.codec) (m := b.conv) (dmrdPut_ne_get ho).1
    rw [dmrdPut_dmrPuts ho] at hc
    exact hc

theorem onYsfd_conv_ysf (h : b.callActive = true) (pkt : List UInt8) :
    (b.onYsfd e pkt).conv.ysf = b.conv.ysf := by
  have hq := congrArg Queues.conv (onYsfd_queues_active (e := e) h pkt)
  change (b.onYsfd e pkt).conv = _ at hq
  rw [hq]
  cases ho : ysfdPut e pkt with
  | none => rfl
  | some o =>
    have hc := ConvOp.conv_ysf (k := e.codec) (m := b.conv) (ysfdPut_ne_get ho).2
    rw [ysfdPut_ysfPuts ho] at hc
    exact hc

theorem bookedStep_leavesCall {p : Bridge × CallBook Direction} (h : SideInv p.1 p.2)
    (ev : BridgeEvent) (hc : KeepsSides e p ev) : LeavesCall p ev (bookedStep e p ev) := by
  cases ev with
  | dmrd c pkt =>
    intro hd
    have ha : p.1.callActive = true := h.active hd
    have hn : p.1.beginsDmrCall pkt = false := hc.2.1 ha
    have hact : (p.1.step e (.dmrd c pkt)).callActive = true := by
      have hr := (onDmrd_received e { p.1 with clock := c } pkt).active
      exact hr.trans (Bool.or_eq_true_iff.2 (.inl ha))
    have hb : begun p.1 (p.1.step e (.dmrd c pkt)) (.dmrd c pkt) = none := by
      rw [begun, hn]
      rfl
    obtain ⟨h1, h2⟩ := note_kept p.2 (actsSince p.1 (p.1.step e (.dmrd c pkt)))
    rw [bookedStep, noteCalls, hb, hact]
    exact ⟨⟨rfl, h1, h2⟩, onDmrd_conv_dmr (b := { p.1 with clock := c }) ha pkt hn⟩
  | ysfd c pkt =>
    intro hd
    have ha : p.1.callActive = true := h.active hd
    have hact : (p.1.step e (.ysfd c pkt)).callActive = true := by
      obtain ⟨a, hr, hact⟩ := onYsfd_received e { p.1 with clock := c } pkt
      exact hr.active.trans (hact ha)
    have hb : begun p.1 (p.1.step e (.ysfd c pkt)) (.ysfd c pkt) = none := by
      rw [begun, ha]
      rfl
    obtain ⟨h1, h2⟩ := note_kept p.2 (actsSince p.1 (p.1.step e (.ysfd c pkt)))
    rw [bookedStep, noteCalls, hb, hact]
    exact ⟨⟨rfl, h1, h2⟩, onYsfd_conv_ysf (b := { p.1 with clock := c }) ha pkt⟩
  | tick c dmrUp ysfUp => trivial
  | aliases db => trivial

instance (p : Bridge × CallBook Direction) : Decidable (CallsEndedByOwn p) :=
  inferInstanceAs (Decidable (_ ∧ _))

instance (p : Bridge × CallBook Direction) (ev : BridgeEvent) : Decidable (KeepsSides e p ev) :=
  match ev with
  | .dmrd _ _ => inferInstanceAs (Decidable (_ ∧ _ ∧ _))
  | .ysfd _ _ => inferInstanceAs (Decidable (_ ∧ (_ → _)))
  | .tick _ _ _ => inferInstanceAs (Decidable (_ ∧ True))
  | .aliases _ => inferInstanceAs (Decidable (_ ∧ True))

/-- In a run where every put finds room, no DMRD begins a call while one is open and neither side
ends the call of the other, every call ends with the frame of its own side, and the packets of the
other side leave it and its queued voice as they are. -/
theorem callsEndedByOwn_run (e : Env) (c : Clock) (db : AliasDb) {evs : List BridgeEvent}
    (h : (booked e c db).Meets (KeepsSides e) (booked e c db).init evs) :
    (booked e c db).Always CallsEndedByOwn (booked e c db).init evs ∧
      ∀ pre ev post p, evs = pre ++ ev :: post → (booked e c db).run pre = some p →
        LeavesCall p ev (bookedStep e p ev) := by
  have hstep : ∀ p ev p', SideInv p.1 p.2 → KeepsSides e p ev →
      (booked e c db).step p ev = some p' → SideInv p'.1 p'.2 := by
    intro p ev p' hi hc hs
    cases hs
    exact bookedStep_sideInv hi ev hc
  have hinit : SideInv (booked e c db).init.1 (booked e c db).init.2 :=
    ⟨Queues.reset_synced, rfl, List.forall_mem_nil _, nofun, nofun⟩
  constructor
  · exact h.always (I := fun p => SideInv p.1 p.2) hstep (fun p hi => ⟨hi.ended, hi.isOpen⟩) hinit
  · rintro pre ev post p rfl hr
    have hi : SideInv p.1 p.2 :=
      Machine.runFrom_invariant (I := fun p => SideInv p.1 p.2) hstep hinit h.append_left hr
    exact bookedStep_leavesCall hi ev (h.next hr rfl)

/-- A DMR voice burst arrives during a YSF→DMR call, which goes on to its VTERM. -/
theorem callsEndedByOwn_run_sample :
    (booked sampleEnv (.stopped 0) noAliases).Always CallsEndedByOwn
        (booked sampleEnv (.stopped 0) noAliases).init
        [ysfdAt 1000 headerFich, tickAt 1100 true true, ysfdAt 1200 communicationsFich,
         dmrdAt 1250 (voiceB15 1), tickAt 1300 true true, ysfdAt 1350 terminatorFich,
         tickAt 1400 true true, tickAt 1500 true true] ∧
      ∃ p, (booked sampleEnv (.stopped 0) noAliases).run
          [ysfdAt 1000 headerFich, tickAt 1100 true true, ysfdAt 1200 communicationsFich] =
            some p ∧
        p.2.heading = some .ysfToDmr ∧ p.1.conv.dmr.n = 5 ∧
        LeavesCall p (dmrdAt 1250 (voiceB15 1))
          (bookedStep sampleEnv p (dmrdAt 1250 (voiceB15 1))) := by
  have hmeets : (booked sampleEnv (.stopped 0) noAliases).Meets (KeepsSides sampleEnv)
      (booked sampleEnv (.stopped 0) noAliases).init
      [ysfdAt 1000 headerFich, tickAt 1100 true true, ysfdAt 1200 communicationsFich,
       dmrdAt 1250 (voiceB15 1), tickAt 1300 true true, ysfdAt 1350 terminatorFich,
       tickAt 1400 true true, tickAt 1500 true true] := by
    simp only [booked_meets_cons]
    refine ⟨?_, ?_, ?_, ?_, ?_, ?_, ?_, ?_, trivial⟩ <;> decide +kernel
  have hrun := callsEndedByOwn_run sampleEnv (.stopped 0) noAliases hmeets
  have hp : ((booked sampleEnv (.stopped 0) noAliases).run
      [ysfdAt 1000 headerFich, tickAt 1100 true true, ysfdAt 1200 communicationsFich]).map
        (fun p => (p.2.heading, p.1.conv.dmr.n)) = some (some .ysfToDmr, 5) := by
    decide +kernel
  obtain ⟨p, hp, hs⟩ := Option.map_eq_some_iff.1 hp
  obtain ⟨hd, hn⟩ := Prod.mk.inj hs
  exact ⟨hrun.1, p, hp, hd, hn, hrun.2 _ _ _ p rfl hp⟩

/-- A DMR terminator received during a YSF→DMR call ends it with a YSF TERMINATOR. -/
theorem not_callsEndedByOwn_run :
    ¬(booked sampleEnv (.stopped 0) noAliases).Always CallsEndedByOwn
      (booked sampleEnv (.stopped 0) noAliases).init
      [ysfdAt 1000 headerFich, ysfdAt 1100 communicationsFich, dmrdAt 1150 vtermB15,
       tickAt 1200 true true, tickAt 1300 true true] :=
  fun h => absurd (h.foldl (f := bookedStep sampleEnv) fun _ _ => rfl) (by decide +kernel)

end Bridge

end AdnBridge
