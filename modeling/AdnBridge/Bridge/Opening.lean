import AdnBridge.Bridge.Calls

namespace AdnBridge
set_option autoImplicit true

/-- The first frame sent to YSF for a DMR→YSF call, if any, is a HEADER. -/
def CallRec.OpensWithYsfHeader (r : CallRec Direction) : Prop :=
  r.dir = .dmrToYsf → ∀ f ∈ r.ysfFrames.head?, f.fi = ysfFiHeader

instance (r : CallRec Direction) : Decidable r.OpensWithYsfHeader :=
  inferInstanceAs (Decidable (_ → _))

/-- A DMR→YSF call is open, and nothing has been sent for it. -/
def CallBook.Awaits (k : CallBook Direction) : Prop :=
  ∃ r ∈ k.current, r.dir = .dmrToYsf ∧ r.ysfFrames = []

instance (k : CallBook Direction) : Decidable k.Awaits :=
  decidable_of_iff (k.current.any fun r => r.dir == .dmrToYsf && r.ysfFrames.isEmpty) (by
    simp [CallBook.Awaits, Option.any_eq_true])

namespace Bridge

variable {e : Env} {b b' : Bridge} {k : CallBook Direction} {as : List Act}

theorem Silent.ysfFrames (h : Silent b b') : (actsSince b b').filterMap Act.ysfFrame = [] := by
  obtain ⟨as, ht, ha⟩ := h
  rw [actsSince_eq ht, List.filterMap_eq_nil_iff]
  intro a hm
  have hf := ha a hm
  cases a with
  | ysfd f => cases hf
  | _ => rfl

/-- Every DMR→YSF call that has sent anything began with a HEADER; while the open one has sent
nothing, its header is in front of the queue to YSF. -/
structure OpeningInv (c : Channel) (k : CallBook Direction) : Prop where
  opens : ∀ r ∈ k.all, r.OpensWithYsfHeader
  front : k.Awaits → ∃ q, c.Holds 13 (.mark .header :: q)

namespace OpeningInv

variable {c c' : Channel}

theorem add_opens {r : CallRec Direction} (h : r.OpensWithYsfHeader)
    (hf : r.dir = .dmrToYsf → r.ysfFrames = [] →
      ∀ f ∈ (as.filterMap Act.ysfFrame).head?, f.fi = ysfFiHeader) :
    (r.add as).OpensWithYsfHeader := by
  intro hd f hm
  rw [CallRec.ysfFrames_add] at hm
  cases hr : r.ysfFrames with
  | nil =>
    rw [hr, List.nil_append] at hm
    exact hf hd hr f hm
  | cons f' fs =>
    rw [hr] at hm
    exact h hd f (by rw [hr]; exact hm)

/-- A step that opens no call: what it sends first for a waiting call is a HEADER, and until it
sends anything the header stays in front. -/
theorem next (h : OpeningInv c k)
    (hf : k.Awaits → ∀ f ∈ (as.filterMap Act.ysfFrame).head?, f.fi = ysfFiHeader)
    (hc : k.Awaits → as.filterMap Act.ysfFrame = [] → active = true →
      ∃ q, c'.Holds 13 (.mark .header :: q)) :
    OpeningInv c' (k.note none as active) := by
  have hold : ∀ r ∈ k.closed, r.OpensWithYsfHeader := fun r hr =>
    h.opens r (List.mem_append_left _ hr)
  have hnew : ∀ r ∈ (k.current.map (·.add as)).toList, r.OpensWithYsfHeader := by
    intro r hr
    obtain ⟨r', hr', rfl⟩ := Option.map_eq_some_iff.1 (Option.mem_toList.1 hr)
    have ho := h.opens r' (List.mem_append_right _ (Option.mem_toList.2 hr'))
    exact add_opens ho fun hd he => hf ⟨r', hr', hd, he⟩
  cases ha : active with
  | true =>
    refine ⟨List.forall_mem_append.2 ⟨hold, hnew⟩, ?_⟩
    rintro ⟨r, hr, hd, he⟩
    obtain ⟨r', hr', rfl⟩ := Option.map_eq_some_iff.1 hr
    rw [CallRec.ysfFrames_add, List.append_eq_nil_iff] at he
    exact hc ⟨r', hr', hd, he.1⟩ he.2 ha
  | false =>
    constructor
    · intro r hr
      change r ∈ (k.closed ++ _) ++ [] at hr
      rw [List.append_nil] at hr
      exact List.forall_mem_append.2 ⟨hold, hnew⟩ r hr
    · rintro ⟨r, hr, _⟩
      cases hr

/-- A step that opens a call. -/
theorem opened (h : OpeningInv c k) (hs : as.filterMap Act.ysfFrame = []) (d : Direction)
    (hc : d = .dmrToYsf → ∃ q, c'.Holds 13 (.mark .header :: q)) (active : Bool) :
    OpeningInv c' (k.note (some d) as active) := by
  constructor
  · refine List.forall_mem_append.2 ⟨h.opens, List.forall_mem_singleton.2 ?_⟩
    intro _ f hm
    change f ∈ (as.filterMap Act.ysfFrame).head? at hm
    rw [hs] at hm
    cases hm
  · rintro ⟨r, hr, hd, _⟩
    cases hr
    exact hc hd

end OpeningInv

/-- A voice header that begins a call does not follow another one, and until the call has sent
anything the queue to YSF has room for what a DMRD puts behind the header. -/
def KeepsYsfHeader (e : Env) (p : Bridge × CallBook Direction) : BridgeEvent → Prop
  | .dmrd c pkt =>
    (dmrdIsHeader pkt = true → p.1.beginsDmrCall pkt = true → p.1.dmrLastDtype ≠ dmrdDtypeVhead) ∧
    (p.2.Awaits → HasRoom e p.1 (.dmrd c pkt))
  | _ => True

instance (e : Env) (p : Bridge × CallBook Direction) (ev : BridgeEvent) :
    Decidable (KeepsYsfHeader e p ev) :=
  match ev with
  | .dmrd _ _ => inferInstanceAs (Decidable ((_ → _ → _) ∧ (_ → _)))
  | .ysfd _ _ | .tick _ _ _ | .aliases _ => instDecidableTrue

theorem holds_reset_header (k : Codec) :
    ((Queues.reset.put k .putDmrHeader).conv.ysf).Holds 13 [.mark .header] :=
  @Channel.Holds.addAll _ _ _ (by decide) Channel.holds_empty [.mark .header]
    ((Channel.holds_empty.room_iff 1).2 (by decide))

/-- What stands on the queue to YSF when a call has begun starts with its header. -/
theorem onDmrd_begins_front (hb : b.beginsDmrCall pkt = true)
    (hd : dmrdIsHeader pkt = true → b.dmrLastDtype ≠ dmrdDtypeVhead) :
    ∃ q, (b.onDmrd e pkt).conv.ysf.Holds 13 (.mark .header :: q) := by
  have hq := congrArg Queues.conv (onDmrd_queues_begins (e := e) hb)
  change (b.onDmrd e pkt).conv = _ at hq
  rw [hq]
  cases hh : dmrdIsHeader pkt with
  | true =>
    rw [if_pos rfl, if_pos (hd hh)]
    exact ⟨[], holds_reset_header e.codec⟩
  | false =>
    have hput (m : ModeConv) : (ConvOp.conv e.codec m (.putDmrVoice ((pkt.drop 20).take 33))).ysf =
        m.ysf.addAll (ConvOp.ysfPuts e.codec m (.putDmrVoice ((pkt.drop 20).take 33))) :=
      ConvOp.conv_ysf (by simp)
    rw [if_neg (by decide), Queues.put_conv, hput]
    refine ⟨_, (holds_reset_header e.codec).addAll (by decide) ?_⟩
    exact ((holds_reset_header e.codec).room_iff 3).2 (by decide)

theorem onDmrd_openingInv (h : OpeningInv b.conv.ysf k) (pkt : List UInt8)
    (hd : dmrdIsHeader pkt = true → b.beginsDmrCall pkt = true → b.dmrLastDtype ≠ dmrdDtypeVhead)
    (hr : k.Awaits → ∀ c, HasRoom e b (.dmrd c pkt)) :
    OpeningInv (b.onDmrd e pkt).conv.ysf
      (k.note (if b.beginsDmrCall pkt then some .dmrToYsf else none)
        (actsSince b (b.onDmrd e pkt)) (b.onDmrd e pkt).callActive) := by
  have hs := (onDmrd_received e b pkt).silent.ysfFrames
  cases hb : b.beginsDmrCall pkt with
  | true => exact h.opened hs .dmrToYsf (fun _ => onDmrd_begins_front hb fun hh => hd hh hb) _
  | false =>
    refine h.next (fun _ f hm => ?_) fun hw _ _ => ?_
    · rw [hs] at hm
      cases hm
    · obtain ⟨q, hq⟩ := h.front hw
      cases ha : b.callActive with
      | false =>
        have hc := congrArg Queues.conv (onDmrd_queues_idle (e := e) ha hb)
        change (b.onDmrd e pkt).conv = b.conv at hc
        rw [hc]
        exact ⟨q, hq⟩
      | true =>
        have hc := congrArg Queues.conv (onDmrd_queues_active (e := e) ha pkt hb)
        change (b.onDmrd e pkt).conv = _ at hc
        rw [hc]
        cases ho : b.dmrdPut pkt with
        | none => exact ⟨q, hq⟩
        | some o =>
          have hroom := hr hw b.clock o (by rw [putOnQueues, ha, hb]; exact ho)
          have hput : (o.conv e.codec b.conv).ysf = b.conv.ysf.addAll (o.ysfPuts e.codec b.conv) :=
            ConvOp.conv_ysf (dmrdPut_ne_get ho).2
          change ∃ q, (o.conv e.codec b.conv).ysf.Holds 13 _
          rw [hput]
          exact ⟨_, hq.addAll (by decide) ((o.room_iff e.codec b.conv).1 hroom).2⟩

/-- A YSFD leaves the queue to YSF as it is, unless it begins a call. -/
theorem onYsfd_openingInv (h : OpeningInv b.conv.ysf k) (pkt : List UInt8) :
    OpeningInv (b.onYsfd e pkt).conv.ysf
      (k.note (if !b.callActive && (b.onYsfd e pkt).callActive then some .ysfToDmr else none)
        (actsSince b (b.onYsfd e pkt)) (b.onYsfd e pkt).callActive) := by
  obtain ⟨a, hrec, hact⟩ := onYsfd_received e b pkt
  have hs := hrec.silent.ysfFrames
  have hkeep (hc : (b.onYsfd e pkt).conv.ysf = b.conv.ysf) (active : Bool) :
      OpeningInv (b.onYsfd e pkt).conv.ysf
        (k.note none (actsSince b (b.onYsfd e pkt)) active) := by
    refine h.next (fun _ f hm => ?_) fun hw _ _ => ?_
    · rw [hs] at hm
      cases hm
    · rw [hc]
      exact h.front hw
  cases ha : b.callActive with
  | true =>
    apply hkeep
    have hc := congrArg Queues.conv (onYsfd_queues_active (e := e) ha pkt)
    change (b.onYsfd e pkt).conv = _ at hc
    rw [hc]
    cases ho : ysfdPut e pkt with
    | none => rfl
    | some o =>
      have hput : (o.conv e.codec b.conv).ysf = b.conv.ysf.addAll (o.ysfPuts e.codec b.conv) :=
        ConvOp.conv_ysf (ysfdPut_ne_get ho).2
      change (o.conv e.codec b.conv).ysf = _
      rw [hput, ysfdPut_ysfPuts ho]
      rfl
  | false =>
    rcases onYsfd_queues_idle (e := e) ha pkt with ⟨o, _, _, hon, _⟩ | ⟨_, hoff, hq⟩
    · rw [hon]
      exact h.opened hs .ysfToDmr nofun _
    · rw [hoff]
      apply hkeep
      exact congrArg (fun q => q.conv.ysf) hq

theorem tick_openingInv (h : OpeningInv b.conv.ysf k) (dmrUp ysfUp : Bool) :
    OpeningInv (b.tick e dmrUp ysfUp).conv.ysf
      (k.note none (actsSince b (b.tick e dmrUp ysfUp)) (b.tick e dmrUp ysfUp).callActive) := by
  have hp := PttStep.poll e b dmrUp
  rw [tick]
  generalize b.pollConnectPtt e dmrUp = b1 at hp
  have hs1 := (Silent.ptt hp).ysfFrames
  obtain ⟨as, ht, _⟩ := hp.trace
  rw [actsSince_eq ht] at hs1
  have hconv : b1.conv.ysf = b.conv.ysf := by rw [hp.conv]
  by_cases hup : (!dmrUp || !ysfUp) = true
  · rw [if_pos hup, actsSince_eq ht, hconv]
    refine h.next (fun _ f hm => ?_) fun hw _ _ => h.front hw
    rw [hs1] at hm
    cases hm
  · have hdmr (ps : List Dmrd) : (ps.map (Act.dmrd .call)).filterMap Act.ysfFrame = [] := by
      rw [List.filterMap_map]
      exact List.filterMap_eq_nil_iff.2 fun _ _ => rfl
    have hysf (fs : List Ysfd) : (fs.map Act.ysfd).filterMap Act.ysfFrame = fs := by
      rw [List.filterMap_map]
      exact List.filterMap_some
    have hhead (hw : k.Awaits) (m : ModeConv) (hm : m.ysf = b.conv.ysf) :
        m.getYsf.1 = tagHeader := by
      obtain ⟨q, hq⟩ := h.front hw
      rw [← hm] at hq
      obtain ⟨c', hc, _⟩ := hq.get_some (show Regroup.pull 5 _ = some ([.mark .header], q) from rfl)
      rw [ModeConv.getYsf, hc]
      rfl
    rw [if_neg hup]
    rcases paceDmr_cases e b1 with ⟨ps, ht2, ha2, hc2, _⟩ | ⟨_, ha2, hc2, ps, p, ht2, _⟩
    · generalize b1.paceDmr e = b2 at ht2 ha2 hc2
      rcases paceYsf_cases e b2 with ⟨fs, ht3, ha3, _, hh⟩ | ⟨htag, ha3, _, f, ht3, _⟩
      · have hts : (b2.paceYsf e).trace = b.trace ++ (as ++ ps.map (.dmrd .call) ++
            fs.map .ysfd) := by
          rw [ht3, ht2, ht]
          simp only [List.append_assoc]
        rw [actsSince_eq hts]
        have hfm : (as ++ ps.map (Act.dmrd .call) ++ fs.map Act.ysfd).filterMap Act.ysfFrame = fs := by
          rw [List.filterMap_append, List.filterMap_append, hs1, hdmr, hysf]
          rfl
        refine h.next (fun hw f hm => ?_) fun hw he _ => ?_
        · rw [hfm] at hm
          rcases hh (hhead hw b2.conv (hc2.trans hconv)) with ⟨rfl, _⟩ | ⟨f', rfl, hf'⟩
          · cases hm
          · cases hm
            exact hf'
        · rw [hfm] at he
          rcases hh (hhead hw b2.conv (hc2.trans hconv)) with ⟨_, hc3⟩ | ⟨f', rfl, _⟩
          · rw [hc3, hc2, hconv]
            exact h.front hw
          · cases he
      · rw [ha3]
        refine h.next (fun hw => ?_) fun _ _ h => by cases h
        exact absurd ((hhead hw b2.conv (hc2.trans hconv)).symm.trans htag) (by decide)
    · generalize b1.paceDmr e = b2 at ht2 ha2 hc2
      have hempty : b2.conv.getYsf.1 = tagNoData := by
        rw [hc2]
        decide +kernel
      rcases paceYsf_cases e b2 with ⟨fs, ht3, ha3, hn, _⟩ | ⟨htag, _⟩
      · rw [hn hempty, List.map_nil, List.append_nil] at ht3
        have hts : (b2.paceYsf e).trace = b.trace ++ (as ++ ps.map (.dmrd .call) ++
            [.dmrd .call p, .stop .call, .convReset]) := by
          rw [ht3, ht2, ht]
          simp only [List.append_assoc]
        rw [actsSince_eq hts, ha3, ha2]
        refine h.next (fun hw f hm => ?_) fun _ _ h => by cases h
        rw [List.filterMap_append, List.filterMap_append, hs1, hdmr] at hm
        cases hm
      · exact absurd (hempty.symm.trans htag) (by decide)

theorem bookedStep_openingInv {p : Bridge × CallBook Direction} (h : OpeningInv p.1.conv.ysf p.2)
    (ev : BridgeEvent) (hc : KeepsYsfHeader e p ev) :
    OpeningInv (bookedStep e p ev).1.conv.ysf (bookedStep e p ev).2 := by
  cases ev with
  | dmrd c pkt =>
    exact onDmrd_openingInv (b := { p.1 with clock := c }) h pkt hc.1 fun hw _ => hc.2 hw
  | ysfd c pkt => exact onYsfd_openingInv (b := { p.1 with clock := c }) h pkt
  | tick c dmrUp ysfUp => exact tick_openingInv (b := { p.1 with clock := c }) h dmrUp ysfUp
  | aliases db =>
    have hn : (actsSince p.1 (p.1.step e (.aliases db))).filterMap Act.ysfFrame = [] :=
      Silent.ysfFrames (.refl p.1)
    refine h.next (fun _ f hm => ?_) fun hw _ _ => h.front hw
    rw [hn] at hm
    cases hm

def DmrCallsOpenWithHeader (p : Bridge × CallBook Direction) : Prop :=
  ∀ r ∈ p.2.all, r.OpensWithYsfHeader

instance (p : Bridge × CallBook Direction) : Decidable (DmrCallsOpenWithHeader p) :=
  List.decidableBAll _ _

/-- In a run where no voice header begins a call right after another one, and where a call that
has sent nothing finds room, the first frame sent for every DMR→YSF call is a HEADER. -/
theorem dmrCallsOpenWithHeader_run (e : Env) (c : Clock) (db : AliasDb) {evs : List BridgeEvent}
    (h : (booked e c db).Meets (KeepsYsfHeader e) (booked e c db).init evs) :
    (booked e c db).Always DmrCallsOpenWithHeader (booked e c db).init evs := by
  refine h.always (I := fun p => OpeningInv p.1.conv.ysf p.2) (fun p ev p' hi hc hs => ?_)
    (fun _ hi r hr => hi.opens r hr) ?_
  · cases hs
    exact bookedStep_openingInv hi ev hc
  · exact ⟨List.forall_mem_nil _, fun ⟨_, hr, _⟩ => nomatch hr⟩

/-- `sampleDmrd` from another stream. -/
def otherDmrd (b15 : UInt8) : List UInt8 :=
  dmrdMagic ++ [0, 0, 1, 2, 0, 0, 3, 0, 0, 0, 9, b15, 0x1D, 0x1C, 0x1B, 0x1A] ++
    List.replicate 35 0

/-- A call with a repeated voice header, and one that replaces it after voice. -/
theorem dmrCallsOpenWithHeader_run_sample :
    (booked sampleEnv (.stopped 0) noAliases).Always DmrCallsOpenWithHeader
      (booked sampleEnv (.stopped 0) noAliases).init
      [dmrdAt 1000 vheadB15, dmrdAt 1010 vheadB15, dmrdAt 1060 (voiceB15 0), tickAt 1100 true true,
       .dmrd (.stopped 1200) (otherDmrd vheadB15), tickAt 1300 true true] := by
  refine dmrCallsOpenWithHeader_run sampleEnv (.stopped 0) noAliases ?_
  simp only [booked_meets_cons]
  refine ⟨?_, ?_, ?_, ?_, ?_, ?_, trivial⟩ <;> decide +kernel

/-- The voice header of a second stream right after that of the first is taken for a repeat. -/
theorem not_dmrCallsOpenWithHeader_run :
    ¬(booked sampleEnv (.stopped 0) noAliases).Always DmrCallsOpenWithHeader
      (booked sampleEnv (.stopped 0) noAliases).init
      [dmrdAt 1000 vheadB15, .dmrd (.stopped 1060) (otherDmrd vheadB15),
       .dmrd (.stopped 1120) (otherDmrd (voiceB15 0)), .dmrd (.stopped 1180) (otherDmrd (voiceB15 1)),
       tickAt 1200 true true] :=
  fun h => absurd (h.foldl (f := bookedStep sampleEnv) fun _ _ => rfl) (by decide +kernel)

end Bridge

end AdnBridge
