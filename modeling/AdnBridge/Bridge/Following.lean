import AdnBridge.Bridge.Calls

namespace AdnBridge
set_option autoImplicit true

/-- What the bridge has accepted of the next YSF call while the one before is still being sent. -/
structure Following where
  ended : Bool
  voice : List (Vector UInt8 9)
  rf : Int

namespace Following

def none : Following := ⟨false, [], 0⟩

/-- `ended` is set by the TERMINATOR of the open call; from then on the talker of a HEADER and the
sub-frames of the voice are those of the next call. -/
def accept (e : Env) (f : Following) (rf : Int) : ConvOp → Following
  | .putYsfEot => { f with ended := true }
  | .putYsfHeader => if f.ended then { f with rf := rf } else f
  | .putYsfPayload p =>
    if f.ended then { f with voice := f.voice ++ (List.finRange 5).map (e.codec.ysfToDmr p) } else f
  | _ => f

def note (e : Env) (f : Following) (b : Bridge) (ev : BridgeEvent) (b' : Bridge) : Following :=
  if b.callActive && b'.callActive then
    match ev with
    | .ysfd _ pkt => ((Bridge.ysfdPut e pkt).map (f.accept e b'.ysfRfId)).getD f
    | .dmrd _ pkt => if b.beginsDmrCall pkt then none else f
    | _ => f
  else none

end Following

/-- The packet holds the sub-frame. -/
def Dmrd.Carries (p : Dmrd) (v : Vector UInt8 9) : Prop :=
  ∃ x y z : Vector UInt8 9, v ∈ [x, y, z] ∧
    p.voice33 = some (ModeConv.voice33 [x.toList, y.toList, z.toList])

namespace Bridge

variable {e : Env} {b b' : Bridge} {ev : BridgeEvent}

/-- Ticks, and the TERMINATOR of a YSF call. -/
def Closing (e : Env) : BridgeEvent → Prop
  | .tick _ _ _ => True
  | .ysfd _ pkt => ysfdPut e pkt = some .putYsfEot
  | _ => False

/-- A voice sub-frame gets out as part of a new call of this talker, in a packet behind a voice
header, once its call is over and the queue has been drained. -/
def SentNext (e : Env) (b : Bridge) (old : UInt32) (rf : Int) (v : Vector UInt8 9) : Prop :=
  ∃ evs : List BridgeEvent, (∀ ev ∈ evs, Closing e ev) ∧ ∃ p q,
    [.dmrd .call p, .dmrd .call q].Sublist (actsSince b (evs.foldl (step e) b)) ∧
    p.isVhead = true ∧ p.stream ≠ old ∧ q.stream = p.stream ∧ q.Carries v ∧
    p.src = dmrIdRf24 rf ∧ q.src = dmrIdRf24 rf

/-- The event ends a call with its VTERM. -/
def SendsVterm (e : Env) (b : Bridge) (ev : BridgeEvent) : Prop :=
  ∃ p : Dmrd, .dmrd .call p ∈ actsSince b (b.step e ev) ∧ p.isVterm = true

/-- No call is open, and nothing is queued. -/
def Idle (b : Bridge) : Prop := b.callActive = false ∧ b.conv = .reset

theorem PttStep.idle (h : PttStep b b') (hb : b.Idle) : b'.Idle :=
  ⟨h.call.trans hb.1, h.conv.trans hb.2⟩

theorem getDmr_reset : ModeConv.reset.getDmr.1 = tagNoData ∧
    ModeConv.reset.getDmr.2.2 = .reset := by
  have h := (Channel.holds_empty (w := 9)).get_none (g := 3) (by decide) rfl
  constructor
  · exact congrArg Prod.fst h
  · exact congrArg (fun r => (⟨.empty, r.2.2⟩ : ModeConv)) h

theorem getYsf_reset : ModeConv.reset.getYsf.1 = tagNoData ∧
    ModeConv.reset.getYsf.2.2 = .reset := by
  have h := (Channel.holds_empty (w := 13)).get_none (g := 5) (by decide) rfl
  constructor
  · exact congrArg Prod.fst h
  · exact congrArg (fun r => (⟨r.2.2, .empty⟩ : ModeConv)) h

theorem paceDmr_idle (e : Env) (h : b.Idle) : (b.paceDmr e).Idle ∧ Silent b (b.paceDmr e) := by
  rw [paceDmr]
  split
  next => exact ⟨h, .refl b⟩
  next =>
    split
    next =>
      have ht : b.tock.conv.getDmr.1 = tagNoData := by
        rw [show b.tock.conv = .reset from h.2]
        exact getDmr_reset.1
      obtain ⟨ha, hc, ps, htr, hps, _⟩ := emitDmrFromConv_other e b.tock (by rw [ht]; decide)
      rw [hps ht, List.map_nil] at htr
      refine ⟨⟨ha.trans h.1, ?_⟩, [], htr, List.forall_mem_nil _⟩
      rw [hc, show b.tock.conv = .reset from h.2]
      exact getDmr_reset.2
    next => exact ⟨h, .refl b⟩

theorem paceYsf_idle (e : Env) (h : b.Idle) : (b.paceYsf e).Idle ∧ Silent b (b.paceYsf e) := by
  rw [paceYsf]
  split
  next =>
    have ht : b.tock.conv.getYsf.1 = tagNoData := by
      rw [show b.tock.conv = .reset from h.2]
      exact getYsf_reset.1
    obtain ⟨ha, hc, fs, htr, hfs, _⟩ := emitYsfFromConv_other e b.tock (by rw [ht]; decide)
    rw [hfs ht, List.map_nil] at htr
    refine ⟨⟨ha.trans h.1, ?_⟩, [], htr, List.forall_mem_nil _⟩
    rw [hc, show b.tock.conv = .reset from h.2]
    exact getYsf_reset.2
  next => exact ⟨h, .refl b⟩

/-- With no call open and nothing queued, neither ticks nor a TERMINATOR bring anything out. -/
theorem closing_idle (h : b.Idle) (hev : Closing e ev) :
    (b.step e ev).Idle ∧ Silent b (b.step e ev) := by
  cases ev with
  | tick c dmrUp ysfUp =>
    have hp := PttStep.poll e { b with clock := c } dmrUp
    have h1 := hp.idle h
    have hs1 := Silent.ptt hp
    change Idle (tick e { b with clock := c } dmrUp ysfUp) ∧
      Silent { b with clock := c } (tick e { b with clock := c } dmrUp ysfUp)
    rw [tick]
    split
    next => exact ⟨h1, hs1⟩
    next =>
      obtain ⟨h2, hs2⟩ := paceDmr_idle e h1
      obtain ⟨h3, hs3⟩ := paceYsf_idle e h2
      exact ⟨h3, hs1.trans (hs2.trans hs3)⟩
  | ysfd c pkt =>
    have hidle := onYsfd_queues_idle (e := e) (b := { b with clock := c }) h.1 pkt
    obtain ⟨_, hr, _⟩ := onYsfd_received e { b with clock := c } pkt
    rcases hidle with ⟨o, ho, hne, _⟩ | ⟨_, ha, hq⟩
    · rw [hev] at ho
      exact absurd (Option.some.inj ho).symm hne
    · exact ⟨⟨ha, (congrArg Queues.conv hq).trans h.2⟩, hr.silent⟩
  | dmrd c pkt => exact hev.elim
  | aliases db => exact hev.elim

theorem closing_run_silent (h : b.Idle) {evs : List BridgeEvent} (hevs : ∀ ev ∈ evs, Closing e ev) :
    Silent b (evs.foldl (step e) b) := by
  induction evs generalizing b with
  | nil => exact .refl b
  | cons ev evs ih =>
    obtain ⟨hev, hevs⟩ := List.forall_mem_cons.1 hevs
    obtain ⟨h1, hs⟩ := closing_idle h hev
    exact hs.trans (ih h1 hevs)

theorem Silent.not_mem (h : Silent b b') {a : Act} (ha : a.isFrame = true) :
    a ∉ actsSince b b' := by
  obtain ⟨as, ht, hf⟩ := h
  rw [actsSince_eq ht]
  intro hm
  exact absurd ((hf a hm).symm.trans ha) Bool.false_ne_true

theorem Idle.not_sentNext (h : b.Idle) (old : UInt32) (rf : Int) (v : Vector UInt8 9) :
    ¬SentNext e b old rf v := by
  rintro ⟨evs, hevs, p, q, hsub, _⟩
  exact (closing_run_silent h hevs).not_mem rfl (hsub.subset List.mem_cons_self)

/-- The reset at the end of a call empties the converter. -/
theorem idle_of_sendsVterm (h : SendsVterm e b (.tick c dmrUp ysfUp)) :
    (b.step e (.tick c dmrUp ysfUp)).Idle := by
  obtain ⟨p, hm, hv⟩ := h
  have hp := PttStep.poll e { b with clock := c } dmrUp
  have hs1 := Silent.ptt hp
  change .dmrd .call p ∈ actsSince { b with clock := c }
    (tick e { b with clock := c } dmrUp ysfUp) at hm
  change Idle (tick e { b with clock := c } dmrUp ysfUp)
  generalize { b with clock := c } = b at hp hs1 hm ⊢
  rw [tick] at hm ⊢
  generalize b.pollConnectPtt e dmrUp = b1 at hp hs1 hm
  obtain ⟨as, ht, hf⟩ := hs1
  have has : .dmrd .call p ∉ as := fun hm => by cases hf _ hm
  by_cases hup : (!dmrUp || !ysfUp) = true
  · rw [if_pos hup, actsSince_eq ht] at hm
    exact absurd hm has
  · rw [if_neg hup] at hm ⊢
    rcases paceDmr_cases e b1 with ⟨ps, ht2, _, _, _, hps⟩ | ⟨_, ha, hc, _⟩
    · have hout (acts : List Act) (ht3 : ((b1.paceDmr e).paceYsf e).trace =
          (b1.paceDmr e).trace ++ acts) (hacts : .dmrd .call p ∉ acts) : False := by
        have hts : ((b1.paceDmr e).paceYsf e).trace =
            b.trace ++ (as ++ ps.map (.dmrd .call) ++ acts) := by
          rw [ht3, ht2, ht]
          simp only [List.append_assoc]
        rw [actsSince_eq hts, List.mem_append, List.mem_append, List.mem_map] at hm
        rcases hm with (hm | ⟨p', hm, he⟩) | hm
        · exact has hm
        · cases he
          exact absurd ((hps p hm).symm.trans hv) Bool.false_ne_true
        · exact hacts hm
      rcases paceYsf_cases e (b1.paceDmr e) with ⟨fs, ht3, _⟩ | ⟨_, _, _, f, ht3, _⟩
      · exact (hout _ ht3 (by simp)).elim
      · exact (hout _ ht3 (by simp)).elim
    · exact (paceYsf_idle e ⟨ha, hc⟩).1

def followingStep (e : Env) (p : Bridge × Following) (ev : BridgeEvent) : Bridge × Following :=
  (p.1.step e ev, p.2.note e p.1 ev (p.1.step e ev))

/-- The bridge after a run, with what it has accepted of the next YSF call. -/
def followingRun (e : Env) (c : Clock) (db : AliasDb) (evs : List BridgeEvent) :
    Bridge × Following :=
  evs.foldl (followingStep e) (init c db, .none)

/-- After the VTERM of a call, the voice of the next one that was accepted before it is sent
exactly when there is none. -/
theorem sentNext_iff (e : Env) (c : Clock) (db : AliasDb) (evs : List BridgeEvent)
    (cl : Clock) (dmrUp ysfUp : Bool)
    (h : SendsVterm e (followingRun e c db evs).1 (.tick cl dmrUp ysfUp)) :
    (∀ v ∈ (followingRun e c db evs).2.voice,
      SentNext e ((followingRun e c db evs).1.step e (.tick cl dmrUp ysfUp))
        (followingRun e c db evs).1.dmrStreamId (followingRun e c db evs).2.rf v) ↔
      (followingRun e c db evs).2.voice = [] := by
  have hidle := idle_of_sendsVterm h
  constructor
  · intro hall
    apply List.eq_nil_iff_forall_not_mem.2
    intro v hv
    exact hidle.not_sentNext _ _ v (hall v hv)
  · intro hnil v hv
    rw [hnil] at hv
    cases hv

/-- A call that has been sent up to its EOT. -/
def endingCall : List BridgeEvent :=
  [ysfdAt 1000 headerFich, tickAt 1100 true true, ysfdAt 1150 communicationsFich,
   tickAt 1200 true true, ysfdAt 1210 terminatorFich]

theorem sendsVterm_of_any (h : (actsSince b (b.step e ev)).any (Direction.endsCall .ysfToDmr) =
    true) : SendsVterm e b ev := by
  obtain ⟨a, hm, ha⟩ := List.any_eq_true.1 h
  cases a with
  | dmrd o p => cases o with
    | call => exact ⟨p, hm, ha⟩
    | ptt => cases ha
  | _ => cases ha

theorem sentNext_iff_sample :
    SendsVterm sampleEnv (followingRun sampleEnv (.stopped 0) noAliases
        (endingCall ++ [tickAt 1300 true true])).1 (tickAt 1400 true true) ∧
      ∀ v ∈ (followingRun sampleEnv (.stopped 0) noAliases
          (endingCall ++ [tickAt 1300 true true])).2.voice,
        SentNext sampleEnv ((followingRun sampleEnv (.stopped 0) noAliases
            (endingCall ++ [tickAt 1300 true true])).1.step sampleEnv (tickAt 1400 true true))
          (followingRun sampleEnv (.stopped 0) noAliases
            (endingCall ++ [tickAt 1300 true true])).1.dmrStreamId
          (followingRun sampleEnv (.stopped 0) noAliases
            (endingCall ++ [tickAt 1300 true true])).2.rf v := by
  have h : SendsVterm sampleEnv (followingRun sampleEnv (.stopped 0) noAliases
      (endingCall ++ [tickAt 1300 true true])).1 (tickAt 1400 true true) :=
    sendsVterm_of_any (by decide +kernel)
  exact ⟨h, (sentNext_iff sampleEnv (.stopped 0) noAliases _ (.stopped 1400) true true h).2
    (by decide +kernel)⟩

/-- A HEADER and a voice frame of the next call come in before the EOT of the first is drained. -/
theorem not_sentNext :
    SendsVterm sampleEnv (followingRun sampleEnv (.stopped 0) noAliases
        (endingCall ++ [ysfdAt 1220 headerFich, ysfdAt 1230 communicationsFich,
          tickAt 1300 true true])).1 (tickAt 1400 true true) ∧
      (followingRun sampleEnv (.stopped 0) noAliases
        (endingCall ++ [ysfdAt 1220 headerFich, ysfdAt 1230 communicationsFich,
          tickAt 1300 true true])).2.voice.length = 5 ∧
      ∀ v ∈ (followingRun sampleEnv (.stopped 0) noAliases
          (endingCall ++ [ysfdAt 1220 headerFich, ysfdAt 1230 communicationsFich,
            tickAt 1300 true true])).2.voice, ∀ old rf,
        ¬SentNext sampleEnv ((followingRun sampleEnv (.stopped 0) noAliases
          (endingCall ++ [ysfdAt 1220 headerFich, ysfdAt 1230 communicationsFich,
            tickAt 1300 true true])).1.step sampleEnv (tickAt 1400 true true)) old rf v := by
  have h : SendsVterm sampleEnv (followingRun sampleEnv (.stopped 0) noAliases
      (endingCall ++ [ysfdAt 1220 headerFich, ysfdAt 1230 communicationsFich,
        tickAt 1300 true true])).1 (tickAt 1400 true true) :=
    sendsVterm_of_any (by decide +kernel)
  exact ⟨h, by decide +kernel, fun v _ old rf => (idle_of_sendsVterm h).not_sentNext old rf v⟩

end Bridge

end AdnBridge
