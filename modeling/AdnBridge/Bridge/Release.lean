import AdnBridge.Bridge.Calls
import AdnBridge.Bridge.Stamps

namespace AdnBridge
set_option autoImplicit true

namespace Channel

variable {w g : Nat} {c : Channel}

/-- Reading on from the queue comes to an EOT, after `k` reads. -/
def EotAt (w g : Nat) (c : Channel) : Nat → Prop
  | 0 => (c.get w g).1 = tagEot
  | k + 1 => EotAt w g (c.get w g).2.2 k

/-- An EOT is still to be read from the queue. -/
def EotDue (w g : Nat) (c : Channel) : Prop := ∃ k, c.EotAt w g k

theorem EotDue.read (h : c.EotDue w g) (hne : (c.get w g).1 ≠ tagEot) :
    (c.get w g).2.2.EotDue w g := by
  obtain ⟨k, hk⟩ := h
  cases k with
  | zero => exact absurd hk hne
  | succ k => exact ⟨k, hk⟩

theorem EotDue.of_read (h : (c.get w g).2.2.EotDue w g) : c.EotDue w g := by
  obtain ⟨k, hk⟩ := h
  exact ⟨k + 1, hk⟩

/-- A queue that reading does not change any more has no EOT to come. -/
theorem not_eotDue_of_stuck (h : c.get w g = (tagNoData, [], c)) : ¬c.EotDue w g := by
  rintro ⟨k, hk⟩
  induction k with
  | zero =>
    rw [EotAt, h] at hk
    exact absurd hk (show tagNoData ≠ tagEot by decide)
  | succ k ih =>
    rw [EotAt, h] at hk
    exact ih hk

theorem shift_nil (h : c.ring.view = []) (tag : UInt8) :
    (c.shift w tag).1 = tag ∧ ((c.shift w tag).2.2.ring.view = []) := by
  have h1 : c.ring.getData 1 = none := CRingBuffer.getData_none _ _ (by rw [h]; decide)
  rw [shift, h1]
  refine ⟨rfl, ?_⟩
  simp only [Option.map_none, Option.getD_none]
  cases hw : c.ring.getData w with
  | none => exact h
  | some r =>
    have hle : w ≤ c.ring.view.length := by
      by_contra hlt
      rw [CRingBuffer.getData_none _ _ (by omega)] at hw
      cases hw
    obtain ⟨b', hb, hv⟩ := CRingBuffer.getData_some c.ring w hle
    cases hb.symm.trans hw
    change b'.view = []
    rw [hv, h, List.drop_nil]

theorem shift_lt (h : c.ring.view ≠ []) (tag : UInt8) :
    (c.shift w tag).2.2.ring.view.length < c.ring.view.length := by
  have hpos := List.length_pos_of_ne_nil h
  obtain ⟨r1, h1, hv1⟩ := CRingBuffer.getData_some c.ring 1 hpos
  rw [shift, h1]
  simp only [Option.map_some, Option.getD_some]
  cases hw : r1.getData w with
  | none =>
    change r1.view.length < _
    rw [hv1, List.length_drop]
    omega
  | some r =>
    have hle : w ≤ r1.view.length := by
      by_contra hlt
      rw [CRingBuffer.getData_none _ _ (by omega)] at hw
      cases hw
    obtain ⟨b', hb, hv⟩ := CRingBuffer.getData_some r1 w hle
    cases hb.symm.trans hw
    change b'.view.length < _
    rw [hv, hv1, List.length_drop, List.length_drop]
    omega

theorem shift_le (tag : UInt8) :
    (c.shift w tag).2.2.ring.view.length ≤ c.ring.view.length := by
  by_cases h : c.ring.view = []
  · rw [(shift_nil h tag).2]
    exact Nat.zero_le _
  · exact (shift_lt h tag).le

theorem shiftMany_le (k : Nat) (c : Channel) :
    (c.shiftMany w k).2.ring.view.length ≤ c.ring.view.length := by
  induction k generalizing c with
  | zero => exact Nat.le_refl _
  | succ k ih => exact (ih _).trans (shift_le tagData)

/-- An empty ring stays empty, and gives no EOT. -/
theorem get_nil (hg : 0 < g) (h : c.ring.view = []) :
    (c.get w g).1 = tagNoData ∧ (c.get w g).2.2.ring.view = [] := by
  have hp : c.ring.peek 1 = none := CRingBuffer.peek_none _ _ (by rw [h]; decide)
  rw [get, hp]
  simp only [Option.map_none, Option.getD_none]
  split
  next => exact shift_nil h tagNoData
  next hn =>
    have hz : ¬c.n ≥ g := by
      intro hng
      exact hn ⟨by omega, by decide⟩
    rw [if_neg hz]
    exact ⟨rfl, h⟩

theorem not_eotDue_of_nil (hg : 0 < g) (h : c.ring.view = []) : ¬c.EotDue w g := by
  rintro ⟨k, hk⟩
  induction k generalizing c with
  | zero =>
    rw [EotAt, (get_nil hg h).1] at hk
    exact absurd hk (by decide)
  | succ k ih => exact ih (get_nil hg h).2 hk

/-- Reading takes something out of the ring, or it leads to nothing. -/
theorem get_progress (hg : 0 < g) (h : c.ring.view ≠ []) :
    c.get w g = (tagNoData, [], c) ∨
      (c.get w g).2.2.ring.view.length < c.ring.view.length := by
  rw [get]
  simp only
  split
  next => exact .inr (shift_lt h _)
  next =>
    split
    next =>
      obtain ⟨k, rfl⟩ := Nat.exists_eq_add_of_lt hg
      rw [Nat.zero_add]
      exact .inr ((shiftMany_le k _).trans_lt (shift_lt h tagData))
    next => exact .inl rfl

/-- An EOT that is to come comes within as many reads as there are bytes in the ring. -/
theorem EotDue.soon (hg : 0 < g) (h : c.EotDue w g) :
    ∃ k ≤ c.ring.view.length, c.EotAt w g k := by
  obtain ⟨n, hn⟩ : ∃ n, c.ring.view.length = n := ⟨_, rfl⟩
  induction n using Nat.strongRecOn generalizing c with
  | ind n ih =>
    by_cases ht : (c.get w g).1 = tagEot
    · exact ⟨0, Nat.zero_le _, ht⟩
    · have hne : c.ring.view ≠ [] := fun hv => not_eotDue_of_nil hg hv h
      rcases get_progress (w := w) hg hne with hs | hlt
      · exact absurd h (not_eotDue_of_stuck hs)
      · obtain ⟨k, hk, he⟩ := ih _ (hn ▸ hlt) (h.read ht) rfl
        exact ⟨k + 1, by omega, he⟩

end Channel

namespace Bridge

variable {e : Env} {b b' : Bridge} {c : Clock} {ev : BridgeEvent} {evs : List BridgeEvent}
variable {t u t0 d : Int}

/-- An EOT that is still to be read from one of the queues will end the call. -/
def Releases (b : Bridge) : Prop :=
  b.callActive = false ∨ b.conv.dmr.EotDue 9 3 ∨ b.conv.ysf.EotDue 13 5

theorem paceDmr_spec (e : Env) (b : Bridge) :
    (b.connectPttActive = true ∧ b.paceDmr e = b) ∨ b.connectPttActive = false ∧
      (b.clock.now.ns < b.lastDmrTx.ns + 55000000 ∧ b.paceDmr e = b.tock ∨
        b.conv.getDmr.1 = tagEot ∧ (b.paceDmr e).callActive = false ∨
        b.conv.getDmr.1 ≠ tagEot ∧ (b.paceDmr e).callActive = b.callActive ∧
          (b.paceDmr e).conv = b.conv.getDmr.2.2) := by
  rw [paceDmr]
  by_cases ha : b.connectPttActive = true
  · rw [if_pos ha]
    exact .inl ⟨ha, rfl⟩
  · rw [if_neg ha]
    refine .inr ⟨Bool.not_eq_true _ ▸ ha, ?_⟩
    by_cases hm : msElapsed b.clock.now b.lastDmrTx dmrFrameMs = true
    · rw [if_pos hm]
      by_cases ht : b.conv.getDmr.1 = tagEot
      · exact .inr (.inl ⟨ht, (emitDmrFromConv_eot e b.tock ht).1⟩)
      · obtain ⟨h1, h2, _⟩ := emitDmrFromConv_other e b.tock ht
        exact .inr (.inr ⟨ht, h1, h2⟩)
    · rw [if_neg hm]
      exact .inl ⟨lt_of_not_msElapsed hm, rfl⟩

theorem paceYsf_spec (e : Env) (b : Bridge) :
    b.clock.now.ns < b.lastYsfTx.ns + 90000000 ∧ b.paceYsf e = b.tock ∨
      b.conv.getYsf.1 = tagEot ∧ (b.paceYsf e).callActive = false ∨
      b.conv.getYsf.1 ≠ tagEot ∧ (b.paceYsf e).callActive = b.callActive ∧
        (b.paceYsf e).conv = b.conv.getYsf.2.2 := by
  rw [paceYsf]
  by_cases hm : msElapsed b.clock.now b.lastYsfTx ysfFrameMs = true
  · rw [if_pos hm]
    by_cases ht : b.conv.getYsf.1 = tagEot
    · exact .inr (.inl ⟨ht, (emitYsfFromConv_eot e b.tock ht).1⟩)
    · obtain ⟨h1, h2, _⟩ := emitYsfFromConv_other e b.tock ht
      exact .inr (.inr ⟨ht, h1, h2⟩)
  · rw [if_neg hm]
    exact .inl ⟨lt_of_not_msElapsed hm, rfl⟩

theorem paceDmr_over (e : Env) (h : b.callActive = false) : (b.paceDmr e).callActive = false := by
  rcases paceDmr_spec e b with ⟨_, hb⟩ | ⟨_, ⟨_, hb⟩ | ⟨_, hb⟩ | ⟨_, hb, _⟩⟩
  · rwa [hb]
  · rwa [hb]
  · exact hb
  · exact hb.trans h

theorem paceYsf_over (e : Env) (h : b.callActive = false) : (b.paceYsf e).callActive = false := by
  rcases paceYsf_spec e b with ⟨_, hb⟩ | ⟨_, hb⟩ | ⟨_, hb, _⟩
  · rwa [hb]
  · exact hb
  · exact hb.trans h

/-- An open call with no EOT to come stays open. -/
theorem paceDmr_stuck (e : Env) (h : ¬b.Releases) : ¬(b.paceDmr e).Releases := by
  rw [Releases, not_or, not_or] at h ⊢
  obtain ⟨ha, hd, hy⟩ := h
  rcases paceDmr_spec e b with ⟨_, hb⟩ | ⟨_, ⟨_, hb⟩ | ⟨ht, _⟩ | ⟨_, hb, hc⟩⟩
  · rw [hb]
    exact ⟨ha, hd, hy⟩
  · rw [hb]
    exact ⟨ha, hd, hy⟩
  · exact absurd ⟨0, ht⟩ hd
  · rw [hb, hc]
    exact ⟨ha, fun h => hd h.of_read, hy⟩

theorem paceYsf_stuck (e : Env) (h : ¬b.Releases) : ¬(b.paceYsf e).Releases := by
  rw [Releases, not_or, not_or] at h ⊢
  obtain ⟨ha, hd, hy⟩ := h
  rcases paceYsf_spec e b with ⟨_, hb⟩ | ⟨ht, _⟩ | ⟨_, hb, hc⟩
  · rw [hb]
    exact ⟨ha, hd, hy⟩
  · exact absurd ⟨0, ht⟩ hy
  · rw [hb, hc]
    exact ⟨ha, hd, fun h => hy h.of_read⟩

theorem PttStep.releases (h : PttStep b b') : b'.Releases ↔ b.Releases := by
  rw [Releases, Releases, h.conv, h.call]

/-- Time passes with both links up and no packet: ticks at most `d` apart, and new tables. -/
def IdleWithin (d : Int) : BridgeEvent → Int → Int → Prop
  | .tick c dmrUp ysfUp, t, u => dmrUp = true ∧ ysfUp = true ∧ c.Within t u ∧ u ≤ t + d
  | .aliases _, t, u => u = t
  | _, _, _ => False

theorem step_stuck (hev : IdleWithin d ev t u) (h : ¬b.Releases) : ¬(b.step e ev).Releases := by
  cases ev with
  | tick c dmrUp ysfUp =>
    have hp := (PttStep.poll e { b with clock := c } dmrUp).releases.not.2 h
    change ¬(tick e { b with clock := c } dmrUp ysfUp).Releases
    rw [tick]
    split
    next => exact hp
    next => exact paceYsf_stuck e (paceDmr_stuck e hp)
  | aliases db => exact h
  | dmrd c pkt => exact hev.elim
  | ysfd c pkt => exact hev.elim

theorem idle_stuck (h : Timed (IdleWithin d) t evs u) (hb : ¬b.Releases) :
    ¬(evs.foldl (step e) b).Releases :=
  h.foldl (I := fun _ b => ¬Releases b) (fun _ _ _ _ hs hw _ => step_stuck hw hs) hb

theorem step_over (hev : IdleWithin d ev t u) (h : b.callActive = false) :
    (b.step e ev).callActive = false := by
  cases ev with
  | tick c dmrUp ysfUp =>
    have hp := (PttStep.poll e { b with clock := c } dmrUp).call.trans h
    change (tick e { b with clock := c } dmrUp ysfUp).callActive = false
    rw [tick]
    split
    next => exact hp
    next => exact paceYsf_over e (paceDmr_over e hp)
  | aliases db => exact h
  | dmrd c pkt => exact hev.elim
  | ysfd c pkt => exact hev.elim

theorem tick_up (e : Env) (b : Bridge) (c : Clock) : b.step e (.tick c true true) =
    ((({ b with clock := c } : Bridge).pollConnectPtt e true).paceDmr e).paceYsf e := rfl

theorem paceDmr_ysf (h : (b.paceDmr e).callActive = true) :
    b.callActive = true ∧ (b.paceDmr e).conv.ysf = b.conv.ysf := by
  rcases paceDmr_spec e b with ⟨_, hb⟩ | ⟨_, ⟨_, hb⟩ | ⟨_, hb⟩ | ⟨_, hb, hc⟩⟩
  · rw [hb] at h ⊢
    exact ⟨h, rfl⟩
  · rw [hb] at h ⊢
    exact ⟨h, rfl⟩
  · cases hb.symm.trans h
  · rw [hc]
    exact ⟨hb.symm.trans h, rfl⟩

theorem paceYsf_dmr (h : (b.paceYsf e).callActive = true) :
    b.callActive = true ∧ (b.paceYsf e).conv.dmr = b.conv.dmr := by
  rcases paceYsf_spec e b with ⟨_, hb⟩ | ⟨_, hb⟩ | ⟨_, hb, hc⟩
  · rw [hb] at h ⊢
    exact ⟨h, rfl⟩
  · cases hb.symm.trans h
  · rw [hc]
    exact ⟨hb.symm.trans h, rfl⟩

/-- The open call waits for an EOT to YSF that is `n` reads away; the next read is at `r`. -/
structure YsfWait (t : Int) (b : Bridge) (n : Nat) (r : Int) : Prop where
  stamped : ∃ s, b.Stamped s t
  call : b.callActive = true
  due : b.conv.ysf.EotAt 13 5 n
  ready : r = b.lastYsfTx.ns + 90000000

theorem YsfWait.tables (h : YsfWait t b n r) (db : AliasDb) :
    YsfWait t { b with aliases := db } n r := by
  obtain ⟨⟨s, hs⟩, ha, hq, hr⟩ := h
  exact ⟨⟨s, hs.clock, hs.dmr, hs.ysf, hs.ptt⟩, ha, hq, hr⟩

theorem YsfWait.tick (h : YsfWait t b n r) (hc : c.Within t u) (hu : t ≤ u) (hd : 0 ≤ d)
    (hact : (b.step e (.tick c true true)).callActive = true) :
    ∃ n' r', YsfWait u (b.step e (.tick c true true)) n' r' ∧
      (n' < n ∧ r' ≤ u + (555000000 + d) ∨ n' = n ∧ r' = r ∧ (u = t ∨ t < r)) := by
  obtain ⟨⟨s, hs⟩, ha, hq, rfl⟩ := h
  rw [tick_up] at hact ⊢
  have hp := PttStep.poll e { b with clock := c } true
  have hi := (InTime.refl { b with clock := c }).poll e true
  have hs1 := hi.stamped (hs.read hc hu)
  have hy1 : (({ b with clock := c } : Bridge).pollConnectPtt e true).lastYsfTx = b.lastYsfTx :=
    hi.lastYsfTx
  generalize ({ b with clock := c } : Bridge).pollConnectPtt e true = b1 at hact hp hs1 hy1 ⊢
  have hd2 := (InTime.refl b1).paceDmr e
  have hs2 := hd2.stamped hs1
  have hy2 := hd2.lastYsfTx.trans hy1
  have ha2 := (paceYsf_dmr hact).1
  have hq2 : (b1.paceDmr e).conv.ysf = b.conv.ysf :=
    (paceDmr_ysf ha2).2.trans (congrArg ModeConv.ysf hp.conv)
  generalize b1.paceDmr e = b2 at hact hs2 hy2 ha2 hq2 ⊢
  have hs3 := (YsfTurn.pace e b2).stamped hs2
  rw [← hq2] at hq
  rcases paceYsf_spec e b2 with ⟨hlt, hb⟩ | ⟨_, hb⟩ | ⟨hne, _, hconv⟩
  · rw [hb] at hact hs3 ⊢
    refine ⟨n, _, ⟨⟨t, hs3⟩, ha2, hq, rfl⟩, .inr ⟨rfl, ?_, .inr ?_⟩⟩
    · change b2.lastYsfTx.ns + 90000000 = _
      rw [hy2]
    · have hge := (hs2.clock 0).2
      rw [hy2] at hlt
      exact Int.lt_of_le_of_lt hge hlt
  · cases hb.symm.trans hact
  · cases n with
    | zero => exact absurd hq hne
    | succ n =>
      refine ⟨n, _, ⟨⟨t, hs3⟩, hact, ?_, rfl⟩, .inl ⟨Nat.lt_succ_self n, ?_⟩⟩
      · rw [hconv]
        exact hq
      · have hle := hs3.ysf.2.2.2
        omega

/-- It is enough to look at the ticks that leave the call open. -/
theorem waits_of_tick {I : Int → Bridge → Nat → Int → Prop}
    (htables : ∀ {t b n r}, I t b n r → ∀ db, I t { b with aliases := db } n r)
    (htick : ∀ {t u b n r c}, I t b n r → c.Within t u → t ≤ u → u ≤ t + d →
      (b.step e (.tick c true true)).callActive = true →
      ∃ n' r', I u (b.step e (.tick c true true)) n' r' ∧
        (n' < n ∧ r' ≤ u + (555000000 + d) ∨ n' = n ∧ r' = r ∧ (u = t ∨ t < r))) (hd : 0 ≤ d) :
    Waits (step e) (IdleWithin d) d (555000000 + d) (fun b => b.callActive = false) I where
  gap := by
    intro ev t u hev
    cases ev with
    | tick => exact hev.2.2.2
    | aliases db =>
      cases hev
      omega
    | dmrd => exact hev.elim
    | ysfd => exact hev.elim
  stays := fun hev h => step_over hev h
  turn := by
    intro ev t u b n r hev hu h
    cases ev with
    | tick c dmrUp ysfUp =>
      obtain ⟨rfl, rfl, hc, hgap⟩ := hev
      cases hact : (b.step e (.tick c true true)).callActive with
      | false => exact .inl rfl
      | true => exact .inr (htick h hc hu hgap hact)
    | aliases db =>
      cases hev
      exact .inr ⟨n, r, htables h db, .inr ⟨rfl, rfl, .inl rfl⟩⟩
    | dmrd => exact hev.elim
    | ysfd => exact hev.elim

theorem finish_clearing (h : b.connectPttClearing = true) :
    (b.connectPttFinish e).connectPttActive = true ∧
      (b.connectPttFinish e).connectPttPhase = 0 ∧
      (b.connectPttFinish e).connectPttClearing = false := by
  have ht : (b.connectPttClearing && decide (e.cfg.tg > 0)) = true := by
    rw [h, decide_eq_true e.cfg.tg_pos]
    rfl
  rw [connectPttFinish, if_pos ht]
  exact ⟨rfl, rfl, rfl⟩

theorem finish_last (h : b.connectPttClearing = false) :
    (b.connectPttFinish e).connectPttActive = false := by
  have ht : ¬(b.connectPttClearing && decide (e.cfg.tg > 0)) = true := by
    rw [h, Bool.false_and]
    exact Bool.false_ne_true
  rw [connectPttFinish, if_neg ht]
  rfl

theorem sendDmrd_clock (e : Env) (b : Bridge) (o : Origin) (ft : UInt8)
    (v : Option (List UInt8)) : (b.sendDmrd e o ft v).clock = b.clock.next := by
  obtain ⟨p, _, _, _, hb⟩ := sendDmrd_eq e b o ft v
  rw [hb]
  rfl

theorem emit_opening (ha : b.connectPttActive = true) (hp : b.connectPttPhase = 0) :
    (b.emitConnectPtt e).connectPttActive = true ∧ (b.emitConnectPtt e).connectPttPhase = 1 ∧
      (b.emitConnectPtt e).connectPttClearing = b.connectPttClearing ∧
      (b.emitConnectPtt e).connectPttStart = b.clock 3 := by
  have hn : ¬(!b.connectPttActive) = true := by
    rw [ha]
    exact Bool.false_ne_true
  rw [emitConnectPtt, if_neg hn, if_pos hp]
  simp only [Function.iterate_succ_apply, Function.iterate_zero_apply, tock, Clock.now,
    sendDmrd_clock, sendDmrd_connectPttActive, sendDmrd_connectPttClearing]
  exact ⟨ha, trivial, trivial, rfl⟩

/-- The waiting stream of silence goes on, or ends: at the latest once it is old enough. -/
theorem emit_voice (ha : b.connectPttActive = true) (hp : b.connectPttPhase ≠ 0) :
    ((b.emitConnectPtt e).connectPttActive = true ∧
      (b.emitConnectPtt e).connectPttPhase = b.connectPttPhase ∧
      (b.emitConnectPtt e).connectPttClearing = b.connectPttClearing ∧
      (b.emitConnectPtt e).connectPttStart = b.connectPttStart ∧
      b.clock.now.ns < b.connectPttStart.ns + 500000000) ∨
    b.connectPttClearing = true ∧ (b.emitConnectPtt e).connectPttActive = true ∧
      (b.emitConnectPtt e).connectPttPhase = 0 ∧
      (b.emitConnectPtt e).connectPttClearing = false ∨
    b.connectPttClearing = false ∧ (b.emitConnectPtt e).connectPttActive = false := by
  have hn : ¬(!b.connectPttActive) = true := by
    rw [ha]
    exact Bool.false_ne_true
  rw [emitConnectPtt, if_neg hn, if_neg hp]
  by_cases hm : msSince b.clock.now b.connectPttStart ≥ connectPttMs
  · rw [if_pos hm]
    cases hc : b.connectPttClearing with
    | true => exact .inr (.inl ⟨rfl, finish_clearing (b := b.tock) hc⟩)
    | false => exact .inr (.inr ⟨rfl, finish_last (b := b.tock) hc⟩)
  · rw [if_neg hm]
    obtain ⟨p, _, _, _, h1⟩ := sendDmrd_eq e b.tock .ptt (voiceB15 b.connectPttVoiceFrames)
      (some dmrSilenceData)
    simp only [h1]
    have hlt : ¬msElapsed b.clock.now b.connectPttStart connectPttMs = true := by
      rwa [msElapsed, decide_eq_true_eq]
    exact .inl ⟨ha, rfl, rfl, rfl, lt_of_not_msElapsed hlt⟩

/-- The rounds of the connect PTT that are still to come. -/
def pttRank (b : Bridge) : Nat :=
  if b.connectPttActive then
    (if b.connectPttClearing then 2 else 0) + if b.connectPttPhase = 0 then 2 else 1
  else 0

/-- From when on a tick goes on with the connect PTT, or reads the queue to DMR. -/
def dmrReady (t0 d : Int) (b : Bridge) : Int :=
  if b.connectPttActive ∧ b.connectPttPhase ≠ 0 then
    max (b.connectPttStart.ns + 500000000) t0 + d + 55000000
  else b.lastDmrTx.ns + 55000000

theorem dmrReady_le (hs : b.Stamped s u) (ht : t0 ≤ u) (hd : 0 ≤ d) :
    b.dmrReady t0 d ≤ u + (555000000 + d) := by
  have h1 := hs.dmr.2.2.2
  have h2 := hs.ptt.2.2.2
  rw [dmrReady]
  split <;> omega

theorem YsfTurn.pttRank (h : YsfTurn b b') : b'.pttRank = b.pttRank := by
  rw [Bridge.pttRank, Bridge.pttRank, h.active, h.phase, h.clearing]

theorem YsfTurn.dmrReady (h : YsfTurn b b') (t0 d : Int) : b'.dmrReady t0 d = b.dmrReady t0 d := by
  rw [Bridge.dmrReady, Bridge.dmrReady, h.active, h.phase, h.start, h.lastDmrTx]

theorem pttRank_off (h : b.connectPttActive = false) : b.pttRank = 0 := by
  rw [pttRank, h]
  rfl

theorem emitPad_connectPttActive (e : Env) (n : Nat) (b : Bridge) :
    (emitPad e n b).connectPttActive = b.connectPttActive := by
  induction n generalizing b with
  | zero => rfl
  | succ n ih =>
    rw [emitPad]
    split
    next => exact (ih _).trans (sendDmrd_connectPttActive e b _ _ _)
    next => rfl

theorem emitDmrFromConv_connectPttActive (e : Env) (b : Bridge) :
    (b.emitDmrFromConv e).connectPttActive = b.connectPttActive := by
  rw [emitDmrFromConv]
  generalize b.conv.getDmr = r
  obtain ⟨tag, voice, conv⟩ := r
  simp only
  split
  next => rfl
  next =>
    split
    next =>
      simp only [Function.iterate_succ_apply, Function.iterate_zero_apply,
        sendDmrd_connectPttActive]
    next =>
      split
      next =>
        change ((emitPad e 6 { b with conv := conv }).sendDmrd e .call vtermB15
          (some voice)).connectPttActive = _
        rw [sendDmrd_connectPttActive, emitPad_connectPttActive]
      next => split <;> simp only [sendDmrd_connectPttActive]

theorem paceDmr_connectPttActive (e : Env) (b : Bridge) :
    (b.paceDmr e).connectPttActive = b.connectPttActive := by
  rw [paceDmr]
  split
  next => rfl
  next =>
    split
    next => exact emitDmrFromConv_connectPttActive e b.tock
    next => rfl

/-- What polling the connect PTT does during a call, between `t` and `u`. -/
inductive PollTurn (t : Int) (b b' : Bridge) : Prop
  | off (h : b.connectPttActive = false) (h' : b'.connectPttActive = false)
      (tx : b'.lastDmrTx = b.lastDmrTx)
  | early (h : b'.connectPttActive = b.connectPttActive)
      (phase : b'.connectPttPhase = b.connectPttPhase)
      (clearing : b'.connectPttClearing = b.connectPttClearing)
      (start : b'.connectPttStart = b.connectPttStart) (tx : b'.lastDmrTx = b.lastDmrTx)
      (ha : b.connectPttActive = true) (lt : t < b.lastDmrTx.ns + 55000000)
  | voice (h : b'.connectPttActive = b.connectPttActive)
      (phase : b'.connectPttPhase = b.connectPttPhase)
      (clearing : b'.connectPttClearing = b.connectPttClearing)
      (start : b'.connectPttStart = b.connectPttStart) (ha : b.connectPttActive = true)
      (hp : b.connectPttPhase ≠ 0) (lt : t < b.connectPttStart.ns + 500000000)
  | round (lt : b'.pttRank < b.pttRank) (start : b'.connectPttActive = true →
      b'.connectPttPhase ≠ 0 → t ≤ b'.connectPttStart.ns)

theorem emit_turn (hs : b.Stamped t u) (ha : b.connectPttActive = true) :
    PollTurn t b (b.emitConnectPtt e) := by
  by_cases hp : b.connectPttPhase = 0
  · obtain ⟨h1, h2, h3, h4⟩ := emit_opening (e := e) ha hp
    apply PollTurn.round
    · rw [pttRank, pttRank, if_pos h1, if_pos ha, h2, h3, hp]
      simp only [if_true, Nat.one_ne_zero, if_false]
      omega
    · intro _ _
      rw [h4]
      exact (hs.clock 3).2
  · rcases emit_voice (e := e) ha hp with ⟨h1, h2, h3, h4, hlt⟩ | ⟨hc, h1, h2, h3⟩ | ⟨hc, h1⟩
    · exact .voice (h1.trans ha.symm) h2 h3 h4 ha hp (Int.lt_of_le_of_lt (hs.clock 0).2 hlt)
    · apply PollTurn.round
      · rw [pttRank, pttRank, if_pos h1, if_pos ha, h2, h3, hc, if_neg hp]
        decide
      · intro _ hn
        exact absurd h2 hn
    · apply PollTurn.round
      · rw [pttRank_off h1, pttRank, if_pos ha, hc, if_neg hp]
        decide
      · intro h
        cases h1.symm.trans h

theorem PollTurn.of_tock {w : Bool}
    (h : PollTurn t ({ b with dmrWasConnected := w } : Bridge).tock b') : PollTurn t b b' := by
  cases h with
  | off h h' tx => exact .off h h' tx
  | early h phase clearing start tx ha lt => exact .early h phase clearing start tx ha lt
  | voice h phase clearing start ha hp lt => exact .voice h phase clearing start ha hp lt
  | round lt start => exact .round lt start

theorem poll_turn (hs : b.Stamped t u) (hcall : b.callActive = true) :
    PollTurn t b (b.pollConnectPtt e true) := by
  have hstart : b.startConnectPtt e = b := by
    rw [startConnectPtt, hcall, Bool.true_or, if_pos rfl]
  rw [pollConnectPtt, hstart, ite_self]
  simp only [if_true]
  by_cases ha : b.connectPttActive = true
  · have hn : ¬(!b.connectPttActive) = true := by
      rw [ha]
      exact Bool.false_ne_true
    rw [if_neg hn]
    by_cases hm : msElapsed b.clock.now b.lastDmrTx dmrFrameMs = true
    · rw [if_pos hm]
      have hs' : ({ b with dmrWasConnected := true } : Bridge).tock.Stamped t u :=
        ⟨fun i => hs.clock (i + 1), hs.dmr, hs.ysf, hs.ptt⟩
      exact (emit_turn hs' ha).of_tock
    · rw [if_neg hm]
      exact .early rfl rfl rfl rfl rfl ha
        (Int.lt_of_le_of_lt (hs.clock 0).2 (lt_of_not_msElapsed hm))
  · have ha' : b.connectPttActive = false := Bool.not_eq_true _ ▸ ha
    rw [if_pos (by rw [ha']; rfl)]
    exact .off ha' ha' rfl

/-- The open call waits for an EOT to DMR, with the connect PTT ahead of it. -/
structure DmrWait (t0 d t : Int) (b : Bridge) (n : Nat) (r : Int) : Prop where
  since : t0 ≤ t
  call : b.callActive = true
  due : ∃ k, b.conv.dmr.EotAt 9 3 k ∧ n = b.pttRank + k
  ready : r = b.dmrReady t0 d
  recent : b.connectPttActive = true → b.connectPttPhase ≠ 0 →
    b.lastDmrTx.ns ≤ max (b.connectPttStart.ns + 500000000) t0 + d

theorem DmrWait.tables (h : DmrWait t0 d t b n r) (db : AliasDb) :
    DmrWait t0 d t { b with aliases := db } n r := by
  obtain ⟨h0, ha, hq, hr, hl⟩ := h
  exact ⟨h0, ha, hq, hr, hl⟩

theorem DmrWait.read (h : DmrWait t0 d t b n r) (c : Clock) :
    DmrWait t0 d t { b with clock := c } n r := by
  obtain ⟨h0, ha, hq, hr, hl⟩ := h
  exact ⟨h0, ha, hq, hr, hl⟩

/-- Pacing to YSF does not disturb the wait. -/
theorem DmrWait.paceYsf (h : DmrWait t0 d u b n r) (hact : (b.paceYsf e).callActive = true) :
    DmrWait t0 d u (b.paceYsf e) n r := by
  obtain ⟨h0, ha, ⟨k, hk, hn⟩, hr, hl⟩ := h
  have hy := YsfTurn.pace e b
  refine ⟨h0, hact, ⟨k, ?_, ?_⟩, ?_, ?_⟩
  · rw [(paceYsf_dmr hact).2]
    exact hk
  · rw [hy.pttRank]
    exact hn
  · rw [hy.dmrReady]
    exact hr
  · rw [hy.active, hy.phase, hy.lastDmrTx, hy.start]
    exact hl

/-- Without the connect PTT a tick reads the queue as soon as it is time. -/
theorem DmrWait.paceDmr (hs : b.Stamped t u) (h0 : t0 ≤ u) (hd : 0 ≤ d)
    (hoff : b.connectPttActive = false) (hk : b.conv.dmr.EotAt 9 3 k)
    (hact : (b.paceDmr e).callActive = true) :
    ∃ n' r', DmrWait t0 d u (b.paceDmr e) n' r' ∧
      (n' < k ∧ r' ≤ u + (555000000 + d) ∨
        n' = k ∧ r' = b.lastDmrTx.ns + 55000000 ∧ t < b.lastDmrTx.ns + 55000000) := by
  have hs2 := ((InTime.refl b).paceDmr e).stamped hs
  have hoff2 := (paceDmr_connectPttActive e b).trans hoff
  have hwait (k' : Nat) (hk' : (b.paceDmr e).conv.dmr.EotAt 9 3 k') :
      DmrWait t0 d u (b.paceDmr e) k' ((b.paceDmr e).dmrReady t0 d) := by
    refine ⟨h0, hact, ⟨k', hk', ?_⟩, rfl, fun h => ?_⟩
    · rw [pttRank_off hoff2, Nat.zero_add]
    · cases hoff2.symm.trans h
  rcases paceDmr_spec e b with ⟨h, _⟩ | ⟨_, ⟨hlt, hb⟩ | ⟨_, hb⟩ | ⟨hne, _, hconv⟩⟩
  · cases hoff.symm.trans h
  · refine ⟨k, _, hwait k (by rw [hb]; exact hk), .inr ⟨rfl, ?_, ?_⟩⟩
    · rw [hb, dmrReady, if_neg (fun h => by cases hoff.symm.trans h.1)]
      rfl
    · exact Int.lt_of_le_of_lt (hs.clock 0).2 hlt
  · cases hb.symm.trans hact
  · cases k with
    | zero => exact absurd hk hne
    | succ k =>
      refine ⟨k, _, hwait k ?_, .inl ⟨Nat.lt_succ_self k, dmrReady_le hs2 h0 hd⟩⟩
      rw [hconv]
      exact hk

/-- While the connect PTT is active the queue to DMR is not read. -/
theorem paceDmr_active (h : b.connectPttActive = true) : b.paceDmr e = b := by
  rw [Bridge.paceDmr, if_pos h]

/-- A tick up to the pacing to DMR. -/
theorem DmrWait.poll (h : DmrWait t0 d t b n r) (hs : b.Stamped t u) (hu : t ≤ u)
    (hgap : u ≤ t + d) (hd : 0 ≤ d)
    (hact : ((b.pollConnectPtt e true).paceDmr e).callActive = true) :
    ∃ n' r', DmrWait t0 d u ((b.pollConnectPtt e true).paceDmr e) n' r' ∧
      (n' < n ∧ r' ≤ u + (555000000 + d) ∨ n' = n ∧ r' = r ∧ t < r) := by
  obtain ⟨h0, ha, ⟨k, hk, rfl⟩, rfl, hl⟩ := h
  have h0u : t0 ≤ u := h0.trans hu
  have hconv := (PttStep.poll e b true).conv
  have hs1 := ((InTime.refl b).poll e true).stamped hs
  have hturn := poll_turn (e := e) hs ha
  generalize b.pollConnectPtt e true = b1 at hact hconv hs1 hturn ⊢
  rw [← hconv] at hk
  have hstay (hon : b1.connectPttActive = true) (hr : b1.connectPttPhase ≠ 0 →
      b1.lastDmrTx.ns ≤ max (b1.connectPttStart.ns + 500000000) t0 + d) :
      DmrWait t0 d u b1 (b1.pttRank + k) (b1.dmrReady t0 d) := by
    rw [paceDmr_active hon] at hact
    exact ⟨h0u, hact, ⟨k, hk, rfl⟩, rfl, fun _ => hr⟩
  have hlast := hs1.dmr.2.2.2
  cases hturn with
  | off hoff hoff1 tx =>
    obtain ⟨n', r', hw, hnr⟩ := DmrWait.paceDmr hs1 h0u hd hoff1 hk hact
    refine ⟨n', r', hw, ?_⟩
    rw [pttRank_off hoff, Nat.zero_add, Bridge.dmrReady, if_neg (fun h => by cases hoff.symm.trans h.1),
      ← tx]
    exact hnr
  | early hon phase clearing start tx hact1 lt =>
    have hon1 := hon.trans hact1
    have hw := hstay hon1 (by rw [phase, tx, start]; exact hl hact1)
    rw [paceDmr_active hon1]
    refine ⟨_, _, hw, .inr ⟨?_, ?_, ?_⟩⟩
    · rw [Bridge.pttRank, Bridge.pttRank, hon, phase, clearing]
    · rw [Bridge.dmrReady, Bridge.dmrReady, hon, phase, start, tx]
    · rw [Bridge.dmrReady]
      split
      next hc =>
        have := hl hact1 hc.2
        omega
      next => exact lt
  | voice hon phase clearing start hact1 hp lt =>
    have hon1 := hon.trans hact1
    have hw := hstay hon1 (by rw [start]; omega)
    rw [paceDmr_active hon1]
    refine ⟨_, _, hw, .inr ⟨?_, ?_, ?_⟩⟩
    · rw [Bridge.pttRank, Bridge.pttRank, hon, phase, clearing]
    · rw [Bridge.dmrReady, Bridge.dmrReady, hon, phase, start, if_pos ⟨hact1, hp⟩,
        if_pos ⟨hact1, hp⟩]
    · rw [Bridge.dmrReady, if_pos ⟨hact1, hp⟩]
      omega
  | round lt start =>
    by_cases hon1 : b1.connectPttActive = true
    · have hw := hstay hon1 (fun hp => by have := start hon1 hp; omega)
      rw [paceDmr_active hon1]
      exact ⟨_, _, hw, .inl ⟨Nat.add_lt_add_right lt k, dmrReady_le hs1 h0u hd⟩⟩
    · have hoff1 : b1.connectPttActive = false := Bool.not_eq_true _ ▸ hon1
      obtain ⟨n', r', hw, hnr⟩ := DmrWait.paceDmr hs1 h0u hd hoff1 hk hact
      refine ⟨n', r', hw, .inl ?_⟩
      rcases hnr with ⟨hn, hr⟩ | ⟨hn, hr, _⟩
      · exact ⟨by omega, hr⟩
      · exact ⟨by omega, by omega⟩

theorem DmrWait.tick (h : DmrWait t0 d t b n r) (hs : b.Stamped s t) (hc : c.Within t u)
    (hu : t ≤ u) (hgap : u ≤ t + d) (hd : 0 ≤ d)
    (hact : (b.step e (.tick c true true)).callActive = true) :
    ∃ n' r', DmrWait t0 d u (b.step e (.tick c true true)) n' r' ∧
      (n' < n ∧ r' ≤ u + (555000000 + d) ∨ n' = n ∧ r' = r ∧ (u = t ∨ t < r)) := by
  rw [tick_up] at hact ⊢
  obtain ⟨n', r', hw, hnr⟩ := (h.read c).poll (e := e) (hs.read hc hu) hu hgap hd
    (paceYsf_dmr hact).1
  refine ⟨n', r', hw.paceYsf hact, ?_⟩
  rcases hnr with h1 | ⟨h1, h2, h3⟩
  · exact .inl h1
  · exact .inr ⟨h1, h2, .inr h3⟩

theorem dmrWaits (e : Env) (hd : 0 ≤ d) : Waits (step e) (IdleWithin d) d (555000000 + d)
    (fun b => b.callActive = false)
    (fun t b n r => (∃ s, Stamped b s t) ∧ DmrWait t0 d t b n r) := by
  apply waits_of_tick _ _ hd
  · rintro t b n r ⟨⟨s, hs⟩, h⟩ db
    exact ⟨⟨s, hs.clock, hs.dmr, hs.ysf, hs.ptt⟩, h.tables db⟩
  · rintro t u b n r c ⟨⟨s, hs⟩, h⟩ hc hu hgap hact
    obtain ⟨n', r', hw, hnr⟩ := h.tick hs hc hu hgap hd hact
    have hev : (BridgeEvent.tick c true true).Within t u := hc
    exact ⟨n', r', ⟨hs.step hev hu, hw⟩, hnr⟩

theorem ysfWaits (e : Env) (hd : 0 ≤ d) : Waits (step e) (IdleWithin d) d (555000000 + d)
    (fun b => b.callActive = false) YsfWait := by
  apply waits_of_tick _ _ hd
  · intro t b n r h db
    exact h.tables db
  · intro t u b n r c h hc hu _ hact
    exact h.tick hc hu hd hact

/-- The time in which ticks at most `d` apart read any queue up to its last EOT. -/
def idleTime (d : Int) : Int := 5010 * (555000000 + 3 * d)

theorem idle_releases (hs : b.Stamped s t) (hb : b.Releases) (hd : 0 < d)
    (h : Timed (IdleWithin d) t evs t') (ht : t + idleTime d ≤ t') :
    (evs.foldl (step e) b).callActive = false := by
  have hbound {n : Nat} (hn : n ≤ 5009) :
      t + (n + 1) * (555000000 + d + 2 * d) ≤ t' := by
    have hm : ((n : Int) + 1) * (555000000 + d + 2 * d) ≤ 5010 * (555000000 + 3 * d) := by
      have h1 : ((n : Int) + 1) ≤ 5010 := by omega
      have h2 : (0 : Int) ≤ 555000000 + 3 * d := by omega
      have h3 : 555000000 + d + 2 * d = 555000000 + 3 * d := by omega
      rw [h3]
      exact Int.mul_le_mul_of_nonneg_right h1 h2
    rw [idleTime] at ht
    omega
  cases ha : b.callActive with
  | false => exact (ysfWaits e hd.le).kept ha h
  | true =>
    rcases hb with hoff | hdmr | hysf
    · cases hoff.symm.trans ha
    · obtain ⟨k, hk, hdue⟩ := hdmr.soon (by decide)
      have hlen := b.conv.dmr.ring.view_length_lt
      have hrank : b.pttRank ≤ 4 := by
        rw [pttRank]
        split
        · split <;> split <;> omega
        · omega
      have hw : DmrWait t d t b (b.pttRank + k) (b.dmrReady t d) := by
        refine ⟨Int.le_refl _, ha, ⟨k, hdue, rfl⟩, rfl, fun _ _ => ?_⟩
        have := hs.dmr.2.2.2
        omega
      apply (dmrWaits e hd.le).reaches hd (by omega) ⟨⟨s, hs⟩, hw⟩
        (dmrReady_le hs (Int.le_refl _) hd.le) h
      exact hbound (by omega)
    · obtain ⟨k, hk, hdue⟩ := hysf.soon (by decide)
      have hlen := b.conv.ysf.ring.view_length_lt
      have hready := hs.ysf.2.2.2
      apply (ysfWaits e hd.le).reaches hd (by omega) ⟨⟨s, hs⟩, ha, hdue, rfl⟩ (by omega) h
      exact hbound (by omega)

/-- A bridge that is idle for `T` ends up with no call open, whatever came before. -/
def ReleasedAfter (d T : Int) : Prop :=
  ∀ (e : Env) (c : Clock) (db : AliasDb) (evs idle : List BridgeEvent) (t0 t t1 t2 : Int), 0 ≤ t0 →
    c.Within t0 t → Timed BridgeEvent.Within t evs t1 → Timed (IdleWithin d) t1 idle t2 →
    t1 + T ≤ t2 → (idle.foldl (step e) (evs.foldl (step e) (init c db))).callActive = false

/-- However often the bridge ticks, a long enough idle time leaves it with no call open exactly
when there was none before, or an EOT was still to be read from a queue. -/
theorem releasedAfter_iff (e : Env) (c : Clock) (db : AliasDb) {evs idle : List BridgeEvent}
    (hd : 0 < d) (h0 : 0 ≤ t0) (hc : c.Within t0 t) (hev : Timed BridgeEvent.Within t evs t1)
    (hidle : Timed (IdleWithin d) t1 idle t2) (ht : t1 + idleTime d ≤ t2) :
    (idle.foldl (step e) (evs.foldl (step e) (init c db))).callActive = false ↔
      (evs.foldl (step e) (init c db)).Releases := by
  obtain ⟨s, hs⟩ := stamped_run (e := e) (stamped_init hc h0 db) hev
  constructor
  · intro hoff
    by_contra hn
    exact idle_stuck (e := e) hidle hn (.inl hoff)
  · intro hr
    exact idle_releases hs hr hd hidle ht

/-- Ticks every 10 ms. -/
def idleTicks (ms : Nat) : Nat → List BridgeEvent
  | 0 => []
  | n + 1 => tickAt (ms + 10) true true :: idleTicks (ms + 10) n

theorem timed_idleTicks (ms n : Nat) : Timed (IdleWithin 10000000) (ms * 1000000 : Nat)
    (idleTicks ms n) ((ms + 10 * n) * 1000000 : Nat) := by
  induction n generalizing ms with
  | zero => exact .nil
  | succ n ih =>
    have h := ih (ms + 10)
    rw [show ms + 10 + 10 * n = ms + 10 * (n + 1) by omega] at h
    refine .cons ⟨rfl, rfl, Clock.within_stopped (ms + 10) ?_ ?_, ?_⟩ ?_ h <;> omega

/-- The bridge that has just received the voice header of a call. -/
def headerOnly : Bridge :=
  [dmrdAt 100 vheadB15].foldl (step sampleEnv) (init (.stopped 0) noAliases)

theorem timed_dmrd (ms : Nat) (b15 : UInt8) (h : t ≤ (ms * 1000000 : Nat)) :
    Timed BridgeEvent.Within t [dmrdAt ms b15] (ms * 1000000 : Nat) := by
  have hw : (Clock.stopped ms).Within t (ms * 1000000 : Nat) :=
    Clock.within_stopped ms (by omega) (by omega)
  exact .cons hw h .nil

theorem timed_tick (ms : Nat) (dmrUp ysfUp : Bool) (h : t ≤ (ms * 1000000 : Nat)) :
    Timed BridgeEvent.Within t [tickAt ms dmrUp ysfUp] (ms * 1000000 : Nat) := by
  have hw : (Clock.stopped ms).Within t (ms * 1000000 : Nat) :=
    Clock.within_stopped ms (by omega) (by omega)
  exact .cons hw h .nil

theorem not_releases_headerOnly : ¬headerOnly.Releases := by
  rw [Releases, not_or, not_or]
  refine ⟨by decide +kernel, Channel.not_eotDue_of_nil (by decide) (by decide +kernel), ?_⟩
  intro h
  have hne : (headerOnly.conv.ysf.get 13 5).1 ≠ tagEot := by decide +kernel
  exact Channel.not_eotDue_of_nil (by decide) (by decide +kernel) (h.read hne)

theorem releasedAfter_iff_sample :
    ((idleTicks 300 300000).foldl (step sampleEnv)
      (([dmrdAt 100 vheadB15] ++ ([tickAt 200 true true] ++ [dmrdAt 300 vtermB15])).foldl
        (step sampleEnv) (init (.stopped 0) noAliases))).callActive = false := by
  have hd : (0 : Int) < 10000000 := by decide
  have ht0 : (0 : Int) ≤ 0 := Int.le_refl 0
  have hc : (Clock.stopped 0).Within 0 0 := Clock.within_stopped 0 (by decide) (by decide)
  apply (releasedAfter_iff sampleEnv (.stopped 0) noAliases hd ht0 hc
    ((timed_dmrd 100 vheadB15 (by decide)).append ((timed_tick 200 true true (by decide)).append
      (timed_dmrd 300 vtermB15 (by decide)))) (timed_idleTicks 300 300000) (by decide)).2
  refine .inr (.inr ⟨1, ?_⟩)
  change (Channel.get _ _ _).1 = tagEot
  decide +kernel

/-- After a voice header whose terminator is lost the call stays open for any time. -/
theorem not_releasedAfter : ¬∃ T, ReleasedAfter 10000000 T := by
  rintro ⟨T, hT⟩
  have hoff := hT sampleEnv (.stopped 0) noAliases [dmrdAt 100 vheadB15]
    (idleTicks 100 T.toNat) 0 0 _ _ (Int.le_refl _)
    (Clock.within_stopped 0 (by decide) (by decide)) (timed_dmrd 100 vheadB15 (by decide))
    (timed_idleTicks 100 T.toNat) (by omega)
  exact idle_stuck (timed_idleTicks 100 T.toNat) not_releases_headerOnly (.inl hoff)

end Bridge

end AdnBridge
