import AdnBridge.PeerDmr

namespace AdnBridge
set_option autoImplicit true

/-- What the login receives from the master, and what it sends. -/
inductive LoginMark where
  | rptAck
  | mstNak
  | rptl
  | rptk
  | rptc
  | rpto
  | other
deriving DecidableEq

namespace LoginMark

def ofSent (d : List UInt8) : LoginMark :=
  if d.take 4 = rptlTag then .rptl
  else if d.take 4 = rptkTag then .rptk
  else if d.take 4 = rptcTag then .rptc
  else if d.take 4 = rptoTag then .rpto
  else .other

/-- Only the answers of the master count. -/
def ofReceived (d : List UInt8) : List LoginMark :=
  if d.take 6 = rptAckTag then [.rptAck]
  else if d.take 6 = mstNakTag then [.mstNak]
  else []

/-- An RPTL begins another attempt. -/
def add (attempt : List LoginMark) : LoginMark → List LoginMark
  | .rptl => []
  | m => attempt ++ [m]

end LoginMark

open LoginMark

/-- The attempt that is under way, since its RPTL, and the attempts that have connected the peer,
as they then were. -/
structure LoginLog where
  attempt : List LoginMark
  logins : List (List LoginMark)

/-- The login of a master that answers every step. -/
def loginScript (c : PeerDmrConfig) : List LoginMark :=
  [.rptAck, .rptk, .rptAck, .rptc, .rptAck] ++ if c.options.isEmpty then [] else [.rpto, .rptAck]

namespace PeerDmr

def brought : PeerDmrEvent → List LoginMark
  | .rx _ true d => ofReceived d
  | _ => []

/-- What an event brings from the master, then what it makes the peer send. -/
def marks (p : PeerDmr) (ev : PeerDmrEvent) (p' : PeerDmr) : List LoginMark :=
  brought ev ++ (p'.sent.drop p.sent.length).map ofSent

def noteLogin (k : LoginLog) (p : PeerDmr) (ev : PeerDmrEvent) (p' : PeerDmr) : LoginLog :=
  let attempt := (p.marks ev p').foldl add k.attempt
  ⟨attempt, if p.status ≠ .connected ∧ p'.status = .connected then k.logins ++ [attempt]
    else k.logins⟩

/-- The peer with a log of its logins. -/
def logged (c : PeerDmrConfig) (now : Int) : Machine (PeerDmr × LoginLog) PeerDmrEvent :=
  (machine c now).observe ⟨[], []⟩ noteLogin

/-- During a login, a datagram from the master reads as an answer in the buffer only if it is one,
and not with the help of what the buffer held before. -/
def ReadsWell (s : PeerDmr × LoginLog) : PeerDmrEvent → Prop
  | .rx _ true d => d ≠ [] → s.1.hostStatus = .connecting → ∀ tag ∈ [rptAckTag, mstNakTag],
      (s.1.fill (d.take 2048)).buf.take 6 = tag → d.take 6 = tag
  | _ => True

def Expired (p : PeerDmr) (now : Int) : Prop :=
  p.hostStatus = .connected ∧ now - p.pongTime > hbpTimeout ∨
    p.hostStatus = .connecting ∧ now - p.pongTime > hbpTimeout * 2

/-- The peer shows itself connected only after a login by the script, a rejection or a timeout
disconnects it, and from there only an RPTL leads on, to phase 0. -/
structure LoginOrder (c : PeerDmrConfig) (s : PeerDmr × LoginLog) : Prop where
  logins : ∀ a ∈ s.2.logins, a = loginScript c
  shown : s.1.status = .connected ↔ s.1.hostStatus = .connected
  rejected : ∀ now d, s.1.hostStatus = .connecting → d.take 6 = mstNakTag →
    (s.1.step c (.rx now true d)).hostStatus = .disconnected ∧
      (s.1.step c (.rx now true d)).status = .disconnected
  expired : ∀ now, s.1.Expired now → (s.1.step c (.tick now)).hostStatus = .disconnected
  restarts : s.1.hostStatus = .disconnected → ∀ ev,
    ((s.1.step c ev).hostStatus = .disconnected ∧ (s.1.step c ev).sent = s.1.sent) ∨
      ((s.1.step c ev).hostStatus = .connecting ∧ (s.1.step c ev).loginPhase = 0 ∧
        (s.1.step c ev).sent = s.1.sent ++ [rptlTag ++ be32 c.dmrid])

section
variable {c : PeerDmrConfig} {p p' : PeerDmr} {k : LoginLog} {ev : PeerDmrEvent} {now : Int}

/-- How far an attempt has come in each phase. -/
def Progress (c : PeerDmrConfig) (attempt : List LoginMark) : Nat → Prop
  | 0 => attempt = []
  | 1 => attempt = [.rptAck, .rptk]
  | 2 => attempt = [.rptAck, .rptk, .rptAck, .rptc]
  | 3 => c.options ≠ [] ∧ attempt = [.rptAck, .rptk, .rptAck, .rptc, .rptAck, .rpto]
  | _ => False

structure LoginInv (c : PeerDmrConfig) (p : PeerDmr) (k : LoginLog) : Prop where
  logins : ∀ a ∈ k.logins, a = loginScript c
  shown : p.status = .connected ↔ p.hostStatus = .connected
  progress : p.hostStatus = .connecting → Progress c k.attempt p.loginPhase

theorem marks_of_sent (h : p'.sent = p.sent ++ ds) :
    p.marks ev p' = brought ev ++ ds.map ofSent := by
  rw [marks, h, List.drop_left]

/-- A tag of six bytes at the start of a datagram is at the start of the buffer. -/
theorem fill_take (p : PeerDmr) {d tag : List UInt8} (ht : tag.length = 6) (h : d.take 6 = tag) :
    (p.fill (d.take 2048)).buf.take 6 = tag := by
  have hlen : 6 ≤ d.length := by
    rw [← h, List.length_take] at ht
    omega
  rw [fill, List.take_append_of_le_length (by rw [List.length_take]; omega), List.take_take]
  exact h

theorem ReadsWell.reads (h : ReadsWell (p, k) (.rx now true d)) (hd : d ≠ [])
    (hs : p.hostStatus = .connecting) (tag : List UInt8) (hm : tag ∈ [rptAckTag, mstNakTag]) :
    (p.fill (d.take 2048)).buf.take 6 = tag ↔ d.take 6 = tag := by
  refine ⟨h hd hs tag hm, fill_take p ?_⟩
  simp only [List.mem_cons, List.not_mem_nil, or_false] at hm
  rcases hm with rfl | rfl
  · rfl
  · rfl

/-- What a step has to keep, by what it brings and sends. -/
theorem LoginInv.next (h : LoginInv c p k) (ds : List (List UInt8)) (hsent : p'.sent = p.sent ++ ds)
    (ha : (brought ev ++ ds.map ofSent).foldl add k.attempt = a)
    (hshown : p'.status = .connected ↔ p'.hostStatus = .connected)
    (hlogin : p'.status = .connected → p.status = .connected ∨ a = loginScript c)
    (hprogress : p'.hostStatus = .connecting → Progress c a p'.loginPhase) :
    LoginInv c p' (noteLogin k p ev p') := by
  have hattempt : (noteLogin k p ev p').attempt = a := by
    rw [noteLogin, marks_of_sent hsent]
    exact ha
  refine ⟨?_, hshown, fun hc => hattempt ▸ hprogress hc⟩
  intro x hx
  change x ∈ if p.status ≠ .connected ∧ p'.status = .connected then
    k.logins ++ [(noteLogin k p ev p').attempt] else k.logins at hx
  split at hx
  next hnew =>
    rcases List.mem_append.1 hx with hx | hx
    · exact h.logins x hx
    · rw [List.mem_singleton.1 hx, hattempt]
      exact (hlogin hnew.2).resolve_left hnew.1
  next => exact h.logins x hx

/-- A tick leaves a disconnected peer as it is, or sends an RPTL. -/
theorem tick_disconnected (hs : p.hostStatus = .disconnected) (now : Int) :
    p.tick c now = p ∨ p.tick c now = { p with
      hostStatus := .connecting, loginPhase := 0, pongTime := now, status := .connecting,
      buf := rptlTag ++ be32 c.dmrid ++ p.buf.drop (rptlTag ++ be32 c.dmrid).length,
      sent := p.sent ++ [rptlTag ++ be32 c.dmrid] } := by
  by_cases hw : now < p.loginFailUntil
  · left
    rw [PeerDmr.tick, if_pos ⟨hs, hw⟩]
  · right
    have ht : ¬now - now > hbpTimeout * 2 := by
      rw [Int.sub_self]
      decide
    simp only [PeerDmr.tick, hs, true_and, if_neg hw, if_true, fill, sendto, if_neg ht]

theorem tick_connecting (hs : p.hostStatus = .connecting) (now : Int) :
    p.tick c now = if now - p.pongTime > hbpTimeout * 2 then
      { p with status := .connecting, hostStatus := .disconnected }
    else { p with status := .connecting } := by
  simp only [PeerDmr.tick, hs, reduceCtorEq, false_and, if_false]

theorem LoginInv.tick (h : LoginInv c p k) (now : Int) :
    LoginInv c (p.tick c now) (noteLogin k p (.tick now) (p.tick c now)) := by
  cases hs : p.hostStatus with
  | connected =>
    have hst : p.status = .connected := h.shown.2 hs
    rw [tick_connected hs]
    split
    · exact h.next [] (List.append_nil _).symm rfl ⟨nofun, nofun⟩ nofun nofun
    · refine h.next [] (List.append_nil _).symm rfl ⟨fun _ => hs, fun _ => rfl⟩
        (fun _ => .inl hst) (fun hc => ?_)
      exact absurd (hs.symm.trans hc) nofun
  | connecting =>
    have hprog := h.progress hs
    rw [tick_connecting hs]
    split
    · exact h.next [] (List.append_nil _).symm rfl ⟨nofun, nofun⟩ nofun nofun
    · refine h.next [] (List.append_nil _).symm rfl ⟨nofun, fun hc => ?_⟩ nofun
        (fun _ => hprog)
      exact absurd (hs.symm.trans hc) nofun
  | disconnected =>
    rcases tick_disconnected (c := c) hs now with ht | ht
    · rw [ht]
      refine h.next [] (List.append_nil _).symm rfl h.shown .inl fun hc => ?_
      exact absurd (hs.symm.trans hc) nofun
    · rw [ht]
      exact h.next [rptlTag ++ be32 c.dmrid] rfl (rfl : _ = ([] : List LoginMark)) ⟨nofun, nofun⟩ nofun
        fun _ => rfl

theorem ofSent_append (d : List UInt8) (ht : tag.length = 4) :
    ofSent (tag ++ d) = ofSent tag := by
  have h4 : (tag ++ d).take 4 = tag.take 4 := by
    rw [List.take_append_of_le_length (Nat.le_of_eq ht.symm)]
  rw [ofSent, ofSent, h4]

theorem processConnect_sent (c : PeerDmrConfig) (p : PeerDmr) :
    ∃ d, (p.processConnect c).sent = p.sent ++ [rptkTag ++ d] := by
  refine ⟨be32 c.dmrid ++ c.sha256 ((p.buf.drop 6).take 4 ++ c.password.take 63), ?_⟩
  simp only [processConnect, sendto, List.append_assoc]

theorem sendRptc_sent (c : PeerDmrConfig) (p : PeerDmr) :
    ∃ d, (p.sendRptc c).sent = p.sent ++ [rptcTag ++ d] := by
  simp only [sendRptc, sendto, List.append_assoc]
  exact ⟨_, rfl⟩

theorem sendRpto_sent (c : PeerDmrConfig) (p : PeerDmr) :
    ∃ d, (p.sendRpto c).sent = p.sent ++ [rptoTag ++ d] := by
  refine ⟨be32 c.dmrid ++ c.options.take 127, ?_⟩
  simp only [sendRpto, sendto, List.append_assoc]

/-- What an answer of the master in a login does, by the phase that it finds. -/
theorem onRptAck_spec (hs : p.hostStatus = .connecting) (hp : Progress c a p.loginPhase)
    (now : Int) : ∃ ds, (p.onRptAck c now).sent = p.sent ++ ds ∧
      (((p.onRptAck c now).hostStatus = .connecting ∧
        Progress c ((.rptAck :: ds.map ofSent).foldl add a) (p.onRptAck c now).loginPhase) ∨
      ((p.onRptAck c now).hostStatus = .connected ∧
        (.rptAck :: ds.map ofSent).foldl add a = loginScript c)) := by
  rw [onRptAck]
  split
  next hph =>
    rw [hph] at hp
    obtain ⟨d, hd⟩ := processConnect_sent c p
    refine ⟨[rptkTag ++ d], hd, .inl ⟨hs, ?_⟩⟩
    rw [hp, List.map_singleton, ofSent_append d rfl]
    rfl
  next hph =>
    rw [hph] at hp
    obtain ⟨d, hd⟩ := sendRptc_sent c p
    refine ⟨[rptcTag ++ d], hd, .inl ⟨hs, ?_⟩⟩
    rw [hp, List.map_singleton, ofSent_append d rfl]
    rfl
  next hph =>
    rw [hph] at hp
    cases ho : c.options with
    | nil =>
      refine ⟨[], (List.append_nil _).symm, .inr ⟨rfl, ?_⟩⟩
      rw [hp, loginScript, ho]
      rfl
    | cons o os =>
      obtain ⟨d, hd⟩ := sendRpto_sent c p
      refine ⟨[rptoTag ++ d], hd, .inl ⟨hs, ?_⟩⟩
      rw [hp, List.map_singleton, ofSent_append d rfl]
      refine ⟨?_, rfl⟩
      rw [ho]
      exact List.cons_ne_nil o os
  next hph =>
    rw [hph] at hp
    obtain ⟨ho, hp⟩ := hp
    refine ⟨[], (List.append_nil _).symm, .inr ⟨rfl, ?_⟩⟩
    have he : c.options.isEmpty = false := by
      rw [List.isEmpty_eq_false_iff]
      exact ho
    rw [hp, loginScript, he]
    rfl
  next h0 h1 h2 h3 =>
    rw [Progress] at hp
    · exact hp.elim
    · exact h0
    · exact h1
    · exact h2
    · exact h3

/-- A datagram from the master in a login, as it reads in the buffer. -/
theorem handleRx_connecting (hs : p.hostStatus = .connecting) (now : Int) :
    p.handleRx c now =
      if p.buf.take 6 = rptAckTag then
        { p.onRptAck c now with status := (p.onRptAck c now).hostStatus }
      else if p.buf.take 6 = mstNakTag then
        { p with hostStatus := .disconnected, loginFailUntil := now + 3, status := .disconnected }
      else { p with status := .connecting } := by
  simp only [handleRx, hs, reduceCtorEq, if_false, if_true]
  split
  · rfl
  · split
    · rfl
    · rw [hs]

theorem handleRx_disconnected (hs : p.hostStatus = .disconnected) (now : Int) :
    p.handleRx c now = { p with status := .disconnected } := by
  simp only [handleRx, hs, reduceCtorEq, if_false]

theorem LoginInv.rx (h : LoginInv c p k) (hd : d ≠ []) (now : Int)
    (hr : ReadsWell (p, k) (.rx now true d)) :
    LoginInv c (p.poll c now true d) (noteLogin k p (.rx now true d) (p.poll c now true d)) := by
  have hpoll : p.poll c now true d = (p.fill (d.take 2048)).handleRx c now := by
    rw [poll, if_neg hd, if_pos rfl]
  have hdown {q : Prop} (h' : HbpStatus.disconnected = .connected) : q := by cases h'
  have hidle {q : Prop} (h' : HbpStatus.disconnected = .connecting) : q := by cases h'
  have hlogin {q : Prop} (h' : HbpStatus.connecting = .connected) : q := by cases h'
  rw [hpoll]
  cases hs : p.hostStatus with
  | connecting =>
    have hack := hr.reads hd hs rptAckTag (by simp)
    have hnak := hr.reads hd hs mstNakTag (by simp)
    rw [handleRx_connecting (p := p.fill (d.take 2048)) hs]
    split
    next ha =>
      have hm : brought (.rx now true d) = [.rptAck] := by
        rw [brought, ofReceived, if_pos (hack.1 ha)]
      obtain ⟨ds, hsent, ⟨hc, hp⟩ | ⟨hc, hp⟩⟩ := onRptAck_spec (c := c)
        (p := p.fill (d.take 2048)) hs (h.progress hs) now
      · refine h.next ds hsent (by rw [hm]; rfl) ⟨id, id⟩ (fun h' => ?_) (fun _ => hp)
        exact absurd (hc.symm.trans h') (by decide)
      · refine h.next ds hsent (by rw [hm]; rfl) ⟨id, id⟩ (fun _ => .inr hp) (fun h' => ?_)
        exact absurd (hc.symm.trans h') (by decide)
    next ha =>
      split
      · exact h.next [] (List.append_nil _).symm rfl ⟨hdown, hdown⟩ hdown hidle
      next hn =>
        have hm : brought (.rx now true d) = [] := by
          rw [brought, ofReceived, if_neg (mt hack.2 ha), if_neg (mt hnak.2 hn)]
        refine h.next [] (List.append_nil _).symm (by rw [hm]; rfl) ⟨hlogin, fun h' => ?_⟩
          hlogin (fun _ => h.progress hs)
        exact absurd (hs.symm.trans h') (by decide)
  | connected =>
    have hx : (p.fill (d.take 2048)).handleRx c now =
        { p.fill (d.take 2048) with pongTime := now, status := .connected } := by
      simp only [handleRx, fill, hs, if_true, reduceCtorEq, if_false]
    rw [hx]
    refine h.next [] (List.append_nil _).symm rfl ⟨fun _ => hs, fun _ => rfl⟩
      (fun _ => .inl (h.shown.2 hs)) (fun h' => ?_)
    exact absurd (hs.symm.trans h') (by decide)
  | disconnected =>
    rw [handleRx_disconnected (p := p.fill (d.take 2048)) hs]
    refine h.next [] (List.append_nil _).symm rfl ⟨hdown, fun h' => ?_⟩ hdown ?_
    · exact absurd (hs.symm.trans h') (by decide)
    · exact fun h' => absurd (hs.symm.trans h') (by decide)

theorem LoginInv.step (h : LoginInv c p k) (hr : ReadsWell (p, k) ev) :
    LoginInv c (p.step c ev) (noteLogin k p ev (p.step c ev)) := by
  have hquiet (p' : PeerDmr) (hb : brought ev = []) (hsent : p'.sent = p.sent)
      (hst : p'.status = p.status) (hh : p'.hostStatus = p.hostStatus)
      (hph : p'.loginPhase = p.loginPhase) : LoginInv c p' (noteLogin k p ev p') := by
    refine h.next [] (hsent.trans (List.append_nil _).symm) (by rw [hb]) ?_
      (fun hc => .inl (hst.symm.trans hc)) (fun hc => ?_)
    · rw [hst, hh]
      exact h.shown
    · rw [hph]
      exact h.progress (hh.symm.trans hc)
  cases ev with
  | tick now => exact h.tick now
  | rx now fromPeer d =>
    by_cases hd : d = []
    · subst hd
      have hx : p.step c (.rx now fromPeer []) = p := rfl
      rw [hx]
      refine hquiet p ?_ rfl rfl rfl rfl
      cases fromPeer with
      | false => rfl
      | true => rfl
    · cases fromPeer with
      | true => exact h.rx hd now hr
      | false =>
        have hx : p.step c (.rx now false d) = p.fill (d.take 2048) := by
          rw [PeerDmr.step, poll, if_neg hd]
          rfl
        rw [hx]
        exact hquiet _ rfl rfl rfl rfl rfl
  | alarm =>
    rw [PeerDmr.step, onAlarm]
    split
    next hs =>
      refine h.next [rptPingTag ++ be32 c.dmrid] rfl rfl h.shown .inl (fun hc => ?_)
      exact absurd (hs.symm.trans hc) (by decide)
    next => exact hquiet p rfl rfl rfl rfl rfl

theorem LoginInv.order (h : LoginInv c p k) : LoginOrder c (p, k) := by
  refine ⟨h.logins, h.shown, ?_, ?_, ?_⟩
  · intro now d hs hd
    have hne : d ≠ [] := by
      rintro rfl
      cases hd
    have hbuf : (p.fill (d.take 2048)).buf.take 6 = mstNakTag := fill_take p rfl hd
    have hack : (p.fill (d.take 2048)).buf.take 6 ≠ rptAckTag := by
      rw [hbuf]
      decide
    have hx : p.step c (.rx now true d) = (p.fill (d.take 2048)).handleRx c now := by
      rw [PeerDmr.step, poll, if_neg hne, if_pos rfl]
    rw [hx, handleRx_connecting (p := p.fill (d.take 2048)) hs, if_neg hack, if_pos hbuf]
    exact ⟨rfl, rfl⟩
  · intro now he
    rcases he with ⟨hs, ht⟩ | ⟨hs, ht⟩
    · rw [PeerDmr.step, tick_connected hs, if_pos ht]
    · rw [PeerDmr.step, tick_connecting hs, if_pos ht]
  · intro hs ev
    cases ev with
    | tick now =>
      rcases tick_disconnected (c := c) hs now with ht | ht
      · left
        rw [PeerDmr.step, ht]
        exact ⟨hs, rfl⟩
      · right
        rw [PeerDmr.step, ht]
        exact ⟨rfl, rfl, rfl⟩
    | rx now fromPeer d =>
      left
      rw [PeerDmr.step, poll]
      split
      · exact ⟨hs, rfl⟩
      · split
        · rw [handleRx_disconnected (p := p.fill (d.take 2048)) hs]
          exact ⟨hs, rfl⟩
        · exact ⟨hs, rfl⟩
    | alarm =>
      left
      rw [PeerDmr.step, onAlarm, if_neg (by rw [hs]; decide)]
      exact ⟨hs, rfl⟩

/-- In a run in which no datagram reads as an answer that it is not, every login goes by the
script, and every attempt that fails ends disconnected and is begun again with an RPTL. -/
theorem loginOrder_run (h : (logged c now).Meets ReadsWell (logged c now).init evs) :
    (logged c now).Always (LoginOrder c) (logged c now).init evs := by
  apply h.always (I := fun s => LoginInv c s.1 s.2)
  · rintro ⟨p, k⟩ ev ⟨p', k'⟩ hi hr hs
    obtain ⟨he, hnote⟩ := Machine.observe_step hs
    simp only at he hnote
    rw [hnote]
    have he' : p.step c ev = p' := Option.some.inj he
    rw [← he']
    exact hi.step hr
  · exact fun s hi => hi.order
  · exact ⟨List.forall_mem_nil _, ⟨nofun, nofun⟩, nofun⟩

end

theorem loginOrder_run_sample : (logged sampleConfig 0).Always (LoginOrder sampleConfig)
    (logged sampleConfig 0).init acceptingMaster := by
  apply loginOrder_run
  intro s1 _
  have hwell (s : PeerDmr × LoginLog) (t : Int) :
      ReadsWell s (.rx t true (rptAckTag ++ [0x2A, 0x17, 0x05, 0x3C])) := by
    intro _ _ tag _ h
    exact h
  exact ⟨trivial, fun s2 _ => ⟨hwell _ _, fun s3 _ => ⟨hwell _ _, fun s4 _ => ⟨hwell _ _, trivial⟩⟩⟩⟩

/-- Behind one RPTACK two datagrams of one byte each read as two more in the buffer. -/
theorem not_loginOrder_run : ¬(logged sampleConfig 0).Always (LoginOrder sampleConfig)
    (logged sampleConfig 0).init
      [.tick 0, .rx 0 true (rptAckTag ++ [0x2A, 0x17, 0x05, 0x3C]), .rx 1 true [0x52],
       .rx 2 true [0x52]] := by
  intro h
  have hlogins : (((logged sampleConfig 0).run
      [.tick 0, .rx 0 true (rptAckTag ++ [0x2A, 0x17, 0x05, 0x3C]), .rx 1 true [0x52],
       .rx 2 true [0x52]]).map fun s => s.2.logins) = some [[.rptAck, .rptk, .rptc]] := by
    decide +kernel
  obtain ⟨s, hs, hl⟩ := Option.map_eq_some_iff.1 hlogins
  have horder := Machine.always_iff.1 h _ s (List.prefix_refl _) hs
  have hscript := horder.logins [.rptAck, .rptk, .rptc] (by rw [hl]; exact List.mem_singleton_self _)
  exact absurd hscript (by decide)

end PeerDmr

end AdnBridge
