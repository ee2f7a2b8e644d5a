import AdnBridge.Hbp.Dmrd
import AdnBridge.Hbp.Sha256
import AdnBridge.Lib.Run
import AdnBridge.Ysf.Callsign

namespace AdnBridge
set_option autoImplicit true

/-- `TIMEOUT`, in seconds. -/
def hbpTimeout : Int := 30

inductive HbpStatus where
  | disconnected
  | connecting
  | connected
deriving DecidableEq

def rptlTag : List UInt8 := [0x52, 0x50, 0x54, 0x4C]
def rptkTag : List UInt8 := [0x52, 0x50, 0x54, 0x4B]
def rptcTag : List UInt8 := [0x52, 0x50, 0x54, 0x43]
def rptoTag : List UInt8 := [0x52, 0x50, 0x54, 0x4F]
def rptPingTag : List UInt8 := [0x52, 0x50, 0x54, 0x50, 0x49, 0x4E, 0x47]
def rptAckTag : List UInt8 := [0x52, 0x50, 0x54, 0x41, 0x43, 0x4B]
def mstNakTag : List UInt8 := [0x4D, 0x53, 0x54, 0x4E, 0x41, 0x4B]
def mstClTag : List UInt8 := [0x4D, 0x53, 0x54, 0x43, 0x4C]

/-- `"MMDVMHost"`. -/
def softwareId : List UInt8 := [0x4D, 0x4D, 0x44, 0x56, 0x4D, 0x48, 0x6F, 0x73, 0x74]

/-- `"ysf2dmrcon"`. -/
def packageId : List UInt8 := [0x79, 0x73, 0x66, 0x32, 0x64, 0x6D, 0x72, 0x63, 0x6F, 0x6E]

/-- The four bytes of a radio id, most significant first. -/
def be32 (id : Int) : List UInt8 :=
  [24, 16, 8, 0].map fun s : Nat => UInt8.ofNat ((id >>> s) % 256).toNat

def padCopy (n : Nat) (src : List UInt8) : List UInt8 := src.take n ++ spaces (n - src.length)

/-- The part of a callsign before a suffix. -/
def baseCallsign (cs : List UInt8) : List UInt8 :=
  cs.takeWhile fun c => c != 0 && c != chDash && c != chSlash && c != 0x5F

/-- What the peer is opened with, and the hash that the login uses: `sha256Generate`, over whatever
an earlier call has left. -/
structure PeerDmrConfig where
  callsign : List UInt8
  dmrid : Int
  options : List UInt8
  password : List UInt8
  description : List UInt8
  location : List UInt8
  sha256 : List UInt8 → List UInt8

/-- `peer_dmr_t` with the globals of the login that it shares; `buf` is the global receive
buffer, which keeps the tail of older datagrams. -/
structure PeerDmr where
  hostStatus : HbpStatus
  pongTime : Int
  buf : List UInt8
  status : HbpStatus
  loginPhase : Nat
  loginFailUntil : Int
  sent : List (List UInt8)

namespace PeerDmr

def peerOpen (now : Int) : PeerDmr where
  hostStatus := .disconnected
  pongTime := now
  buf := List.replicate 2048 0
  status := .disconnected
  loginPhase := 0
  loginFailUntil := 0
  sent := []

section
variable (c : PeerDmrConfig) (p : PeerDmr)

def sendto (d : List UInt8) : PeerDmr := { p with sent := p.sent ++ [d] }

/-- The first bytes of the receive buffer are overwritten. -/
def fill (d : List UInt8) : PeerDmr := { p with buf := d ++ p.buf.drop d.length }

def sendRptc : PeerDmr :=
  let desc := if c.description.isEmpty then packageId else c.description.take 19
  let loc := if c.location.isEmpty then c.description.take 19 else c.location.take 20
  let cs := padCopy 10 ((baseCallsign c.callsign).take 10)
  let zeros n := List.replicate n 0x30
  p.sendto (rptcTag ++ be32 c.dmrid ++ cs.take 8 ++ zeros 9 ++ zeros 9 ++ [0x39, 0x39] ++
    [0x30, 0x31] ++ zeros 8 ++ zeros 9 ++ zeros 3 ++ padCopy 20 loc ++ padCopy 19 desc ++ [0x30] ++
    spaces 124 ++ padCopy 40 softwareId ++ padCopy 40 packageId)

def sendRpto : PeerDmr := p.sendto (rptoTag ++ be32 c.dmrid ++ c.options.take 127)

/-- The answer to the seed at byte 6 of the buffer. -/
def processConnect : PeerDmr :=
  let seed := (p.buf.drop 6).take 4
  p.sendto (rptkTag ++ be32 c.dmrid ++ c.sha256 (seed ++ c.password.take 63))

def tick (now : Int) : PeerDmr :=
  if p.hostStatus = .disconnected ∧ now < p.loginFailUntil then p
  else
    let p :=
      if p.hostStatus = .disconnected then
        let p := { p with hostStatus := .connecting, loginPhase := 0, pongTime := now }
        (p.fill (rptlTag ++ be32 c.dmrid)).sendto (rptlTag ++ be32 c.dmrid)
      else p
    let p := { p with status := p.hostStatus }
    match p.hostStatus with
    | .connected =>
      if now - p.pongTime > hbpTimeout then
        { p with hostStatus := .disconnected, status := .disconnected }
      else p
    | .connecting =>
      if now - p.pongTime > hbpTimeout * 2 then { p with hostStatus := .disconnected } else p
    | .disconnected => p

def loginComplete (now : Int) : PeerDmr :=
  { p with hostStatus := .connected, loginPhase := 4, pongTime := now }

/-- An `RPTACK` during the login, by the phase that it answers. -/
def onRptAck (now : Int) : PeerDmr :=
  match p.loginPhase with
  | 0 => { p.processConnect c with loginPhase := 1 }
  | 1 => { p.sendRptc c with loginPhase := 2 }
  | 2 => if c.options.isEmpty then p.loginComplete now else { p.sendRpto c with loginPhase := 3 }
  | 3 => p.loginComplete now
  | _ => p

def handleRx (now : Int) : PeerDmr :=
  let p := if p.hostStatus = .connected then { p with pongTime := now } else p
  let p :=
    if p.hostStatus = .connecting then
      if p.buf.take 6 = rptAckTag then p.onRptAck c now
      else if p.buf.take 6 = mstNakTag then
        { p with hostStatus := .disconnected, loginFailUntil := now + 3 }
      else p
    else p
  { p with status := p.hostStatus }

/-- `peer_dmr_poll` when it finds the datagram `d`; an empty one counts as nothing. -/
def poll (now : Int) (fromPeer : Bool) (d : List UInt8) : PeerDmr :=
  if d = [] then p
  else
    let p := p.fill (d.take 2048)
    if fromPeer then p.handleRx c now else p

def onAlarm : PeerDmr :=
  if p.hostStatus = .connected then p.sendto (rptPingTag ++ be32 c.dmrid) else p

end

end PeerDmr

/-- What happens to the peer: a tick, a datagram, the ping timer. -/
inductive PeerDmrEvent where
  | tick (now : Int)
  | rx (now : Int) (fromPeer : Bool) (d : List UInt8)
  | alarm
deriving DecidableEq

namespace PeerDmr

def step (c : PeerDmrConfig) (p : PeerDmr) : PeerDmrEvent → PeerDmr
  | .tick now => p.tick c now
  | .rx now fromPeer d => p.poll c now fromPeer d
  | .alarm => p.onAlarm c

def machine (c : PeerDmrConfig) (now : Int) : Machine PeerDmr PeerDmrEvent :=
  ⟨peerOpen now, fun p ev => some (p.step c ev)⟩

/-- The master has sent something at time `t`. -/
def HeardAt (evs : List PeerDmrEvent) (t : Int) : Prop := ∃ d, d ≠ [] ∧ .rx t true d ∈ evs

/-- When the master was last heard, if it was at `r` before the event. -/
def heardWith (r : Int) : PeerDmrEvent → Int
  | .rx t true (_ :: _) => t
  | _ => r

def lastHeard (start : Int) (evs : List PeerDmrEvent) : Int := evs.foldl heardWith start

def InTime (r : Int) : PeerDmrEvent → Prop
  | .tick t => t - r ≤ hbpTimeout
  | _ => True

instance decidableInTime (r : Int) (ev : PeerDmrEvent) : Decidable (InTime r ev) :=
  match ev with
  | .tick t => inferInstanceAs (Decidable (t - r ≤ hbpTimeout))
  | .rx .. => isTrue trivial
  | .alarm => isTrue trivial

/-- Every tick comes within the timeout of what the master has sent last, first at `r`. -/
def Answered (r : Int) : List PeerDmrEvent → Prop
  | [] => True
  | ev :: es => InTime r ev ∧ Answered (heardWith r ev) es

instance decidableAnswered (r : Int) (es : List PeerDmrEvent) : Decidable (Answered r es) :=
  match es with
  | [] => isTrue trivial
  | ev :: es =>
    haveI := decidableAnswered (heardWith r ev) es
    inferInstanceAs (Decidable (InTime r ev ∧ Answered (heardWith r ev) es))

/-- A connected peer has heard from the master when its keepalive clock was last set, and the
status that it shows is not ahead of the login. -/
structure Inv (evs : List PeerDmrEvent) (p : PeerDmr) : Prop where
  shown : p.status = .connected → p.hostStatus = .connected
  heard : p.hostStatus = .connected → HeardAt evs p.pongTime

section
variable {c : PeerDmrConfig} {p : PeerDmr} {evs : List PeerDmrEvent} {start now : Int}

theorem HeardAt.append (h : HeardAt evs t) (fs : List PeerDmrEvent) : HeardAt (evs ++ fs) t := by
  obtain ⟨d, hd, hm⟩ := h
  exact ⟨d, hd, List.mem_append_left fs hm⟩

theorem heardAt_last (evs : List PeerDmrEvent) (now : Int) (hd : d ≠ []) :
    HeardAt (evs ++ [.rx now true d]) now :=
  ⟨d, hd, List.mem_append_right evs (List.mem_singleton_self _)⟩

theorem Inv.append (h : p.Inv evs) (fs : List PeerDmrEvent) : p.Inv (evs ++ fs) :=
  ⟨h.shown, fun hc => (h.heard hc).append fs⟩

theorem not_connected (hs : p.hostStatus ≠ .connected) (h : p.status ≠ .connected) : p.Inv evs :=
  ⟨fun hc => absurd hc h, fun hc => absurd hc hs⟩

/-- The key that answers the seed is the digest of the seed and the password. -/
theorem processConnect_digest (hc : c.sha256 = sha256Generate left) (hl : left.length = 128)
    (p : PeerDmr) : (p.processConnect c).sent = p.sent ++
      [rptkTag ++ be32 c.dmrid ++
        Sha256.digest ((p.buf.drop 6).take 4 ++ c.password.take 63)] := by
  have hlen : ((p.buf.drop 6).take 4 ++ c.password.take 63).length < 2 ^ 32 := by
    simp only [List.length_append, List.length_take]
    omega
  obtain ⟨h8, hv⟩ := finish_compress hl hlen
  rw [processConnect, hc, sha256Generate, digest_bytes h8, hv]
  rfl

/-- A tick keeps a connection for the timeout only. -/
theorem tick_connected (hs : p.hostStatus = .connected) :
    p.tick c now = if now - p.pongTime > hbpTimeout then
      { p with hostStatus := .disconnected, status := .disconnected }
    else { p with status := .connected } := by
  simp only [tick, hs, reduceCtorEq, false_and, if_false]

/-- A tick never connects. -/
theorem tick_not_connected (h : p.Inv evs) (hs : p.hostStatus ≠ .connected) :
    (p.tick c now).hostStatus ≠ .connected ∧ (p.tick c now).status ≠ .connected := by
  have hst : p.status ≠ .connected := fun hc => hs (h.shown hc)
  rw [tick]
  split
  · exact ⟨hs, hst⟩
  · cases hp : p.hostStatus with
    | connected => exact absurd hp hs
    | disconnected =>
      simp only [if_true, sendto, fill]
      split_ifs <;> exact ⟨nofun, nofun⟩
    | connecting =>
      simp only [reduceCtorEq, if_false, hp]
      split_ifs <;> exact ⟨nofun, nofun⟩

/-- A tick leaves a peer connected only if the master was heard in the thirty seconds before. -/
theorem Inv.heard_of_tick (h : p.Inv evs) (hc : (p.tick c now).status = .connected) :
    ∃ s, HeardAt evs s ∧ now - s ≤ hbpTimeout := by
  by_cases hs : p.hostStatus = .connected
  · refine ⟨p.pongTime, h.heard hs, ?_⟩
    rw [tick_connected hs] at hc
    split_ifs at hc with ht
    omega
  · exact absurd hc (tick_not_connected h hs).2

theorem Inv.tick (h : p.Inv evs) (now : Int) : (p.tick c now).Inv evs := by
  by_cases hs : p.hostStatus = .connected
  · rw [tick_connected hs]
    split_ifs
    · exact not_connected nofun nofun
    · exact ⟨fun _ => hs, h.heard⟩
  · obtain ⟨h1, h2⟩ := @tick_not_connected c _ _ now h hs
    exact not_connected h1 h2

/-- An `RPTACK` moves the login on, or completes it and sets the keepalive clock. -/
theorem onRptAck_cases (c : PeerDmrConfig) (p : PeerDmr) (now : Int) :
    (p.onRptAck c now).hostStatus = p.hostStatus ∨ (p.onRptAck c now).pongTime = now := by
  rw [onRptAck]
  split
  · exact .inl rfl
  · exact .inl rfl
  · split
    · exact .inr rfl
    · exact .inl rfl
  · exact .inr rfl
  · exact .inl rfl

/-- A datagram from the master sets the keepalive clock of a connected peer, whatever it says. -/
theorem handleRx_pongTime (hc : (p.handleRx c now).hostStatus = .connected) :
    (p.handleRx c now).pongTime = now := by
  rw [handleRx] at hc ⊢
  cases hs : p.hostStatus with
  | connected => simp only [if_true, reduceCtorEq, if_false]
  | disconnected =>
    simp only [hs, reduceCtorEq, if_false] at hc
  | connecting =>
    simp only [hs, reduceCtorEq, if_false, if_true] at hc ⊢
    split_ifs at hc ⊢
    · rcases onRptAck_cases c p now with h | h
      · exact absurd (hs.symm.trans (h.symm.trans hc)) nofun
      · exact h
    · exact absurd (hs.symm.trans hc) nofun

theorem Inv.poll (h : p.Inv evs) (now : Int) (fromPeer : Bool) (d : List UInt8) :
    (p.poll c now fromPeer d).Inv (evs ++ [.rx now fromPeer d]) := by
  rw [PeerDmr.poll]
  split_ifs with hd hf
  · exact h.append _
  · subst hf
    refine ⟨id, fun hc => ?_⟩
    rw [handleRx_pongTime hc]
    exact heardAt_last evs now hd
  · exact ⟨h.shown, fun hc => (h.heard hc).append _⟩

theorem Inv.onAlarm (h : p.Inv evs) : (p.onAlarm c).Inv evs := by
  rw [PeerDmr.onAlarm]
  split_ifs
  · exact ⟨h.shown, h.heard⟩
  · exact h

theorem Inv.step (h : p.Inv evs) (ev : PeerDmrEvent) : (p.step c ev).Inv (evs ++ [ev]) := by
  cases ev with
  | tick now => exact (h.tick now).append _
  | rx now fromPeer d => exact h.poll now fromPeer d
  | alarm => exact h.onAlarm.append _

theorem inv_run (hr : (machine c start).run evs = some p) : p.Inv evs :=
  Machine.run_history (M := machine c start) (I := Inv) ⟨nofun, nofun⟩
    (fun _ _ ev _ h he => by cases he; exact h.step ev) hr

theorem run_snoc (hr : (machine c start).run (evs ++ [ev]) = some p) :
    ∃ q, (machine c start).run evs = some q ∧ p = q.step c ev := by
  rw [Machine.run, Machine.runFrom_append] at hr
  obtain ⟨q, hq, hr⟩ := Option.bind_eq_some_iff.1 hr
  obtain ⟨_, he, hr⟩ := Machine.runFrom_cons_some.1 hr
  cases he
  cases hr
  exact ⟨q, hq, rfl⟩

theorem lastHeard_snoc (start : Int) (evs : List PeerDmrEvent) (ev : PeerDmrEvent) :
    lastHeard start (evs ++ [ev]) = heardWith (lastHeard start evs) ev := by
  rw [lastHeard, List.foldl_append]
  rfl

theorem poll_pongTime (hd : d ≠ []) (hc : (p.poll c now true d).hostStatus = .connected) :
    (p.poll c now true d).pongTime = now := by
  rw [poll, if_neg hd] at hc ⊢
  exact handleRx_pongTime hc

/-- The keepalive clock of a connected peer is what was heard last. -/
theorem step_lastHeard (h : p.Inv evs)
    (hl : p.hostStatus = .connected → p.pongTime = lastHeard start evs) (ev : PeerDmrEvent)
    (hc : (p.step c ev).hostStatus = .connected) :
    (p.step c ev).pongTime = lastHeard start (evs ++ [ev]) := by
  rw [lastHeard_snoc]
  cases ev with
  | tick now =>
    by_cases hs : p.hostStatus = .connected
    · rw [step, tick_connected hs]
      split_ifs
      · exact hl hs
      · exact hl hs
    · exact absurd hc (tick_not_connected h hs).1
  | alarm =>
    rw [step, PeerDmr.onAlarm] at hc ⊢
    split_ifs at hc ⊢ with hs
    · exact hl hs
    · exact hl hc
  | rx now fromPeer d =>
    cases d with
    | nil => cases fromPeer with | _ => exact hl hc
    | cons b d =>
      cases fromPeer with
      | false => exact hl hc
      | true => exact poll_pongTime (List.cons_ne_nil b d) hc

theorem pongTime_run (hr : (machine c start).run evs = some p) (hc : p.hostStatus = .connected) :
    p.pongTime = lastHeard start evs := by
  have h : p.Inv evs ∧ (p.hostStatus = .connected → p.pongTime = lastHeard start evs) :=
    Machine.run_history (M := machine c start)
      (I := fun evs p => p.Inv evs ∧ (p.hostStatus = .connected → p.pongTime = lastHeard start evs))
      ⟨⟨nofun, nofun⟩, nofun⟩
      (fun _ _ ev _ h he => by
        cases he
        exact ⟨h.1.step ev, step_lastHeard h.1 h.2 ev⟩) hr
  exact h.2 hc

/-- A step in time keeps a connection. -/
theorem step_connected (hs : p.hostStatus = .connected) (hst : p.status = .connected)
    (ht : InTime p.pongTime ev) :
    (p.step c ev).hostStatus = .connected ∧ (p.step c ev).status = .connected ∧
      (p.step c ev).pongTime = heardWith p.pongTime ev := by
  cases ev with
  | tick now =>
    have hin : ¬now - p.pongTime > hbpTimeout := Int.not_lt.2 ht
    rw [step, tick_connected hs, if_neg hin]
    exact ⟨hs, rfl, rfl⟩
  | alarm =>
    rw [step, PeerDmr.onAlarm, if_pos hs]
    exact ⟨hs, hst, rfl⟩
  | rx now fromPeer d =>
    cases d with
    | nil => cases fromPeer with | _ => exact ⟨hs, hst, rfl⟩
    | cons b d =>
      cases fromPeer with
      | false => exact ⟨hs, hst, rfl⟩
      | true =>
        rw [step, poll, if_neg (List.cons_ne_nil b d)]
        simp only [if_true, handleRx, fill, hs, reduceCtorEq, if_false]
        exact ⟨trivial, trivial, rfl⟩

theorem foldl_connected {es : List PeerDmrEvent} (hs : p.hostStatus = .connected)
    (hst : p.status = .connected) (ha : Answered p.pongTime es) :
    (es.foldl (step c) p).status = .connected := by
  induction es generalizing p with
  | nil => exact hst
  | cons ev es ih =>
    obtain ⟨h1, h2, h3⟩ := step_connected (c := c) hs hst ha.1
    exact ih h1 h2 (h3 ▸ ha.2)

theorem run_foldl (c : PeerDmrConfig) (start : Int) (es : List PeerDmrEvent) :
    (machine c start).run es = some (es.foldl (step c) (peerOpen start)) :=
  Machine.runFrom_foldl (fun _ _ => rfl) _ es

/-- Whenever a tick at time `t` leaves the peer connected, the master has sent something, be it a
rejection, in the thirty seconds before; and a connected peer stays connected as long as the master
sends something, be it rejections, within the timeout of every tick. -/
theorem connected_heard (hr : (machine c start).run evs = some p) (hc : p.status = .connected) :
    (∀ pre t, evs = pre ++ [.tick t] → ∃ s, HeardAt pre s ∧ t - s ≤ hbpTimeout) ∧
      ∀ es, Answered (lastHeard start evs) es →
        ∃ q, (machine c start).run (evs ++ es) = some q ∧ q.status = .connected := by
  constructor
  · rintro pre t rfl
    obtain ⟨q, hq, rfl⟩ := run_snoc hr
    exact (inv_run hq).heard_of_tick hc
  · intro es ha
    have hs := (inv_run hr).shown hc
    rw [← pongTime_run hr hs] at ha
    refine ⟨es.foldl (step c) p, ?_, foldl_connected hs hc ha⟩
    rw [Machine.run, Machine.runFrom_append]
    exact (congrArg (Option.bind · _) hr).trans (Machine.runFrom_foldl (fun _ _ => rfl) p es)

end

def sampleConfig : PeerDmrConfig where
  callsign := [0x43, 0x45, 0x35, 0x52, 0x50, 0x59]
  dmrid := 7301234
  options := []
  password := [0x70, 0x61, 0x73, 0x73]
  description := []
  location := []
  sha256 := sha256Generate (List.replicate 128 0)

example : sampleConfig.sha256 ([0x2A, 0x17, 0x05, 0x3C] ++ sampleConfig.password) =
    [0x55, 0x1F, 0xC1, 0xD9, 0xDB, 0x4B, 0x8C, 0x6B, 0x67, 0x61, 0x37,
     0xDC, 0xD1, 0x07, 0x5F, 0xD8, 0xFC, 0x6E, 0xD8, 0x0B, 0xFC, 0x0E,
     0x96, 0x41, 0x4A, 0xC6, 0xDC, 0x16, 0x17, 0xC7, 0x78, 0x6A] := by
  decide +kernel

/-- A master that answers each step of the login. -/
def acceptingMaster : List PeerDmrEvent :=
  let ack t := .rx t true (rptAckTag ++ [0x2A, 0x17, 0x05, 0x3C])
  [.tick 0, ack 0, ack 1, ack 2]

/-- The master rejects every ping. -/
def rejections : List PeerDmrEvent :=
  let nak t := .rx t true (mstNakTag ++ be32 7301234)
  [.alarm, nak 5, .tick 6, .alarm, nak 10, .alarm, nak 15, .alarm, nak 20, .tick 21, .alarm, nak 25,
    .alarm, nak 30, .alarm, nak 35, .alarm, nak 40]

/-- The peer is still connected after half a minute of rejections. -/
theorem connected_heard_rejected : (∃ s, HeardAt acceptingMaster s ∧ 3 - s ≤ hbpTimeout) ∧
    ∃ q, (machine sampleConfig 0).run
        ((acceptingMaster ++ [.tick 3]) ++ (rejections ++ [.tick 40])) = some q ∧
      q.status = .connected := by
  have h := @connected_heard sampleConfig _ (acceptingMaster ++ [.tick 3]) 0
    (run_foldl ..) (by decide +kernel)
  constructor
  · exact h.1 acceptingMaster 3 rfl
  · have hstays := h.2 (rejections ++ [.tick 40])
    exact hstays (by decide +kernel)

def isRejection (d : List UInt8) : Bool := d.take 6 == mstNakTag || d.take 5 == mstClTag

def hostConnected (c : PeerDmrConfig) (start : Int) (evs : List PeerDmrEvent) : Bool :=
  (evs.foldl (step c) (peerOpen start)).hostStatus = .connected

/-- The datagram that came at time `s` has completed the login. -/
def LoginAt (c : PeerDmrConfig) (start : Int) (evs : List PeerDmrEvent) (s : Int) : Prop :=
  ∃ k d, evs[k]? = some (.rx s true d) ∧ hostConnected c start (evs.take k) = false ∧
    hostConnected c start (evs.take (k + 1)) = true

def rejectingMaster : List PeerDmrEvent := acceptingMaster ++ rejections

theorem rejectingMaster_logins : ∀ k < rejectingMaster.length,
    hostConnected sampleConfig 0 (rejectingMaster.take k) = true ∨
      hostConnected sampleConfig 0 (rejectingMaster.take (k + 1)) = false ∨
      rejectingMaster[k]? = some (.rx 2 true (rptAckTag ++ [0x2A, 0x17, 0x05, 0x3C])) := by
  decide +kernel

/-- Thirty-eight seconds after its login the peer is connected, and has only been rejected since. -/
theorem not_connected_accepted :
    ¬∀ (evs : List PeerDmrEvent) (t : Int) (p : PeerDmr),
      (machine sampleConfig 0).run (evs ++ [.tick t]) = some p → p.status = .connected →
        (∃ s d, .rx s true d ∈ evs ∧ d ≠ [] ∧ isRejection d = false ∧ t - s ≤ hbpTimeout) ∨
          ∃ s, LoginAt sampleConfig 0 evs s ∧ t - s ≤ hbpTimeout := by
  intro h
  rcases h rejectingMaster 40 _ (run_foldl ..) (by decide +kernel) with
    ⟨s, d, hm, -, hd, ht⟩ | ⟨s, ⟨k, d, hk, hn, hy⟩, ht⟩
  · have hall : ∀ ev ∈ rejectingMaster,
        (match ev with | .rx s _ d => isRejection d || decide (s ≤ 2) | _ => true) = true := by
      decide +kernel
    have hs := hall _ hm
    simp only [hd, Bool.false_or, decide_eq_true_eq] at hs
    rw [hbpTimeout] at ht
    omega
  · obtain ⟨hlt, -⟩ := List.getElem?_eq_some_iff.1 hk
    rcases rejectingMaster_logins k hlt with hs | hs | hs
    · exact absurd (hn.symm.trans hs) (by decide)
    · exact absurd (hs.symm.trans hy) (by decide)
    · cases Option.some.inj (hk.symm.trans hs)
      exact absurd ht (by decide)

end PeerDmr

end AdnBridge
