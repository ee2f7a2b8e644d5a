import AdnBridge.Aliases.Table
import AdnBridge.BridgeEl.Reception
import AdnBridge.Program.YsfDmr

namespace AdnBridge
set_option autoImplicit true

/-- What `peer_el_tick` and `peer_el_poll` do to the EchoLink peer. -/
inductive PeerElEvent where
  | rtp (frames : List (Vector Int16 160))
  | identity (cname talker : List UInt8) (explicit : Bool)
  | link (rtpOk : Bool)

def PeerElEvent.bridge : PeerElEvent → BridgeElEvent
  | .rtp frames => .rtp frames
  | .identity cname talker explicit => .identity cname talker explicit
  | .link rtpOk => .link rtpOk

/-- What `run_echolink` is started with; the mode says which of the two networks it uses. -/
structure EcholinkConfig where
  env : ElEnv
  dmr : PeerDmrConfig
  staleMinutes : Int
  reloadMinutes : Int

namespace EcholinkConfig

def ysf (c : EcholinkConfig) : PeerYsfConfig := ⟨c.env.cfg.ysfCallsign, c.env.cfg.dgid⟩

/-- What concerns a network that may not be in use. -/
def onDmr (c : EcholinkConfig) (l : List α) : List α :=
  match c.env.cfg.mode with
  | .echolinkDmr => l
  | .echolinkYsf => []

def onYsf (c : EcholinkConfig) (l : List α) : List α :=
  match c.env.cfg.mode with
  | .echolinkDmr => []
  | .echolinkYsf => l

end EcholinkConfig

structure Echolink where
  bridge : BridgeEl
  dmr : PeerDmr
  ysf : PeerYsf
  lastAliasPoll : Int

/-- What one turn of the main loop meets, the EchoLink side and the vocoder included. -/
structure EcholinkTurn extends Turn where
  elTick : List PeerElEvent
  elPoll : List PeerElEvent
  audioClock : Clock
  audioVoc : Vocoder
  dmrdVoc : Vocoder
  ysfdVoc : Vocoder

namespace Echolink

def start (clock : Clock) (db : AliasDb) (el : PeerEl) (ysfNow dmrNow now : Int) : Echolink where
  bridge := .init clock db el
  dmr := .peerOpen dmrNow
  ysf := .peerOpen ysfNow
  lastAliasPoll := now

section
variable (c : EcholinkConfig) (s : Echolink)

def serviceAlarm : Echolink :=
  match c.env.cfg.mode with
  | .echolinkDmr => { s with dmr := s.dmr.onAlarm c.dmr }
  | .echolinkYsf => { s with ysf := s.ysf.onAlarm c.ysf }

def stepBridge (ev : BridgeElEvent) : Option Echolink :=
  (s.bridge.step c.env ev).map fun b => { s with bridge := b }

def hearEl (evs : List PeerElEvent) : Option Echolink :=
  evs.foldlM (fun s ev => s.stepBridge c ev.bridge) s

def tickPeers (t : EcholinkTurn) : Echolink :=
  match c.env.cfg.mode with
  | .echolinkDmr => { s with dmr := s.dmr.tick c.dmr t.dmrNow }
  | .echolinkYsf => { s with ysf := s.ysf.tick c.ysf t.ysfNow t.ysfLater }

def refreshAliases (now : Int) (refreshed : Option AliasDb) : Echolink :=
  if (c.staleMinutes > 0 ∨ c.reloadMinutes > 0) ∧ now - s.lastAliasPoll ≥ 60 then
    let s := { s with lastAliasPoll := now }
    match refreshed with
    | some db => { s with bridge := { s.bridge with aliases := db } }
    | none => s
  else s

def pollDmr (t : EcholinkTurn) : Option Echolink :=
  match t.dmrRx with
  | none => some s
  | some (fromPeer, d) =>
    let s := { s with dmr := s.dmr.poll c.dmr t.dmrRxNow fromPeer d }
    if fromPeer ∧ d.length = 55 ∧ d.take 4 = dmrdMagic then
      s.stepBridge c (.dmrd t.dmrdClock t.dmrdVoc d)
    else some s

def pollYsf (t : EcholinkTurn) : Option Echolink :=
  match t.ysfRx with
  | none => some s
  | some (fromPeer, d) =>
    let s := { s with ysf := s.ysf.poll t.ysfRxNow fromPeer d }
    if fromPeer ∧ d.length = 155 then s.stepBridge c (.ysfd t.ysfdClock t.ysfdVoc d) else some s

def pollPeers (t : EcholinkTurn) : Option Echolink :=
  match c.env.cfg.mode with
  | .echolinkDmr => s.pollDmr c t
  | .echolinkYsf => s.pollYsf c t

def bridgeTick (clock : Clock) : Option Echolink :=
  s.stepBridge c (.tick clock (decide (s.dmr.status = .connected)))

/-- The body of the loop of `run_echolink`; `none` if it never ends. -/
def turn (t : EcholinkTurn) : Option Echolink := do
  let s := if t.alarm then s.serviceAlarm c else s
  let s ← s.hearEl c t.elTick
  let s := s.tickPeers c t
  let s := s.refreshAliases c t.now t.refreshed
  let s ← s.hearEl c t.elPoll
  let s ← s.stepBridge c (.audio t.audioClock t.audioVoc)
  let s ← s.pollPeers c t
  s.bridgeTick c t.tickClock

end

/-- `run_echolink`. -/
def machine (c : EcholinkConfig) (s : Echolink) : Machine Echolink EcholinkTurn :=
  ⟨s, fun s t => s.turn c t⟩

end Echolink

namespace EcholinkTurn

/-- The datagrams of the network in use that reach the bridge. -/
def packets (c : EcholinkConfig) (t : EcholinkTurn) : List BridgeElEvent :=
  c.onDmr (t.dmrRx.toList.filterMap fun x =>
      if x.1 ∧ x.2.length = 55 ∧ x.2.take 4 = dmrdMagic then
        some (.dmrd t.dmrdClock t.dmrdVoc x.2)
      else none) ++
    c.onYsf (t.ysfRx.toList.filterMap fun x =>
      if x.1 ∧ x.2.length = 155 then some (.ysfd t.ysfdClock t.ysfdVoc x.2) else none)

/-- A datagram of the network in use that the bridge takes, with a reading of the clock. -/
def Brings (c : EcholinkConfig) (t : EcholinkTurn) (r : Timespec) : Prop :=
  (∃ d, c.env.cfg.mode = .echolinkDmr ∧ t.dmrRx = some (true, d) ∧ dmrdIsPacket d = true ∧
      ∃ i, r = t.dmrdClock i) ∨
    ∃ d, c.env.cfg.mode = .echolinkYsf ∧ t.ysfRx = some (true, d) ∧
      (BridgeEl.acceptedFich c.env d).isSome = true ∧ ∃ i, r = t.ysfdClock i

theorem brings_of_packets {c : EcholinkConfig} {t : EcholinkTurn} (h : ev ∈ t.packets c)
    (hr : ev.Receives c.env r) : t.Brings c r := by
  rw [packets, EcholinkConfig.onDmr, EcholinkConfig.onYsf] at h
  cases hm : c.env.cfg.mode with
  | echolinkDmr =>
    simp only [hm, List.append_nil] at h
    obtain ⟨x, hx, he⟩ := List.mem_filterMap.1 h
    split_ifs at he with hc
    cases he
    obtain ⟨-, hp, hi⟩ := hr
    refine .inl ⟨x.2, hm, ?_, hp, hi⟩
    rw [Option.mem_toList.1 hx, ← hc.1]
  | echolinkYsf =>
    simp only [hm, List.nil_append] at h
    obtain ⟨x, hx, he⟩ := List.mem_filterMap.1 h
    split_ifs at he with hc
    cases he
    obtain ⟨-, hp, hi⟩ := hr
    refine .inr ⟨x.2, hm, ?_, hp, hi⟩
    rw [Option.mem_toList.1 hx, ← hc.1]

end EcholinkTurn

namespace Echolink

variable {c : EcholinkConfig} {s s' s'' : Echolink} {t : EcholinkTurn}

/-- What the parts of the program see between two of its states. -/
structure Moves (c : EcholinkConfig) (s s' : Echolink) (ds : List PeerDmrEvent)
    (ys : List PeerYsfEvent) (bs : List BridgeElEvent) : Prop where
  dmr : s'.dmr = ds.foldl (PeerDmr.step c.dmr) s.dmr
  ysf : s'.ysf = ys.foldl (PeerYsf.step c.ysf) s.ysf
  bridge : bs.foldlM (BridgeEl.step c.env) s.bridge = some s'.bridge

theorem Moves.trans (h : Moves c s s' ds ys bs) (h' : Moves c s' s'' ds' ys' bs') :
    Moves c s s'' (ds ++ ds') (ys ++ ys') (bs ++ bs') where
  dmr := by rw [h'.dmr, h.dmr, List.foldl_append]
  ysf := by rw [h'.ysf, h.ysf, List.foldl_append]
  bridge := by
    rw [List.foldlM_append, h.bridge]
    exact h'.bridge

theorem moves_stepBridge (h : s.stepBridge c ev = some s') : Moves c s s' [] [] [ev] := by
  obtain ⟨b, hb, rfl⟩ := Option.map_eq_some_iff.1 h
  refine ⟨rfl, rfl, ?_⟩
  rw [List.foldlM_cons, hb]
  rfl

theorem moves_hearEl {evs : List PeerElEvent} (h : s.hearEl c evs = some s') :
    Moves c s s' [] [] (evs.map PeerElEvent.bridge) := by
  induction evs generalizing s with
  | nil =>
    cases h
    exact ⟨rfl, rfl, rfl⟩
  | cons ev evs ih =>
    rw [hearEl, List.foldlM_cons] at h
    obtain ⟨s1, h1, h⟩ := Option.bind_eq_some_iff.1 h
    exact (moves_stepBridge h1).trans (ih h)

theorem moves_serviceAlarm (c : EcholinkConfig) (s : Echolink) (alarm : Bool) :
    Moves c s (if alarm then s.serviceAlarm c else s)
      (c.onDmr (if alarm then [.alarm] else [])) (c.onYsf (if alarm then [.alarm] else [])) [] := by
  rw [serviceAlarm, EcholinkConfig.onDmr, EcholinkConfig.onYsf]
  cases c.env.cfg.mode <;> cases alarm <;> exact ⟨rfl, rfl, rfl⟩

theorem moves_tickPeers (c : EcholinkConfig) (s : Echolink) (t : EcholinkTurn) :
    Moves c s (s.tickPeers c t) (c.onDmr [.tick t.dmrNow])
      (c.onYsf [.tick t.ysfNow t.ysfLater]) [] := by
  rw [tickPeers, EcholinkConfig.onDmr, EcholinkConfig.onYsf]
  cases c.env.cfg.mode <;> exact ⟨rfl, rfl, rfl⟩

def newAliases (c : EcholinkConfig) (s : Echolink) (t : EcholinkTurn) : List BridgeElEvent :=
  if (c.staleMinutes > 0 ∨ c.reloadMinutes > 0) ∧ t.now - s.lastAliasPoll ≥ 60 then
    (t.refreshed.map .aliases).toList
  else []

theorem moves_refreshAliases (c : EcholinkConfig) (s : Echolink) (t : EcholinkTurn) :
    Moves c s (s.refreshAliases c t.now t.refreshed) [] [] (newAliases c s t) := by
  rw [refreshAliases, newAliases]
  split
  · cases t.refreshed <;> exact ⟨rfl, rfl, rfl⟩
  · exact ⟨rfl, rfl, rfl⟩

theorem moves_pollPeers (h : s.pollPeers c t = some s') :
    Moves c s s' (c.onDmr (t.dmrRx.map fun x => .rx t.dmrRxNow x.1 x.2).toList)
      (c.onYsf (t.ysfRx.map fun x => .rx t.ysfRxNow x.1 x.2).toList) (t.packets c) := by
  rw [pollPeers] at h
  rw [EcholinkTurn.packets]
  simp only [EcholinkConfig.onDmr, EcholinkConfig.onYsf]
  cases hm : c.env.cfg.mode with
  | echolinkDmr =>
    simp only [hm, List.append_nil] at h ⊢
    rw [pollDmr] at h
    cases hx : t.dmrRx with
    | none =>
      rw [hx] at h
      cases h
      exact ⟨rfl, rfl, rfl⟩
    | some x =>
      simp only [hx] at h
      split_ifs at h with hc
      · have hb := moves_stepBridge h
        refine ⟨hb.dmr, hb.ysf, ?_⟩
        rw [Option.toList_some, List.filterMap_cons, if_pos hc]
        exact hb.bridge
      · cases h
        refine ⟨rfl, rfl, ?_⟩
        rw [Option.toList_some, List.filterMap_cons, if_neg hc]
        rfl
  | echolinkYsf =>
    simp only [hm, List.nil_append] at h ⊢
    rw [pollYsf] at h
    cases hx : t.ysfRx with
    | none =>
      rw [hx] at h
      cases h
      exact ⟨rfl, rfl, rfl⟩
    | some x =>
      simp only [hx] at h
      split_ifs at h with hc
      · have hb := moves_stepBridge h
        refine ⟨hb.dmr, hb.ysf, ?_⟩
        rw [Option.toList_some, List.filterMap_cons, if_pos hc]
        exact hb.bridge
      · cases h
        refine ⟨rfl, rfl, ?_⟩
        rw [Option.toList_some, List.filterMap_cons, if_neg hc]
        rfl

theorem onDmr_append (c : EcholinkConfig) (l l' : List α) :
    c.onDmr (l ++ l') = c.onDmr l ++ c.onDmr l' := by
  simp only [EcholinkConfig.onDmr]
  cases c.env.cfg.mode <;> rfl

theorem onYsf_append (c : EcholinkConfig) (l l' : List α) :
    c.onYsf (l ++ l') = c.onYsf l ++ c.onYsf l' := by
  simp only [EcholinkConfig.onYsf]
  cases c.env.cfg.mode <;> rfl

/-- What the bridge sees of a turn before it ticks. -/
def bridgeEvents (c : EcholinkConfig) (s : Echolink) (t : EcholinkTurn) : List BridgeElEvent :=
  t.elTick.map PeerElEvent.bridge ++ newAliases c s t ++ t.elPoll.map PeerElEvent.bridge ++
    [.audio t.audioClock t.audioVoc] ++ t.packets c

theorem hearEl_lastAliasPoll {evs : List PeerElEvent} (h : s.hearEl c evs = some s') :
    s'.lastAliasPoll = s.lastAliasPoll := by
  induction evs generalizing s with
  | nil =>
    cases h
    rfl
  | cons ev evs ih =>
    rw [hearEl, List.foldlM_cons] at h
    obtain ⟨s1, h1, h⟩ := Option.bind_eq_some_iff.1 h
    obtain ⟨b, _, rfl⟩ := Option.map_eq_some_iff.1 h1
    exact @ih { s with bridge := b } h

/-- The peers in use go through a turn as they do on their own, and the tick of the bridge is the
last of it. -/
theorem turn_moves (h : s.turn c t = some s') :
    ∃ s1, Moves c s s1 (c.onDmr t.dmrEvents) (c.onYsf t.link.events) (bridgeEvents c s t) ∧
      s1.bridgeTick c t.tickClock = some s' := by
  rw [turn] at h
  obtain ⟨s1, h1, h⟩ := Option.bind_eq_some_iff.1 h
  obtain ⟨s2, h2, h⟩ := Option.bind_eq_some_iff.1 h
  obtain ⟨s3, h3, h⟩ := Option.bind_eq_some_iff.1 h
  obtain ⟨s4, h4, h⟩ := Option.bind_eq_some_iff.1 h
  have hold : newAliases c (s1.tickPeers c t) t = newAliases c s t := by
    have htick : (s1.tickPeers c t).lastAliasPoll = s1.lastAliasPoll := by
      rw [tickPeers]
      split <;> rfl
    have halarm : (if t.alarm then s.serviceAlarm c else s).lastAliasPoll = s.lastAliasPoll := by
      rw [serviceAlarm]
      split
      · split <;> rfl
      · rfl
    rw [newAliases, newAliases, htick, hearEl_lastAliasPoll h1, halarm]
  have hall := ((((((moves_serviceAlarm c s t.alarm).trans (moves_hearEl h1)).trans
    (moves_tickPeers c s1 t)).trans (moves_refreshAliases c _ t)).trans (moves_hearEl h2)).trans
    (moves_stepBridge h3)).trans (moves_pollPeers h4)
  simp only [List.append_nil, List.nil_append, ← onDmr_append, ← onYsf_append, hold] at hall
  exact ⟨s4, hall, h⟩

/-- What each part sees of a turn. -/
theorem turn_parts (h : s.turn c t = some s') :
    Moves c s s' (c.onDmr t.dmrEvents) (c.onYsf t.link.events)
      (bridgeEvents c s t ++ [.tick t.tickClock (decide (s'.dmr.status = .connected))]) := by
  obtain ⟨s1, hm, htick⟩ := turn_moves h
  have hb := moves_stepBridge htick
  have hall := hm.trans hb
  rw [List.append_nil, List.append_nil] at hall
  have hd : s'.dmr = s1.dmr := hb.dmr
  rw [hd]
  exact hall

theorem dmr_component (c : EcholinkConfig) (clock : Clock) (db : AliasDb) (el : PeerEl)
    (ysfNow dmrNow now : Int) :
    Machine.Component (machine c (start clock db el ysfNow dmrNow now))
      (PeerDmr.machine c.dmr dmrNow) dmr fun _ t => c.onDmr t.dmrEvents where
  init := rfl
  step h := by
    rw [Machine.runFrom_foldl fun _ _ => rfl, (turn_parts h).dmr]

theorem ysf_component (c : EcholinkConfig) (clock : Clock) (db : AliasDb) (el : PeerEl)
    (ysfNow dmrNow now : Int) :
    Machine.Component (machine c (start clock db el ysfNow dmrNow now))
      (PeerYsf.machine c.ysf ysfNow) ysf fun _ t => c.onYsf t.link.events where
  init := rfl
  step h := by
    rw [Machine.runFrom_foldl fun _ _ => rfl, (turn_parts h).ysf]

/-- All that the bridge sees of a turn. -/
def allBridgeEvents (c : EcholinkConfig) (s : Echolink) (t : EcholinkTurn) :
    List BridgeElEvent :=
  let dmr := (c.onDmr t.dmrEvents).foldl (PeerDmr.step c.dmr) s.dmr
  bridgeEvents c s t ++ [.tick t.tickClock (decide (dmr.status = .connected))]

theorem bridge_component (c : EcholinkConfig) (clock : Clock) (db : AliasDb) (el : PeerEl)
    (ysfNow dmrNow now : Int) :
    Machine.Component (machine c (start clock db el ysfNow dmrNow now))
      (BridgeEl.machine c.env clock db el) bridge (allBridgeEvents c) where
  init := rfl
  step h := by
    rw [Machine.runFrom_foldlM, allBridgeEvents, ← (turn_parts h).dmr]
    exact (turn_parts h).bridge

/-- Only the network in use brings the bridge something to receive. -/
theorem brings_of_bridgeEvents (h : ev ∈ bridgeEvents c s t) (hr : ev.Receives c.env r) :
    t.Brings c r := by
  have hel (evs : List PeerElEvent) : ev ∉ evs.map PeerElEvent.bridge := by
    intro hm
    obtain ⟨x, _, rfl⟩ := List.mem_map.1 hm
    cases x <;> exact hr
  simp only [bridgeEvents, List.mem_append, or_assoc] at h
  rcases h with h | h | h | h | h
  · exact absurd h (hel _)
  · rw [newAliases] at h
    split at h
    · obtain ⟨db, _, rfl⟩ := Option.map_eq_some_iff.1 (Option.mem_toList.1 h)
      exact hr.elim
    · cases h
  · exact absurd h (hel _)
  · rw [List.mem_singleton.1 h] at hr
    exact hr.elim
  · exact EcholinkTurn.brings_of_packets h hr

/-- What is received at the end of a turn was heard in a turn of the run, less than the hang time
before. -/
theorem receiving_heard (hr : (machine c (start clock db el ysfNow dmrNow now)).run ts = some s)
    (ht : s.turn c t = some s') (hrx : s'.bridge.callActive = .elRx) :
    ∃ u ∈ ts ++ [t], ∃ r i, u.Brings c r ∧ msSince (t.tickClock i) r < c.env.cfg.mode.rxHangMs := by
  obtain ⟨s1, hm, htick⟩ := turn_moves ht
  rw [bridgeTick, stepBridge] at htick
  obtain ⟨b, hb, rfl⟩ := Option.map_eq_some_iff.1 htick
  cases hb
  have hrun := (bridge_component c clock db el ysfNow dmrNow now).run hr
  have hrun1 : (BridgeEl.machine c.env clock db el).run
      ((machine c (start clock db el ysfNow dmrNow now)).eventsFrom (allBridgeEvents c)
        (start clock db el ysfNow dmrNow now) ts ++ bridgeEvents c s t) = some s1.bridge := by
    rw [Machine.run, Machine.runFrom_append]
    refine (congrArg (Option.bind · _) hrun).trans ?_
    rw [Option.bind_some, Machine.runFrom_foldlM]
    exact hm.bridge
  obtain ⟨ev, hev, r, i, hrec, hlt⟩ := BridgeEl.receiving_alive hrun1 t.tickClock _ hrx
  rcases List.mem_append.1 hev with hev | hev
  · obtain ⟨s0, u, hu, hev⟩ := Machine.mem_eventsFrom hev
    rcases List.mem_append.1 hev with hev | hev
    · exact ⟨u, List.mem_append_left _ hu, r, i, brings_of_bridgeEvents hev hrec, hlt⟩
    · rw [List.mem_singleton.1 hev] at hrec
      exact hrec.elim
  · exact ⟨t, List.mem_append_right _ (List.mem_singleton_self t), r, i,
      brings_of_bridgeEvents hev hrec, hlt⟩

/-- A turn at `ms` milliseconds after the start in which nothing comes. -/
def quietTurn (ms : Nat) : EcholinkTurn where
  toTurn := YsfDmr.quietTurn ms
  elTick := []
  elPoll := []
  audioClock := .stopped ms
  audioVoc := sampleVocoder
  dmrdVoc := sampleVocoder
  ysfdVoc := sampleVocoder

def sampleEcholink : EcholinkConfig where
  env := sampleElEnv .echolinkDmr
  dmr := PeerDmr.sampleConfig
  staleMinutes := 0
  reloadMinutes := 0

/-- The DMR peer comes up, and a call begins. -/
def callingTurns : List EcholinkTurn :=
  let ack := some (true, rptAckTag ++ [0x2A, 0x17, 0x05, 0x3C])
  let rx ms d := { quietTurn ms with dmrRx := d }
  [rx 0 ack, rx 10 ack, rx 20 ack, rx 1000 (some (true, sampleDmrd vheadB15))]

/-- A second after its header, the call is still received. -/
theorem receiving_heard_sample : ∃ s s', (machine sampleEcholink
    (start (.stopped 0) AliasTab.empty.toDb samplePeerEl 0 0 0)).run callingTurns = some s ∧
    s.turn sampleEcholink (quietTurn 2000) = some s' ∧ s'.dmr.status = .connected ∧
    s'.bridge.callActive = .elRx ∧
    ∃ u ∈ callingTurns ++ [quietTurn 2000], ∃ r i, u.Brings sampleEcholink r ∧
      msSince ((quietTurn 2000).tickClock i) r < dmrRxHangMs := by
  have hr : (((machine sampleEcholink (start (.stopped 0) AliasTab.empty.toDb samplePeerEl
      0 0 0)).run callingTurns).bind fun s => (s.turn sampleEcholink (quietTurn 2000)).map fun s' =>
        (s'.dmr.status, s'.bridge.callActive)) = some (.connected, .elRx) := by
    decide +kernel
  obtain ⟨s, hs, hr⟩ := Option.bind_eq_some_iff.1 hr
  obtain ⟨s', hs', hst⟩ := Option.map_eq_some_iff.1 hr
  simp only [Prod.mk.injEq] at hst
  exact ⟨s, s', hs, hs', hst.1, hst.2, receiving_heard hs hs' hst.2⟩

end Echolink

end AdnBridge
