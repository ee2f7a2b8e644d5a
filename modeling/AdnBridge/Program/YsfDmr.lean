import AdnBridge.Bridge.Calls
import AdnBridge.Lib.Compose
import AdnBridge.PeerDmr
import AdnBridge.PeerYsf

namespace AdnBridge
set_option autoImplicit true

/-- What `run_ysf_dmr` is started with. -/
structure YsfDmrConfig where
  env : Env
  dmr : PeerDmrConfig
  ysf : PeerYsfConfig
  staleMinutes : Int
  reloadMinutes : Int

structure YsfDmr where
  bridge : Bridge
  dmr : PeerDmr
  ysf : PeerYsf
  lastAliasPoll : Int

/-- What one turn of the main loop meets: the timer, the times that it reads, the new table that
`ysf2dmr_aliases_maybe_refresh` would bring, and what the polls find, each with its sender. -/
structure Turn where
  alarm : Bool
  dmrNow : Int
  ysfNow : Int
  ysfLater : Int
  now : Int
  refreshed : Option AliasDb
  dmrRxNow : Int
  dmrRx : Option (Bool × List UInt8)
  dmrdClock : Clock
  ysfRxNow : Int
  ysfRx : Option (Bool × List UInt8)
  ysfdClock : Clock
  tickClock : Clock

namespace YsfDmr

def start (clock : Clock) (db : AliasDb) (ysfNow dmrNow now : Int) : YsfDmr where
  bridge := .init clock db
  dmr := .peerOpen dmrNow
  ysf := .peerOpen ysfNow
  lastAliasPoll := now

section
variable (c : YsfDmrConfig) (s : YsfDmr)

def serviceAlarm : YsfDmr := { s with dmr := s.dmr.onAlarm c.dmr, ysf := s.ysf.onAlarm c.ysf }

def refreshAliases (now : Int) (refreshed : Option AliasDb) : YsfDmr :=
  if (c.staleMinutes > 0 ∨ c.reloadMinutes > 0) ∧ now - s.lastAliasPoll ≥ 60 then
    let s := { s with lastAliasPoll := now }
    match refreshed with
    | some db => { s with bridge := { s.bridge with aliases := db } }
    | none => s
  else s

/-- The poll of the DMR peer; a DMRA leaves no trace in what the bridge sends. -/
def pollDmr (now : Int) (clock : Clock) (rx : Option (Bool × List UInt8)) : YsfDmr :=
  match rx with
  | none => s
  | some (fromPeer, d) =>
    let s := { s with dmr := s.dmr.poll c.dmr now fromPeer d }
    if fromPeer ∧ d.length = 55 ∧ d.take 4 = dmrdMagic then
      { s with bridge := { s.bridge with clock := clock }.onDmrd c.env d }
    else s

def pollYsf (now : Int) (clock : Clock) (rx : Option (Bool × List UInt8)) : YsfDmr :=
  match rx with
  | none => s
  | some (fromPeer, d) =>
    let s := { s with ysf := s.ysf.poll now fromPeer d }
    if fromPeer ∧ d.length = 155 then
      { s with bridge := { s.bridge with clock := clock }.onYsfd c.env d }
    else s

def bridgeTick (clock : Clock) : YsfDmr :=
  let up := decide (s.dmr.status = .connected)
  { s with bridge := { s.bridge with clock := clock }.tick c.env up s.ysf.linked }

/-- The body of the loop of `run_ysf_dmr`. -/
def turn (t : Turn) : YsfDmr :=
  let s := if t.alarm then s.serviceAlarm c else s
  let s := { s with dmr := s.dmr.tick c.dmr t.dmrNow }
  let s := { s with ysf := s.ysf.tick c.ysf t.ysfNow t.ysfLater }
  let s := s.refreshAliases c t.now t.refreshed
  let s := s.pollDmr c t.dmrRxNow t.dmrdClock t.dmrRx
  let s := s.pollYsf c t.ysfRxNow t.ysfdClock t.ysfRx
  s.bridgeTick c t.tickClock

end

/-- `run_ysf_dmr`. -/
def machine (c : YsfDmrConfig) (s : YsfDmr) : Machine YsfDmr Turn :=
  ⟨s, fun s t => some (s.turn c t)⟩

end YsfDmr

namespace Turn

def dmrEvents (t : Turn) : List PeerDmrEvent :=
  (if t.alarm then [.alarm] else []) ++ [.tick t.dmrNow] ++
    (t.dmrRx.map fun x => .rx t.dmrRxNow x.1 x.2).toList

def link (t : Turn) : PeerYsf.LinkTurn := ⟨t.alarm, t.ysfNow, t.ysfLater, t.ysfRxNow, t.ysfRx⟩

/-- The datagrams of the two networks that reach the bridge. -/
def packets (t : Turn) : List BridgeEvent :=
  (t.dmrRx.toList.filterMap fun x =>
      if x.1 ∧ x.2.length = 55 ∧ x.2.take 4 = dmrdMagic then some (.dmrd t.dmrdClock x.2)
      else none) ++
    t.ysfRx.toList.filterMap fun x =>
      if x.1 ∧ x.2.length = 155 then some (.ysfd t.ysfdClock x.2) else none

/-- The master is heard in this turn. -/
def HearsMaster (t : Turn) : Prop := ∃ d, d ≠ [] ∧ t.dmrRx = some (true, d)

def HearsReflector (t : Turn) : Prop := ∃ d, d ≠ [] ∧ t.ysfRx = some (true, d)

theorem rx_of_dmrEvents {t : Turn} (h : .rx r fromPeer d ∈ t.dmrEvents) :
    t.dmrRx = some (fromPeer, d) ∧ t.dmrRxNow = r := by
  rcases List.mem_append.1 h with h | h
  · cases ha : t.alarm <;> simp [ha] at h
  · obtain ⟨x, hx, he⟩ := Option.map_eq_some_iff.1 (Option.mem_toList.1 h)
    cases he
    exact ⟨hx, rfl⟩

theorem rx_of_linkEvents {t : Turn} (h : .rx r fromPeer d ∈ t.link.events) :
    t.ysfRx = some (fromPeer, d) ∧ t.ysfRxNow = r := by
  rcases List.mem_append.1 h with h | h
  · cases ha : t.alarm <;> simp [link, ha] at h
  · obtain ⟨x, hx, he⟩ := Option.map_eq_some_iff.1 (Option.mem_toList.1 h)
    cases he
    exact ⟨hx, rfl⟩

end Turn

/-- A tick with a link down relays nothing. -/
theorem Bridge.silent_of_down (e : Env) (b : Bridge) (clock : Clock)
    (h : dmrUp = false ∨ ysfUp = false) :
    Bridge.Silent b (b.step e (.tick clock dmrUp ysfUp)) := by
  obtain ⟨as, ht, ha⟩ := Bridge.Silent.ptt (.poll e { b with clock := clock } dmrUp)
  have hdown : (!dmrUp || !ysfUp) = true := by
    rcases h with h | h
    · rw [h]
      rfl
    · rw [h, Bool.not_false, Bool.or_true]
  rw [Bridge.step, Bridge.tick, if_pos hdown]
  exact ⟨as, ht, ha⟩

namespace YsfDmr

section
variable {c : YsfDmrConfig} {s s' : YsfDmr} {t : Turn}

def newAliases (c : YsfDmrConfig) (s : YsfDmr) (t : Turn) : List BridgeEvent :=
  if (c.staleMinutes > 0 ∨ c.reloadMinutes > 0) ∧ t.now - s.lastAliasPoll ≥ 60 then
    (t.refreshed.map .aliases).toList
  else []

/-- What the bridge sees of a turn. -/
def bridgeEvents (c : YsfDmrConfig) (s : YsfDmr) (t : Turn) : List BridgeEvent :=
  let dmr := t.dmrEvents.foldl (PeerDmr.step c.dmr) s.dmr
  let ysf := t.link.events.foldl (PeerYsf.step c.ysf) s.ysf
  newAliases c s t ++ t.packets ++ [.tick t.tickClock (decide (dmr.status = .connected)) ysf.linked]

@[simp] theorem refreshAliases_dmr (c : YsfDmrConfig) (s : YsfDmr) (now : Int)
    (refreshed : Option AliasDb) : (s.refreshAliases c now refreshed).dmr = s.dmr := by
  rw [refreshAliases]
  split
  · cases refreshed <;> rfl
  · rfl

@[simp] theorem refreshAliases_ysf (c : YsfDmrConfig) (s : YsfDmr) (now : Int)
    (refreshed : Option AliasDb) : (s.refreshAliases c now refreshed).ysf = s.ysf := by
  rw [refreshAliases]
  split
  · cases refreshed <;> rfl
  · rfl

theorem refreshAliases_bridge (c : YsfDmrConfig) (s : YsfDmr) (t : Turn) :
    (s.refreshAliases c t.now t.refreshed).bridge =
      (newAliases c s t).foldl (Bridge.step c.env) s.bridge := by
  rw [refreshAliases, newAliases]
  split
  · cases t.refreshed <;> rfl
  · rfl

theorem pollDmr_eq (c : YsfDmrConfig) (s : YsfDmr) (now : Int) (clock : Clock)
    (rx : Option (Bool × List UInt8)) :
    s.pollDmr c now clock rx = { s with
      dmr := (rx.map fun x => PeerDmrEvent.rx now x.1 x.2).toList.foldl (PeerDmr.step c.dmr) s.dmr
      bridge := (rx.toList.filterMap fun x =>
        if x.1 ∧ x.2.length = 55 ∧ x.2.take 4 = dmrdMagic then some (BridgeEvent.dmrd clock x.2)
        else none).foldl (Bridge.step c.env) s.bridge } := by
  cases rx with
  | none => rfl
  | some x =>
    rw [pollDmr]
    simp only [Option.toList_some, List.filterMap_cons, List.filterMap_nil]
    split_ifs <;> rfl

theorem pollYsf_eq (c : YsfDmrConfig) (s : YsfDmr) (now : Int) (clock : Clock)
    (rx : Option (Bool × List UInt8)) :
    s.pollYsf c now clock rx = { s with
      ysf := (rx.map fun x => PeerYsfEvent.rx now x.1 x.2).toList.foldl (PeerYsf.step c.ysf) s.ysf
      bridge := (rx.toList.filterMap fun x =>
        if x.1 ∧ x.2.length = 155 then some (BridgeEvent.ysfd clock x.2) else none).foldl
          (Bridge.step c.env) s.bridge } := by
  cases rx with
  | none => rfl
  | some x =>
    rw [pollYsf]
    simp only [Option.toList_some, List.filterMap_cons, List.filterMap_nil]
    split_ifs <;> rfl

theorem turn_dmr (c : YsfDmrConfig) (s : YsfDmr) (t : Turn) :
    (s.turn c t).dmr = t.dmrEvents.foldl (PeerDmr.step c.dmr) s.dmr := by
  rw [turn, bridgeTick]
  simp only [pollYsf_eq, pollDmr_eq, refreshAliases_dmr]
  rw [Turn.dmrEvents, List.foldl_append, List.foldl_append]
  cases t.alarm <;> rfl

theorem turn_ysf (c : YsfDmrConfig) (s : YsfDmr) (t : Turn) :
    (s.turn c t).ysf = t.link.events.foldl (PeerYsf.step c.ysf) s.ysf := by
  rw [turn, bridgeTick]
  simp only [pollYsf_eq, pollDmr_eq, refreshAliases_ysf]
  rw [PeerYsf.LinkTurn.events, List.foldl_append, List.foldl_append, Turn.link]
  cases t.alarm <;> rfl

theorem turn_bridge (c : YsfDmrConfig) (s : YsfDmr) (t : Turn) :
    (s.turn c t).bridge = (bridgeEvents c s t).foldl (Bridge.step c.env) s.bridge := by
  have hbridge (s' : YsfDmr) (hb : s'.bridge = s.bridge)
      (hp : s'.lastAliasPoll = s.lastAliasPoll) :
      (s'.refreshAliases c t.now t.refreshed).bridge =
        (newAliases c s t).foldl (Bridge.step c.env) s.bridge := by
    rw [refreshAliases_bridge, newAliases, newAliases, hb, hp]
  have htick : (s.turn c t).bridge = (t.packets.foldl (Bridge.step c.env)
      ((newAliases c s t).foldl (Bridge.step c.env) s.bridge)).step c.env (.tick t.tickClock
        (decide ((s.turn c t).dmr.status = .connected)) (s.turn c t).ysf.linked) := by
    rw [turn, bridgeTick]
    simp only [pollYsf_eq, pollDmr_eq]
    rw [hbridge _ (by cases t.alarm <;> rfl) (by cases t.alarm <;> rfl), Turn.packets,
      List.foldl_append]
    rfl
  rw [htick, turn_dmr, turn_ysf, bridgeEvents, List.foldl_append, List.foldl_append]
  rfl

/-- The DMR peer of the program runs as it does on its own. -/
theorem dmr_component (c : YsfDmrConfig) (clock : Clock) (db : AliasDb) (ysfNow dmrNow now : Int) :
    Machine.Component (machine c (start clock db ysfNow dmrNow now)) (PeerDmr.machine c.dmr dmrNow)
      dmr fun _ t => t.dmrEvents where
  init := rfl
  step h := by
    cases h
    rw [Machine.runFrom_foldl fun _ _ => rfl, turn_dmr]

theorem ysf_component (c : YsfDmrConfig) (clock : Clock) (db : AliasDb) (ysfNow dmrNow now : Int) :
    Machine.Component (machine c (start clock db ysfNow dmrNow now)) (PeerYsf.machine c.ysf ysfNow)
      ysf fun _ t => t.link.events where
  init := rfl
  step h := by
    cases h
    rw [Machine.runFrom_foldl fun _ _ => rfl, turn_ysf]

theorem bridge_component (c : YsfDmrConfig) (clock : Clock) (db : AliasDb)
    (ysfNow dmrNow now : Int) :
    Machine.Component (machine c (start clock db ysfNow dmrNow now))
      (Bridge.machine c.env clock db) bridge (bridgeEvents c) where
  init := rfl
  step h := by
    cases h
    rw [Machine.runFrom_foldl fun _ _ => rfl, turn_bridge]

/-- A turn relays nothing unless both peers are up when the bridge ticks. -/
theorem turn_silent (h : (s.turn c t).dmr.status ≠ .connected ∨ (s.turn c t).ysf.linked = false) :
    Bridge.Silent s.bridge (s.turn c t).bridge := by
  have hnew : Bridge.Silent s.bridge ((newAliases c s t).foldl (Bridge.step c.env) s.bridge) := by
    rw [newAliases]
    split
    · cases t.refreshed with
      | none => exact .refl s.bridge
      | some db => exact ⟨[], (List.append_nil _).symm, List.forall_mem_nil _⟩
    · exact .refl s.bridge
  have hstep {b : Bridge} {ev : BridgeEvent} (hev : ev ∈ t.packets) :
      Bridge.Silent b (b.step c.env ev) := by
    rcases List.mem_append.1 hev with hev | hev
    · obtain ⟨x, _, hx⟩ := List.mem_filterMap.1 hev
      split_ifs at hx
      cases hx
      exact (Bridge.onDmrd_received c.env { b with clock := t.dmrdClock } x.2).silent
    · obtain ⟨x, _, hx⟩ := List.mem_filterMap.1 hev
      split_ifs at hx
      cases hx
      obtain ⟨a, ha, _⟩ := Bridge.onYsfd_received c.env { b with clock := t.ysfdClock } x.2
      exact ha.silent
  have hpackets (evs : List BridgeEvent) (hevs : ∀ ev ∈ evs, ev ∈ t.packets) (b : Bridge) :
      Bridge.Silent b (evs.foldl (Bridge.step c.env) b) := by
    induction evs generalizing b with
    | nil => exact .refl b
    | cons ev evs ih =>
      exact (hstep (hevs ev List.mem_cons_self)).trans
        (ih (fun ev' h' => hevs ev' (List.mem_cons_of_mem ev h')) _)
  rw [turn_dmr, turn_ysf] at h
  rw [turn_bridge, bridgeEvents, List.foldl_append, List.foldl_append]
  refine (hnew.trans (hpackets _ (fun _ h => h) _)).trans ?_
  generalize t.packets.foldl _ _ = b
  exact Bridge.silent_of_down c.env b t.tickClock (h.imp_left decide_eq_false)

/-- A DMR peer that a turn leaves connected has heard the master. -/
theorem dmr_heard (h : s.dmr.Inv evs) (hc : (s.turn c t).dmr.status = .connected) :
    t.HearsMaster ∨ ∃ r, PeerDmr.HeardAt evs r ∧ t.dmrNow - r ≤ hbpTimeout := by
  rw [turn_dmr, Turn.dmrEvents, List.foldl_append, List.foldl_append] at hc
  have halarm : ((if t.alarm then [PeerDmrEvent.alarm] else []).foldl
      (PeerDmr.step c.dmr) s.dmr).Inv evs := by
    cases t.alarm with
    | false => exact h
    | true => exact h.onAlarm
  generalize (if t.alarm then [PeerDmrEvent.alarm] else []).foldl _ _ = p at hc halarm
  have htick (hq : (p.tick c.dmr t.dmrNow).status = .connected) :
      t.HearsMaster ∨ ∃ r, PeerDmr.HeardAt evs r ∧ t.dmrNow - r ≤ hbpTimeout :=
    .inr (halarm.heard_of_tick hq)
  cases hrx : t.dmrRx with
  | none =>
    rw [hrx] at hc
    exact htick hc
  | some x =>
    obtain ⟨fromPeer, d⟩ := x
    rw [hrx] at hc
    change ((p.tick c.dmr t.dmrNow).poll c.dmr t.dmrRxNow fromPeer d).status = _ at hc
    rw [PeerDmr.poll] at hc
    split_ifs at hc with hd hf
    · exact htick hc
    · subst hf
      exact .inl ⟨d, hd, hrx⟩
    · exact htick hc

theorem ysf_heard (h : s.ysf.Inv evs) (hl : (s.turn c t).ysf.linked = true) :
    t.HearsReflector ∨ ∃ r, PeerYsf.HeardAt evs r ∧ t.ysfNow - r ≤ lostTimeout := by
  rw [turn_ysf, PeerYsf.LinkTurn.events, List.foldl_append, List.foldl_append, Turn.link] at hl
  have halarm : ((if t.alarm then [PeerYsfEvent.alarm] else []).foldl
      (PeerYsf.step c.ysf) s.ysf).Inv evs := by
    cases t.alarm with
    | false => exact h
    | true => exact h.onAlarm
  generalize (if t.alarm then [PeerYsfEvent.alarm] else []).foldl _ _ = p at hl halarm
  have htick (hq : (p.tick c.ysf t.ysfNow t.ysfLater).linked = true) :
      t.HearsReflector ∨ ∃ r, PeerYsf.HeardAt evs r ∧ t.ysfNow - r ≤ lostTimeout :=
    .inr (halarm.tick_linked hq)
  cases hrx : t.ysfRx with
  | none =>
    rw [hrx] at hl
    exact htick hl
  | some x =>
    obtain ⟨fromPeer, d⟩ := x
    rw [hrx] at hl
    change ((p.tick c.ysf t.ysfNow t.ysfLater).poll t.ysfRxNow fromPeer d).linked = true at hl
    rw [PeerYsf.poll] at hl
    split_ifs at hl with hd hf
    · exact htick hl
    · subst hf
      exact .inl ⟨d, hd, hrx⟩
    · exact htick hl

/-- When the program relays a frame, of a call in whichever direction, both networks are alive:
each was heard in this turn, or in a turn that is not longer ago than its timeout. -/
theorem relays_between_live_links
    (hr : (machine c (start clock db ysfNow dmrNow now)).run ts = some s)
    (hrel : ∃ a ∈ Bridge.actsSince s.bridge (s.turn c t).bridge, a.isFrame = true) :
    (t.HearsMaster ∨ ∃ u ∈ ts, u.HearsMaster ∧ t.dmrNow - u.dmrRxNow ≤ hbpTimeout) ∧
      (t.HearsReflector ∨
        ∃ u ∈ ts, u.HearsReflector ∧ t.ysfNow - u.ysfRxNow ≤ lostTimeout) := by
  have hup : (s.turn c t).dmr.status = .connected ∧ (s.turn c t).ysf.linked = true := by
    by_contra hn
    obtain ⟨as, ht, has⟩ := turn_silent (c := c) (s := s) (t := t)
      ((not_and_or.1 hn).imp_right Bool.eq_false_of_not_eq_true)
    obtain ⟨a, ha, haf⟩ := hrel
    rw [Bridge.actsSince_eq ht] at ha
    rw [has a ha] at haf
    cases haf
  constructor
  · refine (dmr_heard (PeerDmr.inv_run ((dmr_component ..).run hr)) hup.1).imp_right ?_
    rintro ⟨r, ⟨d, hd, hm⟩, hle⟩
    obtain ⟨_, u, hu, hm⟩ := Machine.mem_eventsFrom hm
    obtain ⟨hrx, hnow⟩ := Turn.rx_of_dmrEvents hm
    rw [← hnow] at hle
    exact ⟨u, hu, ⟨d, hd, hrx⟩, hle⟩
  · refine (ysf_heard (PeerYsf.inv_run ((ysf_component ..).run hr)) hup.2).imp_right ?_
    rintro ⟨r, ⟨d, hd, hm⟩, hle⟩
    obtain ⟨_, u, hu, hm⟩ := Machine.mem_eventsFrom hm
    obtain ⟨hrx, hnow⟩ := Turn.rx_of_linkEvents hm
    rw [← hnow] at hle
    exact ⟨u, hu, ⟨d, hd, hrx⟩, hle⟩

/-- A turn at `ms` milliseconds after the start in which nothing comes. -/
def quietTurn (ms : Nat) : Turn where
  alarm := false
  dmrNow := ms / 1000
  ysfNow := ms / 1000
  ysfLater := ms / 1000
  now := ms / 1000
  refreshed := none
  dmrRxNow := ms / 1000
  dmrRx := none
  dmrdClock := .stopped ms
  ysfRxNow := ms / 1000
  ysfRx := none
  ysfdClock := .stopped ms
  tickClock := .stopped ms

def sampleProgram : YsfDmrConfig where
  env := sampleEnv
  dmr := PeerDmr.sampleConfig
  ysf := ⟨sampleCallsign, 0⟩
  staleMinutes := 0
  reloadMinutes := 0

/-- Both peers come up. -/
def linkedTurns : List Turn :=
  let ack := some (true, rptAckTag ++ [0x2A, 0x17, 0x05, 0x3C])
  [{ quietTurn 0 with dmrRx := ack }, { quietTurn 10 with dmrRx := ack },
    { quietTurn 20 with dmrRx := ack, ysfRx := some (true, ysfpTag) }]

/-- A call from DMR begins, eight seconds after the reflector was last heard. -/
theorem relays_between_live_links_sample :
    let t := { quietTurn 8000 with dmrRx := some (true, sampleDmrd vheadB15) }
    (t.HearsMaster ∨ ∃ u ∈ linkedTurns, u.HearsMaster ∧ t.dmrNow - u.dmrRxNow ≤ hbpTimeout) ∧
      (t.HearsReflector ∨
        ∃ u ∈ linkedTurns, u.HearsReflector ∧ t.ysfNow - u.ysfRxNow ≤ lostTimeout) := by
  intro t
  have hrun : (machine sampleProgram (start (.stopped 0) noAliases 0 0 0)).run linkedTurns =
      some (linkedTurns.foldl (turn sampleProgram) (start (.stopped 0) noAliases 0 0 0)) :=
    Machine.runFrom_foldl (fun _ _ => rfl) _ _
  exact relays_between_live_links hrun (by decide +kernel)

end

end YsfDmr

end AdnBridge
