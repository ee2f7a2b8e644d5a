import AdnBridge.Lib.Run
import AdnBridge.Lib.Timed
import AdnBridge.Ysf.Callsign
import AdnBridge.Ysf.Stamping

namespace AdnBridge
set_option autoImplicit true

/-- `LOST_TIMEOUT`, in seconds. -/
def lostTimeout : Int := 10

/-- `"YSFP"`. -/
def ysfpTag : List UInt8 := [0x59, 0x53, 0x46, 0x50]

/-- The header of a frame of the activation burst. -/
def activationFich (fi cm fn ft dgid : UInt8) : List UInt8 :=
  (fichSetVoip false <| fichSetDt ysfDtVdMode2 <| fichSetMr 0 <| fichSetFt ft <| fichSetFn fn <|
    fichSetCm cm <| fichSetCs 2 <| fichSetFi fi <| List.replicate 6 0).set 3 dgid

/-- A frame of the burst: its head, the serial number in byte 48, and the coded header over it. -/
def activationFrame (callsign : List UInt8) (dgid fi cm ft serial : UInt8) : List UInt8 :=
  let frame := ysfdMagic ++ callsign ++ callsign ++ ysfWireDstAll ++ spaces 10 ++
    List.replicate 4 0 ++ [serial] ++ List.replicate 106 0
  let m : FichCodec :=
    { FichCodec.init with fich := activationFich fi cm (serial >>> 1) ft dgid, fich_length := rfl }
  blit frame ysfFichOffsetRx (m.fichEncode ((frame.drop ysfFichOffsetRx).take 25)).2

/-- `generate_voice_payload`. -/
def generateVoicePayload (frameNum : Nat) : List UInt8 :=
  let payload : List UInt8 :=
    (List.range 100).map fun i => if (frameNum + i) % 200 < 100 then 0x55 else 0xAA
  (payload.set 0 (frameNum / 256).toUInt8).set 1 frameNum.toUInt8

/-- `ysf_send_activation_burst`: 5 headers, 20 frames whose test pattern starts at byte 55, inside
of the coded header, and 3 more, all with the same serial number. -/
@[irreducible] def ysfActivationBurst (callsign : List UInt8) (dgid : UInt8) : List (List UInt8) :=
  let serial (i : Nat) : UInt8 := (2 * i).toUInt8
  ((List.range 5).map fun i => activationFrame callsign dgid ysfFiHeader 0 1 (serial i)) ++
    ((List.range 20).map fun i =>
      blit (activationFrame callsign dgid ysfFiTerminator 1 0 (serial (5 + i))) 55
        (generateVoicePayload i)) ++
    List.replicate 3 (activationFrame callsign dgid ysfFiTerminator 1 1 (serial 25))

structure PeerYsfConfig where
  callsign : List UInt8
  dgid : UInt8

/-- `peer_ysf_t`, and what it has sent. -/
structure PeerYsf where
  linked : Bool
  reconnectPending : Bool
  lastRx : Int
  sent : List (List UInt8)

namespace PeerYsf

def peerOpen (now : Int) : PeerYsf where
  linked := false
  reconnectPending := true
  lastRx := now
  sent := []

section
variable (c : PeerYsfConfig) (p : PeerYsf)

def wireCallsign : List UInt8 := pad10 (cString c.callsign)

def send (ds : List (List UInt8)) : PeerYsf := { p with sent := p.sent ++ ds }

def sendPoll : PeerYsf := p.send [ysfpTag ++ wireCallsign c]

/-- `peer_ysf_reconnect`, which ends at `later`, after the pause and the burst. -/
def reconnect (later : Int) : PeerYsf :=
  let p := { p with linked := false }.sendPoll c
  let p := if c.dgid ≥ 1 then p.send (ysfActivationBurst (wireCallsign c) c.dgid) else p
  { p with lastRx := later }

def tick (now later : Int) : PeerYsf :=
  if p.reconnectPending then { p with reconnectPending := false }.reconnect c later
  else if now - p.lastRx > lostTimeout then { p with linked := false, reconnectPending := true }
  else p

/-- `peer_ysf_poll` when it finds the datagram `d`; an empty one counts as nothing. -/
def poll (now : Int) (fromPeer : Bool) (d : List UInt8) : PeerYsf :=
  if d = [] then p else if fromPeer then { p with lastRx := now, linked := true } else p

def onAlarm : PeerYsf := if p.linked then p.sendPoll c else p

end

end PeerYsf

/-- What happens to the peer: a tick, which a reconnection makes last, a datagram, the timer. -/
inductive PeerYsfEvent where
  | tick (now later : Int)
  | rx (now : Int) (fromPeer : Bool) (d : List UInt8)
  | alarm
deriving DecidableEq

namespace PeerYsf

def step (c : PeerYsfConfig) (p : PeerYsf) : PeerYsfEvent → PeerYsf
  | .tick now later => p.tick c now later
  | .rx now fromPeer d => p.poll now fromPeer d
  | .alarm => p.onAlarm c

def machine (c : PeerYsfConfig) (now : Int) : Machine PeerYsf PeerYsfEvent :=
  ⟨peerOpen now, fun p ev => some (p.step c ev)⟩

/-- The reflector has sent something at time `t`. -/
def HeardAt (evs : List PeerYsfEvent) (t : Int) : Prop := ∃ d, d ≠ [] ∧ .rx t true d ∈ evs

/-- A linked peer has heard from the reflector when its clock was last set. -/
def Inv (evs : List PeerYsfEvent) (p : PeerYsf) : Prop := p.linked = true → HeardAt evs p.lastRx

section
variable {c : PeerYsfConfig} {p : PeerYsf} {evs : List PeerYsfEvent}

theorem HeardAt.append (h : HeardAt evs t) (fs : List PeerYsfEvent) : HeardAt (evs ++ fs) t := by
  obtain ⟨d, hd, hm⟩ := h
  exact ⟨d, hd, List.mem_append_left fs hm⟩

theorem reconnect_eq (c : PeerYsfConfig) (p : PeerYsf) (later : Int) :
    ∃ ds, ds ≠ [] ∧ p.reconnect c later =
      { p with linked := false, lastRx := later, sent := p.sent ++ ds } := by
  rw [reconnect]
  split
  · exact ⟨(ysfpTag ++ wireCallsign c) :: ysfActivationBurst (wireCallsign c) c.dgid,
      List.cons_ne_nil _ _, by simp only [send, sendPoll, List.append_assoc, List.singleton_append]⟩
  · exact ⟨[ysfpTag ++ wireCallsign c], List.cons_ne_nil _ _, rfl⟩

/-- What a tick does. -/
theorem tick_cases (c : PeerYsfConfig) (p : PeerYsf) (now later : Int) :
    (p.reconnectPending = true ∧ ∃ ds, ds ≠ [] ∧ p.tick c now later =
        { p with linked := false, reconnectPending := false, lastRx := later,
                 sent := p.sent ++ ds }) ∨
      p.reconnectPending = false ∧ (lostTimeout < now - p.lastRx ∧
          p.tick c now later = { p with linked := false, reconnectPending := true } ∨
        now - p.lastRx ≤ lostTimeout ∧ p.tick c now later = p) := by
  rw [tick]
  by_cases hp : p.reconnectPending = true
  · rw [if_pos hp]
    obtain ⟨ds, hds, h⟩ := reconnect_eq c { p with reconnectPending := false } later
    exact .inl ⟨hp, ds, hds, h⟩
  · rw [if_neg hp]
    refine .inr ⟨Bool.eq_false_of_not_eq_true hp, ?_⟩
    split
    next h => exact .inl ⟨h, rfl⟩
    next h => exact .inr ⟨Int.not_lt.1 h, rfl⟩

theorem Inv.onAlarm (h : p.Inv evs) : (p.onAlarm c).Inv evs := by
  rw [PeerYsf.onAlarm]
  split_ifs
  · exact fun hl => h hl
  · exact h

theorem Inv.step (h : p.Inv evs) (ev : PeerYsfEvent) : (p.step c ev).Inv (evs ++ [ev]) := by
  cases ev with
  | tick now later =>
    rw [PeerYsf.step]
    rcases tick_cases c p now later with ⟨_, ds, _, ht⟩ | ⟨_, ⟨_, ht⟩ | ⟨_, ht⟩⟩
    · rw [ht]
      exact nofun
    · rw [ht]
      exact nofun
    · rw [ht]
      exact fun hl => (h hl).append _
  | rx now fromPeer d =>
    rw [PeerYsf.step, poll]
    split_ifs with hd hf
    · exact fun hl => (h hl).append _
    · subst hf
      exact fun _ => ⟨d, hd, List.mem_append_right evs (List.mem_singleton_self _)⟩
    · exact fun hl => (h hl).append _
  | alarm => exact fun hl => (h.onAlarm hl).append _

theorem inv_run (hr : (machine c start).run evs = some p) : p.Inv evs :=
  Machine.run_history (M := machine c start) (I := Inv) nofun
    (fun _ _ ev _ h he => by cases he; exact h.step ev) hr

/-- A tick leaves a peer linked only if the reflector was heard in the ten seconds before. -/
theorem Inv.tick_linked (h : p.Inv evs) (hl : (p.tick c now later).linked = true) :
    ∃ s, HeardAt evs s ∧ now - s ≤ lostTimeout := by
  rcases tick_cases c p now later with ⟨_, ds, _, ht⟩ | ⟨_, ⟨_, ht⟩ | ⟨hle, ht⟩⟩
  · rw [ht] at hl
    cases hl
  · rw [ht] at hl
    cases hl
  · rw [ht] at hl
    exact ⟨p.lastRx, h hl, hle⟩

end

/-- The event takes place between the two times. -/
def Within : PeerYsfEvent → Int → Int → Prop
  | .tick now later, t, u => t ≤ now ∧ now ≤ later ∧ later ≤ u
  | .rx now _ _, t, u => t ≤ now ∧ now ≤ u
  | .alarm, _, _ => True

/-- A peer with the times of the link setups that it has sent: when each began and ended. -/
def bookedStep (c : PeerYsfConfig) (s : PeerYsf × List (Int × Int)) (ev : PeerYsfEvent) :
    PeerYsf × List (Int × Int) :=
  let p := s.1.step c ev
  match ev with
  | .tick now later => (p, if p.sent = s.1.sent then s.2 else s.2 ++ [(now, later)])
  | _ => (p, s.2)

/-- Nothing is set up again before the reflector has been silent for longer than the timeout. -/
structure SpacedInv (t : Int) (s : PeerYsf × List (Int × Int)) : Prop where
  past : s.1.lastRx ≤ t
  ended : ∀ x ∈ s.2, x.2 ≤ s.1.lastRx
  pending : s.1.reconnectPending = true → ∀ x ∈ s.2, x.2 + lostTimeout < t
  spaced : s.2.Pairwise fun x y => x.2 + lostTimeout < y.1

section
variable {c : PeerYsfConfig} {s : PeerYsf × List (Int × Int)}

theorem bookedStep_tick (c : PeerYsfConfig) (s : PeerYsf × List (Int × Int)) (now later : Int) :
    bookedStep c s (.tick now later) = (s.1.tick c now later,
      if s.1.reconnectPending then s.2 ++ [(now, later)] else s.2) := by
  rw [bookedStep, step]
  rcases tick_cases c s.1 now later with ⟨hp, ds, hds, ht⟩ | ⟨hp, ⟨_, ht⟩ | ⟨_, ht⟩⟩
  · have hne : (s.1.tick c now later).sent ≠ s.1.sent := by
      rw [ht]
      exact fun he => hds (List.append_right_eq_self.1 he)
    rw [hp]
    simp only [if_neg hne, if_true]
  · rw [hp, ht]
    simp only [if_true, Bool.false_eq_true, if_false]
  · rw [hp, ht]
    simp only [if_true, Bool.false_eq_true, if_false]

theorem bookedStep_rx (c : PeerYsfConfig) (s : PeerYsf × List (Int × Int)) (now : Int)
    (fromPeer : Bool) (d : List UInt8) :
    bookedStep c s (.rx now fromPeer d) = (s.1.poll now fromPeer d, s.2) := rfl

theorem bookedStep_alarm (c : PeerYsfConfig) (s : PeerYsf × List (Int × Int)) :
    bookedStep c s .alarm = (s.1.onAlarm c, s.2) := rfl

theorem SpacedInv.step (h : SpacedInv t s) (ev : PeerYsfEvent) (hw : Within ev t u) (htu : t ≤ u) :
    SpacedInv u (bookedStep c s ev) := by
  cases ev with
  | tick now later =>
    obtain ⟨h1, h2, h3⟩ := hw
    rw [bookedStep_tick]
    rcases tick_cases c s.1 now later with ⟨hp, ds, hds, ht⟩ | ⟨hp, ⟨hlt, ht⟩ | ⟨_, ht⟩⟩
    · rw [hp, ht, if_pos rfl]
      have hpast := h.past
      refine ⟨h3, fun x hx => ?_, nofun, List.pairwise_append.2 ⟨h.spaced,
        List.pairwise_singleton _ _, fun x hx y hy => ?_⟩⟩
      · rcases List.mem_append.1 hx with hx | hx
        · have := h.ended x hx
          show x.2 ≤ later
          omega
        · rw [List.mem_singleton.1 hx]
      · have := h.pending hp x hx
        rw [List.mem_singleton.1 hy]
        show x.2 + lostTimeout < now
        omega
    · rw [hp, ht, if_neg Bool.false_ne_true]
      refine ⟨h.past.trans htu, h.ended, fun _ x hx => ?_, h.spaced⟩
      have := h.ended x hx
      show x.2 + lostTimeout < u
      omega
    · rw [hp, ht, if_neg Bool.false_ne_true]
      exact ⟨h.past.trans htu, h.ended, fun hp' => absurd (hp.symm.trans hp') Bool.false_ne_true,
        h.spaced⟩
  | rx now fromPeer d =>
    have hkeep : SpacedInv u s := ⟨h.past.trans htu, h.ended,
      fun hp x hx => (h.pending hp x hx).trans_le htu, h.spaced⟩
    rw [bookedStep_rx, poll]
    split_ifs
    · exact hkeep
    · exact ⟨hw.2, fun x hx => (h.ended x hx).trans (h.past.trans hw.1), hkeep.pending, h.spaced⟩
    · exact hkeep
  | alarm =>
    rw [bookedStep_alarm, onAlarm]
    split_ifs
    all_goals exact ⟨h.past.trans htu, h.ended,
      fun hp x hx => (h.pending hp x hx).trans_le htu, h.spaced⟩

theorem SpacedInv.run (c : PeerYsfConfig) {evs : List PeerYsfEvent} (hs : start ≤ t)
    (h : Timed Within t evs t') :
    SpacedInv t' (evs.foldl (bookedStep c) (peerOpen start, [])) := by
  have hinit : SpacedInv t (peerOpen start, []) :=
    ⟨hs, nofun, fun _ => nofun, List.Pairwise.nil⟩
  exact h.foldl (I := SpacedInv) (fun _ ev _ _ hI hw htu => hI.step ev hw htu) hinit

/-- In any run, each link setup begins more than ten seconds after the one before has ended. -/
theorem setups_spaced (c : PeerYsfConfig) {evs : List PeerYsfEvent} (hs : start ≤ t)
    (h : Timed Within t evs t') :
    (evs.foldl (bookedStep c) (peerOpen start, [])).2.Pairwise fun x y =>
      x.2 + lostTimeout < y.1 :=
  (SpacedInv.run c hs h).spaced

/-- Two setups, with a silence of eleven seconds between them. -/
theorem setups_spaced_sample :
    ([.tick 0 3, .alarm, .tick 13 13, .tick 14 14, .tick 14 17].foldl
      (bookedStep ⟨[0x43, 0x45], 0⟩) (peerOpen 0, [])).2 = [(0, 3), (14, 17)] ∧
    ([(0, 3), (14, 17)] : List (Int × Int)).Pairwise fun x y => x.2 + lostTimeout < y.1 := by
  have hrun : ([.tick 0 3, .alarm, .tick 13 13, .tick 14 14, .tick 14 17].foldl
      (bookedStep ⟨[0x43, 0x45], 0⟩) (peerOpen 0, [])).2 = [(0, 3), (14, 17)] := by
    decide +kernel
  refine ⟨hrun, ?_⟩
  rw [← hrun]
  have htimed : Timed Within 0 [.tick 0 3, .alarm, .tick 13 13, .tick 14 14, .tick 14 17] 17 :=
    .cons (u := 3) (by simp [Within]) (by decide) <| .cons (u := 3) trivial (by decide) <|
    .cons (u := 13) (by simp [Within]) (by decide) <|
    .cons (u := 14) (by simp [Within]) (by decide) <|
    .cons (u := 17) (by simp [Within]) (by decide) .nil
  exact setups_spaced ⟨[0x43, 0x45], 0⟩ (Int.le_refl 0) htimed

end

/-- What one turn of the main loop has for the peer: the timer perhaps, a tick, and what
the poll finds. -/
structure LinkTurn where
  alarm : Bool
  now : Int
  later : Int
  rxNow : Int
  rx : Option (Bool × List UInt8)

namespace LinkTurn

def events (e : LinkTurn) : List PeerYsfEvent :=
  (if e.alarm then [.alarm] else []) ++ [.tick e.now e.later] ++
    (e.rx.map fun x => .rx e.rxNow x.1 x.2).toList

/-- The turn takes at most `d` and hears nothing from the reflector. -/
def Silent (d : Int) (e : LinkTurn) (t u : Int) : Prop :=
  t ≤ e.now ∧ e.now ≤ e.later ∧ e.later ≤ u ∧ u ≤ t + d ∧
    ∀ x ∈ e.rx, x.1 = true → x.2 = []

end LinkTurn

def bookedTurn (c : PeerYsfConfig) (s : PeerYsf × List (Int × Int)) (e : LinkTurn) :
    PeerYsf × List (Int × Int) :=
  e.events.foldl (bookedStep c) s

/-- A peer that is not heard, with the time from which it gives the link up. -/
structure Waiting (t₀ t : Int) (s : PeerYsf × List (Int × Int)) (n : Nat) (r : Int) : Prop where
  after : t₀ ≤ t
  rank : s.1.reconnectPending = false → n = 1 ∧ r = s.1.lastRx + lostTimeout + 1

section
variable {c : PeerYsfConfig} {s : PeerYsf × List (Int × Int)} {e : LinkTurn}

theorem onAlarm_eq (c : PeerYsfConfig) (p : PeerYsf) :
    ∃ ds, p.onAlarm c = { p with sent := p.sent ++ ds } := by
  rw [onAlarm]
  split
  · exact ⟨_, rfl⟩
  · exact ⟨[], by rw [List.append_nil]⟩

/-- In a silent turn only the tick counts. -/
theorem bookedTurn_silent (hs : e.Silent d t u) : ∃ ds,
    bookedTurn c s e = bookedStep c ({ s.1 with sent := s.1.sent ++ ds }, s.2)
      (.tick e.now e.later) := by
  have hrx (s : PeerYsf × List (Int × Int)) :
      (e.rx.map fun x => PeerYsfEvent.rx e.rxNow x.1 x.2).toList.foldl (bookedStep c) s = s := by
    cases hr : e.rx with
    | none => rfl
    | some x =>
      have hx := hs.2.2.2.2 x hr
      show (s.1.poll e.rxNow x.1 x.2, s.2) = s
      rw [poll]
      split_ifs with hd hf
      · rfl
      · exact absurd (hx hf) hd
      · rfl
  rw [bookedTurn, LinkTurn.events, List.foldl_append, hrx, List.foldl_append]
  split
  · obtain ⟨ds, h⟩ := onAlarm_eq c s.1
    refine ⟨ds, ?_⟩
    rw [← h]
    rfl
  · exact ⟨[], by rw [List.append_nil]; rfl⟩

/-- The reflector stays silent: the peer first gives the link up, then sets it up again. -/
theorem waits_setup (c : PeerYsfConfig) (d t₀ : Int) : Waits (bookedTurn c) (LinkTurn.Silent d) d 0
    (fun s => ∃ x ∈ s.2, t₀ ≤ x.1) (Waiting t₀) where
  gap hw := hw.2.2.2.1
  stays := by
    rintro e t u s hw ⟨x, hx, ht⟩
    obtain ⟨ds, h⟩ := bookedTurn_silent (c := c) (s := s) hw
    rw [h, bookedStep_tick]
    refine ⟨x, ?_, ht⟩
    show x ∈ ite _ _ _
    split
    · exact List.mem_append_left _ hx
    · exact hx
  turn := by
    intro e t u s n r hw htu hI
    obtain ⟨ds, h⟩ := bookedTurn_silent (c := c) (s := s) hw
    rw [h, bookedStep_tick]
    show (∃ x ∈ ite (s.1.reconnectPending = true) _ _, _) ∨ _
    rcases tick_cases c { s.1 with sent := s.1.sent ++ ds } e.now e.later with
      ⟨hp, _⟩ | ⟨hp, ⟨hlt, ht⟩ | ⟨hle, ht⟩⟩
    · rw [if_pos hp]
      exact .inl ⟨_, List.mem_append_right _ (List.mem_singleton_self _), hI.after.trans hw.1⟩
    · obtain ⟨hn, -⟩ := hI.rank hp
      right
      refine ⟨0, u, ⟨hI.after.trans htu, ?_⟩, .inl ⟨by omega, by omega⟩⟩
      rw [ht]
      exact nofun
    · obtain ⟨hn, hr⟩ := hI.rank hp
      right
      refine ⟨n, r, ⟨hI.after.trans htu, ?_⟩, .inr ⟨rfl, rfl, .inr ?_⟩⟩
      · rw [ht]
        exact fun _ => ⟨hn, hr⟩
      · have hnow := hw.1
        change e.now - s.1.lastRx ≤ lostTimeout at hle
        omega

/-- Whatever has happened before, a reflector that is silent for eleven seconds and four turns of
the main loop makes the peer set the link up in that time. -/
theorem setup_in_silence (c : PeerYsfConfig) {evs : List PeerYsfEvent} {es : List LinkTurn}
    (hd : 0 < d) (hs : start ≤ t) (h : Timed Within t evs t₀)
    (hsilent : Timed (LinkTurn.Silent d) t₀ es t') (ht : t₀ + (lostTimeout + 1) + 4 * d ≤ t') :
    ∃ x ∈ (es.foldl (bookedTurn c) (evs.foldl (bookedStep c) (peerOpen start, []))).2,
      t₀ ≤ x.1 := by
  have hpast := (SpacedInv.run c hs h).past
  generalize evs.foldl (bookedStep c) (peerOpen start, []) = s at hpast
  have hb (r : Int) (hr : r ≤ t₀ + (lostTimeout + 1)) :
      r ≤ t₀ ∧ t₀ + d + (1 : Nat) * (0 + 2 * d) ≤ t' ∨
        t₀ ≤ r ∧ r + 2 * d + (1 : Nat) * (0 + 2 * d) ≤ t' := by
    rw [lostTimeout] at ht hr
    by_cases hrt : r ≤ t₀
    · exact .inl ⟨hrt, by omega⟩
    · exact .inr ⟨by omega, by omega⟩
  exact (waits_setup c d t₀).reaches_of_budget hd (Int.le_refl 0)
    (n := 1) (r := s.1.lastRx + lostTimeout + 1) ⟨Int.le_refl t₀, fun _ => ⟨rfl, rfl⟩⟩ hsilent
    (hb _ (by omega))

/-- A linked peer, and turns of twelve seconds that hear nothing, or only somebody else. -/
theorem setup_in_silence_sample :
    let c : PeerYsfConfig := ⟨[0x43, 0x45], 0⟩
    let evs : List PeerYsfEvent := [.tick 0 0, .rx 0 true [1]]
    let es : List LinkTurn := [⟨true, 0, 0, 0, none⟩, ⟨true, 12, 12, 12, some (false, [1])⟩,
      ⟨false, 24, 26, 26, none⟩, ⟨false, 36, 36, 36, some (true, [])⟩, ⟨false, 48, 48, 48, none⟩]
    ∃ x ∈ (es.foldl (bookedTurn c) (evs.foldl (bookedStep c) (peerOpen 0, []))).2, 0 ≤ x.1 := by
  intro c evs es
  have htimed : Timed Within 0 evs 0 :=
    .cons (u := 0) (by simp [Within]) (by decide) <|
    .cons (u := 0) (by simp [Within]) (by decide) .nil
  have hsilent : Timed (LinkTurn.Silent 12) 0 es 60 :=
    .cons (u := 12) (by simp [LinkTurn.Silent]) (by decide) <|
    .cons (u := 24) (by simp [LinkTurn.Silent]) (by decide) <|
    .cons (u := 36) (by simp [LinkTurn.Silent]) (by decide) <|
    .cons (u := 48) (by simp [LinkTurn.Silent]) (by decide) <|
    .cons (u := 60) (by simp [LinkTurn.Silent]) (by decide) .nil
  exact setup_in_silence c (by decide) (Int.le_refl 0) htimed hsilent (by decide)

end

end PeerYsf

end AdnBridge
