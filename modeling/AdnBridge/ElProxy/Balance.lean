import AdnBridge.ElProxy.Channel

namespace AdnBridge
set_option autoImplicit true

/-- What passes on the wire about the directory channels; `waiting` says that the client waits
for the answer to its last TCP_OPEN when it handles the frame. -/
inductive ElWire where
  | sentOpen
  | sentClose
  | got (waiting : Bool) (m : ProxyMsg)
deriving DecidableEq

namespace ElWire

def isOpen (x : ElWire) : Bool := x = sentOpen

def isStatus : ElWire → Bool
  | got _ m => m.isStatus
  | _ => false

def opens (log : List ElWire) : Nat := log.countP isOpen

/-- The answers to TCP_OPEN messages. -/
def statuses (log : List ElWire) : Nat := log.countP isStatus

/-- The channel has been opened or refused: the answer to its TCP_OPEN is there. -/
def Answered (b : List ElWire) : Prop := ∃ x ∈ b, x.isStatus = true

/-- What follows the TCP_OPEN of a channel finishes it: the client closes it, the proxy refuses
it, or closes it after opening it. -/
def Finished (b : List ElWire) : Prop :=
  sentClose ∈ b ∨ (∃ w m, got w m ∈ b ∧ m.isStatus = true ∧ le32 m.data 0 ≠ 0) ∨
    ∃ b₁ w m b₂, b = b₁ ++ got w m :: b₂ ∧ Answered b₁ ∧ m.isClose = true

/-- Between two successive TCP_OPEN messages the first channel has been finished. -/
def Balanced (log : List ElWire) : Prop :=
  ∀ a b c, log = a ++ sentOpen :: (b ++ sentOpen :: c) → sentOpen ∉ b → Finished b

/-- The proxy answers each TCP_OPEN at most once, and not before it is sent; the answers come in
order. -/
def HonestProxy (log : List ElWire) : Prop := ∀ p, p <+: log → statuses p ≤ opens p

/-- With such a proxy, the answer that the client takes is the one to its last TCP_OPEN. -/
def RightAnswers (log : List ElWire) : Prop :=
  HonestProxy log → ∀ a m c, log = a ++ got true m :: c → m.isStatus = true →
    statuses a + 1 = opens a

/-- What holds of the messages after the last TCP_OPEN, if there is one. -/
def SinceOpen (P : List ElWire → Prop) (log : List ElWire) : Prop :=
  ∀ a b, log = a ++ sentOpen :: b → sentOpen ∉ b → P b

variable {P Q : List ElWire → Prop} {log : List ElWire}

theorem append_cons_eq {x y : ElWire} (hxy : x ≠ y) (h : log ++ [x] = a ++ y :: b) :
    ∃ b', b = b' ++ [x] ∧ log = a ++ y :: b' := by
  rcases List.eq_nil_or_concat' b with rfl | ⟨b', z, rfl⟩
  · have := List.append_inj_right' h rfl
    cases this
    exact absurd rfl hxy
  · rw [← List.cons_append, ← List.append_assoc] at h
    obtain ⟨h1, h2⟩ := List.append_inj' h rfl
    cases h2
    exact ⟨b', rfl, h1⟩

theorem SinceOpen.append (h : SinceOpen P log) {x : ElWire} (hx : x ≠ sentOpen)
    (hPQ : ∀ b, P b → Q (b ++ [x])) : SinceOpen Q (log ++ [x]) := by
  intro a b hab hb
  obtain ⟨b', rfl, hlog⟩ := append_cons_eq hx hab
  apply hPQ
  apply h a b' hlog
  intro hm
  exact hb (List.mem_append_left _ hm)

theorem Finished.append (h : Finished b) (x : ElWire) : Finished (b ++ [x]) := by
  rcases h with h | ⟨w, m, hm, h⟩ | ⟨b₁, w, m, b₂, rfl, h⟩
  · exact .inl (List.mem_append_left _ h)
  · exact .inr (.inl ⟨w, m, List.mem_append_left _ hm, h⟩)
  · refine .inr (.inr ⟨b₁, w, m, b₂ ++ [x], ?_, h⟩)
    rw [List.append_assoc, List.cons_append]

theorem Balanced.append (h : Balanced log) {x : ElWire} (hx : x ≠ sentOpen) :
    Balanced (log ++ [x]) := by
  intro a b c habc hb
  rw [← List.cons_append, ← List.append_assoc] at habc
  obtain ⟨c', _, hlog⟩ := append_cons_eq hx habc
  rw [List.append_assoc] at hlog
  exact h a b c' hlog hb

theorem Balanced.opened (h : Balanced log) (hf : SinceOpen Finished log) :
    Balanced (log ++ [sentOpen]) := by
  intro a b c habc hb
  rcases List.eq_nil_or_concat' c with rfl | ⟨c', z, rfl⟩
  · rw [← List.cons_append, ← List.append_assoc] at habc
    have h1 := List.append_inj_left' habc rfl
    exact hf a b h1 hb
  · have hz : log ++ [sentOpen] = (a ++ sentOpen :: (b ++ sentOpen :: c')) ++ [z] := by
      rw [habc]
      simp only [List.append_assoc, List.cons_append]
    exact h a b c' (List.append_inj_left' hz rfl) hb

theorem HonestProxy.of_append (h : HonestProxy (log ++ l)) : HonestProxy log := by
  intro p hp
  exact h p (hp.trans (List.prefix_append log l))

/-- An answer is taken rightly when no earlier TCP_OPEN lacks its own. -/
theorem RightAnswers.append (h : RightAnswers log) (x : ElWire)
    (hx : ∀ m, x = got true m → m.isStatus = true → opens log ≤ statuses log + 1) :
    RightAnswers (log ++ [x]) := by
  intro hh a m c hlog hm
  by_cases hxy : x = got true m ∧ c = []
  · obtain ⟨rfl, rfl⟩ := hxy
    obtain ⟨rfl, _⟩ := List.append_inj' hlog rfl
    have hp := hh _ (List.prefix_refl _)
    have h1 : statuses (log ++ [got true m]) = statuses log + 1 := by
      rw [statuses, List.countP_append]
      simp [isStatus, hm, statuses]
    have h2 : opens (log ++ [got true m]) = opens log := by
      rw [opens, List.countP_append]
      simp [isOpen, opens]
    have := hx m rfl hm
    omega
  · rcases List.eq_nil_or_concat' c with rfl | ⟨c', z, rfl⟩
    · obtain ⟨_, h2⟩ := List.append_inj' hlog rfl
      cases h2
      exact absurd ⟨rfl, rfl⟩ hxy
    · rw [← List.cons_append, ← List.append_assoc] at hlog
      obtain ⟨h1, _⟩ := List.append_inj' hlog rfl
      exact h hh.of_append a m c' h1 hm

/-- What the client relies on in each state of its channel. -/
def Expects (st : TcpState) (log : List ElWire) : Prop :=
  match st with
  | .connecting => opens log ≤ statuses log + 1
  | .connected => opens log ≤ statuses log ∧ SinceOpen Answered log
  | .disc => opens log ≤ statuses log ∧ SinceOpen Finished log
  | .disconnecting => False

/-- Channels are balanced, and answers are taken rightly. -/
def Sound (log : List ElWire) : Prop := Balanced log ∧ RightAnswers log

/-- The frames as they are handled. -/
def stamped : ElChan → List ProxyMsg → List ElWire
  | _, [] => []
  | c, m :: ms => got (c.tcpState = .connecting) m :: stamped (c.onMsg m) ms

theorem got_ne_open : got w m ≠ sentOpen := by
  intro h
  cases h

theorem opens_got (log : List ElWire) (w : Bool) (m : ProxyMsg) :
    opens (log ++ [got w m]) = opens log := by
  rw [opens, List.countP_append]
  simp [isOpen, opens]

theorem statuses_got (log : List ElWire) (w : Bool) (m : ProxyMsg) :
    statuses (log ++ [got w m]) = statuses log + if m.isStatus then 1 else 0 := by
  rw [statuses, List.countP_append]
  cases h : m.isStatus with
  | false => simp [isStatus, h, statuses]
  | true => simp [isStatus, h, statuses]

theorem Answered.append (h : Answered b) (x : ElWire) : Answered (b ++ [x]) := by
  obtain ⟨y, hy, h⟩ := h
  exact ⟨y, List.mem_append_left _ hy, h⟩

theorem Expects.opens_le {c : ElChan} (h : Expects c.tcpState log) :
    opens log ≤ statuses log + 1 := by
  obtain ⟨_, st, _⟩ := c
  cases st with
  | connecting => exact h
  | connected => exact Nat.le_succ_of_le h.1
  | disc => exact Nat.le_succ_of_le h.1
  | disconnecting => exact h.elim

theorem Sound.got (h : Sound log) {c : ElChan} (he : Expects c.tcpState log) (w : Bool)
    (m : ProxyMsg) : Sound (log ++ [got w m]) :=
  ⟨h.1.append got_ne_open, h.2.append _ fun _ _ _ => he.opens_le⟩

/-- A frame other than a TCP_CLOSE that comes before the answer. -/
theorem Expects.onMsg {c : ElChan} (he : Expects c.tcpState log) (m : ProxyMsg) (w : Bool)
    (hc : c.tcpState = .connecting → m.isClose = false) (hr : (c.onMsg m).ready = true) :
    Expects (c.onMsg m).tcpState (log ++ [got w m]) := by
  have hle : statuses log ≤ statuses (log ++ [got w m]) := by
    rw [statuses_got]
    exact Nat.le_add_right _ _
  -- the frames that leave the state alone
  have hsame : Expects c.tcpState (log ++ [got w m]) := by
    obtain ⟨_, st, _⟩ := c
    cases st with
    | connecting =>
      change opens (log ++ [got w m]) ≤ _
      rw [opens_got]
      exact Nat.le_trans he (Nat.succ_le_succ hle)
    | connected =>
      refine ⟨?_, he.2.append got_ne_open fun b hb => hb.append _⟩
      rw [opens_got]
      exact Nat.le_trans he.1 hle
    | disc =>
      refine ⟨?_, he.2.append got_ne_open fun b hb => hb.append _⟩
      rw [opens_got]
      exact Nat.le_trans he.1 hle
    | disconnecting => exact he.elim
  rcases c.onMsg_cases m hr with ⟨_, ho⟩ | ⟨hm, ho⟩ | ⟨hs, ho⟩ | ⟨_, _, _, ho⟩
  · rw [ho]
    exact hsame
  · rw [ho]
    obtain ⟨_, st, _⟩ := c
    cases st with
    | connecting => cases (hc rfl).symm.trans hm
    | connected =>
      refine ⟨hsame.1, he.2.append got_ne_open fun b hb => ?_⟩
      exact .inr (.inr ⟨b, w, m, [], rfl, hb, hm⟩)
    | disc => exact hsame
    | disconnecting => exact he.elim
  · rw [ho]
    by_cases hk : c.tcpState = .connecting
    · rw [if_pos hk]
      rw [hk] at he
      have hlt : opens (log ++ [got w m]) ≤ statuses (log ++ [got w m]) := by
        rw [opens_got, statuses_got, hs]
        exact he
      have hall : SinceOpen (fun _ => True) log := fun _ _ _ _ => trivial
      by_cases h0 : le32 m.data 0 = 0
      · rw [if_pos h0]
        refine ⟨hlt, hall.append got_ne_open fun b _ => ?_⟩
        exact ⟨got w m, List.mem_append_right _ (List.mem_singleton_self _), hs⟩
      · rw [if_neg h0]
        refine ⟨hlt, hall.append got_ne_open fun b _ => ?_⟩
        exact .inr (.inl ⟨w, m, List.mem_append_right _ (List.mem_singleton_self _), hs, h0⟩)
    · rw [if_neg hk]
      exact hsame
  · rw [ho]
    exact hsame

/-- The first frame that can end the wait of an open, if there is one, is not a TCP_CLOSE. -/
def NoStrayClose (fs : List ProxyMsg) : Prop :=
  ∀ m, (fs.find? fun m => m.isStatus || m.isClose) = some m → m.isClose = false

instance : Decidable (NoStrayClose fs) :=
  inferInstanceAs (Decidable (∀ m ∈ fs.find? fun m => m.isStatus || m.isClose, m.isClose = false))

/-- Only a frame that decides nothing leaves an open waiting. -/
theorem onMsg_connecting {c : ElChan} {m : ProxyMsg} (hr : (c.onMsg m).ready = true)
    (hk : (c.onMsg m).tcpState = .connecting) :
    c.tcpState = .connecting ∧ (m.isStatus || m.isClose) = false := by
  rcases c.onMsg_cases m hr with ⟨hd, ho⟩ | ⟨hm, ho⟩ | ⟨hm, ho⟩ | ⟨_, hc, hs, ho⟩
  · rw [ho] at hk
    exact ⟨hk, by simp [ProxyMsg.isStatus, ProxyMsg.isClose, hd, msgTcpData, msgTcpStatus,
      msgTcpClose]⟩
  · rw [ho] at hk
    cases hk
  · rw [ho] at hk
    by_cases hc : c.tcpState = .connecting
    · rw [if_pos hc] at hk
      split at hk
      · cases hk
      · cases hk
    · rw [if_neg hc] at hk
      exact absurd hk hc
  · rw [ho] at hk
    exact ⟨hk, by rw [hs, hc]; rfl⟩

/-- The frames of a drain, none of them a stray TCP_CLOSE. -/
theorem Expects.frames {c : ElChan} (hs : Sound log) (he : Expects c.tcpState log)
    (fs : List ProxyMsg) (hc : c.tcpState = .connecting →
      NoStrayClose (Framing.handled ElChan.ready ElChan.onMsg c fs)) :
    Sound (log ++ stamped c (Framing.handled ElChan.ready ElChan.onMsg c fs)) ∧
      ((Framing.handleWhile ElChan.ready ElChan.onMsg c fs).ready = true →
        Expects (Framing.handleWhile ElChan.ready ElChan.onMsg c fs).tcpState
          (log ++ stamped c (Framing.handled ElChan.ready ElChan.onMsg c fs))) := by
  induction fs generalizing c log with
  | nil =>
    rw [Framing.handled, stamped, List.append_nil]
    exact ⟨hs, fun _ => he⟩
  | cons m fs ih =>
    have hm : c.tcpState = .connecting → m.isClose = false := by
      intro hk
      by_contra hn
      have hp : (m.isStatus || m.isClose) = true := by simp [show m.isClose = true by simpa using hn]
      exact hn (hc hk m (by rw [Framing.handled]; exact List.find?_cons_of_pos hp))
    rw [Framing.handled, Framing.handleWhile, stamped, List.append_cons]
    have hs1 := hs.got he (c.tcpState = .connecting) m
    by_cases hr : (c.onMsg m).ready = true
    · rw [if_pos hr, if_pos hr]
      apply ih hs1 (he.onMsg m _ hm hr)
      intro hk f hf
      obtain ⟨hk', hn⟩ := onMsg_connecting hr hk
      apply hc hk' f
      rw [Framing.handled, if_pos hr, List.find?_cons_of_neg (by simpa using hn)]
      exact hf
    · rw [if_neg hr, if_neg hr, stamped, List.append_nil]
      exact ⟨hs1, fun h => absurd h hr⟩

/-- An open still waits after the frames of a drain only if they hold no answer. -/
theorem handleWhile_connecting {c : ElChan} (fs : List ProxyMsg)
    (hr : (Framing.handleWhile ElChan.ready ElChan.onMsg c fs).ready = true)
    (hk : (Framing.handleWhile ElChan.ready ElChan.onMsg c fs).tcpState = .connecting) :
    c.tcpState = .connecting ∧ answer fs = none := by
  induction fs generalizing c with
  | nil => exact ⟨hk, rfl⟩
  | cons m fs ih =>
    rw [Framing.handleWhile] at hr hk
    by_cases hm : (c.onMsg m).ready = true
    · rw [if_pos hm] at hr hk
      obtain ⟨h1, h2⟩ := ih hr hk
      obtain ⟨h3, h4⟩ := onMsg_connecting hm h1
      refine ⟨h3, ?_⟩
      rw [answer, List.find?_cons_of_neg (by simpa using h4)]
      exact h2
    · rw [if_neg hm] at hr
      exact absurd hr hm

/-- The client closes a channel that is open. -/
theorem Expects.close (hs : Sound log) (he : Expects .connected log) :
    Sound (log ++ [sentClose]) ∧ Expects .disc (log ++ [sentClose]) := by
  have hall : SinceOpen (fun _ => True) log := fun _ _ _ _ => trivial
  have hne : sentClose ≠ sentOpen := ElWire.noConfusion
  refine ⟨⟨hs.1.append hne, hs.2.append _ fun m hm => by cases hm⟩, ?_, ?_⟩
  · rw [opens, statuses, List.countP_append, List.countP_append]
    exact he.1
  · exact hall.append hne fun b _ =>
      .inl (List.mem_append_right _ (List.mem_singleton_self _))

/-- The client opens a channel after the last one is finished. -/
theorem Expects.opened (hs : Sound log) (he : Expects .disc log) :
    Sound (log ++ [sentOpen]) ∧ Expects .connecting (log ++ [sentOpen]) := by
  refine ⟨⟨hs.1.opened he.2, hs.2.append _ fun m hm => by cases hm⟩, ?_⟩
  change opens (log ++ [sentOpen]) ≤ statuses (log ++ [sentOpen]) + 1
  rw [opens, statuses, List.countP_append, List.countP_append]
  exact Nat.succ_le_succ he.1

end ElWire

namespace ElProxy

variable {px px' : ElProxy}

/-- The channel when a step begins to read. -/
def chanOf (px : ElProxy) : ElProxyEvent → ElChan
  | .tcpOpen _ _ _ => ⟨px.ready, .connecting, []⟩
  | _ => px.chan

/-- The step reads from the proxy. -/
def reads (px : ElProxy) : ElProxyEvent → Bool
  | .poll => true
  | .tcpOpen _ _ sendOk => px.worker = .idle ∧ sendOk
  | .tcpRead buflen _ _ => px.worker = .idle ∧ buflen ≠ 0
  | .wake _ =>
    match px.worker with
    | .idle => false
    | .opening _ => px.tcpState = .connecting
    | .reading _ _ => true
  | _ => false

/-- The frames that a step handles. -/
def stepFrames (px : ElProxy) (ev : ElProxyEvent) : List ProxyMsg :=
  if px.ready ∧ px.reads ev then (px.chanOf ev).frames (px.rxAcc ++ px.sock) else []

/-- What a step sends about channels; `closeOk` says whether the TCP_CLOSE of a stale channel can
be written, a result that the code ignores. -/
def sends (px : ElProxy) (closeOk : Bool) : ElProxyEvent → List ElWire
  | .tcpOpen _ _ sendOk =>
    if px.worker = .idle ∧ px.ready then
      (if (px.tcpState = .connected ∨ px.tcpState = .connecting) ∧ closeOk then [.sentClose]
        else []) ++ if sendOk then [.sentOpen] else []
    else []
  | .tcpClose sendOk =>
    if px.worker = .idle ∧ px.ready ∧ px.tcpState ≠ .disc ∧ sendOk then [.sentClose] else []
  | _ => []

def onWire (px : ElProxy) (ev : ElProxyEvent × Bool) : List ElWire :=
  px.sends ev.2 ev.1 ++ ElWire.stamped (px.chanOf ev.1) (px.stepFrames ev.1)

/-- A connected proxy with what passes on its wire. -/
def wireMachine : Machine (ElProxy × List ElWire) (ElProxyEvent × Bool) where
  init := (init, [])
  step s ev := some (s.1.step ev.1, s.2 ++ s.1.onWire ev)

/-- No open gives up at its deadline, a TCP_CLOSE does not overtake the answer to an open, and the
TCP_CLOSE of a stale channel is written. -/
structure KeepsBalance (s : ElProxy × List ElWire) (ev : ElProxyEvent × Bool) : Prop where
  answered : ∀ now deadline, ev.1 = .wake now → s.1.worker = .opening deadline →
    s.1.tcpState = .connecting → deadline ≤ now → answer (s.1.stepFrames ev.1) ≠ none
  ordered : (s.1.chanOf ev.1).tcpState = .connecting →
    ElWire.NoStrayClose (s.1.stepFrames ev.1)
  closed : ∀ timeoutMs now sendOk, ev.1 = .tcpOpen timeoutMs now sendOk →
    s.1.tcpState = .connected → ev.2 = true

structure WireInv (s : ElProxy × List ElWire) : Prop where
  sound : ElWire.Sound s.2
  settled : s.1.Between
  expects : s.1.ready = true → ElWire.Expects s.1.tcpState s.2
  opening : s.1.ready = true → s.1.worker.isOpening = false → s.1.tcpState ≠ .connecting

/-- Once disconnected, a proxy stays so, and nothing passes on its wire. -/
theorem step_off (hr : px.ready = false) (ev : ElProxyEvent × Bool) :
    (px.step ev.1).ready = false ∧ px.onWire ev = [] := by
  have hn : (!px.ready) = true := by simp [hr]
  have hnr : ¬px.ready = true := by simp [hr]
  obtain ⟨ev, closeOk⟩ := ev
  have hframes : ElWire.stamped (px.chanOf ev) (px.stepFrames ev) = [] := by
    rw [stepFrames, if_neg fun h => hnr h.1]
    rfl
  have hread (n : Nat) (d now : Int) : (px.readTurn n d now).ready = false := by
    have hrx := readTurn_rx px n d now
    rw [if_neg hnr] at hrx
    exact (congrArg ElRx.ready hrx).trans hr
  have hopen (d now : Int) : (px.openTurn d now).ready = false := by
    have hrx := openTurn_rx px d now
    rw [if_neg fun h => hnr h.1] at hrx
    exact (congrArg ElRx.ready hrx).trans hr
  rw [onWire, hframes, List.append_nil]
  cases ev with
  | arrive bytes => exact ⟨hr, rfl⟩
  | hangup => exact ⟨hr, rfl⟩
  | poll =>
    refine ⟨?_, rfl⟩
    rw [step, poll, drain, if_pos hn]
    exact hr
  | tcpOpen timeoutMs now sendOk =>
    refine ⟨?_, if_neg fun h => hnr h.2⟩
    rw [step, call, tcpOpen]
    simp only [if_pos hn]
    split
    · exact hr
    · exact hr
  | tcpRead buflen timeoutMs now =>
    refine ⟨?_, rfl⟩
    rw [step, call]
    simp only [tcpRead]
    split
    · split
      · exact hr
      · exact hread _ _ _
    · exact hr
  | tcpClose sendOk =>
    refine ⟨?_, if_neg fun h => hnr h.2.1⟩
    rw [step, call]
    simp only [tcpClose]
    split
    · rw [if_neg fun h => hnr h.1.1]
      exact hr
    · exact hr
  | wake now =>
    refine ⟨?_, rfl⟩
    rw [step, wake]
    split
    · exact hr
    · exact hopen _ _
    · exact hread _ _ _

/-- A drain, on a wire that is in order. -/
theorem drain_expects (hs : px.Settled) (hr : px.ready = true) (cb : Bool)
    (hsound : ElWire.Sound log) (he : ElWire.Expects px.tcpState log)
    (hc : px.tcpState = .connecting →
      ElWire.NoStrayClose (px.chan.frames (px.rxAcc ++ px.sock))) :
    ElWire.Sound (log ++ ElWire.stamped px.chan (px.chan.frames (px.rxAcc ++ px.sock))) ∧
      ((px.drain cb).ready = true → ElWire.Expects (px.drain cb).tcpState
          (log ++ ElWire.stamped px.chan (px.chan.frames (px.rxAcc ++ px.sock))) ∧
        ((px.drain cb).tcpState = .connecting → px.tcpState = .connecting ∧
          answer (px.chan.frames (px.rxAcc ++ px.sock)) = none)) := by
  obtain ⟨hs', he'⟩ := ElWire.Expects.frames (c := px.chan) hsound he
    (proxyFraming.split (px.rxAcc ++ px.sock)).1 hc
  refine ⟨hs', fun h => ?_⟩
  obtain ⟨hchan, _⟩ := drain_chan hs hr cb h
  have hst : (px.drain cb).tcpState = (Framing.handleWhile ElChan.ready ElChan.onMsg px.chan
      (proxyFraming.split (px.rxAcc ++ px.sock)).1).tcpState := congrArg ElChan.tcpState hchan
  have hready : (Framing.handleWhile ElChan.ready ElChan.onMsg px.chan
      (proxyFraming.split (px.rxAcc ++ px.sock)).1).ready = true := by
    rw [← hchan]
    exact h
  rw [hst]
  refine ⟨he' hready, fun hk => ?_⟩
  rw [ElChan.frames, Framing.handled_eq _ hready]
  exact ElWire.handleWhile_connecting _ hready hk

theorem stepFrames_on (hr : px.ready = true) (h : px.reads ev = true) :
    px.stepFrames ev = (px.chanOf ev).frames (px.rxAcc ++ px.sock) := if_pos ⟨hr, h⟩

theorem stepFrames_off (h : px.reads ev = false) : px.stepFrames ev = [] := by
  apply if_neg
  rw [h]
  exact fun hn => Bool.false_ne_true hn.2

theorem WireInv.of_open {log : List ElWire} (hsound : ElWire.Sound log) (hb : px.Between)
    (he : px.ready = true → ElWire.Expects px.tcpState log ∧
      (px.worker.isOpening = false → px.tcpState ≠ .connecting)) : WireInv (px, log) where
  sound := hsound
  settled := hb
  expects h := (he h).1
  opening h := (he h).2

/-- A turn of an open that waits, with what its frames add to the log. -/
theorem WireInv.openTurn {log : List ElWire} (hs : px.Settled) (hr : px.ready = true)
    (hsound : ElWire.Sound log) (he : ElWire.Expects px.tcpState log)
    (hk : px.tcpState = .connecting)
    (hc : ElWire.NoStrayClose (px.chan.frames (px.rxAcc ++ px.sock))) (deadline now : Int)
    (hd : deadline ≤ now → answer (px.chan.frames (px.rxAcc ++ px.sock)) ≠ none) :
    WireInv (px.openTurn deadline now,
      log ++ ElWire.stamped px.chan (px.chan.frames (px.rxAcc ++ px.sock))) := by
  obtain ⟨hsound', hopen⟩ := drain_expects hs hr false hsound he fun _ => hc
  apply WireInv.of_open hsound' (Between.openTurn (fun _ => hs) deadline now)
  intro h
  rcases openTurn_cases px hr deadline now with ⟨hnk, _⟩ | ⟨_, hcase⟩
  · exact absurd hk hnk
  have h1 : (px.drain false).ready = true := by
    rcases hcase with ⟨_, ho⟩ | ⟨_, ho⟩ | ⟨_, _, ⟨_, ho⟩ | ⟨_, ho⟩⟩
    all_goals
      rw [ho] at h
      exact h
  obtain ⟨he1, hk1⟩ := hopen h1
  rcases hcase with ⟨hst, ho⟩ | ⟨hst, ho⟩ | ⟨hnc, hnd, ⟨hge, ho⟩ | ⟨_, ho⟩⟩
  · rw [ho]
    refine ⟨he1, fun _ hn => ?_⟩
    cases hst.symm.trans hn
  · rw [ho]
    refine ⟨he1, fun _ hn => ?_⟩
    cases hst.symm.trans hn
  · exfalso
    generalize px.drain false = px1 at he1 hk1 hnc hnd
    cases hst : px1.tcpState with
    | connecting => exact hd hge (hk1 hst).2
    | connected => exact hnc hst
    | disc => exact hnd hst
    | disconnecting =>
      rw [hst] at he1
      exact he1
  · rw [ho]
    exact ⟨he1, fun hn => absurd hn Bool.noConfusion⟩

/-- A turn of a read, with what its frames add to the log. -/
theorem WireInv.readTurn {log : List ElWire} (hs : px.Settled) (hr : px.ready = true)
    (hsound : ElWire.Sound log) (he : ElWire.Expects px.tcpState log)
    (hk : px.tcpState ≠ .connecting) (n : Nat) (deadline now : Int) :
    WireInv (px.readTurn n deadline now,
      log ++ ElWire.stamped px.chan (px.chan.frames (px.rxAcc ++ px.sock))) := by
  obtain ⟨hsound', hopen⟩ := drain_expects hs hr false hsound he fun h => absurd h hk
  apply WireInv.of_open hsound' (Between.readTurn (fun _ => hs) n deadline now)
  intro h
  have hrx := readTurn_rx px n deadline now
  rw [if_pos hr] at hrx
  have h1 : (px.drain false).ready = true := (congrArg ElRx.ready hrx).symm.trans h
  obtain ⟨he1, hk1⟩ := hopen h1
  have hst : (px.readTurn n deadline now).tcpState = (px.drain false).tcpState := by
    rw [ElProxy.readTurn, if_pos hr]
    generalize px.drain false = px1
    split
    · rfl
    · split
      · rfl
      · split <;> rfl
  rw [hst]
  exact ⟨he1, fun _ hn => hk (hk1 hn).1⟩

theorem lt_deadlineOf (now timeoutMs : Int) : now < deadlineOf now timeoutMs := by
  rw [deadlineOf]
  split <;> omega

/-- The client opens a channel. -/
theorem WireInv.tcpOpen {log : List ElWire} (hi : WireInv (px, log)) (hr : px.ready = true)
    (hw : px.worker = .idle) (timeoutMs now : Int) (sendOk closeOk : Bool)
    (hk : KeepsBalance (px, log) (.tcpOpen timeoutMs now sendOk, closeOk)) :
    WireInv (px.tcpOpen timeoutMs now sendOk,
      log ++ px.onWire (.tcpOpen timeoutMs now sendOk, closeOk)) := by
  have hn : ¬(!px.ready) = true := by simpa using hr
  have hs := hi.settled hr
  have he := hi.expects hr
  have hnk : px.tcpState ≠ .connecting := by
    apply hi.opening hr
    simp only
    rw [hw]
    rfl
  -- a channel that is still open is closed first
  have hclosed : ElWire.Sound (log ++ if (px.tcpState = .connected ∨ px.tcpState = .connecting) ∧
        closeOk = true then [.sentClose] else []) ∧
      ElWire.Expects .disc (log ++ if (px.tcpState = .connected ∨ px.tcpState = .connecting) ∧
        closeOk = true then [.sentClose] else []) := by
    simp only at he
    cases hst : px.tcpState with
    | connecting => exact absurd hst hnk
    | connected =>
      rw [hst] at he
      rw [if_pos ⟨.inl rfl, hk.closed timeoutMs now sendOk rfl hst⟩]
      exact ElWire.Expects.close hi.sound he
    | disc =>
      rw [hst] at he
      rw [if_neg (by simp), List.append_nil]
      exact ⟨hi.sound, he⟩
    | disconnecting =>
      rw [hst] at he
      exact he.elim
  rw [onWire, sends, if_pos ⟨hw, hr⟩, ← List.append_assoc, ← List.append_assoc, ElProxy.tcpOpen,
    if_neg hn]
  generalize log ++ (if (px.tcpState = .connected ∨ px.tcpState = .connecting) ∧
    closeOk = true then [ElWire.sentClose] else []) = log1 at hclosed ⊢
  cases sendOk with
  | false =>
    have hf : px.stepFrames (.tcpOpen timeoutMs now false) = [] := by
      apply stepFrames_off
      simp [reads]
    rw [hf]
    simp only [Bool.false_eq_true, if_false, List.append_nil, ElWire.stamped]
    apply WireInv.of_open hclosed.1
    · intro h
      cases h
    · intro h
      cases h
  | true =>
    obtain ⟨hsound, hconn⟩ := ElWire.Expects.opened hclosed.1 hclosed.2
    have hreads : px.reads (.tcpOpen timeoutMs now true) = true := by simp [reads, hw]
    have hc := hk.ordered rfl
    simp only at hc
    rw [stepFrames_on hr hreads] at hc ⊢
    simp only [if_true]
    exact @WireInv.openTurn { px with
        dirRx := px.dirRx.clear, tcpStatusPending := false, tcpState := .connecting } _
      hs hr hsound hconn rfl hc _ _ fun hd => absurd (lt_deadlineOf now timeoutMs) (Int.not_lt.2 hd)

/-- The client closes its channel. -/
theorem WireInv.tcpClose {log : List ElWire} (hi : WireInv (px, log)) (hr : px.ready = true)
    (hw : px.worker = .idle) (sendOk closeOk : Bool) :
    WireInv (px.tcpClose sendOk, log ++ px.onWire (.tcpClose sendOk, closeOk)) := by
  have he : ElWire.Expects px.tcpState log := hi.expects hr
  have hnk : px.tcpState ≠ .connecting := by
    apply hi.opening hr
    simp only
    rw [hw]
    rfl
  have hwire : px.onWire (.tcpClose sendOk, closeOk) = px.sends closeOk (.tcpClose sendOk) := by
    rw [onWire, stepFrames_off rfl]
    exact List.append_nil _
  have hkept (hc : ¬((px.ready = true ∧ px.tcpState ≠ .disc) ∧ (!sendOk) = true)) :
      px.tcpClose sendOk = { px with tcpState := .disc, dirRx := px.dirRx.clear }.finish 0 := by
    rw [ElProxy.tcpClose, if_neg hc, if_neg hc]
  have hdisc {log' : List ElWire} (hsound : ElWire.Sound log')
      (he' : ElWire.Expects .disc log') :
      WireInv ({ px with tcpState := .disc, dirRx := px.dirRx.clear }.finish 0, log') := by
    apply WireInv.of_open hsound
    · exact hi.settled
    · intro _
      exact ⟨he', fun _ => TcpState.noConfusion⟩
  rw [hwire]
  by_cases hd : px.tcpState = .disc
  · have hsends : px.sends closeOk (.tcpClose sendOk) = [] := if_neg fun h => h.2.2.1 hd
    rw [hd] at he
    rw [hsends, hkept fun h => h.1.2 hd, List.append_nil]
    exact hdisc hi.sound he
  · cases sendOk with
    | false =>
      have hsends : px.sends closeOk (.tcpClose false) = [] :=
        if_neg fun h => Bool.false_ne_true h.2.2.2
      have hoff : (px.tcpClose false).ready = false := by
        rw [ElProxy.tcpClose, if_pos ⟨⟨hr, hd⟩, rfl⟩]
        rfl
      have hn : ¬(px.tcpClose false).ready = true := by simp [hoff]
      rw [hsends, List.append_nil]
      apply WireInv.of_open hi.sound
      · intro h
        exact absurd h hn
      · intro h
        exact absurd h hn
    | true =>
      have hsends : px.sends closeOk (.tcpClose true) = [.sentClose] := if_pos ⟨hw, hr, hd, rfl⟩
      have hst : px.tcpState = .connected := by
        cases hst : px.tcpState with
        | connecting => exact absurd hst hnk
        | connected => rfl
        | disc => exact absurd hst hd
        | disconnecting =>
          rw [hst] at he
          exact he.elim
      rw [hst] at he
      obtain ⟨hsound, he'⟩ := ElWire.Expects.close hi.sound he
      rw [hsends, hkept fun h => Bool.noConfusion h.2]
      exact hdisc hsound he'

theorem WireInv.step (hi : WireInv s) (hk : KeepsBalance s ev)
    (h : wireMachine.step s ev = some s') : WireInv s' := by
  obtain ⟨px, log⟩ := s
  obtain ⟨ev, closeOk⟩ := ev
  obtain rfl := (Option.some.inj h).symm
  by_cases hr : px.ready = true
  swap
  · obtain ⟨hoff, hwire⟩ := step_off (by simpa using hr) (ev, closeOk)
    simp only at hoff ⊢
    rw [hwire, List.append_nil]
    have hn : ¬(px.step ev).ready = true := by simp [hoff]
    apply WireInv.of_open hi.sound
    · intro hr'
      exact absurd hr' hn
    · intro hr'
      exact absurd hr' hn
  have hs := hi.settled hr
  have he := hi.expects hr
  have hsame (px' : ElProxy) (hst : px'.tcpState = px.tcpState) (hw : px'.worker = px.worker)
      (hb : px'.Between) : WireInv (px', log) := by
    apply WireInv.of_open hi.sound hb
    rw [hst, hw]
    exact fun _ => ⟨he, hi.opening hr⟩
  have hnone (hx : px.sends closeOk ev = []) (hf : px.reads ev = false) :
      log ++ px.onWire (ev, closeOk) = log := by
    rw [onWire, stepFrames_off hf, hx]
    exact List.append_nil log
  have hframes (hx : px.sends closeOk ev = []) (hc : px.chanOf ev = px.chan)
      (hf : px.reads ev = true) : px.onWire (ev, closeOk) =
        ElWire.stamped px.chan (px.chan.frames (px.rxAcc ++ px.sock)) := by
    rw [onWire, stepFrames_on hr hf, hx, hc]
    rfl
  have hopening (hw : px.worker.isOpening = false) : px.tcpState ≠ .connecting := hi.opening hr hw
  simp only
  cases ev with
  | arrive bytes =>
    rw [hnone rfl rfl]
    exact hsame _ rfl rfl hi.settled
  | hangup =>
    rw [hnone rfl rfl]
    exact hsame _ rfl rfl hi.settled
  | poll =>
    rw [hframes rfl rfl rfl]
    have hc : px.tcpState = .connecting →
        ElWire.NoStrayClose (px.chan.frames (px.rxAcc ++ px.sock)) := by
      intro hcon
      have := hk.ordered hcon
      rwa [stepFrames_on hr rfl] at this
    obtain ⟨hsound, hopen⟩ := drain_expects hs hr true hi.sound he hc
    apply WireInv.of_open hsound (hi.settled.drain true)
    intro hd
    refine ⟨(hopen hd).1, fun hw hcon => ?_⟩
    have hw' : px.worker.isOpening = false := by
      have hside := (drain_chan hs hr true hd).2
      have : (px.drain true).worker = px.worker := congrArg ElSide.worker hside
      rw [← this]
      exact hw
    exact hopening hw' ((hopen hd).2 hcon).1
  | tcpOpen timeoutMs now sendOk =>
    rw [ElProxy.step, call]
    by_cases hw : px.worker = .idle
    · rw [if_pos hw]
      exact hi.tcpOpen hr hw timeoutMs now sendOk closeOk hk
    · rw [if_neg hw, hnone (if_neg fun h => hw h.1) (by simp [reads, hw])]
      exact hi
  | tcpRead buflen timeoutMs now =>
    rw [ElProxy.step, call]
    by_cases hw : px.worker = .idle
    · have hnk : px.tcpState ≠ .connecting := hopening (by rw [hw]; rfl)
      rw [if_pos hw, tcpRead]
      by_cases hb : buflen = 0
      · rw [if_pos hb, hnone rfl (by simp [reads, hb])]
        exact hsame _ rfl hw.symm hi.settled
      · rw [if_neg hb, hframes rfl rfl (by simp [reads, hw, hb])]
        exact WireInv.readTurn hs hr hi.sound he hnk _ _ _
    · rw [if_neg hw, hnone rfl (by simp [reads, hw])]
      exact hi
  | tcpClose sendOk =>
    rw [ElProxy.step, call]
    by_cases hw : px.worker = .idle
    · rw [if_pos hw]
      exact hi.tcpClose hr hw sendOk closeOk
    · rw [if_neg hw, hnone (if_neg fun h => hw h.1) rfl]
      exact hi
  | wake now =>
    rw [ElProxy.step, wake]
    cases hw : px.worker with
    | idle =>
      rw [hnone rfl (by simp [reads, hw])]
      exact hi
    | opening deadline =>
      by_cases hcon : px.tcpState = .connecting
      · have hreads : px.reads (.wake now) = true := by simp [reads, hw, hcon]
        have hc := hk.ordered hcon
        have hd := hk.answered now deadline rfl hw hcon
        simp only at hc hd
        rw [stepFrames_on hr hreads] at hc hd
        rw [hframes rfl rfl hreads]
        exact WireInv.openTurn hs hr hi.sound he hcon hc deadline now hd
      · rw [hnone rfl (by simp [reads, hw, hcon])]
        apply WireInv.of_open hi.sound (hi.settled.openTurn deadline now)
        intro _
        rcases openTurn_cases px hr deadline now with ⟨_, ho⟩ | ⟨hn, _⟩
        · simp only
          rw [ho]
          exact ⟨he, fun _ => hcon⟩
        · exact absurd hn hcon
    | reading n deadline =>
      have hnk : px.tcpState ≠ .connecting := hopening (by rw [hw]; rfl)
      rw [hframes rfl rfl (by simp [reads, hw])]
      exact WireInv.readTurn hs hr hi.sound he hnk _ _ _

/-- The channels of a proxy connection are balanced, and no answer is taken for another, in every
run in which no open gives up, no TCP_CLOSE overtakes an answer and every stale channel is
closed. -/
theorem balanced_run {evs : List (ElProxyEvent × Bool)}
    (h : wireMachine.Meets KeepsBalance wireMachine.init evs) :
    wireMachine.Always (fun s => ElWire.Sound s.2) wireMachine.init evs := by
  apply Machine.Meets.always (I := WireInv) (C := KeepsBalance)
  · intro s ev s' hi hk hs
    exact hi.step hk hs
  · intro s hi
    exact hi.sound
  · have hnil (a : List ElWire) (x : ElWire) (b : List ElWire) : [] ≠ a ++ x :: b := by
      intro hn
      simp at hn
    apply WireInv.of_open
    · exact ⟨fun a b c hn => absurd hn (hnil a _ _), fun _ a m c hn => absurd hn (hnil a _ c)⟩
    · have hrun : machine.run [] = some init := rfl
      exact run_between hrun
    · intro _
      refine ⟨⟨Nat.le_refl 0, fun a b hn => absurd hn (hnil a _ b)⟩, fun _ => ?_⟩
      exact TcpState.noConfusion
  · exact h

theorem wire_step (s : ElProxy × List ElWire) (ev : ElProxyEvent × Bool) :
    wireMachine.step s ev = some (s.1.step ev.1, s.2 ++ s.1.onWire ev) := rfl

/-- Two channels, each of them answered in time; the first one is still open when the second one
is opened. -/
theorem balanced_run_sample : wireMachine.Always (fun s => ElWire.Sound s.2) wireMachine.init
    [(.tcpOpen 20000 0 true, true), (.arrive tcpStatusMsg, true), (.wake 1, true),
      (.tcpOpen 20000 2 true, true), (.arrive tcpStatusMsg, true), (.poll, true),
      (.wake 3, true), (.tcpClose true, true)] := by
  apply balanced_run
  simp only [Machine.meets_cons_some (wire_step _ _)]
  have hlate {w : ElWorker} {deadline d now now' : Int} {P : Prop} (hw : w = .opening d)
      (hd : now < d) (hn : ElProxyEvent.wake now = .wake now') (h : w = .opening deadline)
      (hl : deadline ≤ now') : P := by
    cases hn
    cases hw.symm.trans h
    exact absurd hl (Int.not_le.2 hd)
  refine ⟨⟨fun _ _ h => (nomatch h), ?_, fun _ _ _ _ _ => rfl⟩,
    ⟨fun _ _ h => (nomatch h), ?_, fun _ _ _ _ _ => rfl⟩,
    ⟨fun _ _ h hw _ hl => hlate (d := 20) ?_ (by decide) h hw hl, ?_, fun _ _ _ _ _ => rfl⟩,
    ⟨fun _ _ h => (nomatch h), ?_, fun _ _ _ _ _ => rfl⟩,
    ⟨fun _ _ h => (nomatch h), ?_, fun _ _ _ _ _ => rfl⟩,
    ⟨fun _ _ h => (nomatch h), ?_, fun _ _ _ _ _ => rfl⟩,
    ⟨fun _ _ h hw _ hl => hlate (d := 22) ?_ (by decide) h hw hl, ?_, fun _ _ _ _ _ => rfl⟩,
    ⟨fun _ _ h => (nomatch h), ?_, fun _ _ _ _ _ => rfl⟩, trivial⟩
  all_goals decide +kernel

/-- A first open gives up at its deadline, and the client opens again without a TCP_CLOSE. -/
theorem not_balanced_run :
    ¬wireMachine.Always (fun s => ElWire.Sound s.2) wireMachine.init
      [(.tcpOpen 1000 0 true, true), (.wake 1, true), (.tcpOpen 1000 2 true, true)] := by
  simp only [Machine.always_cons_some (wire_step _ _), Machine.always_nil]
  intro h
  obtain ⟨hb, _⟩ := h.2.2.2
  have hf : ElWire.Finished [] := hb [] [] [] (by decide +kernel) List.not_mem_nil
  rcases hf with hf | ⟨_, _, hf, _⟩ | ⟨b₁, _, _, _, hf, _⟩
  · exact absurd hf List.not_mem_nil
  · exact absurd hf List.not_mem_nil
  · simp at hf

end ElProxy

end AdnBridge
