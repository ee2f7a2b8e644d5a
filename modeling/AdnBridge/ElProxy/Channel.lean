import AdnBridge.ElProxy.Frames

namespace AdnBridge
set_option autoImplicit true

/-- An answer to a TCP_OPEN. -/
def ProxyMsg.isStatus (m : ProxyMsg) : Bool := m.type = msgTcpStatus ∧ m.data.length = 4

def ProxyMsg.isClose (m : ProxyMsg) : Bool := m.type = msgTcpClose

/-- Whether the frames that follow a TCP_OPEN open the channel; `none` as long as it waits. -/
def answer (fs : List ProxyMsg) : Option Bool :=
  (fs.find? fun m => m.isStatus || m.isClose).map fun m => m.isStatus && le32 m.data 0 = 0

/-- The frames after the first TCP_STATUS. -/
def sinceStatus (fs : List ProxyMsg) : List ProxyMsg :=
  (fs.dropWhile fun m => !m.isStatus).tail

/-- The bytes of the TCP_DATA frames. -/
def payload (fs : List ProxyMsg) : List UInt8 :=
  (fs.filter fun m => m.type = msgTcpData).flatMap ProxyMsg.data

theorem answer_append_some {fs : List ProxyMsg} (h : answer fs = some b) (gs : List ProxyMsg) :
    answer (fs ++ gs) = some b := by
  rw [answer] at h ⊢
  obtain ⟨m, hm, rfl⟩ := Option.map_eq_some_iff.1 h
  rw [List.find?_append, hm]
  rfl

theorem answer_append_none {fs : List ProxyMsg} (h : answer fs = none) (gs : List ProxyMsg) :
    answer (fs ++ gs) = answer gs := by
  rw [answer] at h ⊢
  rw [List.find?_append, Option.map_eq_none_iff.1 h]
  rfl

theorem answer_none_iff {fs : List ProxyMsg} :
    answer fs = none ↔ ∀ m ∈ fs, m.isStatus = false ∧ m.isClose = false := by
  rw [answer, Option.map_eq_none_iff, List.find?_eq_none]
  constructor
  · intro h m hm
    have := h m hm
    rw [Bool.or_eq_true, not_or] at this
    exact ⟨by simpa using this.1, by simpa using this.2⟩
  · intro h m hm
    rw [(h m hm).1, (h m hm).2]
    exact Bool.false_ne_true

theorem sinceStatus_append {fs : List ProxyMsg} (h : answer fs = some true) (gs : List ProxyMsg) :
    sinceStatus (fs ++ gs) = sinceStatus fs ++ gs := by
  induction fs with
  | nil => cases h
  | cons m fs ih =>
    rw [sinceStatus, sinceStatus, List.cons_append, List.dropWhile_cons, List.dropWhile_cons]
    cases hm : m.isStatus with
    | true => rfl
    | false =>
      apply ih
      have hc : m.isClose = false := by
        by_contra hc
        rw [answer, List.find?_cons_of_pos (by simpa [hm] using hc)] at h
        rw [Option.map_some, hm, Bool.false_and] at h
        cases h
      rw [answer, List.find?_cons_of_neg (by simp [hm, hc])] at h
      exact h

theorem sinceStatus_first {fs : List ProxyMsg} (h : answer fs = none) {m : ProxyMsg}
    (hm : m.isStatus = true) : sinceStatus (fs ++ [m]) = [] := by
  have hf : ∀ f ∈ fs, (!f.isStatus) = true := by
    intro f hf
    rw [(answer_none_iff.1 h f hf).1]
    rfl
  rw [sinceStatus, List.dropWhile_append_of_pos hf, List.dropWhile_cons_of_neg (by simp [hm])]
  rfl

theorem payload_append (fs gs : List ProxyMsg) : payload (fs ++ gs) = payload fs ++ payload gs := by
  rw [payload, List.filter_append, List.flatMap_append]
  rfl

theorem payload_data {m : ProxyMsg} (h : m.type = msgTcpData) : payload [m] = m.data := by
  rw [payload, List.filter_cons_of_pos (by simpa using h), List.filter_nil,
    List.flatMap_singleton]

theorem payload_other {m : ProxyMsg} (h : m.type ≠ msgTcpData) : payload [m] = [] := by
  rw [payload, List.filter_cons_of_neg (by simpa using h), List.filter_nil, List.flatMap_nil]

/-- What the channel is in after the frames `fs` that follow its TCP_OPEN, when `ret` has been
read from it. -/
def Follows (fs : List ProxyMsg) (ret : List UInt8) (c : ElChan) : Prop :=
  match c.tcpState with
  | .connecting => answer fs = none ∧ ret = []
  | .connected =>
    answer fs = some true ∧ (∀ m ∈ sinceStatus fs, m.isClose = false) ∧
      ret ++ c.dirRx = payload (sinceStatus fs)
  | .disc =>
    answer fs = some false ∨
      answer fs = some true ∧ (∃ m ∈ sinceStatus fs, m.isClose = true) ∧
        ret ++ c.dirRx = payload (sinceStatus fs)
  | .disconnecting => False

/-- What a frame does that leaves the proxy connected. -/
theorem ElChan.onMsg_cases (c : ElChan) (m : ProxyMsg) (hr : (c.onMsg m).ready = true) :
    (m.type = msgTcpData ∧ c.onMsg m = { c with dirRx := c.dirRx ++ m.data }) ∨
      (m.isClose = true ∧ c.onMsg m = { c with tcpState := .disc }) ∨
      (m.isStatus = true ∧ c.onMsg m =
        if c.tcpState = .connecting then
          if le32 m.data 0 = 0 then { c with tcpState := .connected, dirRx := [] }
          else { c with tcpState := .disc }
        else c) ∨
      (m.type ≠ msgTcpData ∧ m.isClose = false ∧ m.isStatus = false ∧ c.onMsg m = c) := by
  rw [onMsg] at hr ⊢
  by_cases hd : m.type = msgTcpData
  · rw [if_pos hd] at hr ⊢
    refine .inl ⟨hd, ?_⟩
    by_cases he : m.data = []
    · rw [if_pos he, he, List.append_nil]
    · rw [if_neg he] at hr ⊢
      by_cases hl : c.dirRx.length + m.data.length > elProxyDirRxCap
      · rw [if_pos hl] at hr
        cases hr
      · rw [if_neg hl]
  rw [if_neg hd] at hr ⊢
  by_cases hc : m.type = msgTcpClose
  · rw [if_pos hc]
    exact .inr (.inl ⟨by simpa [ProxyMsg.isClose] using hc, rfl⟩)
  have hnc : m.isClose = false := by simpa [ProxyMsg.isClose] using hc
  rw [if_neg hc] at hr ⊢
  by_cases hs : m.isStatus = true
  · obtain ⟨ht, hl⟩ : m.type = msgTcpStatus ∧ m.data.length = 4 := by
      simpa [ProxyMsg.isStatus] using hs
    refine .inr (.inr (.inl ⟨hs, ?_⟩))
    rw [if_pos ht]
    by_cases hk : c.tcpState = .connecting
    · rw [if_pos ⟨hl, hk⟩, if_pos hk]
    · rw [if_neg fun h => hk h.2, if_neg hk]
  have hns : m.isStatus = false := by simpa using hs
  refine .inr (.inr (.inr ⟨hd, hnc, hns, ?_⟩))
  by_cases ht : m.type = msgTcpStatus
  · rw [if_pos ht]
    apply if_neg
    intro h
    apply hs
    simpa [ProxyMsg.isStatus] using And.intro ht h.1
  rw [if_neg ht] at hr ⊢
  by_cases hu : m.type = msgUdpData ∨ m.type = msgUdpControl ∨ m.type = msgTcpOpen
  · rw [if_pos hu]
  rw [if_neg hu] at hr ⊢
  by_cases hy : m.type = msgSystem ∧ m.data.length ≠ 1
  · rw [if_pos hy]
  · rw [if_neg hy] at hr
    cases hr

theorem answer_other {m : ProxyMsg} (hs : m.isStatus = false) (hc : m.isClose = false) :
    answer [m] = none := by
  rw [answer_none_iff]
  intro f hf
  rw [List.mem_singleton.1 hf]
  exact ⟨hs, hc⟩

theorem answer_status {m : ProxyMsg} (hs : m.isStatus = true) :
    answer [m] = some (decide (le32 m.data 0 = 0)) := by
  rw [answer, List.find?_cons_of_pos (by simp [hs]), Option.map_some, hs, Bool.true_and]

theorem isStatus_of_isClose {m : ProxyMsg} (h : m.isClose = true) : m.isStatus = false := by
  have ht : m.type = msgTcpClose := by simpa [ProxyMsg.isClose] using h
  simp [ProxyMsg.isStatus, ht, msgTcpClose, msgTcpStatus]

theorem answer_close {m : ProxyMsg} (h : m.isClose = true) : answer [m] = some false := by
  rw [answer, List.find?_cons_of_pos (by simp [h]), Option.map_some, isStatus_of_isClose h,
    Bool.false_and]

theorem isStatus_type {m : ProxyMsg} (h : m.isStatus = true) : m.type = msgTcpStatus := by
  have h' : m.type = msgTcpStatus ∧ m.data.length = 4 := by simpa [ProxyMsg.isStatus] using h
  exact h'.1

/-- A channel that is open, or closed by the other side, goes on with its data. -/
theorem payload_since {fs : List ProxyMsg} (ha : answer fs = some true)
    (hp : ret ++ rx = payload (sinceStatus fs)) (m : ProxyMsg) :
    ret ++ (rx ++ payload [m]) = payload (sinceStatus (fs ++ [m])) := by
  rw [sinceStatus_append ha, payload_append, ← hp, List.append_assoc]

/-- A frame that neither closes the channel nor answers its TCP_OPEN. -/
theorem Follows.quiet (h : Follows fs ret c) (m : ProxyMsg) (hc : m.isClose = false)
    (hs : c.tcpState = .connecting → m.isStatus = false) :
    Follows (fs ++ [m]) ret { c with dirRx := c.dirRx ++ payload [m] } := by
  obtain ⟨ready, st, rx⟩ := c
  cases st with
  | connecting => exact ⟨(answer_append_none h.1 _).trans (answer_other (hs rfl) hc), h.2⟩
  | connected =>
    obtain ⟨ha, hn, hp⟩ := h
    refine ⟨answer_append_some ha _, ?_, payload_since ha hp m⟩
    rw [sinceStatus_append ha]
    intro f hf
    rcases List.mem_append.1 hf with hf | hf
    · exact hn f hf
    · rw [List.mem_singleton.1 hf]
      exact hc
  | disc =>
    rcases h with ha | ⟨ha, ⟨f, hf, hfc⟩, hp⟩
    · exact .inl (answer_append_some ha _)
    · refine .inr ⟨answer_append_some ha _, ⟨f, ?_, hfc⟩, payload_since ha hp m⟩
      rw [sinceStatus_append ha]
      exact List.mem_append_left _ hf
  | disconnecting => exact h.elim

theorem Follows.close (h : Follows fs ret c) {m : ProxyMsg} (hc : m.isClose = true) :
    Follows (fs ++ [m]) ret { c with tcpState := .disc } := by
  have hpay : payload [m] = [] := by
    apply payload_other
    intro hd
    simp [ProxyMsg.isClose, hd, msgTcpData, msgTcpClose] at hc
  have hmem {fs : List ProxyMsg} (ha : answer fs = some true) : m ∈ sinceStatus (fs ++ [m]) := by
    rw [sinceStatus_append ha]
    exact List.mem_append_right _ (List.mem_singleton_self m)
  obtain ⟨ready, st, rx⟩ := c
  cases st with
  | connecting => exact .inl ((answer_append_none h.1 _).trans (answer_close hc))
  | connected =>
    obtain ⟨ha, _, hp⟩ := h
    refine .inr ⟨answer_append_some ha _, ⟨m, hmem ha, hc⟩, ?_⟩
    rw [← payload_since ha hp, hpay, List.append_nil]
  | disc =>
    rcases h with ha | ⟨ha, _, hp⟩
    · exact .inl (answer_append_some ha _)
    · refine .inr ⟨answer_append_some ha _, ⟨m, hmem ha, hc⟩, ?_⟩
      rw [← payload_since ha hp, hpay, List.append_nil]
  | disconnecting => exact h.elim

/-- The answer to the TCP_OPEN. -/
theorem Follows.status (h : Follows fs ret c) {m : ProxyMsg} (hs : m.isStatus = true)
    (hk : c.tcpState = .connecting) :
    Follows (fs ++ [m]) ret
      (if le32 m.data 0 = 0 then { c with tcpState := .connected, dirRx := [] }
        else { c with tcpState := .disc }) := by
  obtain ⟨ready, st, rx⟩ := c
  obtain rfl : st = .connecting := hk
  obtain ⟨ha, rfl⟩ := h
  have ha' := (answer_append_none ha [m]).trans (answer_status hs)
  by_cases h0 : le32 m.data 0 = 0
  · rw [if_pos h0]
    rw [decide_eq_true h0] at ha'
    refine ⟨ha', ?_, ?_⟩
    · rw [sinceStatus_first ha hs]
      intro f hf
      cases hf
    · rw [sinceStatus_first ha hs]
      rfl
  · rw [if_neg h0]
    rw [decide_eq_false h0] at ha'
    exact .inl ha'

theorem Follows.onMsg (h : Follows fs ret c) (m : ProxyMsg) (hr : (c.onMsg m).ready = true) :
    Follows (fs ++ [m]) ret (c.onMsg m) := by
  rcases c.onMsg_cases m hr with ⟨hd, he⟩ | ⟨hc, he⟩ | ⟨hs, he⟩ | ⟨hd, hc, hs, he⟩
  · have hs : m.isStatus = false := by simp [ProxyMsg.isStatus, hd, msgTcpData, msgTcpStatus]
    have hc : m.isClose = false := by simp [ProxyMsg.isClose, hd, msgTcpData, msgTcpClose]
    have hq := h.quiet m hc fun _ => hs
    rw [payload_data hd] at hq
    rwa [he]
  · rw [he]
    exact h.close hc
  · rw [he]
    by_cases hk : c.tcpState = .connecting
    · rw [if_pos hk]
      exact h.status hs hk
    · rw [if_neg hk]
      have hd : m.type ≠ msgTcpData := by
        rw [isStatus_type hs]
        decide
      have hc : m.isClose = false := by
        by_contra hc
        rw [isStatus_of_isClose (by simpa using hc)] at hs
        cases hs
      have hq := h.quiet m hc fun hk' => absurd hk' hk
      rwa [payload_other hd, List.append_nil] at hq
  · have hq := h.quiet m hc fun _ => hs
    rw [payload_other hd, List.append_nil] at hq
    rwa [he]

theorem Follows.foldl (h : Follows fs ret c) (ms : List ProxyMsg)
    (hr : (Framing.handleWhile ElChan.ready ElChan.onMsg c ms).ready = true) :
    Follows (fs ++ ms) ret (Framing.handleWhile ElChan.ready ElChan.onMsg c ms) := by
  induction ms generalizing fs c with
  | nil =>
    rw [List.append_nil]
    exact h
  | cons m ms ih =>
    rw [Framing.handleWhile] at hr ⊢
    by_cases hm : (c.onMsg m).ready = true
    · rw [if_pos hm] at hr ⊢
      have hi := ih (h.onMsg m hm) hr
      rw [List.append_assoc] at hi
      exact hi
    · rw [if_neg hm] at hr
      exact absurd hr hm

theorem Follows.payload_initial (h : Follows fs ret c) (ha : answer fs = some true) :
    ret <+: payload (sinceStatus fs) := by
  obtain ⟨ready, st, rx⟩ := c
  cases st with
  | connecting => cases h.1.symm.trans ha
  | connected => exact ⟨rx, h.2.2⟩
  | disc =>
    rcases h with hn | ⟨_, _, hp⟩
    · cases hn.symm.trans ha
    · exact ⟨rx, hp⟩
  | disconnecting => exact h.elim

/-- Bytes go from the buffer to the reader. -/
theorem Follows.deliver (h : Follows fs ret c) (ha : answer fs = some true) (n : Nat) :
    Follows fs (ret ++ c.dirRx.take n) { c with dirRx := c.dirRx.drop n } := by
  have hcat (rx : List UInt8) : ret ++ rx.take n ++ rx.drop n = ret ++ rx := by
    rw [List.append_assoc, List.take_append_drop]
  obtain ⟨ready, st, rx⟩ := c
  cases st with
  | connecting => cases h.1.symm.trans ha
  | connected => exact ⟨h.1, h.2.1, (hcat rx).trans h.2.2⟩
  | disc =>
    rcases h with hn | ⟨h1, h2, hp⟩
    · exact .inl hn
    · exact .inr ⟨h1, h2, (hcat rx).trans hp⟩
  | disconnecting => exact h.elim

theorem Follows.eof (h : Follows fs ret c) (ha : answer fs = some true)
    (hc : c.tcpState ≠ .connected) (hrx : c.dirRx = []) :
    ret = payload (sinceStatus fs) ∧ ∃ m ∈ sinceStatus fs, m.isClose = true := by
  obtain ⟨ready, st, rx⟩ := c
  obtain rfl : rx = [] := hrx
  cases st with
  | connecting => cases h.1.symm.trans ha
  | connected => exact absurd rfl hc
  | disc =>
    rcases h with hn | ⟨_, h2, hp⟩
    · cases hn.symm.trans ha
    · rw [List.append_nil] at hp
      exact ⟨hp, h2⟩
  | disconnecting => exact h.elim

theorem Follows.connected (h : Follows fs ret c) (hc : c.tcpState = .connected) :
    answer fs = some true := by
  rw [Follows, hc] at h
  exact h.1

namespace ElProxy

variable {px px' : ElProxy}

/-- The frames that a step handles: those that its reads complete. -/
def newFrames (px px' : ElProxy) : List ProxyMsg :=
  (proxyFraming.split px'.seen).1.drop (proxyFraming.split px.seen).1.length

theorem newFrames_of_seen (h : px'.seen = px.seen) : newFrames px px' = [] := by
  rw [newFrames, h, List.drop_length]

/-- The buffer of a connected proxy holds what follows the last whole frame read. -/
def Aligned (px : ElProxy) : Prop :=
  px.Settled ∧ px.rxAcc = (proxyFraming.split px.seen).2

theorem Aligned.of_rx (h : px.Aligned) (hrx : px'.rx = px.rx) : px'.Aligned := by
  have hacc : px'.rxAcc = px.rxAcc := congrArg ElRx.rxAcc hrx
  have hseen : px'.seen = px.seen := congrArg ElRx.seen hrx
  rw [Aligned, Settled, hacc, hseen]
  exact h

/-- A drain that ends connected handles the whole frames of all that has arrived. -/
theorem drain_chan (hs : px.Settled) (hr : px.ready = true) (cb : Bool)
    (h : (px.drain cb).ready = true) :
    (px.drain cb).chan = Framing.handleWhile ElChan.ready ElChan.onMsg px.chan
        (proxyFraming.split (px.rxAcc ++ px.sock)).1 ∧
      (px.drain cb).side = px.side := by
  have hn : ¬(!px.ready) = true := by simpa using hr
  have heof : px.eof = false := by
    by_contra he
    rw [drain_eof cb (by simpa using he)] at h
    cases h
  have hchan : (px.drain cb).chan = px.chan.parse (px.rxAcc ++ px.sock) := by
    rw [drain, if_neg hn]
    exact (drainLoop_chan cb _ hr hs heof (Nat.lt_succ_self _)).1
  have hside : (px.drain cb).side = px.side := by
    rw [drain, if_neg hn]
    exact drainLoop_side cb _
  refine ⟨?_, hside⟩
  have hready : (px.chan.parse (px.rxAcc ++ px.sock)).ready = true := by
    rw [← hchan]
    exact h
  rw [hchan]
  exact ElChan.parseEnd_open (ElChan.not_tooLarge hready)

/-- The same, in terms of the frames that the reads complete. -/
theorem drain_spec (ha : px.Aligned) (hr : px.ready = true) (cb : Bool)
    (h : (px.drain cb).ready = true) :
    (px.drain cb).chan =
        Framing.handleWhile ElChan.ready ElChan.onMsg px.chan (newFrames px (px.drain cb)) ∧
      (px.drain cb).side = px.side ∧ (px.drain cb).Aligned := by
  have hrx := drain_rx cb ha.1.1 h
  have hseen : (px.drain cb).seen = px.seen ++ px.sock := congrArg ElRx.seen hrx
  have hacc : (px.drain cb).rxAcc = (proxyFraming.split (px.rxAcc ++ px.sock)).2 :=
    congrArg ElRx.rxAcc hrx
  have hnew : newFrames px (px.drain cb) = (proxyFraming.split (px.rxAcc ++ px.sock)).1 := by
    rw [newFrames, hseen, Framing.split_append, ← ha.2]
    exact List.drop_left
  obtain ⟨hchan, hside⟩ := drain_chan ha.1 hr cb h
  refine ⟨?_, hside, (Between.drain (fun _ => ha.1) cb) h, ?_⟩
  · rw [hnew]
    exact hchan
  · rw [hacc, hseen, Framing.split_append proxyFraming px.seen, ← ha.2]

theorem drain_follows (ha : px.Aligned) (hr : px.ready = true) (cb : Bool)
    (h : (px.drain cb).ready = true) (hf : Follows fs ret px.chan) :
    Follows (fs ++ newFrames px (px.drain cb)) ret (px.drain cb).chan := by
  obtain ⟨hc, _, _⟩ := drain_spec ha hr cb h
  rw [hc]
  apply hf.foldl
  rw [← hc]
  exact h

end ElProxy

def ElWorker.isOpening : ElWorker → Bool
  | .opening _ => true
  | _ => false

/-- A channel as its user sees it: the frames received since its TCP_OPEN was sent, the bytes
returned by `el_proxy_tcp_read`, and whether the open has succeeded and no close has followed. -/
structure DirLog where
  frames : List ProxyMsg
  returned : List UInt8
  inUse : Bool

namespace DirLog

/-- The call of the worker that a step is about returns success. -/
def succeeds (px' : ElProxy) : Bool := px'.worker = .idle ∧ px'.rc = 0

def note (l : DirLog) (px : ElProxy) (ev : ElProxyEvent) (px' : ElProxy) : DirLog :=
  match ev with
  | .tcpOpen _ _ _ =>
    if px.worker = .idle then ⟨ElProxy.newFrames px px', [], succeeds px'⟩ else l
  | .tcpClose _ => if px.worker = .idle then { l with inUse := false } else l
  | _ =>
    { frames := l.frames ++ ElProxy.newFrames px px'
      returned := l.returned ++ px'.dirOut.drop px.dirOut.length
      inUse := l.inUse || (px.worker.isOpening && succeeds px') }

end DirLog

namespace ElProxy

variable {px px' : ElProxy}

def dirMachine : Machine (ElProxy × DirLog) ElProxyEvent :=
  machine.observe ⟨[], [], false⟩ DirLog.note

/-- While a channel is in use, what was read from it is a beginning of what it received. -/
def DirFaithful (s : ElProxy × DirLog) : Prop :=
  s.2.inUse = true → s.2.returned <+: payload (sinceStatus s.2.frames)

/-- The deadline of the read that a step begins or goes on with, and the time of the step. -/
def readOf (px : ElProxy) : ElProxyEvent → Option (Int × Int)
  | .tcpRead buflen timeoutMs now =>
    if px.worker = .idle ∧ buflen ≠ 0 then some (deadlineOf now timeoutMs, now) else none
  | .wake now =>
    match px.worker with
    | .reading _ deadline => some (deadline, now)
    | _ => none
  | _ => none

/-- A read that returns nothing before its deadline comes after all the bytes, on a channel that
the other side has closed. -/
def EofLast (s : ElProxy × DirLog) (ev : ElProxyEvent) : Prop :=
  ∀ s' deadline now, dirMachine.step s ev = some s' →
    readOf s.1 ev = some (deadline, now) → s.2.inUse = true →
    DirLog.succeeds s'.1 = true → now < deadline →
    s'.2.returned = payload (sinceStatus s'.2.frames) ∧
      ∃ m ∈ sinceStatus s'.2.frames, m.isClose = true

structure DirInv (s : ElProxy × DirLog) : Prop where
  ready : s.1.ready = true
  aligned : s.1.Aligned
  follows : s.2.inUse = true ∨ s.1.worker.isOpening = true →
    Follows s.2.frames s.2.returned s.1.chan
  answered : s.2.inUse = true → answer s.2.frames = some true
  opening : s.1.worker.isOpening = true → s.2.inUse = false
  buflen : ∀ n deadline, s.1.worker = .reading n deadline → n ≠ 0

theorem seen_of_rx (h : px'.rx = px.rx) : px'.seen = px.seen := congrArg ElRx.seen h

/-- The ways in which a turn of an open ends. -/
theorem openTurn_cases (px : ElProxy) (hr : px.ready = true) (deadline now : Int) :
    (px.tcpState ≠ .connecting ∧ px.openTurn deadline now =
      px.finish (if px.tcpState = .connected then 0 else -1)) ∨
    (px.tcpState = .connecting ∧
      (((px.drain false).tcpState = .connected ∧
          px.openTurn deadline now = (px.drain false).finish 0) ∨
        ((px.drain false).tcpState = .disc ∧
          px.openTurn deadline now = (px.drain false).finish (-1)) ∨
        ((px.drain false).tcpState ≠ .connected ∧ (px.drain false).tcpState ≠ .disc ∧
          (now ≥ deadline ∧ px.openTurn deadline now =
              { px.drain false with tcpState := .disc }.finish (-1) ∨
            now < deadline ∧ px.openTurn deadline now =
              { px.drain false with worker := .opening deadline })))) := by
  rw [openTurn]
  by_cases hk : px.tcpState = .connecting
  · refine .inr ⟨hk, ?_⟩
    rw [if_pos ⟨hr, hk⟩]
    simp only
    by_cases hc : (px.drain false).tcpState = .connected
    · exact .inl ⟨hc, if_pos hc⟩
    rw [if_neg hc]
    by_cases hd : (px.drain false).tcpState = .disc
    · exact .inr (.inl ⟨hd, if_pos hd⟩)
    rw [if_neg hd]
    refine .inr (.inr ⟨hc, hd, ?_⟩)
    by_cases hn : now ≥ deadline
    · exact .inl ⟨hn, if_pos hn⟩
    · exact .inr ⟨Int.not_le.1 hn, if_neg hn⟩
  · exact .inl ⟨hk, if_neg fun h => hk h.2⟩

theorem newFrames_congr {px'' : ElProxy} (h : px''.seen = px'.seen) :
    newFrames px px'' = newFrames px px' := by
  rw [newFrames, newFrames, h]

/-- One turn of an open that waits for its answer. -/
theorem openTurn_follows (ha : px.Aligned) (hr : px.ready = true)
    (hf : Follows fs ret px.chan) (deadline now : Int)
    (h : (px.openTurn deadline now).ready = true) :
    (px.openTurn deadline now).Aligned ∧
      (px.openTurn deadline now).dirOut = px.dirOut ∧
      (DirLog.succeeds (px.openTurn deadline now) = true →
        Follows (fs ++ newFrames px (px.openTurn deadline now)) ret
            (px.openTurn deadline now).chan ∧
          answer (fs ++ newFrames px (px.openTurn deadline now)) = some true) ∧
      ((px.openTurn deadline now).worker.isOpening = true →
        Follows (fs ++ newFrames px (px.openTurn deadline now)) ret
          (px.openTurn deadline now).chan) ∧
      ∀ n d, (px.openTurn deadline now).worker ≠ .reading n d := by
  have hsucc (px1 : ElProxy) : DirLog.succeeds (px1.finish (-1)) = true → False := by
    intro hs
    simp [DirLog.succeeds, finish] at hs
  have hidle (px1 : ElProxy) (rc : Int) : (px1.finish rc).worker.isOpening = true → False :=
    Bool.false_ne_true
  have hread (px1 : ElProxy) (rc : Int) (n : Nat) (d : Int) :
      (px1.finish rc).worker ≠ .reading n d := fun hs => by cases hs
  rcases openTurn_cases px hr deadline now with ⟨hk, he⟩ | ⟨hk, hcase⟩
  · have hnew : newFrames px (px.openTurn deadline now) = [] := by
      rw [he]
      exact newFrames_of_seen rfl
    rw [hnew, List.append_nil, he]
    refine ⟨ha, rfl, fun hs => ⟨hf, ?_⟩, fun hs => (hidle _ _ hs).elim, hread _ _⟩
    by_cases hc : px.tcpState = .connected
    · exact hf.connected hc
    · rw [if_neg hc] at hs
      exact (hsucc _ hs).elim
  · have h1 : (px.drain false).ready = true := by
      rcases hcase with ⟨_, he⟩ | ⟨_, he⟩ | ⟨_, _, ⟨_, he⟩ | ⟨_, he⟩⟩
      all_goals
        rw [he] at h
        exact h
    obtain ⟨_, hside, ha1⟩ := drain_spec ha hr false h1
    have hf1 := drain_follows ha hr false h1 hf
    have hout : (px.drain false).dirOut = px.dirOut := congrArg ElSide.dirOut hside
    generalize px.drain false = px1 at hcase ha1 hf1 hout
    rcases hcase with ⟨hc, he⟩ | ⟨_, he⟩ | ⟨_, _, ⟨_, he⟩ | ⟨_, he⟩⟩
    · rw [he]
      exact ⟨ha1, hout, fun _ => ⟨hf1, hf1.connected hc⟩, fun hs => (hidle _ _ hs).elim,
        hread _ _⟩
    · rw [he]
      exact ⟨ha1, hout, fun hs => (hsucc _ hs).elim, fun hs => (hidle _ _ hs).elim, hread _ _⟩
    · rw [he]
      exact ⟨ha1, hout, fun hs => (hsucc _ hs).elim, fun hs => (hidle _ _ hs).elim, hread _ _⟩
    · rw [he]
      refine ⟨ha1, hout, fun hs => ?_, fun _ => hf1, fun n d hs => by cases hs⟩
      simp [DirLog.succeeds] at hs

/-- One turn of a read. -/
theorem readTurn_follows (ha : px.Aligned) (hr : px.ready = true) (hn : n ≠ 0)
    (deadline now : Int) (h : (px.readTurn n deadline now).ready = true) :
    (px.readTurn n deadline now).Aligned ∧
      (px.readTurn n deadline now).worker.isOpening = false ∧
      (∀ m d, (px.readTurn n deadline now).worker = .reading m d → m ≠ 0) ∧
      ∃ out, (px.readTurn n deadline now).dirOut = px.dirOut ++ out ∧
        ∀ fs ret, Follows fs ret px.chan → answer fs = some true →
          Follows (fs ++ newFrames px (px.readTurn n deadline now)) (ret ++ out)
              (px.readTurn n deadline now).chan ∧
            (DirLog.succeeds (px.readTurn n deadline now) = true → now < deadline →
              (px.readTurn n deadline now).tcpState ≠ .connected ∧
                (px.readTurn n deadline now).dirRx.view = []) := by
  have hrx := readTurn_rx px n deadline now
  rw [if_pos hr] at hrx
  have h1 : (px.drain false).ready = true := (congrArg ElRx.ready hrx).symm.trans h
  obtain ⟨_, hside, ha1⟩ := drain_spec ha hr false h1
  have hout : (px.drain false).dirOut = px.dirOut := congrArg ElSide.dirOut hside
  have hfol (fs ret) (hf : Follows fs ret px.chan) := drain_follows ha hr false h1 hf
  have hnew : newFrames px (px.readTurn n deadline now) = newFrames px (px.drain false) :=
    newFrames_congr (seen_of_rx hrx)
  refine ⟨ha1.of_rx hrx, ?_⟩
  rw [hnew, readTurn, if_pos hr]
  generalize px.drain false = px1 at h1 hout hfol ⊢
  generalize newFrames px px1 = new at hfol ⊢
  by_cases hd : px1.dirRx.view = []
  · rw [if_neg (LinearBuffer.view_eq_nil.1 hd)]
    by_cases hc : (!px1.ready) = true ∨ px1.tcpState ≠ .connected
    · rw [if_pos hc]
      have hnc : px1.tcpState ≠ .connected := by
        rcases hc with hc | hc
        · rw [h1] at hc
          cases hc
        · exact hc
      refine ⟨rfl, fun m d hs => (by cases hs), [], ?_, fun fs ret hf _ => ⟨?_, fun _ _ => ?_⟩⟩
      · rw [List.append_nil]
        exact hout
      · rw [List.append_nil]
        exact hfol fs ret hf
      · exact ⟨hnc, hd⟩
    rw [if_neg hc]
    by_cases ht : now ≥ deadline
    · rw [if_pos ht]
      refine ⟨rfl, fun m d hs => (by cases hs), [], ?_, fun fs ret hf _ => ⟨?_, fun _ hl => ?_⟩⟩
      · rw [List.append_nil]
        exact hout
      · rw [List.append_nil]
        exact hfol fs ret hf
      · exact absurd ht (Int.not_le.2 hl)
    · rw [if_neg ht]
      refine ⟨rfl, fun m d hs => ?_, [], ?_, fun fs ret hf _ => ⟨?_, fun hs _ => ?_⟩⟩
      · cases hs
        exact hn
      · rw [List.append_nil]
        exact hout
      · rw [List.append_nil]
        exact hfol fs ret hf
      · exact absurd hs (by simp [DirLog.succeeds])
  · have hav : px1.dirRx.wr - px1.dirRx.rd > 0 := by
      by_contra hn
      exact hd (LinearBuffer.view_eq_nil.2 hn)
    rw [if_pos hav]
    refine ⟨rfl, fun m d hs => (by cases hs),
      px1.dirRx.view.take (min (px1.dirRx.wr - px1.dirRx.rd) n), ?_,
      fun fs ret hf hans => ⟨?_, fun hs _ => ?_⟩⟩
    · change px1.dirOut ++ _ = _
      rw [hout]
    · have hdel := (hfol fs ret hf).deliver (answer_append_some hans _)
        (min (px1.dirRx.wr - px1.dirRx.rd) n)
      rw [chan, ← LinearBuffer.view_skip] at hdel
      exact hdel
    · exfalso
      have hl : ((min (px1.dirRx.wr - px1.dirRx.rd) n : Nat) : Int) = 0 := by
        have hs' : ElWorker.idle = ElWorker.idle ∧
            ((min (px1.dirRx.wr - px1.dirRx.rd) n : Nat) : Int) = 0 := by
          simpa [DirLog.succeeds, finish] using hs
        exact hs'.2
      omega

theorem dirMachine_step (h : dirMachine.step s ev = some s') :
    s' = (s.1.step ev, s.2.note s.1 ev (s.1.step ev)) := by
  obtain ⟨h1, h2⟩ := Machine.observe_step h
  have h3 : s'.1 = s.1.step ev := (Option.some.inj h1).symm
  rw [h3] at h2
  exact Prod.ext h3 h2

theorem succeeds_busy (h : px.worker ≠ .idle) : DirLog.succeeds px = false := by
  simp [DirLog.succeeds, h]

/-- What the steps outside the opening and the closing of a channel add to its record. -/
def DirLog.goOn (l : DirLog) (px px' : ElProxy) : DirLog where
  frames := l.frames ++ newFrames px px'
  returned := l.returned ++ px'.dirOut.drop px.dirOut.length
  inUse := l.inUse || (px.worker.isOpening && DirLog.succeeds px')

/-- A step in which the worker does nothing. -/
theorem DirInv.advance {l : DirLog} (hi : DirInv (px, l)) (hr : px'.ready = true)
    (ha : px'.Aligned) (hw : px'.worker = px.worker) (hout : px'.dirOut = px.dirOut)
    (hf : ∀ fs ret, Follows fs ret px.chan → Follows (fs ++ newFrames px px') ret px'.chan) :
    DirInv (px', DirLog.goOn l px px') := by
  have huse : (DirLog.goOn l px px').inUse = l.inUse := by
    rw [DirLog.goOn]
    cases hk : px.worker.isOpening with
    | false => simp
    | true =>
      have hb : px'.worker ≠ .idle := by
        intro hn
        rw [← hw, hn] at hk
        cases hk
      simp [succeeds_busy hb]
  have hret : (DirLog.goOn l px px').returned = l.returned := by
    rw [DirLog.goOn]
    simp only
    rw [hout, List.drop_length, List.append_nil]
  constructor
  · exact hr
  · exact ha
  · intro h
    simp only at h ⊢
    rw [hret]
    apply hf
    apply hi.follows
    rw [huse, hw] at h
    exact h
  · intro h
    rw [huse] at h
    exact answer_append_some (hi.answered h) _
  · intro h
    rw [hw] at h
    exact huse.trans (hi.opening h)
  · intro n d h
    rw [hw] at h
    exact hi.buflen n d h

theorem DirInv.still {l : DirLog} (hi : DirInv (px, l)) : DirInv (px, DirLog.goOn l px px) := by
  apply hi.advance hi.ready hi.aligned rfl rfl
  intro fs ret hf
  rw [newFrames_of_seen rfl, List.append_nil]
  exact hf

theorem DirInv.openTurn {l : DirLog} (hi : DirInv (px, l)) (hw : px.worker = .opening deadline)
    (now : Int) (h : (px.openTurn deadline now).ready = true) :
    DirInv (px.openTurn deadline now, DirLog.goOn l px (px.openTurn deadline now)) := by
  have hopen : px.worker.isOpening = true := by
    rw [hw]
    rfl
  obtain ⟨ha, hout, hsucc, hop, hread⟩ :=
    openTurn_follows hi.aligned hi.ready (hi.follows (.inr hopen)) deadline now h
  have huse : (DirLog.goOn l px (px.openTurn deadline now)).inUse =
      DirLog.succeeds (px.openTurn deadline now) := by
    have hl : l.inUse = false := hi.opening hopen
    rw [DirLog.goOn]
    simp only [hl, hopen, Bool.true_and, Bool.false_or]
  have hret : (DirLog.goOn l px (px.openTurn deadline now)).returned = l.returned := by
    rw [DirLog.goOn]
    simp only
    rw [hout, List.drop_length, List.append_nil]
  constructor
  · exact h
  · exact ha
  · intro hor
    simp only at hor ⊢
    rw [hret]
    rw [huse] at hor
    rcases hor with hs | hs
    · exact (hsucc hs).1
    · exact hop hs
  · intro hs
    simp only at hs
    rw [huse] at hs
    exact (hsucc hs).2
  · intro hs
    simp only at hs ⊢
    rw [huse]
    apply succeeds_busy
    intro hn
    rw [hn] at hs
    cases hs
  · intro n d hs
    exact absurd hs (hread n d)

theorem DirInv.readTurn {l : DirLog} (hi : DirInv (px, l)) (hw : px.worker.isOpening = false)
    (hn : n ≠ 0) (deadline now : Int) (h : (px.readTurn n deadline now).ready = true) :
    DirInv (px.readTurn n deadline now, DirLog.goOn l px (px.readTurn n deadline now)) ∧
      (l.inUse = true → DirLog.succeeds (px.readTurn n deadline now) = true → now < deadline →
        (DirLog.goOn l px (px.readTurn n deadline now)).returned =
            payload (sinceStatus (DirLog.goOn l px (px.readTurn n deadline now)).frames) ∧
          ∃ m ∈ sinceStatus (DirLog.goOn l px (px.readTurn n deadline now)).frames,
            m.isClose = true) := by
  obtain ⟨ha, hop, hread, out, hout, hfol⟩ := readTurn_follows hi.aligned hi.ready hn deadline now h
  have huse : (DirLog.goOn l px (px.readTurn n deadline now)).inUse = l.inUse := by
    rw [DirLog.goOn]
    simp only [hw, Bool.false_and, Bool.or_false]
  have hret : (DirLog.goOn l px (px.readTurn n deadline now)).returned = l.returned ++ out := by
    rw [DirLog.goOn]
    simp only
    rw [hout, List.drop_left]
  have hf (hl : l.inUse = true) :=
    hfol l.frames l.returned (hi.follows (.inl hl)) (hi.answered hl)
  constructor
  · constructor
    · exact h
    · exact ha
    · intro hor
      simp only at hor ⊢
      rw [huse, hop] at hor
      rw [hret]
      rcases hor with hl | hl
      · exact (hf hl).1
      · cases hl
    · intro hl
      simp only at hl
      rw [huse] at hl
      exact answer_append_some (hi.answered hl) _
    · intro hs
      rw [hop] at hs
      cases hs
    · exact hread
  · intro hl hs ht
    obtain ⟨hfo, hend⟩ := hf hl
    obtain ⟨hc, hrx⟩ := hend hs ht
    rw [hret]
    exact hfo.eof (answer_append_some (hi.answered hl) _) hc hrx

theorem DirInv.tcpOpen {l : DirLog} (hi : DirInv (px, l)) (timeoutMs now : Int) (sendOk : Bool)
    (h : (px.tcpOpen timeoutMs now sendOk).ready = true) :
    DirInv (px.tcpOpen timeoutMs now sendOk,
      ⟨newFrames px (px.tcpOpen timeoutMs now sendOk), [],
        DirLog.succeeds (px.tcpOpen timeoutMs now sendOk)⟩) := by
  have hn : ¬(!px.ready) = true := by simpa using hi.ready
  rw [ElProxy.tcpOpen, if_neg hn] at h ⊢
  simp only at h ⊢
  cases sendOk with
  | false => cases h
  | true =>
    generalize hpx0 : { px with
      dirRx := px.dirRx.clear, tcpStatusPending := false, tcpState := TcpState.connecting } = px0 at h ⊢
    have hseen : px0.seen = px.seen := by
      rw [← hpx0]
    have hf : Follows [] [] px0.chan := by
      rw [← hpx0]
      exact ⟨rfl, rfl⟩
    have ha0 : px0.Aligned := by
      rw [← hpx0]
      exact hi.aligned
    have hr0 : px0.ready = true := by
      rw [← hpx0]
      exact hi.ready
    have hnew (px1 : ElProxy) : newFrames px px1 = newFrames px0 px1 := by
      rw [newFrames, newFrames, hseen]
    have h' : (px0.openTurn (deadlineOf now timeoutMs) now).ready = true := h
    obtain ⟨ha, _, hsucc, hop, hread⟩ := openTurn_follows ha0 hr0 hf _ now h'
    change DirInv (px0.openTurn (deadlineOf now timeoutMs) now,
      ⟨newFrames px (px0.openTurn (deadlineOf now timeoutMs) now), [], _⟩)
    rw [hnew]
    constructor
    · exact h
    · exact ha
    · intro hor
      rcases hor with hs | hs
      · exact (hsucc hs).1
      · exact hop hs
    · intro hs
      exact (hsucc hs).2
    · intro hs
      have hb : (px0.openTurn (deadlineOf now timeoutMs) now).worker ≠ .idle := by
        intro hw
        simp only at hs
        rw [hw] at hs
        cases hs
      exact succeeds_busy hb
    · intro n d hs
      exact absurd hs (hread n d)

theorem DirInv.tcpClose {l : DirLog} (hi : DirInv (px, l)) (sendOk : Bool)
    (h : (px.tcpClose sendOk).ready = true) :
    DirInv (px.tcpClose sendOk, { l with inUse := false }) := by
  rw [ElProxy.tcpClose] at h ⊢
  by_cases hc : (px.ready = true ∧ px.tcpState ≠ .disc) ∧ (!sendOk) = true
  · simp only [if_pos hc] at h
    cases h
  · simp only [if_neg hc]
    constructor
    · exact hi.ready
    · exact hi.aligned
    · intro hor
      rcases hor with hs | hs
      · cases hs
      · cases hs
    · intro hs
      cases hs
    · intro hs
      rfl
    · intro n d hs
      cases hs

theorem DirInv.step (hi : DirInv s) (h : dirMachine.step s ev = some s')
    (hr : s'.1.ready = true) : DirInv s' := by
  obtain ⟨px, l⟩ := s
  obtain rfl := dirMachine_step h
  have hquiet (px' : ElProxy) (hr' : px'.ready = true) (hrx : { px'.rx with sock := px.sock } = px.rx)
      (hc : px'.chan = px.chan) (hout : px'.dirOut = px.dirOut) (hw : px'.worker = px.worker) :
      DirInv (px', DirLog.goOn l px px') := by
    have hacc : px'.rxAcc = px.rxAcc := congrArg ElRx.rxAcc hrx
    have hseen : px'.seen = px.seen := congrArg ElRx.seen hrx
    apply hi.advance hr' _ hw hout
    · intro fs ret hf
      rw [newFrames_of_seen hseen, List.append_nil, hc]
      exact hf
    · rw [Aligned, Settled, hacc, hseen]
      exact hi.aligned
  cases ev with
  | arrive bytes => exact hquiet _ hr rfl rfl rfl rfl
  | hangup => exact hquiet _ hr rfl rfl rfl rfl
  | poll =>
    have hr' : (px.drain true).ready = true := hr
    obtain ⟨_, hside, ha⟩ := drain_spec hi.aligned hi.ready true hr'
    apply hi.advance hr' ha (congrArg ElSide.worker hside) (congrArg ElSide.dirOut hside)
    intro fs ret hf
    exact drain_follows hi.aligned hi.ready true hr' hf
  | tcpOpen timeoutMs now sendOk =>
    simp only [ElProxy.step, call, DirLog.note] at hr ⊢
    by_cases hw : px.worker = .idle
    · simp only [if_pos hw] at hr ⊢
      exact hi.tcpOpen timeoutMs now sendOk hr
    · simp only [if_neg hw]
      exact hi
  | tcpClose sendOk =>
    simp only [ElProxy.step, call, DirLog.note] at hr ⊢
    by_cases hw : px.worker = .idle
    · simp only [if_pos hw] at hr ⊢
      exact hi.tcpClose sendOk hr
    · simp only [if_neg hw]
      exact hi
  | tcpRead buflen timeoutMs now =>
    change DirInv (_, DirLog.goOn l px _)
    simp only [ElProxy.step, call] at hr ⊢
    by_cases hw : px.worker = .idle
    · simp only [if_pos hw, tcpRead] at hr ⊢
      by_cases hb : buflen = 0
      · simp only [if_pos hb] at hr ⊢
        exact hquiet _ hr rfl rfl rfl hw.symm
      · simp only [if_neg hb] at hr ⊢
        exact (hi.readTurn (by rw [hw]; rfl) hb _ now hr).1
    · simp only [if_neg hw]
      exact hi.still
  | wake now =>
    change DirInv (_, DirLog.goOn l px _)
    simp only [ElProxy.step, wake] at hr ⊢
    cases hw : px.worker with
    | idle => exact hi.still
    | opening deadline =>
      rw [hw] at hr
      exact hi.openTurn hw now hr
    | reading n deadline =>
      rw [hw] at hr
      exact (hi.readTurn (by rw [hw]; rfl) (hi.buflen n deadline hw) deadline now hr).1

theorem DirInv.eof (hi : DirInv s) (hr : ∀ s', dirMachine.step s ev = some s' → s'.1.ready = true) :
    EofLast s ev := by
  obtain ⟨px, l⟩ := s
  intro s' deadline now h hread huse hs ht
  have hr' := hr s' h
  obtain rfl := dirMachine_step h
  cases ev with
  | tcpRead buflen timeoutMs now' =>
    simp only [readOf] at hread
    by_cases hc : px.worker = .idle ∧ buflen ≠ 0
    · rw [if_pos hc] at hread
      cases hread
      have he : px.step (.tcpRead buflen timeoutMs now) =
          px.readTurn buflen (deadlineOf now timeoutMs) now := by
        rw [ElProxy.step, call, if_pos hc.1, tcpRead, if_neg hc.2]
      rw [he] at hr' hs ⊢
      exact (hi.readTurn (by rw [hc.1]; rfl) hc.2 _ now hr').2 huse hs ht
    · rw [if_neg hc] at hread
      cases hread
  | wake now' =>
    cases hw : px.worker with
    | idle => simp [readOf, hw] at hread
    | opening d => simp [readOf, hw] at hread
    | reading n d =>
      simp only [readOf, hw] at hread
      cases hread
      have he : px.step (.wake now) = px.readTurn n deadline now := by
        rw [ElProxy.step, wake, hw]
      rw [he] at hr' hs ⊢
      exact (hi.readTurn (by rw [hw]; rfl) (hi.buflen n deadline hw) deadline now hr').2 huse hs ht
  | arrive bytes => cases hread
  | hangup => cases hread
  | poll => cases hread
  | tcpOpen timeoutMs now' sendOk => cases hread
  | tcpClose sendOk => cases hread

/-- On a proxy that stays connected, the directory channel is a faithful stream of bytes. -/
theorem dirFaithful_run {evs : List ElProxyEvent}
    (hr : dirMachine.Always (fun s => s.1.ready = true) dirMachine.init evs) :
    dirMachine.Always DirFaithful dirMachine.init evs ∧
      dirMachine.Meets EofLast dirMachine.init evs := by
  apply Machine.always_and_meets (I := DirInv) (R := fun s => s.1.ready = true)
  · intro s ev s' hi h hr'
    exact hi.step h hr'
  · intro s hi huse
    exact (hi.follows (.inl huse)).payload_initial (hi.answered huse)
  · intro s ev s' hi h hr'
    apply hi.eof
    intro s'' h'
    cases h.symm.trans h'
    exact hr'
  · constructor
    · rfl
    · refine ⟨⟨rfl, fun hl => ?_⟩, rfl⟩
      exact absurd hl.1 (by decide)
    · intro h
      rcases h with h | h
      · cases h
      · cases h
    · intro h
      cases h
    · intro _
      rfl
    · intro n d h
      cases h
  · exact hr

/-- A directory reply of two bytes, and the end of it. -/
def dirReply : List UInt8 := [2, 0, 0, 0, 0, 2, 0, 0, 0, 64, 64, 3, 0, 0, 0, 0, 0, 0, 0, 0]

/-- A reply that is read to its end. -/
theorem dirFaithful_sample :
    dirMachine.Always DirFaithful dirMachine.init
        [.tcpOpen 20000 0 true, .arrive tcpStatusMsg, .wake 1, .arrive dirReply, .poll,
          .tcpRead 1 1000 1, .tcpRead 10 1000 1, .tcpRead 10 1000 1, .tcpClose true] ∧
      dirMachine.Meets EofLast dirMachine.init
        [.tcpOpen 20000 0 true, .arrive tcpStatusMsg, .wake 1, .arrive dirReply, .poll,
          .tcpRead 1 1000 1, .tcpRead 10 1000 1, .tcpRead 10 1000 1, .tcpClose true] := by
  apply dirFaithful_run
  have hs (s : ElProxy × DirLog) (ev : ElProxyEvent) :
      dirMachine.step s ev = some (s.1.step ev, s.2.note s.1 ev (s.1.step ev)) := rfl
  simp only [Machine.always_cons_some (hs _ _), Machine.always_nil]
  refine ⟨?_, ?_, ?_, ?_, ?_, ?_, ?_, ?_, ?_, ?_⟩ <;> decide +kernel

end ElProxy

end AdnBridge
