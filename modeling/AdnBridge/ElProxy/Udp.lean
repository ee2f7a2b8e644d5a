import AdnBridge.ElProxy.ElProxy
import AdnBridge.Lib.Framing
import Mathlib.Data.List.GetD

namespace AdnBridge
set_option autoImplicit true

/-- The messages of the proxy as a framing of its byte stream. -/
def proxyFraming : Framing UInt8 ProxyMsg where
  cut acc :=
    if acc.length < msgHdr ∨ msgLen acc > elProxyAccSize - msgHdr ∨
        acc.length < msgHdr + msgLen acc then none
    else some (msgAt acc, acc.drop (msgHdr + msgLen acc))
  length_lt := by
    intro xs f rest h
    split at h
    · cases h
    next hn =>
      cases h
      rw [not_or] at hn
      rw [List.length_drop]
      have : msgHdr = 9 := rfl
      omega
  append := by
    intro xs f rest h ys
    split at h
    · cases h
    next hn =>
      cases h
      rw [not_or, not_or, Nat.not_lt, Nat.not_lt, Nat.not_lt] at hn
      obtain ⟨h9, hm, ht⟩ := hn
      have hd (i : Nat) (hi : i < msgHdr) : (xs ++ ys).getD i 0 = xs.getD i 0 :=
        List.getD_append xs ys 0 i (Nat.lt_of_lt_of_le hi h9)
      have hle (i : Nat) (hi : i + 3 < msgHdr) : le32 (xs ++ ys) i = le32 xs i := by
        rw [le32, le32, hd i (by omega), hd (i + 1) (by omega), hd (i + 2) (by omega), hd (i + 3) hi]
      have hl : msgLen (xs ++ ys) = msgLen xs := hle 5 (by decide)
      have hat : msgAt (xs ++ ys) = msgAt xs := by
        rw [msgAt, msgAt, hd 0 (by decide), hle 1 (by decide), hl,
          List.drop_append_of_le_length h9, List.take_append_of_le_length]
        rw [List.length_drop]
        omega
      rw [if_neg, hl, hat, List.drop_append_of_le_length ht]
      rw [hl, List.length_append]
      omega

/-- What the callback is to be told of a message. -/
def ProxyMsg.udp (m : ProxyMsg) : Option ElUdp :=
  if m.data = [] then none
  else if m.type = msgUdpData then some ⟨m.remote, false, m.data⟩
  else if m.type = msgUdpControl then some ⟨m.remote, true, m.data⟩
  else none

/-- The non-empty UDP messages in a stretch of the byte stream. -/
def udpIn (bytes : List UInt8) : List ElUdp :=
  (proxyFraming.split bytes).1.filterMap ProxyMsg.udp

/-- The receiving side of a proxy. -/
structure ElRx where
  ready : Bool
  sock : List UInt8
  seen : List UInt8
  rxAcc : List UInt8
  calls : List ElUdp

namespace ElProxy

variable {px px' : ElProxy}

def rx (px : ElProxy) : ElRx := ⟨px.ready, px.sock, px.seen, px.rxAcc, px.calls⟩

/-- What the callback is told of a message, or of a stretch of the stream, if there is one. -/
def toldOf (cb : Bool) (m : ProxyMsg) : List ElUdp := if cb then m.udp.toList else []

def told (cb : Bool) (bytes : List UInt8) : List ElUdp := if cb then udpIn bytes else []

theorem dirRxAppend_rx (data : List UInt8) (h : (px.dirRxAppend data).ready = true) :
    (px.dirRxAppend data).rx = px.rx := by
  rw [dirRxAppend] at h ⊢
  split
  · rfl
  next hd =>
    rw [if_neg hd] at h
    simp only at h ⊢
    split
    next => rfl
    next hl =>
      rw [dif_neg hl] at h
      cases h

theorem onTcpStatus_rx (px : ElProxy) (status : Nat) : (px.onTcpStatus status).rx = px.rx := by
  rw [onTcpStatus]
  simp only
  split
  · split <;> rfl
  · rfl

theorem handleMsg_udp (cb ctrl : Bool) (m : ProxyMsg)
    (ht : m.type = if ctrl then msgUdpControl else msgUdpData) :
    (px.handleMsg cb m).rx = { px.rx with calls := px.calls ++ toldOf cb m } := by
  have hd : toldOf cb m = if cb ∧ m.data ≠ [] then [⟨m.remote, ctrl, m.data⟩] else [] := by
    rw [toldOf, ProxyMsg.udp, ht]
    by_cases hm : m.data = []
    · cases cb <;> simp [hm]
    · cases cb <;> cases ctrl <;> simp [hm, msgUdpData, msgUdpControl]
  rw [hd]
  cases ctrl with
  | false =>
    simp only [handleMsg, show m.type = msgUdpData from ht]
    by_cases hc : cb ∧ m.data ≠ []
    · rw [if_pos hc]
      simp only [if_pos hc]
      rfl
    · rw [if_neg hc]
      simp only [if_neg hc, List.append_nil]
      rfl
  | true =>
    simp only [handleMsg, show m.type = msgUdpControl from ht]
    by_cases hc : cb ∧ m.data ≠ []
    · rw [if_pos hc]
      simp only [if_pos hc]
      rfl
    · rw [if_neg hc]
      simp only [if_neg hc, List.append_nil]
      rfl

theorem handleMsg_other (cb : Bool) (m : ProxyMsg) (hd : m.type ≠ msgUdpData)
    (hc : m.type ≠ msgUdpControl) (h : (px.handleMsg cb m).ready = true) :
    (px.handleMsg cb m).rx = px.rx := by
  rw [handleMsg] at h ⊢
  split
  next h1 =>
    rw [if_pos h1] at h
    exact dirRxAppend_rx m.data h
  next h1 =>
    rw [if_neg h1] at h
    split
    · rfl
    next h2 =>
      rw [if_neg h2] at h
      split
      · split
        · exact onTcpStatus_rx px _
        · rfl
      next h3 =>
        rw [if_neg h3, if_neg hd, if_neg hc] at h
        split
        next h4 =>
          rw [if_pos h4] at h
          split
          next h5 =>
            rw [if_pos h5] at h
            cases h
          next => rfl
        next h4 =>
          rw [if_neg h4] at h
          split
          next => rfl
          next h5 =>
            rw [if_neg h5] at h
            cases h

theorem handleMsg_rx (cb : Bool) (m : ProxyMsg) (h : (px.handleMsg cb m).ready = true) :
    (px.handleMsg cb m).rx = { px.rx with calls := px.calls ++ toldOf cb m } := by
  by_cases hd : m.type = msgUdpData
  · exact handleMsg_udp cb false m hd
  · by_cases hc : m.type = msgUdpControl
    · exact handleMsg_udp cb true m hc
    · have hn : toldOf cb m = [] := by
        rw [toldOf, ProxyMsg.udp, if_neg hd, if_neg hc, ite_self, Option.toList_none, ite_self]
      rw [handleMsg_other cb m hd hc h, hn, List.append_nil]
      rfl

theorem cut_none (h : px.rxAcc.length < msgHdr ∨ px.rxAcc.length < msgHdr + msgLen px.rxAcc) :
    proxyFraming.cut px.rxAcc = none := by
  refine if_pos ?_
  rcases h with h | h
  · exact .inl h
  · exact .inr (.inr h)

theorem told_cut {bytes rest : List UInt8} (cb : Bool)
    (h : proxyFraming.cut bytes = some (m, rest)) :
    told cb bytes = toldOf cb m ++ told cb rest := by
  cases cb with
  | false => rfl
  | true =>
    simp only [told, toldOf, udpIn, Framing.split_some h, if_true]
    cases hm : m.udp with
    | none => rw [List.filterMap_cons_none hm, Option.toList_none, List.nil_append]
    | some u => rw [List.filterMap_cons_some hm, Option.toList_some, List.singleton_append]

theorem told_split_nil {bytes rest : List UInt8} (cb : Bool)
    (h : proxyFraming.split bytes = ([], rest)) : told cb bytes = [] := by
  rw [told, udpIn, h, List.filterMap_nil, ite_self]

theorem told_append (cb : Bool) (xs ys : List UInt8) :
    told cb (xs ++ ys) = told cb xs ++ told cb ((proxyFraming.split xs).2 ++ ys) := by
  cases cb with
  | false => rfl
  | true =>
    simp only [told, udpIn, if_true]
    rw [Framing.split_append, List.filterMap_append]

/-- The whole messages of the buffer are handled. -/
def parsed (cb : Bool) (r : ElRx) : ElRx :=
  { r with rxAcc := (proxyFraming.split r.rxAcc).2, calls := r.calls ++ told cb r.rxAcc }

/-- Everything that has arrived is read, and its whole messages are handled. -/
def drained (cb : Bool) (r : ElRx) : ElRx :=
  parsed cb { r with sock := [], seen := r.seen ++ r.sock, rxAcc := r.rxAcc ++ r.sock }

theorem parsed_settled {r : ElRx} (cb : Bool) (h : proxyFraming.split r.rxAcc = ([], r.rxAcc)) :
    parsed cb r = r := by
  rw [parsed, told_split_nil cb h, h, List.append_nil]

theorem parsed_cut {r : ElRx} (cb : Bool) (h : proxyFraming.cut r.rxAcc = some (m, rest)) :
    parsed cb { r with rxAcc := rest, calls := r.calls ++ toldOf cb m } = parsed cb r := by
  rw [parsed, parsed, Framing.split_some h, told_cut cb h, List.append_assoc]

theorem settled_parsed (cb : Bool) (r : ElRx) :
    proxyFraming.split (parsed cb r).rxAcc = ([], (parsed cb r).rxAcc) :=
  proxyFraming.split_rest r.rxAcc

/-- A read, a parse and a drain of the rest are a drain of all. -/
theorem drained_read (cb : Bool) (r : ElRx) (n : Nat) :
    drained cb (parsed cb { r with
      sock := r.sock.drop n, seen := r.seen ++ r.sock.take n, rxAcc := r.rxAcc ++ r.sock.take n }) =
      drained cb r := by
  obtain ⟨xs, ys, h1, h2, h3⟩ : ∃ xs ys, r.sock.take n = xs ∧ r.sock.drop n = ys ∧ r.sock = xs ++ ys :=
    ⟨_, _, rfl, rfl, (List.take_append_drop n r.sock).symm⟩
  rw [h1, h2, drained, drained, parsed, parsed, parsed, h3]
  simp only [List.append_assoc]
  rw [← List.append_assoc r.rxAcc, told_append cb (r.rxAcc ++ xs) ys,
    Framing.split_append proxyFraming (r.rxAcc ++ xs) ys]

/-- A parse that ends connected has handled all the whole messages of the buffer. -/
theorem parseAcc_rx (cb : Bool) (fuel : Nat) (hf : px.rxAcc.length ≤ fuel)
    (h : (parseAcc cb fuel px).ready = true) : (parseAcc cb fuel px).rx = parsed cb px.rx := by
  induction fuel generalizing px with
  | zero =>
    have hn : proxyFraming.cut px.rxAcc = none := by
      rw [List.length_eq_zero_iff.1 (Nat.le_zero.1 hf)]
      rfl
    exact (parsed_settled cb (Framing.split_none hn)).symm
  | succ fuel ih =>
    rw [parseAcc] at h ⊢
    split
    next h9 => exact (parsed_settled cb (Framing.split_none (cut_none (.inl h9)))).symm
    next h9 =>
      rw [if_neg h9] at h
      split
      next hm =>
        rw [if_pos hm] at h
        cases h
      next hm =>
        rw [if_neg hm] at h
        split
        next ht => exact (parsed_settled cb (Framing.split_none (cut_none (.inr ht)))).symm
        next ht =>
          rw [if_neg ht] at h
          have hc : proxyFraming.cut px.rxAcc =
              some (msgAt px.rxAcc, px.rxAcc.drop (msgHdr + msgLen px.rxAcc)) := by
            apply if_neg
            rw [not_or, not_or]
            exact ⟨h9, hm, ht⟩
          have hl := Framing.length_lt _ hc
          have hrx := @handleMsg_rx (px.noteMsg (msgAt px.rxAcc)) cb (msgAt px.rxAcc)
          simp only at h ⊢
          generalize (px.noteMsg (msgAt px.rxAcc)).handleMsg cb (msgAt px.rxAcc) = px1 at h hrx ⊢
          by_cases hr : px1.ready = true
          · have hn : ¬(!px1.ready) = true := by simpa using hr
            rw [if_neg hn] at h ⊢
            have hacc : px1.rxAcc = px.rxAcc := congrArg ElRx.rxAcc (hrx hr)
            rw [hacc] at h ⊢
            generalize px.rxAcc.drop (msgHdr + msgLen px.rxAcc) = rest at h hc hl ⊢
            have h1 := @ih { px1 with rxAcc := rest }
              (Nat.le_of_lt_succ (Nat.lt_of_lt_of_le hl hf)) h
            refine h1.trans ?_
            rw [← parsed_cut (r := px.rx) cb hc]
            change parsed cb { px1.rx with rxAcc := rest } = _
            rw [hrx hr]
            rfl
          · rw [if_pos (by simpa using hr)] at h
            exact absurd h hr

/-- A drain that ends connected has read and handled everything that had arrived. -/
theorem drainLoop_rx (cb : Bool) (fuel : Nat) (hf : px.sock.length < fuel)
    (hs : proxyFraming.split px.rxAcc = ([], px.rxAcc))
    (h : (drainLoop cb fuel px).ready = true) : (drainLoop cb fuel px).rx = drained cb px.rx := by
  induction fuel generalizing px with
  | zero => exact absurd hf (Nat.not_lt_zero _)
  | succ fuel ih =>
    rw [drainLoop] at h ⊢
    split
    next hb =>
      rw [if_pos hb] at h
      cases h
    next hb =>
      rw [if_neg hb] at h
      split
      next he =>
        rw [if_pos he] at h
        split
        next heof =>
          rw [if_pos heof] at h
          cases h
        next =>
          have hd : drained cb px.rx = parsed cb px.rx := by
            simp only [drained, rx, he, List.append_nil]
          rw [hd]
          exact (parsed_settled cb hs).symm
      next he =>
        rw [if_neg he] at h
        have hp := @parseAcc_rx px.noteRoom.readSock cb px.noteRoom.readSock.rxAcc.length
          (Nat.le_refl _)
        simp only at h ⊢
        generalize parseAcc cb px.noteRoom.readSock.rxAcc.length px.noteRoom.readSock = px1
          at h hp ⊢
        by_cases hr : px1.ready = true
        · have hn : ¬(!px1.ready) = true := by simpa using hr
          rw [if_neg hn] at h ⊢
          have hrx := hp hr
          have hsock : px1.sock = px.sock.drop (elProxyAccSize - px.rxAcc.length) :=
            congrArg ElRx.sock hrx
          have hset : proxyFraming.split px1.rxAcc = ([], px1.rxAcc) := by
            change proxyFraming.split px1.rx.rxAcc = ([], px1.rx.rxAcc)
            rw [hrx]
            exact settled_parsed cb _
          have hlen : px1.sock.length < fuel := by
            have := List.length_pos_iff.2 he
            rw [hsock, List.length_drop]
            omega
          refine (ih hlen hset h).trans ?_
          rw [hrx]
          exact drained_read cb px.rx _
        · rw [if_pos (by simpa using hr)] at h
          exact absurd h hr

theorem drain_rx (cb : Bool) (hs : proxyFraming.split px.rxAcc = ([], px.rxAcc))
    (h : (px.drain cb).ready = true) : (px.drain cb).rx = drained cb px.rx := by
  rw [drain] at h ⊢
  by_cases hr : px.ready = true
  · have hn : ¬(!px.ready) = true := by simpa using hr
    rw [if_neg hn] at h ⊢
    exact drainLoop_rx cb _ (Nat.lt_succ_self _) hs h
  · rw [if_pos (by simpa using hr)] at h
    exact absurd h hr

/-- Every non-empty UDP message that was read has been handed to the callback, in order. -/
def UdpDelivered (px : ElProxy) : Prop := px.calls = udpIn px.seen

/-- The buffer holds what follows the last whole message read, and nothing is lost. -/
def UdpInv (r : ElRx) : Prop := r.rxAcc = (proxyFraming.split r.seen).2 ∧ r.calls = udpIn r.seen

theorem UdpInv.settled {r : ElRx} (h : UdpInv r) :
    proxyFraming.split r.rxAcc = ([], r.rxAcc) := by
  rw [h.1]
  exact proxyFraming.split_rest r.seen

theorem UdpInv.drained_seen {r : ElRx} (h : UdpInv r) :
    udpIn (r.seen ++ r.sock) = r.calls ++ udpIn (r.rxAcc ++ r.sock) := by
  rw [h.2, h.1]
  exact told_append true r.seen r.sock

theorem UdpInv.drained_rxAcc {r : ElRx} (h : UdpInv r) (cb : Bool) :
    (drained cb r).rxAcc = (proxyFraming.split (drained cb r).seen).2 := by
  change (proxyFraming.split (r.rxAcc ++ r.sock)).2 = (proxyFraming.split (r.seen ++ r.sock)).2
  rw [proxyFraming.split_append r.seen, ← h.1]

/-- A drain keeps the invariant exactly when it tells the callback of all that it completes. -/
theorem UdpInv.drained_iff {r : ElRx} (h : UdpInv r) (cb : Bool) :
    UdpInv (drained cb r) ↔ told cb (r.rxAcc ++ r.sock) = udpIn (r.rxAcc ++ r.sock) := by
  have hcalls : (drained cb r).calls = udpIn (drained cb r).seen ↔
      told cb (r.rxAcc ++ r.sock) = udpIn (r.rxAcc ++ r.sock) := by
    change r.calls ++ told cb (r.rxAcc ++ r.sock) = udpIn (r.seen ++ r.sock) ↔ _
    rw [h.drained_seen, List.append_right_inj]
  exact (and_iff_right (h.drained_rxAcc cb)).trans hcalls

theorem openTurn_rx (px : ElProxy) (deadline now : Int) : (px.openTurn deadline now).rx =
    (if px.ready ∧ px.tcpState = .connecting then px.drain false else px).rx := by
  rw [openTurn]
  split
  · simp only
    split
    · rfl
    · split
      · rfl
      · split <;> rfl
  · rfl

theorem readTurn_rx (px : ElProxy) (buflen : Nat) (deadline now : Int) :
    (px.readTurn buflen deadline now).rx = (if px.ready then px.drain false else px).rx := by
  rw [readTurn]
  generalize (if px.ready = true then px.drain false else px) = px1
  split
  · rfl
  · split
    · rfl
    · split <;> rfl

/-- The event makes the worker read from the socket. -/
def workerDrains (px : ElProxy) : ElProxyEvent → Prop
  | .tcpOpen _ _ _ => px.worker = .idle
  | .tcpRead buflen _ _ => px.worker = .idle ∧ buflen ≠ 0
  | .wake _ =>
    match px.worker with
    | .idle => False
    | .opening _ => px.tcpState = .connecting
    | .reading _ _ => True
  | _ => False

theorem tcpOpen_rx (hs : proxyFraming.split px.rxAcc = ([], px.rxAcc)) (hr : px.ready = true)
    (h : (px.tcpOpen timeoutMs now sendOk).ready = true) :
    (px.tcpOpen timeoutMs now sendOk).rx = drained false px.rx := by
  rw [tcpOpen, if_neg (by simpa using hr)] at h ⊢
  simp only at h ⊢
  by_cases hok : (!sendOk) = true
  · rw [if_pos hok] at h
    cases h
  · rw [if_neg hok] at h ⊢
    generalize hpx0 : { px with
      dirRx := px.dirRx.clear, tcpStatusPending := false, tcpState := TcpState.connecting } = px0 at h ⊢
    have hrx0 : px0.rx = px.rx := by
      rw [← hpx0]
      rfl
    have hc : px0.ready = true ∧ px0.tcpState = .connecting := by
      rw [← hpx0]
      exact ⟨hr, rfl⟩
    have hrx := openTurn_rx px0 (deadlineOf now timeoutMs) now
    rw [if_pos hc] at hrx
    have hs0 : proxyFraming.split px0.rxAcc = ([], px0.rxAcc) := by
      rw [← hpx0]
      exact hs
    rw [hrx, drain_rx false hs0 ((congrArg ElRx.ready hrx).symm.trans h), hrx0]

theorem readTurn_drained (hs : proxyFraming.split px.rxAcc = ([], px.rxAcc))
    (hr : px.ready = true) (h : (px.readTurn buflen deadline now).ready = true) :
    (px.readTurn buflen deadline now).rx = drained false px.rx := by
  have hrx := readTurn_rx px buflen deadline now
  rw [if_pos hr] at hrx
  rw [hrx, drain_rx false hs ((congrArg ElRx.ready hrx).symm.trans h)]

/-- What a step that leaves the proxy connected does to the receiving side. -/
theorem step_rx (hs : proxyFraming.split px.rxAcc = ([], px.rxAcc)) (hr : px.ready = true)
    (ev : ElProxyEvent) (h : (px.step ev).ready = true) :
    (px.workerDrains ev ∧ (px.step ev).rx = drained false px.rx) ∨
      (¬px.workerDrains ev ∧ (ev = .poll ∧ (px.step ev).rx = drained true px.rx ∨
        ∃ sock, (px.step ev).rx = { px.rx with sock := sock })) := by
  cases ev with
  | arrive bytes => exact .inr ⟨id, .inr ⟨px.sock ++ bytes, rfl⟩⟩
  | hangup => exact .inr ⟨id, .inr ⟨px.sock, rfl⟩⟩
  | poll => exact .inr ⟨id, .inl ⟨rfl, drain_rx true hs h⟩⟩
  | tcpOpen timeoutMs now sendOk =>
    rw [step, call] at h ⊢
    by_cases hw : px.worker = .idle
    · rw [if_pos hw] at h ⊢
      exact .inl ⟨hw, tcpOpen_rx hs hr h⟩
    · rw [if_neg hw]
      exact .inr ⟨hw, .inr ⟨px.sock, rfl⟩⟩
  | tcpRead buflen timeoutMs now =>
    rw [step, call] at h ⊢
    by_cases hw : px.worker = .idle
    · rw [if_pos hw, tcpRead] at h ⊢
      by_cases hb : buflen = 0
      · rw [if_pos hb]
        exact .inr ⟨fun hn => hn.2 hb, .inr ⟨px.sock, rfl⟩⟩
      · rw [if_neg hb] at h ⊢
        exact .inl ⟨⟨hw, hb⟩, readTurn_drained hs hr h⟩
    · rw [if_neg hw]
      exact .inr ⟨fun hn => hw hn.1, .inr ⟨px.sock, rfl⟩⟩
  | tcpClose sendOk =>
    rw [step, call] at h ⊢
    split
    next hw =>
      rw [if_pos hw, tcpClose] at h
      refine .inr ⟨id, .inr ⟨px.sock, ?_⟩⟩
      rw [tcpClose]
      simp only at h ⊢
      split
      next hc =>
        rw [if_pos hc] at h
        cases h
      next => rfl
    next => exact .inr ⟨id, .inr ⟨px.sock, rfl⟩⟩
  | wake now =>
    rw [step, wake] at h ⊢
    rw [workerDrains]
    cases hw : px.worker with
    | idle => exact .inr ⟨id, .inr ⟨px.sock, rfl⟩⟩
    | opening deadline =>
      rw [hw] at h
      have hrx := openTurn_rx px deadline now
      by_cases hc : px.tcpState = .connecting
      · rw [if_pos ⟨hr, hc⟩] at hrx
        refine .inl ⟨hc, ?_⟩
        exact hrx.trans (drain_rx false hs ((congrArg ElRx.ready hrx).symm.trans h))
      · rw [if_neg fun hn => hc hn.2] at hrx
        exact .inr ⟨hc, .inr ⟨px.sock, hrx⟩⟩
    | reading buflen deadline =>
      rw [hw] at h
      exact .inl ⟨trivial, readTurn_drained hs hr h⟩

/-- No read of the worker completes a non-empty UDP message. -/
def KeepsUdp (px : ElProxy) (ev : ElProxyEvent) : Prop :=
  px.workerDrains ev → udpIn (px.rxAcc ++ px.sock) = []

theorem UdpInv.step (hi : UdpInv px.rx) (hr : px.ready = true) (ev : ElProxyEvent)
    (h : (px.step ev).ready = true) : UdpInv (px.step ev).rx ↔ px.KeepsUdp ev := by
  rcases step_rx hi.settled hr ev h with ⟨hd, hrx⟩ | ⟨hd, ⟨_, hrx⟩ | ⟨sock, hrx⟩⟩
  · rw [hrx, hi.drained_iff false]
    exact ⟨fun he _ => he.symm, fun hk => (hk hd).symm⟩
  · rw [hrx, hi.drained_iff true]
    exact iff_of_true rfl fun hn => absurd hn hd
  · rw [hrx]
    exact iff_of_true hi fun hn => absurd hn hd

/-- The part of the invariant that every step keeps, lost messages or not, as long as the proxy
stays connected. -/
theorem seen_step (hi : UdpInv px.rx) (hr : px.ready = true) (ev : ElProxyEvent)
    (h : (px.step ev).ready = true) :
    (px.step ev).rx.rxAcc = (proxyFraming.split (px.step ev).rx.seen).2 := by
  rcases step_rx hi.settled hr ev h with ⟨_, hrx⟩ | ⟨_, ⟨_, hrx⟩ | ⟨sock, hrx⟩⟩
  · rw [hrx]
    exact hi.drained_rxAcc false
  · rw [hrx]
    exact hi.drained_rxAcc true
  · rw [hrx]
    exact hi.1

/-- On a proxy that stays connected, all the UDP messages read reach the callback, once and in
order, in every state of a run exactly when no read of the worker completes one. -/
theorem udpDelivered_iff {evs : List ElProxyEvent}
    (hr : machine.Always (fun px => px.ready = true) machine.init evs) :
    machine.Always UdpDelivered machine.init evs ↔ machine.Meets KeepsUdp machine.init evs := by
  apply Machine.always_iff_meets_while (I := fun px => px.ready = true ∧ UdpInv px.rx)
    (R := fun px => px.ready = true)
  · intro px ev px' hi hk hs h
    cases hs
    exact ⟨h, (hi.2.step hi.1 ev h).2 hk⟩
  · intro px hi
    exact hi.2.2
  · intro px ev px' hi hk hs h hd
    cases hs
    exact hk ((hi.2.step hi.1 ev h).1 ⟨seen_step hi.2 hi.1 ev h, hd⟩)
  · exact ⟨rfl, rfl, rfl⟩
  · exact hr

theorem always_cons {P : ElProxy → Prop} :
    machine.Always P px (ev :: evs) ↔ P px ∧ machine.Always P (px.step ev) evs :=
  Machine.always_cons_some rfl

theorem meets_cons {C : ElProxy → ElProxyEvent → Prop} :
    machine.Meets C px (ev :: evs) ↔ C px ev ∧ machine.Meets C (px.step ev) evs :=
  Machine.meets_cons_some rfl

/-- A UDP_DATA message with one byte, from 127.0.0.1. -/
def udpDataMsg : List UInt8 := [5, 127, 0, 0, 1, 1, 0, 0, 0, 42]

/-- A TCP_STATUS message that reports success. -/
def tcpStatusMsg : List UInt8 := [4, 0, 0, 0, 0, 4, 0, 0, 0, 0, 0, 0, 0]

/-- The main thread polls before the worker's wait is over. -/
theorem udpDelivered_polled : machine.Always UdpDelivered machine.init
    [.tcpOpen 20000 0 true, .arrive (udpDataMsg ++ tcpStatusMsg), .poll, .wake 1] := by
  have hr : machine.Always (fun px => px.ready = true) machine.init
      [.tcpOpen 20000 0 true, .arrive (udpDataMsg ++ tcpStatusMsg), .poll, .wake 1] := by
    simp only [always_cons, Machine.always_nil]
    refine ⟨?_, ?_, ?_, ?_, ?_⟩ <;> decide +kernel
  apply (udpDelivered_iff hr).2
  simp only [meets_cons]
  refine ⟨fun _ => rfl, False.elim, False.elim, fun _ => ?_, trivial⟩
  decide +kernel

/-- The worker wakes up first, and the voice that has arrived meanwhile is lost. -/
theorem not_udpDelivered :
    machine.Always (fun px => px.ready = true) machine.init
      [.tcpOpen 20000 0 true, .arrive udpDataMsg, .wake 1] ∧
    ¬machine.Always UdpDelivered machine.init
      [.tcpOpen 20000 0 true, .arrive udpDataMsg, .wake 1] := by
  simp only [always_cons, Machine.always_nil]
  refine ⟨⟨?_, ?_, ?_, ?_⟩, fun h => ?_⟩
  · decide +kernel
  · decide +kernel
  · decide +kernel
  · decide +kernel
  · have hd : _ = udpIn _ := h.2.2.2
    revert hd
    decide +kernel

end ElProxy

end AdnBridge
