import AdnBridge.ElProxy.Udp

namespace AdnBridge
set_option autoImplicit true

/-- What the frames of the proxy decide: whether the connection goes on, the state of the
directory channel and its unread bytes. -/
structure ElChan where
  ready : Bool
  tcpState : TcpState
  dirRx : List UInt8
deriving DecidableEq

namespace ElChan

def closed : ElChan := ⟨false, .disc, []⟩

/-- What a frame does to the channel. -/
def onMsg (c : ElChan) (m : ProxyMsg) : ElChan :=
  if m.type = msgTcpData then
    if m.data = [] then c
    else if c.dirRx.length + m.data.length > elProxyDirRxCap then closed
    else { c with dirRx := c.dirRx ++ m.data }
  else if m.type = msgTcpClose then { c with tcpState := .disc }
  else if m.type = msgTcpStatus then
    if m.data.length = 4 ∧ c.tcpState = .connecting then
      if le32 m.data 0 = 0 then { c with tcpState := .connected, dirRx := [] }
      else { c with tcpState := .disc }
    else c
  else if m.type = msgUdpData ∨ m.type = msgUdpControl ∨ m.type = msgTcpOpen then c
  else if m.type = msgSystem ∧ m.data.length ≠ 1 then c
  else closed

/-- The header of a frame that the buffer cannot hold. -/
def TooLarge (bytes : List UInt8) : Prop :=
  msgHdr ≤ bytes.length ∧ elProxyAccSize - msgHdr < msgLen bytes

instance : Decidable (TooLarge bytes) := inferInstanceAs (Decidable (_ ∧ _))

/-- A frame that is too large ends the connection as soon as its header is there. -/
def parseEnd (c : ElChan) (rest : List UInt8) : ElChan :=
  if c.ready ∧ TooLarge rest then closed else c

/-- The channel once a stream of bytes is parsed at once. -/
def parse (c : ElChan) (bytes : List UInt8) : ElChan :=
  (Framing.handleWhile ready onMsg c (proxyFraming.split bytes).1).parseEnd
    (proxyFraming.split bytes).2

/-- The frames of a stream of bytes that is parsed at once, up to and including the first one
that forces a disconnect. -/
def frames (c : ElChan) (bytes : List UInt8) : List ProxyMsg :=
  Framing.handled ready onMsg c (proxyFraming.split bytes).1

variable {c : ElChan} {xs ys : List UInt8}

theorem TooLarge.append (h : TooLarge xs) (ys : List UInt8) : TooLarge (xs ++ ys) := by
  have hd (i : Nat) (hi : i < msgHdr) : (xs ++ ys).getD i 0 = xs.getD i 0 :=
    List.getD_append xs ys 0 i (Nat.lt_of_lt_of_le hi h.1)
  have hl : msgLen (xs ++ ys) = msgLen xs := by
    rw [msgLen, msgLen, le32, le32, hd 5 (by decide), hd 6 (by decide), hd 7 (by decide),
      hd 8 (by decide)]
  constructor
  · rw [List.length_append]
    exact Nat.le_add_right_of_le h.1
  · rw [hl]
    exact h.2

theorem not_closed_ready : ¬closed.ready = true := Bool.false_ne_true

theorem parseEnd_closed (hc : c.ready = true) (h : TooLarge xs) : c.parseEnd xs = closed :=
  if_pos ⟨hc, h⟩

theorem parseEnd_open (h : ¬TooLarge xs) : c.parseEnd xs = c := if_neg fun hn => h hn.2

theorem parseEnd_dead (h : ¬c.ready = true) : c.parseEnd xs = c := if_neg fun hn => h hn.1

theorem TooLarge.split (h : TooLarge xs) : proxyFraming.split xs = ([], xs) := by
  apply Framing.split_none
  apply if_pos
  exact .inr (.inl h.2)

theorem parse_append (hc : c.ready = true) (xs ys : List UInt8) :
    c.parse (xs ++ ys) =
      if (c.parse xs).ready then (c.parse xs).parse ((proxyFraming.split xs).2 ++ ys)
      else c.parse xs := by
  have hx : c.parse xs = parseEnd (Framing.handleWhile ready onMsg c (proxyFraming.split xs).1)
    (proxyFraming.split xs).2 := rfl
  rw [hx, parse, Framing.split_append]
  simp only
  rw [Framing.handleWhile_append _ _ hc]
  generalize Framing.handleWhile ready onMsg c (proxyFraming.split xs).1 = d
  generalize (proxyFraming.split xs).2 = rest
  by_cases hd : d.ready = true
  · by_cases hl : TooLarge rest
    · have hs := (hl.append ys).split
      rw [if_pos hd, hs, parseEnd_closed hd hl, if_neg not_closed_ready]
      exact parseEnd_closed hd (hl.append ys)
    · rw [if_pos hd, parseEnd_open hl, if_pos hd]
      rfl
  · rw [if_neg hd, parseEnd_dead hd, parseEnd_dead hd, if_neg hd]

theorem frames_append (hc : c.ready = true) (xs ys : List UInt8) :
    c.frames (xs ++ ys) =
      c.frames xs ++
        if (c.parse xs).ready then (c.parse xs).frames ((proxyFraming.split xs).2 ++ ys)
        else [] := by
  have hx : c.parse xs = parseEnd (Framing.handleWhile ready onMsg c (proxyFraming.split xs).1)
    (proxyFraming.split xs).2 := rfl
  rw [hx, frames, frames, Framing.split_append]
  simp only
  rw [Framing.handled_append _ _ hc]
  apply congrArg
  generalize Framing.handleWhile ready onMsg c (proxyFraming.split xs).1 = d
  generalize (proxyFraming.split xs).2 = rest
  by_cases hd : d.ready = true
  · by_cases hl : TooLarge rest
    · rw [if_pos hd, parseEnd_closed hd hl, if_neg not_closed_ready, (hl.append ys).split]
      rfl
    · rw [if_pos hd, parseEnd_open hl, if_pos hd]
      rfl
  · rw [if_neg hd, parseEnd_dead hd, if_neg hd]

theorem parse_nil (c : ElChan) : c.parse [] = c := by
  have hs : proxyFraming.split [] = ([], []) := Framing.split_none rfl
  rw [parse, hs]
  apply parseEnd_open
  intro h
  exact absurd h.1 (by decide)

theorem parse_none (hs : proxyFraming.split xs = ([], xs)) (h : ¬TooLarge xs) : c.parse xs = c := by
  rw [parse, hs]
  exact parseEnd_open h

theorem frames_none (hs : proxyFraming.split xs = ([], xs)) : c.frames xs = [] := by
  rw [frames, hs]
  rfl

theorem parse_cut (h : proxyFraming.cut xs = some (m, rest)) :
    c.parse xs = if (c.onMsg m).ready then (c.onMsg m).parse rest else c.onMsg m := by
  rw [parse, Framing.split_some h]
  simp only [Framing.handleWhile]
  by_cases hr : (c.onMsg m).ready = true
  · rw [if_pos hr, if_pos hr]
    rfl
  · rw [if_neg hr, if_neg hr, parseEnd_dead hr]

theorem frames_cut (h : proxyFraming.cut xs = some (m, rest)) :
    c.frames xs = m :: if (c.onMsg m).ready then (c.onMsg m).frames rest else [] := by
  rw [frames, Framing.split_some h]
  rfl

theorem frames_nil (c : ElChan) : c.frames [] = [] := by
  have hs : proxyFraming.split [] = ([], []) := Framing.split_none rfl
  rw [frames, hs]
  rfl

/-- The channel goes on after a parse only with a beginning of a frame that fits. -/
theorem not_tooLarge (h : (c.parse xs).ready = true) : ¬TooLarge (proxyFraming.split xs).2 := by
  intro hl
  rw [parse] at h
  by_cases hr : (Framing.handleWhile ready onMsg c (proxyFraming.split xs).1).ready = true
  · rw [parseEnd_closed hr hl] at h
    cases h
  · rw [parseEnd_dead hr] at h
    exact hr h

end ElChan

namespace ElProxy

variable {px : ElProxy}

def chan (px : ElProxy) : ElChan := ⟨px.ready, px.tcpState, px.dirRx.view⟩

/-- The buffer overflows just if what is unread and what is new do not fit together. -/
theorem dirRxAppend_chan (data : List UInt8) :
    (px.dirRxAppend data).chan =
      if data = [] then px.chan
      else if px.dirRx.view.length + data.length > elProxyDirRxCap then ElChan.closed
      else { px.chan with dirRx := px.dirRx.view ++ data } := by
  obtain ⟨hview, hwr⟩ := px.dirRx.makeRoom_spec
  rw [dirRxAppend, ← hwr, ← hview]
  split
  · rfl
  · simp only
    split
    next h =>
      rw [if_neg (Nat.not_lt.2 h), chan, LinearBuffer.view_append]
      rfl
    next h =>
      rw [if_pos (Nat.not_le.1 h)]
      rfl

theorem onTcpStatus_chan (status : Nat) :
    (px.onTcpStatus status).chan =
      if px.tcpState = .connecting then
        if status = 0 then { px.chan with tcpState := .connected, dirRx := [] }
        else { px.chan with tcpState := .disc }
      else px.chan := by
  rw [onTcpStatus]
  simp only
  split
  · split <;> rfl
  · rfl

theorem handleMsg_chan (cb : Bool) (m : ProxyMsg) :
    (px.handleMsg cb m).chan = px.chan.onMsg m := by
  rw [handleMsg, ElChan.onMsg]
  by_cases hd : m.type = msgTcpData
  · rw [if_pos hd, if_pos hd]
    exact dirRxAppend_chan m.data
  rw [if_neg hd, if_neg hd]
  by_cases hc : m.type = msgTcpClose
  · rw [if_pos hc, if_pos hc]
    rfl
  rw [if_neg hc, if_neg hc]
  by_cases hs : m.type = msgTcpStatus
  · rw [if_pos hs, if_pos hs]
    by_cases hl : m.data.length = 4
    · rw [if_pos hl, onTcpStatus_chan]
      simp only [hl, true_and]
      rfl
    · rw [if_neg hl, if_neg fun h => hl h.1]
  rw [if_neg hs, if_neg hs]
  by_cases hu : m.type = msgUdpData
  · have ho : m.type = msgUdpData ∨ m.type = msgUdpControl ∨ m.type = msgTcpOpen := .inl hu
    rw [if_pos hu, if_pos ho]
    split <;> rfl
  rw [if_neg hu]
  by_cases hu' : m.type = msgUdpControl
  · have ho : m.type = msgUdpData ∨ m.type = msgUdpControl ∨ m.type = msgTcpOpen := .inr (.inl hu')
    rw [if_pos hu', if_pos ho]
    split <;> rfl
  rw [if_neg hu']
  by_cases hy : m.type = msgSystem
  · have ho : m.type ≠ msgTcpOpen := by
      rw [hy]
      decide
    rw [if_pos hy, if_neg (not_or.2 ⟨hu, not_or.2 ⟨hu', ho⟩⟩)]
    by_cases hl : m.data.length = 1
    · rw [if_pos hl, if_neg fun h => h.2 hl]
      rfl
    · rw [if_neg hl, if_pos ⟨hy, hl⟩]
  rw [if_neg hy]
  by_cases ho : m.type = msgTcpOpen
  · rw [if_pos ho, if_pos (.inr (.inr ho))]
  · rw [if_neg ho, if_neg (not_or.2 ⟨hu, not_or.2 ⟨hu', ho⟩⟩), if_neg fun h => hy h.1]
    rfl

/-- What the handling of frames leaves alone. -/
structure ElSide where
  eof : Bool
  dirOut : List UInt8
  worker : ElWorker
  rc : Int

def side (px : ElProxy) : ElSide := ⟨px.eof, px.dirOut, px.worker, px.rc⟩

theorem onTcpStatus_keeps (status : Nat) : (px.onTcpStatus status).side = px.side ∧
    (px.onTcpStatus status).rooms = px.rooms ∧ (px.onTcpStatus status).handled = px.handled := by
  rw [onTcpStatus]
  simp only
  split
  · split <;> exact ⟨rfl, rfl, rfl⟩
  · exact ⟨rfl, rfl, rfl⟩

theorem handleMsg_keeps (cb : Bool) (m : ProxyMsg) : (px.handleMsg cb m).side = px.side ∧
    (px.handleMsg cb m).rooms = px.rooms ∧ (px.handleMsg cb m).handled = px.handled := by
  rw [handleMsg]
  split
  · rw [dirRxAppend]
    split
    · exact ⟨rfl, rfl, rfl⟩
    · simp only
      split <;> exact ⟨rfl, rfl, rfl⟩
  split
  · exact ⟨rfl, rfl, rfl⟩
  split
  · split
    · exact onTcpStatus_keeps _
    · exact ⟨rfl, rfl, rfl⟩
  split
  · split <;> exact ⟨rfl, rfl, rfl⟩
  split
  · split <;> exact ⟨rfl, rfl, rfl⟩
  split
  · split <;> exact ⟨rfl, rfl, rfl⟩
  · split <;> exact ⟨rfl, rfl, rfl⟩

/-- A whole frame at the beginning of the buffer is handled. -/
def takeMsg (px : ElProxy) (cb : Bool) (m : ProxyMsg) : ElProxy := (px.noteMsg m).handleMsg cb m

theorem takeMsg_chan (cb : Bool) (m : ProxyMsg) : (px.takeMsg cb m).chan = px.chan.onMsg m :=
  handleMsg_chan cb m

theorem takeMsg_handled (cb : Bool) (m : ProxyMsg) :
    (px.takeMsg cb m).handled = px.handled ++ [m] := (handleMsg_keeps cb m).2.2

theorem parseAcc_cut (cb : Bool) (fuel : Nat) (hc : proxyFraming.cut px.rxAcc = some (m, rest))
    (h1 : (px.takeMsg cb m).ready = true) :
    parseAcc cb (fuel + 1) px = parseAcc cb fuel { px.takeMsg cb m with rxAcc := rest } := by
  have hacc : (px.takeMsg cb m).rxAcc = px.rxAcc := congrArg ElRx.rxAcc (handleMsg_rx cb m h1)
  change (if _ then none else some _) = some _ at hc
  split at hc
  · cases hc
  next hn =>
    cases hc
    rw [not_or, not_or] at hn
    have hr : ¬(!(px.takeMsg cb (msgAt px.rxAcc)).ready) = true := by simpa using h1
    rw [parseAcc, if_neg hn.1, if_neg hn.2.1, if_neg hn.2.2]
    change (if (!(px.takeMsg cb (msgAt px.rxAcc)).ready) = true then _ else
      parseAcc cb fuel { px.takeMsg cb (msgAt px.rxAcc) with
        rxAcc := (px.takeMsg cb (msgAt px.rxAcc)).rxAcc.drop _ }) = _
    rw [if_neg hr, hacc]

theorem parseAcc_closed (cb : Bool) (fuel : Nat) (hc : proxyFraming.cut px.rxAcc = some (m, rest))
    (h1 : ¬(px.takeMsg cb m).ready = true) : parseAcc cb (fuel + 1) px = px.takeMsg cb m := by
  change (if _ then none else some _) = some _ at hc
  split at hc
  · cases hc
  next hn =>
    cases hc
    rw [not_or, not_or] at hn
    have hr : (!(px.takeMsg cb (msgAt px.rxAcc)).ready) = true := by simpa using h1
    rw [parseAcc, if_neg hn.1, if_neg hn.2.1, if_neg hn.2.2]
    exact if_pos hr

theorem parseAcc_none (cb : Bool) (fuel : Nat) (hc : proxyFraming.cut px.rxAcc = none) :
    parseAcc cb (fuel + 1) px =
      if ElChan.TooLarge px.rxAcc then px.markDisconnected else px := by
  rw [parseAcc]
  by_cases h9 : px.rxAcc.length < msgHdr
  · have hl : ¬ElChan.TooLarge px.rxAcc := fun h => Nat.not_le.2 h9 h.1
    rw [if_pos h9, if_neg hl]
  rw [if_neg h9]
  by_cases hm : msgLen px.rxAcc > elProxyAccSize - msgHdr
  · have hl : ElChan.TooLarge px.rxAcc := ⟨Nat.not_lt.1 h9, hm⟩
    rw [if_pos hm, if_pos hl]
  rw [if_neg hm]
  have hl : ¬ElChan.TooLarge px.rxAcc := fun h => hm h.2
  by_cases ht : px.rxAcc.length < msgHdr + msgLen px.rxAcc
  · rw [if_pos ht, if_neg hl]
  · have hn : ¬(px.rxAcc.length < msgHdr ∨ msgLen px.rxAcc > elProxyAccSize - msgHdr ∨
        px.rxAcc.length < msgHdr + msgLen px.rxAcc) := by
      rw [not_or, not_or]
      exact ⟨h9, hm, ht⟩
    change (if _ then none else some _) = none at hc
    rw [if_neg hn] at hc
    cases hc

theorem parseAcc_side (cb : Bool) (fuel : Nat) :
    (parseAcc cb fuel px).side = px.side ∧ (parseAcc cb fuel px).rooms = px.rooms := by
  induction fuel generalizing px with
  | zero => exact ⟨rfl, rfl⟩
  | succ fuel ih =>
    cases hc : proxyFraming.cut px.rxAcc with
    | none =>
      rw [parseAcc_none cb fuel hc]
      by_cases hl : ElChan.TooLarge px.rxAcc
      · rw [if_pos hl]
        exact ⟨rfl, rfl⟩
      · rw [if_neg hl]
        exact ⟨rfl, rfl⟩
    | some r =>
      obtain ⟨hside, hrooms, _⟩ := @handleMsg_keeps (px.noteMsg r.1) cb r.1
      by_cases h1 : (px.takeMsg cb r.1).ready = true
      · rw [parseAcc_cut cb fuel hc h1]
        obtain ⟨hi, hi'⟩ := @ih { px.takeMsg cb r.1 with rxAcc := r.2 }
        exact ⟨hi.trans hside, hi'.trans hrooms⟩
      · rw [parseAcc_closed cb fuel hc h1]
        exact ⟨hside, hrooms⟩

theorem drainLoop_side (cb : Bool) (fuel : Nat) : (drainLoop cb fuel px).side = px.side := by
  induction fuel generalizing px with
  | zero => rfl
  | succ fuel ih =>
    have hp := (@parseAcc_side px.noteRoom.readSock cb px.noteRoom.readSock.rxAcc.length).1
    rw [drainLoop]
    by_cases hb : px.rxAcc.length ≥ elProxyAccSize
    · rw [if_pos hb]
      rfl
    rw [if_neg hb]
    by_cases he : px.sock = []
    · rw [if_pos he]
      cases px.eof with
      | false => rfl
      | true => rfl
    rw [if_neg he]
    simp only
    generalize parseAcc cb px.noteRoom.readSock.rxAcc.length px.noteRoom.readSock = px1 at hp ⊢
    by_cases h1 : (!px1.ready) = true
    · rw [if_pos h1]
      exact hp
    · rw [if_neg h1]
      apply Eq.trans ih
      exact hp

/-- A parse from the buffer is a parse at once of what it holds. -/
theorem parseAcc_chan (cb : Bool) (fuel : Nat) (hr : px.ready = true)
    (hf : px.rxAcc.length ≤ fuel) :
    (parseAcc cb fuel px).chan = px.chan.parse px.rxAcc ∧
      (parseAcc cb fuel px).handled = px.handled ++ px.chan.frames px.rxAcc := by
  induction fuel generalizing px with
  | zero =>
    rw [List.length_eq_zero_iff.1 (Nat.le_zero.1 hf), ElChan.frames_nil, List.append_nil]
    exact ⟨(ElChan.parse_nil _).symm, rfl⟩
  | succ fuel ih =>
    cases hc : proxyFraming.cut px.rxAcc with
    | none =>
      have hs := Framing.split_none hc
      rw [parseAcc_none cb fuel hc, ElChan.frames_none hs, ElChan.parse, hs, List.append_nil]
      by_cases hl : ElChan.TooLarge px.rxAcc
      · rw [if_pos hl]
        exact ⟨(ElChan.parseEnd_closed (c := px.chan) hr hl).symm, rfl⟩
      · rw [if_neg hl]
        exact ⟨(ElChan.parseEnd_open (c := px.chan) hl).symm, rfl⟩
    | some r =>
      obtain ⟨m, rest⟩ := r
      have hlen := Framing.length_lt _ hc
      have hhandled := @takeMsg_handled px cb m
      rw [ElChan.parse_cut hc, ElChan.frames_cut hc, ← takeMsg_chan cb m]
      by_cases h1 : (px.takeMsg cb m).chan.ready = true
      · rw [if_pos h1, if_pos h1, parseAcc_cut cb fuel hc h1]
        obtain ⟨hi, hi'⟩ := @ih { px.takeMsg cb m with rxAcc := rest } h1
          (Nat.le_of_lt_succ (Nat.lt_of_lt_of_le hlen hf))
        refine ⟨hi, hi'.trans ?_⟩
        simp only
        rw [hhandled, List.append_assoc]
        rfl
      · rw [if_neg h1, if_neg h1, parseAcc_closed cb fuel hc h1]
        exact ⟨rfl, hhandled⟩

/-- The buffer holds the beginning of a frame that fits, and no more. -/
def Settled (px : ElProxy) : Prop :=
  proxyFraming.split px.rxAcc = ([], px.rxAcc) ∧ ¬ElChan.TooLarge px.rxAcc

/-- There is room for a read then. -/
theorem Settled.room (h : px.Settled) : px.rxAcc.length < elProxyAccSize := by
  have h9 : msgHdr = 9 := rfl
  have hsz : elProxyAccSize = 65536 := rfl
  by_contra hn
  have hlen : msgHdr ≤ px.rxAcc.length := by omega
  have hm : ¬elProxyAccSize - msgHdr < msgLen px.rxAcc := fun hm => h.2 ⟨hlen, hm⟩
  have hc : proxyFraming.cut px.rxAcc ≠ none := by
    intro hc
    change (if _ then none else some _) = none at hc
    split at hc
    next h => omega
    next => cases hc
  apply hc
  cases hcut : proxyFraming.cut px.rxAcc with
  | none => rfl
  | some r =>
    have hs := h.1
    rw [Framing.split_some hcut] at hs
    cases hs

theorem parseAcc_settled (cb : Bool) (fuel : Nat) (hr : px.ready = true)
    (hf : px.rxAcc.length ≤ fuel) (h : (parseAcc cb fuel px).ready = true) :
    (parseAcc cb fuel px).Settled := by
  have hrx := parseAcc_rx cb fuel hf h
  have hacc : (parseAcc cb fuel px).rxAcc = (proxyFraming.split px.rxAcc).2 :=
    congrArg ElRx.rxAcc hrx
  have hchan := (parseAcc_chan cb fuel hr hf).1
  have hready : (px.chan.parse px.rxAcc).ready = true := by
    rw [← hchan]
    exact h
  rw [Settled, hacc]
  exact ⟨proxyFraming.split_rest px.rxAcc, ElChan.not_tooLarge hready⟩

/-- A drain handles the bytes that have arrived as a parse at once would, and has room for each
of its reads. -/
theorem drainLoop_chan (cb : Bool) (fuel : Nat) (hr : px.ready = true) (hs : px.Settled)
    (heof : px.eof = false) (hf : px.sock.length < fuel) :
    (drainLoop cb fuel px).chan = px.chan.parse (px.rxAcc ++ px.sock) ∧
      (drainLoop cb fuel px).handled = px.handled ++ px.chan.frames (px.rxAcc ++ px.sock) ∧
      ∃ rs, (drainLoop cb fuel px).rooms = px.rooms ++ rs ∧ ∀ r ∈ rs, 0 < r := by
  induction fuel generalizing px with
  | zero => exact absurd hf (Nat.not_lt_zero _)
  | succ fuel ih =>
    have hroom := hs.room
    have hspace : ∀ r ∈ [elProxyAccSize - px.rxAcc.length], 0 < r := by
      rintro r hm
      rw [List.mem_singleton.1 hm]
      exact Nat.sub_pos_of_lt hroom
    rw [drainLoop, if_neg (Nat.not_le.2 hroom)]
    by_cases he : px.sock = []
    · rw [if_pos he, heof, if_neg Bool.false_ne_true, he, List.append_nil,
        ElChan.parse_none hs.1 hs.2, ElChan.frames_none hs.1, List.append_nil]
      exact ⟨rfl, rfl, _, rfl, hspace⟩
    rw [if_neg he]
    obtain ⟨hp, hfs⟩ := @parseAcc_chan px.noteRoom.readSock cb px.noteRoom.readSock.rxAcc.length hr
      (Nat.le_refl _)
    have hrx := @parseAcc_rx px.noteRoom.readSock cb px.noteRoom.readSock.rxAcc.length
      (Nat.le_refl _)
    have hset := @parseAcc_settled px.noteRoom.readSock cb px.noteRoom.readSock.rxAcc.length hr
      (Nat.le_refl _)
    obtain ⟨hside, hrooms⟩ := @parseAcc_side px.noteRoom.readSock cb
      px.noteRoom.readSock.rxAcc.length
    simp only
    generalize parseAcc cb px.noteRoom.readSock.rxAcc.length px.noteRoom.readSock = px1
      at hp hfs hrx hset hside hrooms ⊢
    have heof1 : px1.eof = px.eof := congrArg ElSide.eof hside
    have hchan : px.noteRoom.readSock.chan = px.chan := rfl
    have hhandled : px.noteRoom.readSock.handled = px.handled := rfl
    have hnote : px.noteRoom.readSock.rooms =
        px.rooms ++ [elProxyAccSize - px.rxAcc.length] := rfl
    have hacc : px.noteRoom.readSock.rxAcc =
        px.rxAcc ++ px.sock.take (elProxyAccSize - px.rxAcc.length) := rfl
    have hsplit : px.rxAcc ++ px.sock = px.noteRoom.readSock.rxAcc ++
        px.sock.drop (elProxyAccSize - px.rxAcc.length) := by
      rw [hacc, List.append_assoc, List.take_append_drop]
    rw [hchan] at hp hfs
    rw [hhandled] at hfs
    rw [hnote] at hrooms
    rw [hsplit, ElChan.parse_append hr, ElChan.frames_append hr, ← hp, ← List.append_assoc, ← hfs]
    change _ = (if px1.ready = true then _ else _) ∧
      _ = _ ++ (if px1.ready = true then _ else _) ∧ _
    by_cases h1 : px1.ready = true
    · have hn : ¬(!px1.ready) = true := by simpa using h1
      have hacc1 : px1.rxAcc = (proxyFraming.split px.noteRoom.readSock.rxAcc).2 :=
        congrArg ElRx.rxAcc (hrx h1)
      have hsock1 : px1.sock = px.sock.drop (elProxyAccSize - px.rxAcc.length) :=
        congrArg ElRx.sock (hrx h1)
      have hlen : px1.sock.length < fuel := by
        have := List.length_pos_iff.2 he
        rw [hsock1, List.length_drop]
        omega
      obtain ⟨hi, hi', rs, hrs, hpos⟩ := ih h1 (hset h1) (heof1.trans heof) hlen
      rw [if_neg hn, if_pos h1, if_pos h1, ← hacc1, ← hsock1]
      refine ⟨hi, hi', _ ++ rs, ?_, List.forall_mem_append.2 ⟨hspace, hpos⟩⟩
      rw [hrs, hrooms, List.append_assoc]
    · have hn : (!px1.ready) = true := by simpa using h1
      rw [if_pos hn, if_neg h1, if_neg h1, List.append_nil]
      exact ⟨rfl, rfl, _, hrooms, hspace⟩

theorem drainLoop_settled (cb : Bool) (fuel : Nat) (hr : px.ready = true) (hs : px.Settled)
    (h : (drainLoop cb fuel px).ready = true) : (drainLoop cb fuel px).Settled := by
  induction fuel generalizing px with
  | zero => exact hs
  | succ fuel ih =>
    have hset := @parseAcc_settled px.noteRoom.readSock cb px.noteRoom.readSock.rxAcc.length hr
      (Nat.le_refl _)
    rw [drainLoop] at h ⊢
    rw [if_neg (Nat.not_le.2 hs.room)] at h ⊢
    by_cases he : px.sock = []
    · rw [if_pos he] at h ⊢
      cases heof : px.eof with
      | false => exact hs
      | true =>
        rw [heof] at h
        cases h
    rw [if_neg he] at h ⊢
    simp only at h ⊢
    generalize parseAcc cb px.noteRoom.readSock.rxAcc.length px.noteRoom.readSock = px1 at h hset ⊢
    by_cases h1 : px1.ready = true
    · have hn : ¬(!px1.ready) = true := by simpa using h1
      rw [if_neg hn] at h ⊢
      exact ih h1 (hset h1) h
    · rw [if_pos (by simpa using h1)] at h
      exact absurd h h1

/-- Between two steps of a connected proxy no whole frame is left in the buffer. -/
def Between (px : ElProxy) : Prop := px.ready = true → px.Settled

theorem Between.of_rx {px' : ElProxy} (h : px.Between) (hrx : px'.rx = px.rx) : px'.Between := by
  intro hr
  have hacc : px'.rxAcc = px.rxAcc := congrArg ElRx.rxAcc hrx
  rw [Settled, hacc]
  exact h ((congrArg ElRx.ready hrx).symm.trans hr)

theorem Between.drain (h : px.Between) (cb : Bool) : (px.drain cb).Between := by
  intro hd
  rw [ElProxy.drain] at hd ⊢
  by_cases hr : px.ready = true
  · rw [if_neg (by simpa using hr)] at hd ⊢
    exact drainLoop_settled cb _ hr (h hr) hd
  · rw [if_pos (by simpa using hr)] at hd
    exact absurd hd hr

theorem Between.openTurn (h : px.Between) (deadline now : Int) :
    (px.openTurn deadline now).Between := by
  apply Between.of_rx _ (openTurn_rx px deadline now)
  split
  · exact h.drain false
  · exact h

theorem Between.readTurn (h : px.Between) (buflen : Nat) (deadline now : Int) :
    (px.readTurn buflen deadline now).Between := by
  apply Between.of_rx _ (readTurn_rx px buflen deadline now)
  split
  · exact h.drain false
  · exact h

theorem Between.step (h : px.Between) (ev : ElProxyEvent) : (px.step ev).Between := by
  have hoff (px : ElProxy) (hr : px.ready = false) : px.Between := by
    intro hn
    rw [hr] at hn
    cases hn
  cases ev with
  | arrive bytes => exact h
  | hangup => exact h
  | poll => exact h.drain true
  | tcpOpen timeoutMs now sendOk =>
    rw [ElProxy.step, call]
    split
    · rw [tcpOpen]
      split
      · exact h
      · cases sendOk with
        | false => exact hoff _ rfl
        | true =>
          apply Between.openTurn
          exact h
    · exact h
  | tcpRead buflen timeoutMs now =>
    rw [ElProxy.step, call]
    split
    · rw [tcpRead]
      split
      · exact h
      · exact h.readTurn _ _ _
    · exact h
  | tcpClose sendOk =>
    rw [ElProxy.step, call]
    split
    · rw [tcpClose]
      by_cases hc : (px.ready = true ∧ px.tcpState ≠ .disc) ∧ (!sendOk) = true
      · simp only [if_pos hc]
        exact hoff _ rfl
      · simp only [if_neg hc]
        exact h
    · exact h
  | wake now =>
    rw [ElProxy.step, wake]
    split
    · exact h
    · exact h.openTurn _ _
    · exact h.readTurn _ _ _

theorem run_between (h : machine.run evs = some px) : px.Between := by
  apply Machine.run_invariant (I := Between) (M := machine) _ _ h
  · intro px ev px' hi hs
    cases hs
    exact hi.step ev
  · intro _
    refine ⟨rfl, fun hl => ?_⟩
    exact absurd hl.1 (by decide)

/-- A portion of the stream comes in, and is read and parsed. -/
def feed (px : ElProxy) (portion : Bool × List UInt8) : ElProxy :=
  { px with sock := px.sock ++ portion.2 }.drain portion.1

/-- The stream comes in portion by portion; each one is read by the main thread, with the
callback, or by the worker, without it. -/
def feedAll (px : ElProxy) (portions : List (Bool × List UInt8)) : ElProxy :=
  portions.foldl feed px

theorem feed_chan (hr : px.ready = true) (hs : px.Settled) (hsock : px.sock = [])
    (heof : px.eof = false) (p : Bool × List UInt8) :
    (px.feed p).chan = px.chan.parse (px.rxAcc ++ p.2) ∧
      (px.feed p).handled = px.handled ++ px.chan.frames (px.rxAcc ++ p.2) ∧
      ∃ rs, (px.feed p).rooms = px.rooms ++ rs ∧ ∀ r ∈ rs, 0 < r := by
  have hn : ¬(!px.ready) = true := by simpa using hr
  have hd := @drainLoop_chan { px with sock := px.sock ++ p.2 } p.1 _ hr hs heof
    (Nat.lt_succ_self _)
  rw [feed, drain, if_neg hn]
  rw [hsock] at hd ⊢
  exact hd

theorem drain_eof (cb : Bool) (he : px.eof = true) : (px.drain cb).ready = false := by
  have key (fuel : Nat) (hr : px.ready = true) (hf : px.sock.length < fuel) :
      (drainLoop cb fuel px).ready = false := by
    induction fuel generalizing px with
    | zero => exact absurd hf (Nat.not_lt_zero _)
    | succ fuel ih =>
      rw [drainLoop]
      by_cases hb : px.rxAcc.length ≥ elProxyAccSize
      · rw [if_pos hb]
        rfl
      rw [if_neg hb]
      by_cases hk : px.sock = []
      · rw [if_pos hk, if_pos he]
        rfl
      rw [if_neg hk]
      have hrx := @parseAcc_rx px.noteRoom.readSock cb px.noteRoom.readSock.rxAcc.length
        (Nat.le_refl _)
      have hside := (@parseAcc_side px.noteRoom.readSock cb px.noteRoom.readSock.rxAcc.length).1
      simp only
      generalize parseAcc cb px.noteRoom.readSock.rxAcc.length px.noteRoom.readSock = px1
        at hrx hside ⊢
      have heof : px1.eof = px.eof := congrArg ElSide.eof hside
      by_cases h1 : px1.ready = true
      · rw [if_neg (by simpa using h1)]
        apply ih (heof.trans he) h1
        have hsock : px1.sock = px.sock.drop (elProxyAccSize - px.rxAcc.length) :=
          congrArg ElRx.sock (hrx h1)
        have := List.length_pos_iff.2 hk
        rw [hsock, List.length_drop]
        omega
      · rw [if_pos (by simpa using h1)]
        simpa using h1
  rw [drain]
  by_cases hr : px.ready = true
  · rw [if_neg (by simpa using hr)]
    exact key _ hr (Nat.lt_succ_self _)
  · rw [if_pos (by simpa using hr)]
    simpa using hr

theorem feed_open (hs : px.Settled) (hsock : px.sock = []) (heof : px.eof = false)
    (p : Bool × List UInt8) (h : (px.feed p).ready = true) :
    (px.feed p).Settled ∧ (px.feed p).sock = [] ∧ (px.feed p).eof = false ∧
      (px.feed p).rxAcc = (proxyFraming.split (px.rxAcc ++ p.2)).2 := by
  have hb : ElProxy.Between { px with sock := px.sock ++ p.2 } := fun _ => hs
  have hrx : (px.feed p).rx = drained p.1 { px with sock := px.sock ++ p.2 }.rx :=
    drain_rx p.1 hs.1 h
  refine ⟨hb.drain p.1 h, congrArg ElRx.sock hrx, ?_, ?_⟩
  · by_contra he
    have heof' : (px.feed p).eof = px.eof := by
      rw [feed, drain]
      split
      · rfl
      · exact congrArg ElSide.eof (drainLoop_side p.1 _)
    exact he (heof'.trans heof)
  · have hacc : (px.feed p).rxAcc = (proxyFraming.split (px.rxAcc ++ (px.sock ++ p.2))).2 :=
      congrArg ElRx.rxAcc hrx
    rw [hacc, hsock, List.nil_append]

theorem feedAll_off (hr : px.ready = false) (ps : List (Bool × List UInt8)) :
    (px.feedAll ps).chan = px.chan ∧ (px.feedAll ps).handled = px.handled ∧
      (px.feedAll ps).rooms = px.rooms := by
  induction ps generalizing px with
  | nil => exact ⟨rfl, rfl, rfl⟩
  | cons p ps ih =>
    have hf : px.feed p = { px with sock := px.sock ++ p.2 } := by
      rw [feed, drain]
      exact if_pos (by simpa using hr)
    have hr' : (px.feed p).ready = false := by
      rw [hf]
      exact hr
    obtain ⟨hc, hh, hrooms⟩ := ih hr'
    rw [hf] at hc hh hrooms
    rw [feedAll, List.foldl_cons, hf]
    exact ⟨hc, hh, hrooms⟩

theorem feedAll_chan (hr : px.ready = true) (hs : px.Settled) (hsock : px.sock = [])
    (heof : px.eof = false) (ps : List (Bool × List UInt8)) :
    (px.feedAll ps).chan = px.chan.parse (px.rxAcc ++ ps.flatMap Prod.snd) ∧
      (px.feedAll ps).handled = px.handled ++ px.chan.frames (px.rxAcc ++ ps.flatMap Prod.snd) ∧
      ∃ rs, (px.feedAll ps).rooms = px.rooms ++ rs ∧ ∀ r ∈ rs, 0 < r := by
  induction ps generalizing px with
  | nil =>
    rw [List.flatMap_nil, List.append_nil, ElChan.parse_none hs.1 hs.2, ElChan.frames_none hs.1,
      List.append_nil]
    exact ⟨rfl, rfl, [], (List.append_nil _).symm, List.forall_mem_nil _⟩
  | cons p ps ih =>
    obtain ⟨hc, hh, rs, hrs, hpos⟩ := feed_chan hr hs hsock heof p
    have hr1 : (px.feed p).ready = (px.chan.parse (px.rxAcc ++ p.2)).ready :=
      congrArg ElChan.ready hc
    rw [List.flatMap_cons, ← List.append_assoc, ElChan.parse_append hr, ElChan.frames_append hr,
      ← List.append_assoc, ← hh]
    by_cases h1 : (px.feed p).ready = true
    · obtain ⟨hs', hsock', heof', hacc⟩ := feed_open hs hsock heof p h1
      obtain ⟨hc', hh', rs', hrs', hpos'⟩ := ih h1 hs' hsock' heof'
      rw [if_pos (hr1.symm.trans h1), if_pos (hr1.symm.trans h1), ← hc, ← hacc]
      refine ⟨hc', hh', rs ++ rs', ?_, List.forall_mem_append.2 ⟨hpos, hpos'⟩⟩
      rw [← List.append_assoc, ← hrs]
      exact hrs'
    · have hoff : (px.feed p).ready = false := by simpa using h1
      obtain ⟨hc', hh', hrooms⟩ := feedAll_off hoff ps
      have hn : ¬(px.chan.parse (px.rxAcc ++ p.2)).ready = true := fun h => h1 (hr1.trans h)
      rw [if_neg hn, if_neg hn, List.append_nil]
      exact ⟨hc'.trans hc, hh', rs, hrooms.trans hrs, hpos⟩

/-- However the stream is cut into reads, the frames handled are those of a parse at once, up to
the first one that forces a disconnect, and every read finds room in the buffer. -/
theorem deframing (hrun : machine.run evs = some px) (hr : px.ready = true) (hsock : px.sock = [])
    (heof : px.eof = false) (portions : List (Bool × List UInt8)) :
    (px.feedAll portions).handled =
        px.handled ++ px.chan.frames (px.rxAcc ++ portions.flatMap Prod.snd) ∧
      (px.feedAll portions).chan = px.chan.parse (px.rxAcc ++ portions.flatMap Prod.snd) ∧
      ∃ rs, (px.feedAll portions).rooms = px.rooms ++ rs ∧ ∀ r ∈ rs, 0 < r := by
  obtain ⟨hc, hh, hroom⟩ := feedAll_chan hr (run_between hrun hr) hsock heof portions
  exact ⟨hh, hc, hroom⟩

/-- A message in two portions. -/
theorem deframing_sample :
    (init.feedAll [(true, [5, 127, 0, 0]), (true, [1, 1, 0, 0, 0, 42])]).handled =
      [⟨msgUdpData, 0x0100007F, [42]⟩] := by
  have hrun : machine.run [] = some init := rfl
  have h := (deframing hrun rfl rfl rfl
    [(true, [5, 127, 0, 0]), (true, [1, 1, 0, 0, 0, 42])]).1
  rw [h]
  decide +kernel

end ElProxy

end AdnBridge
