import AdnBridge.Lib.Reader
import AdnBridge.PeerEl.Talker

namespace AdnBridge
set_option autoImplicit true

open Reads

def elRtcpRr : UInt8 := 201
def elRtcpSdes : UInt8 := 202
def elSdesEnd : UInt8 := 0
def elSdesCname : UInt8 := 1
def elSdesName : UInt8 := 2
def elSdesEmail : UInt8 := 3
def elSdesPhone : UInt8 := 4
def elSdesLoc : UInt8 := 5
def elSdesTool : UInt8 := 6

def callsignLit : List UInt8 := callsignText

/-- `"OPEN"`. -/
def openLoc : List UInt8 := [0x4F, 0x50, 0x45, 0x4E]

/-- The texts of an SDES packet that are read. -/
structure SdesTexts where
  cname : List UInt8
  name : List UInt8
  loc : List UInt8
deriving DecidableEq

namespace SdesTexts

def empty : SdesTexts := ⟨[], [], []⟩

def put (t : SdesTexts) (type : UInt8) (text : List UInt8) : SdesTexts :=
  if type = elSdesCname then { t with cname := sdesCopyItem 64 text }
  else if type = elSdesName then { t with name := sdesCopyItem 64 text }
  else if type = elSdesLoc then { t with loc := sdesCopyItem 32 text }
  else t

/-- The request of a directory server to open the way for a node. -/
def isOpen (t : SdesTexts) : Bool := !t.loc.isEmpty && t.loc.map toUpper == openLoc

end SdesTexts

/-- The next multiple of four, or the end of the packet before it. -/
def alignTo4 (plen o : Nat) : Nat := min (o + (4 - o % 4) % 4) plen

/-- The length of the item at the place `o`; none at the last byte. -/
def itemLength (pkt : List UInt8) (o : Nat) : Reads UInt8 :=
  if o + 1 < pkt.length then readByte pkt (o + 1) else .ok 0

/-- An item of a chunk, at the place `o`. -/
def sdesItem (pkt : List UInt8) : Nat × SdesTexts → Reads (Nat × SdesTexts ⊕ Nat × SdesTexts)
  | (o, t) =>
    if o + 1 ≤ pkt.length then do
      let type ← readByte pkt o
      let ilen ← itemLength pkt o
      if type = elSdesEnd then pure (.inr (alignTo4 pkt.length (o + 1), t))
      else if o + 2 + ilen.toNat > pkt.length then .error .refused
      else
        let text ← readBytes pkt (o + 2) ilen.toNat
        pure (.inl (o + 2 + ilen.toNat, t.put type text))
    else pure (.inr (o, t))

/-- A chunk, behind its source number. -/
def sdesChunk (pkt : List UInt8) :
    Nat × Nat × SdesTexts → Reads (Nat × Nat × SdesTexts ⊕ SdesTexts)
  | (count, o, t) =>
    if 0 < count ∧ o + 4 ≤ pkt.length then do
      let (o, t) ← loop (sdesItem pkt) pkt.length (o + 4, t)
      pure (.inl (count - 1, o, t))
    else pure (.inr t)

/-- The texts that `el_parse_sdes_packet` finds. -/
def parseSdesTexts (pkt : List UInt8) : Reads SdesTexts :=
  if pkt.length < 8 then .error .refused
  else do
    let b0 ← readByte pkt 0
    loop (sdesChunk pkt) 32 ((b0 &&& 0x1F).toNat, 4, .empty)

/-- `el_parse_sdes_packet`: whether it is an OPEN; otherwise its talker is applied. A packet that
is refused changes nothing. -/
def PeerEl.parseSdesPacket (p : PeerEl) (lastRtpRx now : Int) (pkt : List UInt8) :
    Reads (Bool × PeerEl) :=
  match parseSdesTexts pkt with
  | .ok t =>
    if t.isOpen then .ok (true, p)
    else .ok (false, p.applyRemoteSdes lastRtpRx now t.cname t.name)
  | .error .refused => .ok (false, p)
  | .error stop => .error stop

/-- What the model takes from its environment: the CRC of a callsign, in the order of its bytes
in memory, and the local time. -/
structure ElHost where
  crc32 : List UInt8 → Vector UInt8 4
  localtime : Int → Option (Fin 24 × Fin 60)

inductive ElStatus where
  | disconnected
  | dirOk
  | connected
deriving DecidableEq

/-- The part of `peer_echolink_t` that keeps the link; `times` are the answers that `time` is
going to give, and `rtcpSent` the datagrams passed on to the control port of the node. -/
structure ElLink where
  el : PeerEl
  useProxy : Bool
  rtcpSock : Bool
  peerResolved : Bool
  linked : Bool
  status : ElStatus
  lastSdes : Int
  lastPeerRtcp : Int
  lastRtpRx : Int
  sdesReplyPending : Bool
  times : Nat → Int
  rtcpSent : List (List UInt8)

/-- Two decimal digits. -/
def twoDigits (n : Nat) : List UInt8 := [(0x30 + n / 10).toUInt8, (0x30 + n % 10).toUInt8]

/-- `"%02d:%02d"`. -/
def phoneText (tm : Option (Fin 24 × Fin 60)) : List UInt8 :=
  let (hour, min) := match tm with
    | some (h, m) => (h.val, m.val)
    | none => (0, 0)
  twoDigits hour ++ [0x3A] ++ twoDigits min

/-- `"ysf2dmrcon"`. -/
def toolText : List UInt8 := [0x79, 0x73, 0x66, 0x32, 0x64, 0x6D, 0x72, 0x63, 0x6F, 0x6E]

def sdesItemBytes (type : UInt8) (text : List UInt8) : List UInt8 :=
  [type, text.length.toUInt8] ++ text

/-- The RR, and the SDES header with its length words still open. -/
def rrBytes (nid : Vector UInt8 4) : List UInt8 := [0xC0, elRtcpRr, 0, 1] ++ nid.toList

def sdesHeader (nid : Vector UInt8 4) : List UInt8 := [0xC1, elRtcpSdes, 0, 0] ++ nid.toList

/-- The padding bytes behind `n` others, the last of which counts them. -/
def padBytes (n : Nat) : List UInt8 :=
  let pad := (4 - n % 4) % 4
  if pad > 0 then List.replicate (pad - 1) 0 ++ [pad.toUInt8] else []

/-- `el_finish_sdes`: padding up to a word, its flag, and the length in words. -/
def finishSdes (out : List UInt8) (start : Nat) : List UInt8 :=
  let pad := padBytes out.length
  let b0 := out.getD start 0
  let out := out.set start (if pad.isEmpty then b0 &&& ~~~0x20 else b0 ||| 0x20) ++ pad
  let words := (out.length - start) / 4 - 1
  (out.set (start + 2) (words >>> 8).toUInt8).set (start + 3) words.toUInt8

namespace ElLink

/-- A link that was opened a moment ago. -/
def opened (el : PeerEl) (useProxy : Bool) (times : Nat → Int) : ElLink where
  el := el
  useProxy := useProxy
  rtcpSock := !useProxy
  peerResolved := false
  linked := false
  status := .disconnected
  lastSdes := 0
  lastPeerRtcp := 0
  lastRtpRx := 0
  sdesReplyPending := false
  times := times
  rtcpSent := []

section
variable (w : ElHost) (p : ElLink)

def now : Int := p.times 0

/-- `time` was asked once. -/
def tock : ElLink := { p with times := fun n => p.times (n + 1) }

/-- `el_node_id`. -/
def nodeId : Vector UInt8 4 :=
  if p.el.callsign.isEmpty then Vector.replicate 4 0 else w.crc32 p.el.callsign

/-- `el_build_sdes`. -/
def buildSdes (outlen : Nat) : Option (List UInt8) × ElLink :=
  let nameTxt := if p.el.talkerName.isEmpty then p.el.callsign else p.el.talkerName
  let phone := phoneText (w.localtime p.now)
  let need := 8 + 8 + (2 + callsignLit.length) + (2 + nameTxt.length) + (2 + callsignLit.length) +
    (2 + phone.length) + (2 + toolText.length) + 1 + 3
  if outlen < 128 ∨ need > outlen then (none, p.tock)
  else
    let out := rrBytes (p.nodeId w) ++ sdesHeader (p.nodeId w) ++
      sdesItemBytes elSdesCname callsignLit ++ sdesItemBytes elSdesName nameTxt ++
      sdesItemBytes elSdesEmail callsignLit ++ sdesItemBytes elSdesPhone phone ++
      sdesItemBytes elSdesTool toolText ++ [elSdesEnd]
    (some (finishSdes out 8), p.tock)

/-- `el_build_firewall_open`. -/
def buildFirewallOpen (destIp : List UInt8) (outlen : Nat) : Option (List UInt8) :=
  let need := 8 + 8 + (2 + p.el.callsign.length) + (2 + openLoc.length) + (2 + destIp.length) +
    1 + 3
  if outlen < 128 ∨ p.el.callsign.isEmpty ∨ destIp.isEmpty ∨ need > outlen then none
  else
    let out := rrBytes (p.nodeId w) ++ sdesHeader (p.nodeId w) ++
      sdesItemBytes elSdesCname p.el.callsign ++ sdesItemBytes elSdesLoc openLoc ++
      sdesItemBytes elSdesEmail destIp ++ [elSdesEnd]
    some (finishSdes out 8)

def rtcpOk : Bool := p.peerResolved && (p.useProxy || p.rtcpSock)

/-- `el_send_sdes`. -/
def sendSdes : ElLink :=
  if !p.rtcpOk then p
  else
    match p.buildSdes w 256 with
    | (some pkt, p) => { p.tock with lastSdes := p.now, rtcpSent := p.rtcpSent ++ [pkt] }
    | (none, p) => p

/-- The reply to an SDES; a proxy sends it after the poll. -/
def replySdes : ElLink :=
  if p.useProxy then { p with sdesReplyPending := true } else p.sendSdes w

/-- The node is heard on its control port. -/
def hearRtcp : ElLink :=
  let p := { p.tock with lastPeerRtcp := p.now }
  if p.linked then p else { p with linked := true, status := .connected }

/-- What follows an SDES packet: an OPEN does not link the node, any other packet does. -/
def tookSdes (isOpen : Bool) (el : PeerEl) : ElLink :=
  let p := { p.tock with el := el }
  (if isOpen then p else p.hearRtcp).replySdes w

/-- An SDES block of a datagram; the clock is asked even where the talker is not in question. -/
def handleSdes (pkt : List UInt8) : Reads ElLink := do
  let (isOpen, el) ← p.el.parseSdesPacket p.lastRtpRx p.now pkt
  pure (p.tookSdes w isOpen el)

/-- A block of an RTCP datagram, at the place `o`. -/
def rtcpBlock (data : List UInt8) : Nat × ElLink → Reads (Nat × ElLink ⊕ ElLink)
  | (o, p) =>
    if o + 4 ≤ data.length then do
      let pt ← readByte data (o + 1)
      let hi ← readByte data (o + 2)
      let lo ← readByte data (o + 3)
      let plen := (hi.toNat * 256 + lo.toNat + 1) * 4
      if o + plen > data.length then pure (.inr p)
      else if pt = elRtcpSdes then
        let pkt ← readBytes data o plen
        let p ← p.handleSdes w pkt
        pure (.inl (o + plen, p))
      else pure (.inl (o + plen, p))
    else pure (.inr p)

/-- `el_handle_rtcp`. -/
def handleRtcp (data : List UInt8) : Reads ElLink :=
  loop (rtcpBlock w data) (data.length + 1) (0, p)

end

end ElLink

end AdnBridge
