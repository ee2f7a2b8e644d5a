import AdnBridge.Ysf.Callsign

namespace AdnBridge
set_option autoImplicit true

/-- The samples of an RTP packet. -/
def elRtpSamples : Nat := 640

def elPcmRate : Nat := 8000

/-- What the peer sends to the EchoLink node; a voice packet may fail to go out. -/
inductive ElPacket where
  | rtp (seq : UInt16) (pcm : List Int16) (ok : Bool)
  | sdes (name : List UInt8)
deriving DecidableEq

/-- The part of `peer_echolink_t` that carries audio and identities; the rings are queues here,
`rtpOk` stands for an open encoder and a resolved node with sockets or a proxy to reach it, and
`rtpSends` for what comes of the voice packets that are still to be sent. -/
structure PeerEl where
  callsign : List UInt8
  host : List UInt8
  talkerName : List UInt8
  remoteCname : List UInt8
  remoteTalker : List UInt8
  remoteTalkerExplicit : Bool
  rtpOk : Bool
  rtpSeq : UInt16
  rtpTxPackets : Nat
  rtpRxPackets : Nat
  pcmIn : List Int16
  pcmOut : List Int16
  sent : List ElPacket
  rtpSends : Nat → Bool

namespace PeerEl

def opened (callsign host : List UInt8) (rtpSends : Nat → Bool) : PeerEl where
  callsign := callsign.take 15
  host := host.take 127
  talkerName := []
  remoteCname := []
  remoteTalker := host.take 31
  remoteTalkerExplicit := false
  rtpOk := false
  rtpSeq := 0
  rtpTxPackets := 0
  rtpRxPackets := 0
  pcmIn := []
  pcmOut := []
  sent := []
  rtpSends := rtpSends

section
variable (p : PeerEl)

/-- `pcm_ring_push`: what does not fit is dropped. -/
def pcmRingPush (pcm : List Int16) : PeerEl :=
  { p with pcmIn := p.pcmIn ++ pcm.take (2 * elPcmRate - p.pcmIn.length) }

/-- A voice packet from the node, as far as its frames decode. -/
def handleRtp (frames : List (Vector Int16 160)) : PeerEl :=
  { frames.foldl (fun p f => p.pcmRingPush f.toList) p with rtpRxPackets := p.rtpRxPackets + 1 }

def readPcm (maxSamples : Nat) : List Int16 × PeerEl :=
  (p.pcmIn.take maxSamples, { p with pcmIn := p.pcmIn.drop maxSamples })

def dropPcmIn : PeerEl := { p with pcmIn := [] }

/-- `el_flush_rtp_tx`: a short packet is filled up with silence; nothing is tried while the node
cannot be reached, and a packet that does not go out is forgotten. -/
def flushRtpTx : PeerEl :=
  if p.pcmOut.length = 0 ∨ !p.rtpOk then p
  else
    let pcm := p.pcmOut ++ List.replicate (elRtpSamples - p.pcmOut.length) 0
    { p with
      sent := p.sent ++ [.rtp p.rtpSeq pcm (p.rtpSends 0)]
      rtpSends := fun n => p.rtpSends (n + 1)
      rtpSeq := p.rtpSeq + 1
      pcmOut := []
      rtpTxPackets := p.rtpTxPackets + 1 }

def flushPcm : PeerEl := if p.pcmOut.length > 0 then p.flushRtpTx else p

def flushFull : PeerEl := if p.pcmOut.length ≥ elRtpSamples then p.flushRtpTx else p

/-- `peer_el_write_pcm`, one sample at a time; with the packet full and no way to send it, the
loop of the source turns for ever. -/
def writePcm (pcm : List Int16) : Option PeerEl :=
  pcm.foldlM (fun p sample =>
    let p := p.flushFull
    if p.pcmOut.length ≥ elRtpSamples then none
    else some { p with pcmOut := p.pcmOut ++ [sample] }.flushFull) p

/-- The printable part of a name, blanks squeezed and trimmed, at most 31 characters. -/
def sdesName (name : List UInt8) : List UInt8 :=
  let squeezed := (name.dropWhile fun c => c == chSpace || c == chTab).foldl (fun buf c =>
    if buf.length ≥ 31 ∨ c < 32 ∨ c > 126 then buf
    else if c = chSpace ∧ (buf.isEmpty ∨ buf.getLast? = some chSpace) then buf
    else buf ++ [c]) []
  (squeezed.reverse.dropWhile (· == chSpace)).reverse

def setTalkerName (name : List UInt8) : PeerEl :=
  let buf := sdesName name
  if p.talkerName = buf then p
  else { p with talkerName := buf, sent := p.sent ++ if p.rtpOk then [.sdes buf] else [] }

/-- `peer_el_remote_talker`. -/
def bestTalker : List UInt8 :=
  if !p.remoteTalker.isEmpty then p.remoteTalker
  else if !p.remoteCname.isEmpty then p.remoteCname
  else p.host

def clearRemoteTalker : PeerEl :=
  { p with remoteTalkerExplicit := false, remoteTalker := p.host.take 31 }

end

end PeerEl

end AdnBridge
