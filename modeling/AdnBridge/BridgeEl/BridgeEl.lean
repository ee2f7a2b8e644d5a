import AdnBridge.Bridge.Bridge
import AdnBridge.PeerEcholink

namespace AdnBridge
set_option autoImplicit true

def elDmrFrameMs : Int := 60
def elHangMs : Int := 700
def elTxCooldownMs : Int := 800
def dmrRxHangMs : Int := 1500
def ysfRxHangMs : Int := 1500

inductive ElMode where
  | echolinkDmr
  | echolinkYsf
deriving DecidableEq

/-- `call_active`: nothing, EchoLink to the other side, the other side to EchoLink. -/
inductive ElCall where
  | idle
  | elTx
  | elRx
deriving DecidableEq

/-- What `ysf2dmr_config_valid` lets through for the two EchoLink modes. -/
structure BridgeElConfig where
  mode : ElMode
  dmrid : Int
  tg : Int
  dmrCallsign : List UInt8
  ysfCallsign : List UInt8
  dgid : UInt8
  clearDynamicTg : Bool
  dmrid_pos : 0 < dmrid
  tg_pos : mode = .echolinkDmr → 0 < tg

/-- The configuration, and the code outside the bridge that it calls; `gain` is the scaling of
the PCM before it is encoded. -/
structure ElEnv where
  cfg : BridgeElConfig
  codec : Codec
  fichDecode : List UInt8 → Option Fich
  gain : Int16 → Int16
  rand : Nat → UInt32

/-- What the vocoder answers to its successive requests; `none` where it fails. -/
structure Vocoder where
  encode : Nat → List Int16 → Option (List UInt8)
  decode : Nat → List UInt8 → Option (Vector Int16 160)

/-- What the bridge sends; `cut` marks the VTERM of a call that a reception preempts. -/
inductive ElAct where
  | dmrd (p : Dmrd) (cut : Bool)
  | ysfd (f : Ysfd)

structure BridgeEl where
  clock : Clock
  aliases : AliasDb
  draws : Nat
  conv : ModeConv
  el : PeerEl
  trace : List ElAct
  elRfId : Int
  dmrStreamId : UInt32
  dmrRxStreamId : UInt32
  dmrSeq : UInt8
  callActive : ElCall
  dmrVoiceFrames : Nat
  ysfVoiceFrames : Nat
  elAmbe : List (List UInt8)
  ysfAmbe : List (List UInt8)
  ysfCnt : UInt8
  netSrc : List UInt8
  netDst : List UInt8
  pcmElAcc : List Int16
  lastDmrTx : Timespec
  lastDmrRx : Timespec
  lastYsfTx : Timespec
  lastElSpeech : Timespec
  lastElTxEnd : Timespec
  elSpeechRun : Bool
  dmrEnding : Bool
  ysfEnding : Bool
  dmrWasConnected : Bool
  connectPttActive : Bool
  connectPttPhase : Nat
  connectPttVoiceFrames : Nat
  connectPttTg : Int
  connectPttClearing : Bool
  connectPttStart : Timespec

/-- The callsign before a dash or a slash, up to the first blank, at most 15 characters. -/
def elCallsignBase (src : List UInt8) : List UInt8 :=
  let word := ((cString src).dropWhile fun c => c == chSpace || c == chTab).takeWhile fun c =>
    c != chSpace && c != chTab && c != chDash && c != chSlash
  (word.take 15).map toUpper

def elFormatBase10 (base : List UInt8) : List UInt8 := pad10 (base.map toUpper)

/-- The whole EchoLink callsign, suffix included. -/
def elFormatCallsign10 (src : List UInt8) : List UInt8 :=
  pad10 (((cString src).filter fun c => c != chSpace && c != chTab).map toUpper)

/-- A callsign on the wire as a C string, trimmed. -/
def wireCallToCstr (src : List UInt8) : List UInt8 :=
  let word := (cString (src.take 10)).dropWhile fun c => c == chSpace || c == chTab
  word.takeWhile fun c => c != chSpace && c != chTab

namespace BridgeEl

def init (clock : Clock) (aliases : AliasDb) (el : PeerEl) : BridgeEl where
  clock := clock.next.next.next.next
  aliases := aliases
  draws := 0
  conv := .reset
  el := el
  trace := []
  elRfId := 0
  dmrStreamId := 0
  dmrRxStreamId := 0
  dmrSeq := 0
  callActive := .idle
  dmrVoiceFrames := 0
  ysfVoiceFrames := 0
  elAmbe := []
  ysfAmbe := []
  ysfCnt := 0
  netSrc := List.replicate 10 0
  netDst := ysfWireDstAll
  pcmElAcc := []
  lastDmrTx := clock.now
  lastDmrRx := clock.next.now
  lastYsfTx := clock.next.next.now
  lastElSpeech := clock.next.next.next.now
  lastElTxEnd := ⟨0, 0⟩
  elSpeechRun := false
  dmrEnding := false
  ysfEnding := false
  dmrWasConnected := false
  connectPttActive := false
  connectPttPhase := 0
  connectPttVoiceFrames := 0
  connectPttTg := 0
  connectPttClearing := false
  connectPttStart := ⟨0, 0⟩

section
variable (e : ElEnv) (b : BridgeEl)

def tock : BridgeEl := { b with clock := b.clock.next }

def log (a : ElAct) : BridgeEl := { b with trace := b.trace ++ [a] }

def modeconv (o : ConvOp) : BridgeEl := { b with conv := o.conv e.codec b.conv }

/-- `new_stream_id`: the `n`th draw. -/
def streamId (n : Nat) : UInt32 := e.rand n ||| 1

def newStreamId : UInt32 × BridgeEl := (streamId e b.draws, { b with draws := b.draws + 1 })

def txTg : Int := if b.connectPttActive && b.connectPttTg > 0 then b.connectPttTg else e.cfg.tg

/-- The talker's callsign as EchoLink shows it, its base, and the id it resolves to. -/
def elTalker : List UInt8 × List UInt8 × Int :=
  let raw := b.el.bestTalker
  let raw := if raw.isEmpty then b.el.callsign else raw
  let raw := if (elCallsignBase raw).isEmpty then b.el.callsign else raw
  let base := elCallsignBase raw
  let id := callsign10ToDmrid (elFormatBase10 base)
  (raw, base, if id ≤ 0 ∧ !base.isEmpty then b.aliases.lookupId base else id)

/-- `bridge_el_resolve_el_talker`; an unknown talker crosses with the identity of the bridge. -/
def resolveElTalker : BridgeEl :=
  let (raw, base, id) := b.elTalker
  match e.cfg.mode with
  | .echolinkYsf =>
    { b with netSrc := elFormatCallsign10 raw, elRfId := if id > 0 then id else e.cfg.dmrid }
  | .echolinkDmr =>
    if id > 0 then { b with netSrc := elFormatBase10 base, elRfId := id }
    else { b with netSrc := e.cfg.dmrCallsign, elRfId := e.cfg.dmrid }

def sendDmrd (frameType : UInt8) (voice33 : Option (List UInt8)) (cut : Bool) : BridgeEl :=
  let rfId := if b.elRfId > 0 then b.elRfId else e.cfg.dmrid
  if rfId ≤ 0 then b
  else
    let p : Dmrd := {
      seq := b.dmrSeq, src := dmrIdRf24 rfId, dst := b.txTg e, gw := e.cfg.dmrid,
      b15 := frameType, stream := b.dmrStreamId, voice33 := voice33 }
    { b.tock.log (.dmrd p cut) with dmrSeq := b.dmrSeq + 1, lastDmrTx := b.clock.now }

/-- The start of an EL→DMR call, with one VHEAD. -/
def openDmrCall : BridgeEl :=
  let (sid, b) := { b with callActive := .elTx }.newStreamId e
  let b := { b with dmrStreamId := sid, dmrSeq := 0, dmrVoiceFrames := 0, conv := .reset }
  let b := (b.resolveElTalker e).sendDmrd e vheadB15 none false
  { b with el := { b.el with rtpRxPackets := 0 } }

def emitDmrVoice (voice33 : List UInt8) : BridgeEl :=
  -- the place in the superframe is taken before the counter is reset for a new call
  let b15 := voiceB15 b.dmrVoiceFrames
  let b := if b.callActive = .idle then b.openDmrCall e else b
  let b := b.sendDmrd e b15 (some voice33) false
  { b with dmrVoiceFrames := b.dmrVoiceFrames + 1 }

def beginDmrEnd : BridgeEl :=
  if b.callActive ≠ .elTx ∨ b.dmrEnding then b
  else
    { b with
      dmrEnding := true, elAmbe := [], pcmElAcc := [], el := b.el.dropPcmIn, conv := .reset,
      lastDmrTx := ⟨0, 0⟩ }

def finishDmrEnd : BridgeEl :=
  { b.tock with
    callActive := .idle, dmrEnding := false, dmrVoiceFrames := 0, elAmbe := [], pcmElAcc := [],
    elSpeechRun := false, elRfId := 0, el := b.el.dropPcmIn.clearRemoteTalker, conv := .reset,
    lastElTxEnd := b.clock.now }

/-- A silence burst up to the end of the superframe, or the VTERM. -/
def paceDmrEnd : BridgeEl :=
  if !b.dmrEnding ∨ b.callActive ≠ .elTx then b
  else if !msElapsed b.clock.now b.lastDmrTx elDmrFrameMs then b.tock
  else if b.dmrVoiceFrames % 6 ≠ 0 then
    let b := b.tock.sendDmrd e (voiceB15 b.dmrVoiceFrames) (some dmrSilenceData) false
    { b with dmrVoiceFrames := b.dmrVoiceFrames + 1 }
  else (b.tock.sendDmrd e vtermB15 (some dmrSilenceData) false).finishDmrEnd

/-- The VTERM at once, when a reception preempts the call. -/
def endDmrCall : BridgeEl :=
  if b.callActive ≠ .elTx ∧ !b.dmrEnding then b
  else
    let b :=
      if b.callActive = .elTx then b.sendDmrd e vtermB15 (some dmrSilenceData) true else b
    b.finishDmrEnd

/-- Whether the time after the last EL→DMR or EL→YSF call is still to be waited for. -/
def inCooldown : Bool × BridgeEl :=
  if b.lastElTxEnd.sec ≠ 0 ∨ b.lastElTxEnd.nsec ≠ 0 then
    (msSince b.clock.now b.lastElTxEnd < elTxCooldownMs, b.tock)
  else (false, b)

/-- Fill the frame from the inbound PCM; the samples that do not fit are lost. -/
def readFrame : BridgeEl :=
  let (pcm, el) := b.el.readPcm 160
  { b with el := el, pcmElAcc := (b.pcmElAcc ++ pcm).take 160 }

/-- Any inbound PCM counts as speech. -/
def hear : BridgeEl := { b.tock with lastElSpeech := b.clock.now }

/-- The loop over the inbound PCM, in frames of 160 samples: `calls` is the number of vocoder
requests made, `streak` that of the failures in a row, `drop` forgets the frames encoded so far
and `take` is what is done with one. Each turn reads a sample at least, so that `fuel` is the
length of the queue. -/
def elLoop (voc : Vocoder) (drop : BridgeEl → BridgeEl) (take : List UInt8 → BridgeEl → BridgeEl) :
    Nat → Nat → Nat → BridgeEl → BridgeEl
  | 0, _, _, b => b
  | fuel + 1, calls, streak, b =>
    if b.el.pcmIn.isEmpty then b
    else
      let b := b.readFrame
      if b.pcmElAcc.length < 160 then elLoop voc drop take fuel calls streak b
      else
        let (cool, b) := b.hear.inCooldown
        if b.callActive = .idle ∧ cool then
          let b := drop { b with pcmElAcc := [], elSpeechRun := false }
          elLoop voc drop take fuel calls streak b
        else
          let frame := b.pcmElAcc.map e.gain
          let b := { b with
            pcmElAcc := [], elSpeechRun := if b.callActive = .idle then true else b.elSpeechRun }
          match voc.encode calls frame with
          | none =>
            if streak + 1 ≥ 3 then drop { b with el := b.el.dropPcmIn }
            else elLoop voc drop take fuel (calls + 1) (streak + 1) b
          | some ambe => elLoop voc drop take fuel (calls + 1) 0 (take ambe b)

def dropDmrAmbe : BridgeEl := { b with elAmbe := [] }

def dropYsfAmbe : BridgeEl := { b with ysfAmbe := [] }

/-- Three frames at a time are queued for DMR. -/
def takeDmrAmbe (ambe : List UInt8) : BridgeEl :=
  let b := { b with elAmbe := b.elAmbe ++ [ambe] }
  if b.elAmbe.length < 3 then b
  else (b.elAmbe.foldl (fun b a => b.modeconv e (.putAmbe7 a)) b).dropDmrAmbe

def processElAudio (voc : Vocoder) : BridgeEl :=
  if e.cfg.mode ≠ .echolinkDmr then b
  else if b.callActive = .elRx ∨ b.dmrEnding then b
  else
    elLoop e voc dropDmrAmbe (fun ambe b => b.takeDmrAmbe e ambe) b.el.pcmIn.length 0 0 b

/-- The three frames of a DMR burst, to EchoLink; a frame that does not decode is left out. -/
def playAmbe (voc : Vocoder) (calls : Nat) (voice33 : List UInt8) : Option BridgeEl :=
  (List.finRange 3).foldlM (fun b i =>
    match voc.decode (calls + i.val) (e.codec.dmr33ToAmbe voice33 i) with
    | none => some b
    | some pcm => (b.el.writePcm pcm.toList).map fun el => { b with el := el }) b

def onDmrd (voc : Vocoder) (pkt : List UInt8) : Option BridgeEl :=
  if e.cfg.mode ≠ .echolinkDmr then some b
  else if !dmrdIsPacket pkt then some b
  else if dmrdIsHeader pkt then
    let sid := dmrdStream pkt
    if b.callActive = .elRx ∧ sid = b.dmrRxStreamId then
      some { b.tock with lastDmrRx := b.clock.now }
    else
      let b := if b.callActive = .elTx then b.endDmrCall e else b
      let b := if b.callActive = .elRx then { b with el := b.el.flushPcm } else b
      some { b.tock with
        callActive := .elRx, dmrRxStreamId := sid, dmrVoiceFrames := 0,
        el := { b.el with rtpTxPackets := 0 }, lastDmrRx := b.clock.now }
  else if dmrdIsTerminator pkt then
    if b.callActive = .elRx then
      some { b with
        el := b.el.flushPcm, callActive := .idle, dmrVoiceFrames := 0, dmrRxStreamId := 0 }
    else some b
  else if b.callActive ≠ .elRx then some b
  else
    { b.tock with
      lastDmrRx := b.clock.now, dmrVoiceFrames := b.dmrVoiceFrames + 1 }.playAmbe e voc 0
        ((pkt.drop 20).take 33)

def connectPttBeginStream (tg : Int) (clearing : Bool) : BridgeEl :=
  let (sid, b) := b.newStreamId e
  { b.tock.tock with
    connectPttActive := true, connectPttPhase := 0, connectPttVoiceFrames := 0,
    connectPttTg := tg, connectPttClearing := clearing, dmrStreamId := sid, dmrSeq := 0,
    connectPttStart := b.clock.now, lastDmrTx := { b.clock.next.now with sec := 0 } }

def connectPttOff : BridgeEl :=
  { b with
    connectPttActive := false, connectPttPhase := 0, connectPttVoiceFrames := 0,
    connectPttTg := 0, connectPttClearing := false }

/-- The silence bursts up to the end of the superframe, at most `n` of them. -/
def connectPttPad : Nat → BridgeEl → BridgeEl
  | 0, b => b
  | n + 1, b =>
    if b.connectPttVoiceFrames % 6 ≠ 0 then
      let b := b.sendDmrd e (padB15 b.connectPttVoiceFrames) (some dmrSilenceData) false
      connectPttPad n { b with connectPttVoiceFrames := b.connectPttVoiceFrames + 1 }
    else b

def connectPttFinish : BridgeEl :=
  let wasClearing := b.connectPttClearing
  let b := (connectPttPad e 6 b).sendDmrd e vtermB15 (some dmrSilenceData) false
  if wasClearing ∧ e.cfg.tg > 0 then b.connectPttBeginStream e e.cfg.tg false
  else b.connectPttOff

def startConnectPtt : BridgeEl :=
  if b.callActive ≠ .idle ∨ b.connectPttActive then b
  else if e.cfg.tg ≤ 0 then b
  else if e.cfg.clearDynamicTg then b.connectPttBeginStream e dmrClearDynamicTg true
  else b.connectPttBeginStream e e.cfg.tg false

def emitConnectPtt : BridgeEl :=
  if !b.connectPttActive then b
  else if b.connectPttPhase = 0 then
    let b := b.sendDmrd e vheadB15 none false
    { b.tock with connectPttPhase := 1, connectPttStart := b.clock.now }
  else if msSince b.clock.now b.connectPttStart ≥ connectPttMs then b.tock.connectPttFinish e
  else
    let b := b.tock.sendDmrd e (voiceB15 b.connectPttVoiceFrames) (some dmrSilenceData) false
    { b with connectPttVoiceFrames := b.connectPttVoiceFrames + 1 }

def pollConnectPtt (connected : Bool) : BridgeEl :=
  let b := if connected ∧ !b.dmrWasConnected then b.startConnectPtt e else b
  let b := if connected then b else b.connectPttOff
  let b := { b with dmrWasConnected := connected }
  if !b.connectPttActive then b
  else if msElapsed b.clock.now b.lastDmrTx elDmrFrameMs then b.tock.emitConnectPtt e
  else b.tock

/-- `"%s (%s)"`, cut to the 31 characters of the buffer. -/
def ysfTalkerName (talker : List UInt8) : List UInt8 :=
  (b.el.callsign ++ [chSpace, 0x28] ++ talker ++ [0x29]).take 31

def setYsfTalkerOnEl : BridgeEl :=
  let talker := wireCallToCstr b.netSrc
  { b with
    el := if talker.isEmpty then b.el.setTalkerName []
      else b.el.setTalkerName (b.ysfTalkerName talker) }

def sendYsfd (fi fn netCnt : UInt8) (payload : Option (List UInt8)) : BridgeEl :=
  let f : Ysfd := {
    gateway := e.cfg.ysfCallsign, src := b.netSrc, fi := fi, fn := fn, ft := ysfFichFt,
    cm := ysfFichCm, netCnt := netCnt,
    csd := if payload.isNone then some (fillYsfCsd b.netSrc) else none,
    payload := payload.map fun v => (v, ysfDchSlot b.netSrc b.netDst fn) }
  { b.tock.log (.ysfd f) with lastYsfTx := b.clock.now }

def emitYsfFromConv : BridgeEl :=
  let (tag, payload, conv) := b.conv.getYsf
  let b := { b with conv := conv }
  if tag = tagNoData then b
  else if tag = tagHeader then
    { { b with ysfCnt := 0 }.sendYsfd e ysfFiHeader 0 0 none with ysfCnt := 1 }
  else if tag = tagEot then
    let b := b.sendYsfd e ysfFiTerminator 0 b.ysfCnt none
    { b.tock with
      callActive := .idle, ysfEnding := false, ysfVoiceFrames := 0, ysfAmbe := [], ysfCnt := 0,
      pcmElAcc := [], elSpeechRun := false, elRfId := 0,
      el := b.el.dropPcmIn.clearRemoteTalker, conv := .reset, lastElTxEnd := b.clock.now }
  else if tag = tagData then
    let b := b.sendYsfd e ysfFiCommunications (ysfVoiceFn b.ysfCnt) (ysfVoiceNet b.ysfCnt)
      (some payload)
    { b with ysfVoiceFrames := b.ysfVoiceFrames + 1, ysfCnt := b.ysfCnt + 1 }
  else b

def endYsfCall : BridgeEl :=
  if b.callActive ≠ .elTx ∨ b.ysfEnding then b
  else { b with ysfEnding := true }.modeconv e .putDmrEot

def beginElToYsf : BridgeEl :=
  let b := b.resolveElTalker e
  { b with
    netDst := ysfWireDstAll, callActive := .elTx, ysfEnding := false, ysfVoiceFrames := 0,
    ysfAmbe := [], pcmElAcc := [], ysfCnt := 0, conv := ModeConv.reset.putDmrHeader,
    el := { b.el with rtpRxPackets := 0 } }

def ysfReheaderIfTalkerChanged : BridgeEl :=
  if b.callActive ≠ .elTx ∨ b.ysfEnding then b
  else if b.el.bestTalker.isEmpty then b
  else if elFormatCallsign10 b.el.bestTalker = b.netSrc then b
  else
    let prev := b.netSrc
    let b := b.resolveElTalker e
    if prev = b.netSrc then b else b.modeconv e .putDmrHeader

/-- Five frames at a time are queued for YSF; the first one starts the call. -/
def takeYsfAmbe (ambe : List UInt8) : BridgeEl :=
  let b := if b.callActive = .idle then b.beginElToYsf e else b
  let b := { b with ysfAmbe := b.ysfAmbe ++ [ambe] }
  if b.ysfAmbe.length < 5 then b
  else (b.ysfAmbe.foldl (fun b a => b.modeconv e (.putAmbe7Ysf a)) b).dropYsfAmbe

def processElToYsf (voc : Vocoder) : BridgeEl :=
  if e.cfg.mode ≠ .echolinkYsf then b
  else if b.callActive = .elRx ∨ b.ysfEnding then b
  else
    let b := if b.callActive = .elTx then b.ysfReheaderIfTalkerChanged e else b
    elLoop e voc dropYsfAmbe (fun ambe b => b.takeYsfAmbe e ambe) b.el.pcmIn.length 0 0 b

/-- Everything that the DMR queue of the converter gives, to EchoLink; each turn takes an entry
at least. -/
def drainYsfToElPcm (voc : Vocoder) : Nat → Nat → BridgeEl → Option BridgeEl
  | 0, _, b => some b
  | fuel + 1, calls, b =>
    let (tag, voice33, conv) := b.conv.getDmr
    let b := { b with conv := conv }
    if tag = tagNoData then some b
    else if tag ≠ tagData then drainYsfToElPcm voc fuel calls b
    else (b.playAmbe e voc calls voice33).bind (drainYsfToElPcm voc fuel (calls + 3))

/-- The FICH of a YSFD that the bridge does not skip. -/
def acceptedFich (pkt : List UInt8) : Option Fich :=
  if ysfdIsPacket pkt then
    (e.fichDecode pkt).filter fun f => ysfDgidAccepts e.cfg.dgid f.dgid
  else none

def beginYsfToEl (pkt : List UInt8) : BridgeEl :=
  let b := { b with
    netSrc := (pkt.drop 14).take 10, callActive := .elRx, ysfVoiceFrames := 0,
    el := { b.el with rtpTxPackets := 0 }, conv := ModeConv.reset.putYsfHeader }
  b.setYsfTalkerOnEl

def onYsfd (voc : Vocoder) (pkt : List UInt8) : Option BridgeEl :=
  if e.cfg.mode ≠ .echolinkYsf then some b
  else
    match acceptedFich e pkt with
    | none => some b
    | some f =>
      if f.fi = ysfFiHeader then
        let b := if b.callActive = .elTx then b.endYsfCall e else b
        let b := if b.callActive = .elRx then { b with el := b.el.flushPcm.setTalkerName [] } else b
        let b := { b.tock with netDst := ysfWireDstAll, lastDmrRx := b.clock.now }
        some (b.beginYsfToEl pkt)
      else if f.fi = ysfFiTerminator then
        if b.callActive = .elRx then
          let b := b.modeconv e .putYsfEot
          (drainYsfToElPcm e voc (b.conv.dmr.n + 1) 0 b).map fun b =>
            { b with
              el := b.el.flushPcm.setTalkerName [], callActive := .idle, ysfVoiceFrames := 0,
              conv := .reset }
        else some b
      else if f.fi = ysfFiCommunications then
        let b :=
          if b.callActive ≠ .elRx then
            (if b.callActive = .elTx then b.endYsfCall e else b).beginYsfToEl pkt
          else b
        let b := { b.tock with lastDmrRx := b.clock.now }
        let b := b.modeconv e (.putYsfPayload (ysfModeconvChunk pkt))
        let b := { b with ysfVoiceFrames := b.ysfVoiceFrames + 1 }
        drainYsfToElPcm e voc (b.conv.dmr.n + 1) 0 b
      else some b

def paceDmrTx : BridgeEl :=
  if b.callActive = .elRx ∨ b.connectPttActive ∨ b.dmrEnding then b
  else if b.callActive = .elTx ∧ !msElapsed b.clock.now b.lastDmrTx elDmrFrameMs then b.tock
  else
    let b := if b.callActive = .elTx then b.tock else b
    let (tag, voice33, conv) := b.conv.getDmr
    let b := { b with conv := conv }
    if tag = tagData then b.emitDmrVoice e voice33 else b

/-- The end of a call when the inbound PCM stops. -/
def hangElTx : BridgeEl :=
  if b.callActive ≠ .elTx ∨ b.dmrEnding ∨ b.ysfEnding then b
  else if msSince b.clock.now b.lastElSpeech ≥ elHangMs then
    match e.cfg.mode with
    | .echolinkDmr => b.tock.beginDmrEnd
    | .echolinkYsf => b.tock.endYsfCall e
  else b.tock

/-- The end of a reception that stops without a terminator. -/
def hangElRx : BridgeEl :=
  if b.callActive ≠ .elRx then b
  else
    match e.cfg.mode with
    | .echolinkDmr =>
      if msSince b.clock.now b.lastDmrRx ≥ dmrRxHangMs then
        { b.tock with
          el := b.el.flushPcm, callActive := .idle, dmrVoiceFrames := 0, dmrRxStreamId := 0 }
      else b.tock
    | .echolinkYsf =>
      if msSince b.clock.now b.lastDmrRx ≥ ysfRxHangMs then
        { b.tock with
          el := b.el.flushPcm.setTalkerName [], callActive := .idle, ysfVoiceFrames := 0,
          conv := .reset }
      else b.tock

def paceTx (dmrUp : Bool) : BridgeEl :=
  match e.cfg.mode with
  | .echolinkDmr =>
    let b := b.pollConnectPtt e dmrUp
    if b.dmrEnding then b.paceDmrEnd e else b.paceDmrTx e
  | .echolinkYsf =>
    if b.callActive ≠ .elTx then b
    else if msElapsed b.clock.now b.lastYsfTx ysfFrameMs then b.tock.emitYsfFromConv e
    else b.tock

def tick (dmrUp : Bool) : BridgeEl := ((b.paceTx e dmrUp).hangElTx e).hangElRx e

end

end BridgeEl

/-- What reaches the bridge: a turn of the audio loop, packets, timer ticks with the state of the
DMR link, and what happens to the EchoLink peer meanwhile. -/
inductive BridgeElEvent where
  | audio (clock : Clock) (voc : Vocoder)
  | dmrd (clock : Clock) (voc : Vocoder) (pkt : List UInt8)
  | ysfd (clock : Clock) (voc : Vocoder) (pkt : List UInt8)
  | tick (clock : Clock) (dmrUp : Bool)
  | rtp (frames : List (Vector Int16 160))
  | identity (cname talker : List UInt8) (explicit : Bool)
  | link (rtpOk : Bool)
  | aliases (db : AliasDb)

namespace BridgeEl

def step (e : ElEnv) (b : BridgeEl) : BridgeElEvent → Option BridgeEl
  | .audio clock voc =>
    let b := { b with clock := clock }
    match e.cfg.mode with
    | .echolinkDmr => some (b.processElAudio e voc)
    | .echolinkYsf => some (b.processElToYsf e voc)
  | .dmrd clock voc pkt => { b with clock := clock }.onDmrd e voc pkt
  | .ysfd clock voc pkt => { b with clock := clock }.onYsfd e voc pkt
  | .tick clock dmrUp => some ({ b with clock := clock }.tick e dmrUp)
  | .rtp frames => some { b with el := b.el.handleRtp frames }
  | .identity cname talker explicit =>
    some { b with
      el := { b.el with
        remoteCname := cname, remoteTalker := talker, remoteTalkerExplicit := explicit } }
  | .link rtpOk => some { b with el := { b.el with rtpOk := rtpOk } }
  | .aliases db => some { b with aliases := db }

def machine (e : ElEnv) (clock : Clock) (db : AliasDb) (el : PeerEl) :
    Machine BridgeEl BridgeElEvent :=
  ⟨init clock db el, step e⟩

end BridgeEl

section

def sampleElEnv (mode : ElMode) : ElEnv where
  cfg := {
    mode := mode, dmrid := 7301234, tg := 730, dmrCallsign := sampleCallsign,
    ysfCallsign := sampleCallsign, dgid := 0, clearDynamicTg := false, dmrid_pos := sampleDmrid_pos,
    tg_pos := fun _ => by decide }
  codec := silentCodec
  fichDecode := sampleFichDecode
  gain := id
  rand := fun n => 2 * UInt32.ofNat n

/-- It encodes every frame and decodes none. -/
def sampleVocoder : Vocoder := ⟨fun _ _ => some (List.replicate 7 0), fun _ _ => none⟩

def samplePeerEl : PeerEl := .opened sampleCallsign [] fun _ => true

def BridgeEl.sampleMachine (mode : ElMode) : Machine BridgeEl BridgeElEvent :=
  machine (sampleElEnv mode) (.stopped 0) noAliases samplePeerEl

/-- `n` frames of inbound PCM. -/
def rtpOf (n : Nat) : BridgeElEvent := .rtp (List.replicate n (.replicate 160 0))

/-- Events at `ms` milliseconds after the start, the clock standing still during each. -/
def elAudioAt (ms : Nat) : BridgeElEvent := .audio (.stopped ms) sampleVocoder

def elTickAt (ms : Nat) : BridgeElEvent := .tick (.stopped ms) true

def elYsfdAt (ms : Nat) (fich : List UInt8) : BridgeElEvent :=
  .ysfd (.stopped ms) sampleVocoder (sampleYsfd fich)

def elDmrdAt (ms : Nat) (b15 : UInt8) : BridgeElEvent :=
  .dmrd (.stopped ms) sampleVocoder (sampleDmrd b15)

end

end AdnBridge
