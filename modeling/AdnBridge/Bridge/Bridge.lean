import AdnBridge.Bridge.Transmission
import AdnBridge.Clock
import AdnBridge.Mmdvm.Draining
import AdnBridge.Ysf.Callsign

namespace AdnBridge
set_option autoImplicit true

def dmrFrameMs : Int := 55
def ysfFrameMs : Int := 90
def connectPttMs : Int := 500
def dmrClearDynamicTg : Int := 4000

/-- `DMR_SILENCE_DATA`. -/
def dmrSilenceData : List UInt8 :=
  [0xB9, 0xE8, 0x81, 0x52, 0x61, 0x73, 0x00, 0x2A, 0x6B, 0xB9, 0xE8,
   0x81, 0x52, 0x60, 0x00, 0x00, 0x00, 0x00, 0x00, 0x01, 0x73, 0x00,
   0x2A, 0x6B, 0xB9, 0xE8, 0x81, 0x52, 0x61, 0x73, 0x00, 0x2A, 0x6B]

/-- What `ysf2dmr_config_valid` lets through. -/
structure BridgeConfig where
  dmrid : Int
  tg : Int
  callsign : List UInt8
  ysfCallsign : List UInt8
  dgid : UInt8
  clearDynamicTg : Bool
  dmrid_pos : 0 < dmrid
  tg_pos : 0 < tg

/-- The configuration, and the code outside the bridge that it calls. -/
structure Env where
  cfg : BridgeConfig
  codec : Codec
  fichDecode : List UInt8 → Option Fich
  processHeader : List UInt8 → Option (List UInt8 × List UInt8)
  rand : Nat → UInt32

structure Bridge where
  clock : Clock
  aliases : AliasDb
  draws : Nat
  conv : ModeConv
  trace : List Act
  dmrStreamId : UInt32
  dmrSeq : UInt8
  ysfFn : UInt8
  ysfCnt : UInt8
  netSrc : List UInt8
  netDst : List UInt8
  ysfRfId : Int
  dmrVoiceFrames : Nat
  dmrTxFrames : Nat
  dmrDmrdOther : Nat
  ysfVoiceFrames : Nat
  callActive : Bool
  dmrLastDtype : UInt8
  lastDmrTx : Timespec
  lastYsfTx : Timespec
  dmrWasConnected : Bool
  connectPttActive : Bool
  connectPttPhase : Nat
  connectPttVoiceFrames : Nat
  connectPttTg : Int
  connectPttClearing : Bool
  connectPttStart : Timespec

namespace Bridge

def init (clock : Clock) (aliases : AliasDb) : Bridge where
  clock := clock.next.next
  aliases := aliases
  draws := 0
  conv := .reset
  trace := []
  dmrStreamId := 0
  dmrSeq := 0
  ysfFn := 0
  ysfCnt := 0
  netSrc := spaces 10
  netDst := ysfWireDstAll
  ysfRfId := 0
  dmrVoiceFrames := 0
  dmrTxFrames := 0
  dmrDmrdOther := 0
  ysfVoiceFrames := 0
  callActive := false
  dmrLastDtype := 0
  lastDmrTx := clock.now
  lastYsfTx := clock.next.now
  dmrWasConnected := false
  connectPttActive := false
  connectPttPhase := 0
  connectPttVoiceFrames := 0
  connectPttTg := 0
  connectPttClearing := false
  connectPttStart := ⟨0, 0⟩

section
variable (e : Env) (b : Bridge)

/-- The clock has been read. -/
def tock : Bridge := { b with clock := b.clock.next }

def log (a : Act) : Bridge := { b with trace := b.trace ++ [a] }

def modeconvReset : Bridge := { b.log .convReset with conv := .reset }

def modeconv (o : ConvOp) : Bridge :=
  { b.log (.convPut (o.dmrPuts e.codec b.conv) (o.ysfPuts e.codec b.conv)) with
    conv := o.conv e.codec b.conv }

/-- `new_stream_id`: the draw, and the bridge after it. -/
def newStreamId : UInt32 × Bridge := (e.rand b.draws ||| 1, { b with draws := b.draws + 1 })

def txTg : Int := if b.connectPttActive && b.connectPttTg > 0 then b.connectPttTg else e.cfg.tg

def sendDmrd (o : Origin) (frameType : UInt8) (voice33 : Option (List UInt8)) : Bridge :=
  let rfId := if b.ysfRfId > 0 then b.ysfRfId else e.cfg.dmrid
  if rfId ≤ 0 then b
  else
    let p : Dmrd := {
      seq := b.dmrSeq, src := dmrIdRf24 rfId, dst := b.txTg e, gw := e.cfg.dmrid,
      b15 := frameType, stream := b.dmrStreamId, voice33 := voice33 }
    { b.tock.log (.dmrd o p) with dmrSeq := b.dmrSeq + 1, lastDmrTx := b.clock.now }

/-- `bridge_reset_call`. -/
def resetCall : Bridge :=
  modeconvReset { b.log (.stop .call) with
    callActive := false, dmrVoiceFrames := 0, dmrTxFrames := 0, dmrDmrdOther := 0,
    ysfVoiceFrames := 0, ysfRfId := 0, ysfCnt := 0, dmrLastDtype := 0,
    netSrc := spaces 10, netDst := spaces 10 }

def connectPttBeginStream (tg : Int) (clearing : Bool) : Bridge :=
  let (sid, b) := b.newStreamId e
  { b.tock.tock.log (.start .ptt sid) with
    connectPttActive := true, connectPttPhase := 0, connectPttVoiceFrames := 0,
    connectPttTg := tg, connectPttClearing := clearing, dmrStreamId := sid, dmrSeq := 0,
    connectPttStart := b.clock.now, lastDmrTx := { b.clock.next.now with sec := 0 } }

def connectPttOff : Bridge :=
  { b with
    connectPttActive := false, connectPttPhase := 0, connectPttVoiceFrames := 0,
    connectPttTg := 0, connectPttClearing := false }

/-- The silence bursts up to the end of the superframe, at most `n` of them. -/
def connectPttPad : Nat → Bridge → Bridge
  | 0, b => b
  | n + 1, b =>
    if b.connectPttVoiceFrames % 6 ≠ 0 then
      let b := b.sendDmrd e .ptt (padB15 b.connectPttVoiceFrames) (some dmrSilenceData)
      connectPttPad n { b with connectPttVoiceFrames := b.connectPttVoiceFrames + 1 }
    else b

def connectPttFinish : Bridge :=
  let wasClearing := b.connectPttClearing
  let b := (connectPttPad e 6 b).sendDmrd e .ptt vtermB15 (some dmrSilenceData)
  if wasClearing && e.cfg.tg > 0 then b.connectPttBeginStream e e.cfg.tg false
  else b.connectPttOff

def abortConnectPtt : Bridge :=
  if !b.connectPttActive then b
  else if b.connectPttPhase > 0 then { b with connectPttClearing := false }.connectPttFinish e
  else (b.log (.stop .ptt)).connectPttOff

def startConnectPtt : Bridge :=
  if b.callActive || b.connectPttActive then b
  else if e.cfg.tg ≤ 0 then b
  else if e.cfg.clearDynamicTg then b.connectPttBeginStream e dmrClearDynamicTg true
  else b.connectPttBeginStream e e.cfg.tg false

def emitConnectPtt : Bridge :=
  if !b.connectPttActive then b
  else if b.connectPttPhase = 0 then
    let b := (fun b : Bridge => b.sendDmrd e .ptt vheadB15 none)^[3] b
    { b.tock with connectPttPhase := 1, connectPttStart := b.clock.now }
  else if msSince b.clock.now b.connectPttStart ≥ connectPttMs then b.tock.connectPttFinish e
  else
    let b := b.tock.sendDmrd e .ptt (voiceB15 b.connectPttVoiceFrames) (some dmrSilenceData)
    { b with connectPttVoiceFrames := b.connectPttVoiceFrames + 1 }

def pollConnectPtt (connected : Bool) : Bridge :=
  let b := if connected && !b.dmrWasConnected then b.startConnectPtt e else b
  let b := if connected then b else (b.log (.stop .ptt)).connectPttOff
  let b := { b with dmrWasConnected := connected }
  if !b.connectPttActive then b
  else if msElapsed b.clock.now b.lastDmrTx dmrFrameMs then b.tock.emitConnectPtt e
  else b.tock

def findYsfDmrid (base : List UInt8) : Int :=
  let id := b.aliases.lookupId base
  if id > 0 then id else 0

def assignYsfTalker (src : List UInt8) : Bool × Bridge :=
  let base := ysfCallsignBaseSrc src
  let talker := formatYsfCallsign10 base
  let b := { b with netSrc := talker }
  let id := callsign10ToDmrid talker
  let id := if id ≤ 0 then b.findYsfDmrid base else id
  if id > 0 then (true, { b with ysfRfId := id })
  else if e.cfg.dmrid > 0 then (true, { b with netSrc := e.cfg.callsign, ysfRfId := e.cfg.dmrid })
  else (false, b)

def tryYsfCsd (rf : List UInt8) : Bool × Bridge :=
  match e.processHeader rf with
  | none => (false, b)
  | some (csdSrc, _) => b.assignYsfTalker e csdSrc

/-- Try the two layouts of the CSD, then the callsign on the wire. -/
def resolveYsfHeader (pkt : List UInt8) : Bool × Bridge :=
  let r := b.tryYsfCsd e (ysfModeconvChunk pkt)
  if r.1 then r
  else
    let r := r.2.tryYsfCsd e ((pkt.drop ysfFichOffsetNet).take 120)
    if r.1 then r else r.2.assignYsfTalker e (dbgLabel10 (pkt.drop 14))

def ysfTalkerReady : Bool := b.ysfRfId > 0 || e.cfg.dmrid > 0

def lookupDmrCallsign (rf : Int) : Option (List UInt8) :=
  if rf ≤ 0 then none
  else
    let found := b.aliases.lookupCallsign rf
    let found := if rf > 9999999 then found <|> b.aliases.lookupCallsign (rf.tdiv 100) else found
    if 10000 ≤ rf ∧ rf ≤ 99999 then
      found <|> (List.range 100).findSome? fun i => b.aliases.lookupCallsign (rf * 100 + i)
    else found

def setDmrRxIdentity (pkt : List UInt8) : Bridge :=
  let rf := be24 pkt 5
  let dst := be24 pkt 8
  { b with
    netSrc := (b.lookupDmrCallsign rf).getD (formatIdCallsign10 rf.toNat)
    netDst := if dst > 0 then formatTgDst10 dst.toNat else b.netDst }

def beginDmrToYsf (pkt : List UInt8) : Bridge :=
  let stream := dmrdStream pkt
  let (sid, b) := if stream = 0 then b.newStreamId e else (stream, b)
  let b := { b with
    callActive := true, dmrStreamId := sid, dmrSeq := 0, dmrVoiceFrames := 0, dmrTxFrames := 0,
    dmrDmrdOther := 0, ysfFn := 0, ysfCnt := 0 }
  b.modeconvReset.setDmrRxIdentity pkt

def emitPad : Nat → Bridge → Bridge
  | 0, b => b
  | n + 1, b =>
    if b.dmrTxFrames % 6 ≠ 0 then
      let b := b.sendDmrd e .call (padB15 b.dmrTxFrames) (some dmrSilenceData)
      emitPad n { b with dmrTxFrames := b.dmrTxFrames + 1 }
    else b

def emitDmrFromConv : Bridge :=
  let (tag, voice, conv) := b.conv.getDmr
  let b := { b with conv := conv }
  if tag = tagNoData then b
  else if tag = tagHeader then (fun b : Bridge => b.sendDmrd e .call vheadB15 none)^[3] b
  else if tag = tagEot then ((emitPad e 6 b).sendDmrd e .call vtermB15 (some voice)).resetCall
  else if tag = tagData then
    let b := b.sendDmrd e .call (voiceB15 b.dmrTxFrames) (some voice)
    { b with dmrTxFrames := b.dmrTxFrames + 1 }
  else b

def sendYsfd (fi fn netCnt : UInt8) (payload : Option (List UInt8)) : Bridge :=
  let f : Ysfd := {
    gateway := e.cfg.ysfCallsign, src := b.netSrc, fi := fi, fn := fn, ft := ysfFichFt,
    cm := ysfFichCm, netCnt := netCnt,
    csd := if payload.isNone then some (fillYsfCsd b.netSrc) else none,
    payload := payload.map fun v => (v, ysfDchSlot b.netSrc b.netDst fn) }
  { b.tock.log (.ysfd f) with ysfFn := b.ysfFn + 2, lastYsfTx := b.clock.now }

def emitYsfFromConv : Bridge :=
  let (tag, payload, conv) := b.conv.getYsf
  let b := { b with conv := conv }
  if tag = tagNoData then b
  else if tag = tagHeader then
    { { b with ysfCnt := 0 }.sendYsfd e ysfFiHeader 0 0 none with ysfCnt := 1 }
  else if tag = tagEot then (b.sendYsfd e ysfFiTerminator 0 b.ysfCnt none).resetCall
  else if tag = tagData then
    let b := b.sendYsfd e ysfFiCommunications (ysfVoiceFn b.ysfCnt) (ysfVoiceNet b.ysfCnt)
      (some payload)
    { b with ysfCnt := b.ysfCnt + 1 }
  else b

def onDmrd (pkt : List UInt8) : Bridge :=
  if !dmrdIsPacket pkt then b
  else if dmrdIsHeader pkt then
    let stream := dmrdStream pkt
    let b :=
      if !b.callActive || (stream != 0 && stream != b.dmrStreamId) then b.beginDmrToYsf e pkt
      else b.setDmrRxIdentity pkt
    let b := if b.dmrLastDtype ≠ dmrdDtypeVhead then b.modeconv e .putDmrHeader else b
    { b with dmrLastDtype := dmrdDtypeVhead }
  else if dmrdIsTerminator pkt then
    let b := if b.callActive then b.modeconv e .putDmrEot else b
    { b with dmrLastDtype := dmrdDtypeVterm }
  else if dmrdIsVoice pkt then
    let b :=
      if b.callActive then b
      else { b.beginDmrToYsf e pkt with dmrSeq := byteAt pkt 4 }.modeconv e .putDmrHeader
    let b := b.modeconv e (.putDmrVoice ((pkt.drop 20).take 33))
    { b with dmrVoiceFrames := b.dmrVoiceFrames + 1, dmrLastDtype := dmrdB15Dtype pkt }
  else if b.callActive then { b with dmrDmrdOther := b.dmrDmrdOther + 1 }
  else b

/-- The start of a YSF→DMR call in `bridge_on_ysfd`. -/
def startYsfCall (pkt : List UInt8) : Bridge :=
  let b := b.abortConnectPtt e
  let b := { b with callActive := true }
  let (sid, b) := b.newStreamId e
  modeconvReset { b.log (.start .call sid) with
    dmrStreamId := sid, dmrSeq := 0, dmrTxFrames := 0, dmrVoiceFrames := 0,
    ysfFn := byteAt pkt 48 }

/-- The FICH of a YSFD that the bridge does not skip. -/
def acceptedFich (pkt : List UInt8) : Option Fich :=
  if ysfdIsPacket pkt then
    (e.fichDecode pkt).filter fun f => ysfDgidAccepts e.cfg.dgid f.dgid
  else none

def onYsfd (pkt : List UInt8) : Bridge :=
  match acceptedFich e pkt with
  | none => b
  | some f =>
    if f.fi = ysfFiHeader then
      let r := b.resolveYsfHeader e pkt
      let b := r.2
      if !r.1 || !b.ysfTalkerReady e then b
      else
        let b := if b.callActive then b else b.startYsfCall e pkt
        b.modeconv e .putYsfHeader
    else if f.fi = ysfFiTerminator then
      if b.callActive then b.modeconv e .putYsfEot else b
    else if f.fi = ysfFiCommunications then
      if !b.ysfTalkerReady e then b
      else
        let b := if b.callActive then b else { b.startYsfCall e pkt with ysfVoiceFrames := 0 }
        let b := b.modeconv e (.putYsfPayload (ysfModeconvChunk pkt))
        { b with ysfVoiceFrames := b.ysfVoiceFrames + 1 }
    else b

def paceDmr : Bridge :=
  if b.connectPttActive then b
  else if msElapsed b.clock.now b.lastDmrTx dmrFrameMs then b.tock.emitDmrFromConv e
  else b.tock

def paceYsf : Bridge :=
  if msElapsed b.clock.now b.lastYsfTx ysfFrameMs then b.tock.emitYsfFromConv e else b.tock

def tick (dmrUp ysfUp : Bool) : Bridge :=
  let b := b.pollConnectPtt e dmrUp
  if !dmrUp || !ysfUp then b else (b.paceDmr e).paceYsf e

end

end Bridge

/-- What reaches the bridge: packets, timer ticks with the state of the links, new tables. Each
comes with what the clock reads from then on. -/
inductive BridgeEvent where
  | dmrd (clock : Clock) (pkt : List UInt8)
  | ysfd (clock : Clock) (pkt : List UInt8)
  | tick (clock : Clock) (dmrUp ysfUp : Bool)
  | aliases (db : AliasDb)

namespace Bridge

def step (e : Env) (b : Bridge) : BridgeEvent → Bridge
  | .dmrd clock pkt => { b with clock := clock }.onDmrd e pkt
  | .ysfd clock pkt => { b with clock := clock }.onYsfd e pkt
  | .tick clock dmrUp ysfUp => { b with clock := clock }.tick e dmrUp ysfUp
  | .aliases db => { b with aliases := db }

def machine (e : Env) (clock : Clock) (db : AliasDb) : Machine Bridge BridgeEvent :=
  ⟨init clock db, fun b ev => some (b.step e ev)⟩

theorem meets_cons {C : Bridge → BridgeEvent → Prop} : (machine e c db).Meets C b (ev :: evs) ↔
    C b ev ∧ (machine e c db).Meets C (b.step e ev) evs :=
  Machine.meets_cons_some rfl

theorem always_cons {P : Bridge → Prop} : (machine e c db).Always P b (ev :: evs) ↔
    P b ∧ (machine e c db).Always P (b.step e ev) evs :=
  Machine.always_cons_some rfl

theorem always_run {P : Bridge → Prop} (h : (machine e c db).Always P b evs) :
    P (evs.foldl (step e) b) :=
  h.foldl fun _ _ => rfl

end Bridge

section

/-- A FICH as it is coded on the wire: VD mode 2, not tagged, first frame of seven. -/
def headerFich : List UInt8 :=
  [0x21, 0x3D, 0x38, 0xA4, 0xBE, 0x31, 0x21, 0xFC, 0x31, 0x23, 0xCF, 0x82, 0x80,
   0xE0, 0x94, 0x4B, 0xB3, 0x00, 0x76, 0x7C, 0x4F, 0xDC, 0x23, 0x07, 0x28]

def communicationsFich : List UInt8 :=
  [0x11, 0xCD, 0x38, 0x4D, 0xC1, 0xF2, 0xB1, 0xFC, 0x46, 0xDD, 0x8E, 0x72, 0x83,
   0xE4, 0x0E, 0x07, 0x73, 0x02, 0xE8, 0x57, 0xC5, 0x1C, 0x23, 0xF2, 0x60]

def terminatorFich : List UInt8 :=
  [0xE2, 0x9D, 0x38, 0x78, 0x41, 0x70, 0xC1, 0xFF, 0x01, 0xB8, 0x83, 0xB2, 0x82,
   0x96, 0xBD, 0xC1, 0xF3, 0x00, 0xF7, 0x37, 0x8C, 0x1C, 0x23, 0xAA, 0xD8]

/-- What `ysf_fich_decode_fields` makes of the three frames above. -/
def sampleFichDecode (pkt : List UInt8) : Option Fich :=
  let fich := (pkt.drop 40).take 25
  if fich = headerFich then some ⟨ysfFiHeader, 0, ysfFichFt, 0, ysfDtVdMode2, 0⟩
  else if fich = communicationsFich then some ⟨ysfFiCommunications, 0, ysfFichFt, 0, ysfDtVdMode2, 0⟩
  else if fich = terminatorFich then some ⟨ysfFiTerminator, 0, ysfFichFt, 0, ysfDtVdMode2, 0⟩
  else none

/-- `"CE5RPY    "`. -/
def sampleCallsign : List UInt8 := [0x43, 0x45, 0x35, 0x52, 0x50, 0x59] ++ spaces 4

def sampleYsfd (fich : List UInt8) : List UInt8 :=
  ysfdMagic ++ sampleCallsign ++ sampleCallsign ++ ysfWireDstAll ++ [0] ++ ysfSyncBytes ++ fich ++
    List.replicate 90 0

/-- A group packet from 258 to talkgroup 3 on TS2. -/
def sampleDmrd (b15 : UInt8) : List UInt8 :=
  dmrdMagic ++ [0, 0, 1, 2, 0, 0, 3, 0, 0, 0, 9, b15, 0x0D, 0x0C, 0x0B, 0x0A] ++
    List.replicate 35 0

def silentCodec : Codec where
  ysfToDmr := fun _ _ => ModeConv.dmrSilence
  dmrToYsf := fun _ _ => ModeConv.ysfSilence
  ambe7ToDmr := fun _ => ModeConv.dmrSilence
  ambe7ToYsf := fun _ => ModeConv.ysfSilence
  dmr33ToAmbe := fun _ _ => List.replicate 7 0

theorem sampleDmrid_pos : (0 : Int) < 7301234 := by decide

def sampleEnv : Env where
  cfg := {
    dmrid := 7301234, tg := 730, callsign := sampleCallsign, ysfCallsign := sampleCallsign,
    dgid := 0, clearDynamicTg := false, dmrid_pos := sampleDmrid_pos, tg_pos := by decide }
  codec := silentCodec
  fichDecode := sampleFichDecode
  processHeader := fun _ => none
  rand := fun n => 2 * UInt32.ofNat n

def noAliases : AliasDb := ⟨fun _ => 0, fun _ => none⟩

/-- Events at `ms` milliseconds after the start, the clock standing still during each. -/
def tickAt (ms : Nat) (dmrUp ysfUp : Bool) : BridgeEvent := .tick (.stopped ms) dmrUp ysfUp

def ysfdAt (ms : Nat) (fich : List UInt8) : BridgeEvent := .ysfd (.stopped ms) (sampleYsfd fich)

def dmrdAt (ms : Nat) (b15 : UInt8) : BridgeEvent := .dmrd (.stopped ms) (sampleDmrd b15)

end

end AdnBridge
