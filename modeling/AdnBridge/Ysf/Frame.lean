import AdnBridge.Hbp.Dmrd

namespace AdnBridge
set_option autoImplicit true

def ysfFiHeader : UInt8 := 0
def ysfFiCommunications : UInt8 := 1
def ysfFiTerminator : UInt8 := 2
def ysfDtVdMode2 : UInt8 := 2
def ysfFichFt : UInt8 := 6
def ysfFichCm : UInt8 := 0
def ysfFichOffsetNet : Nat := 35

def ysfdMagic : List UInt8 := [0x59, 0x53, 0x46, 0x44]

def ysfSyncBytes : List UInt8 := [0xD4, 0x71, 0xC9, 0x63, 0x4D]

def spaces (n : Nat) : List UInt8 := List.replicate n 0x20

/-- `"ALL       "`. -/
def ysfWireDstAll : List UInt8 := [0x41, 0x4C, 0x4C] ++ spaces 7

/-- The fields that decoding a FICH gives, with the DG-ID it leaves behind. -/
structure Fich where
  fi : UInt8
  fn : UInt8
  ft : UInt8
  cm : UInt8
  dt : UInt8
  dgid : UInt8

def ysfdIsPacket (pkt : List UInt8) : Bool := pkt.length == 155 && pkt.take 4 == ysfdMagic

/-- DG-ID 0 is untagged; only the traffic of another room is skipped. -/
def ysfDgidAccepts (want rx : UInt8) : Bool := !(want ≥ 1 && rx ≥ 1 && rx != want)

def ysfPktHasRfSync (pkt : List UInt8) : Bool :=
  (pkt.drop ysfFichOffsetNet).take 5 == ysfSyncBytes

/-- Repack a network YSFD without leading sync into sync, FICH and payload. -/
def ysfNetToRf120 (pkt : List UInt8) : List UInt8 :=
  ysfSyncBytes ++ (pkt.drop ysfFichOffsetNet).take 115

def ysfModeconvChunk (pkt : List UInt8) : List UInt8 :=
  if ysfPktHasRfSync pkt then (pkt.drop ysfFichOffsetNet).take 120 else ysfNetToRf120 pkt

/-- A YSFD frame as it is sent, before its FICH and DCH are coded: the callsigns, the counters,
and for a voice frame the payload with the DCH label of its slot. -/
structure Ysfd where
  gateway : List UInt8
  src : List UInt8
  fi : UInt8
  fn : UInt8
  ft : UInt8
  cm : UInt8
  netCnt : UInt8
  csd : Option (List UInt8 × List UInt8)
  payload : Option (List UInt8 × List UInt8)
deriving DecidableEq

def radioIdToDch5 : List UInt8 := List.replicate 5 0x2A

def ysfDchDt1 : List UInt8 := [1, 34, 97, 95, 43, 3, 17, 0, 0, 0]

def ysfDchDt2 : List UInt8 := [0, 0, 0, 0, 108, 32, 28, 32, 3, 8]

def fillYsfCsd (netSrc : List UInt8) : List UInt8 × List UInt8 :=
  (List.replicate 5 0x2A ++ radioIdToDch5 ++ netSrc, spaces 20)

/-- The label that slot `fn` of the DCH carries. -/
def ysfDchSlot (netSrc netDst : List UInt8) (fn : UInt8) : List UInt8 :=
  if fn = 0 then List.replicate 5 0x2A ++ radioIdToDch5
  else if fn = 1 then netSrc
  else if fn = 2 then netDst
  else if fn = 5 then spaces 5 ++ radioIdToDch5
  else if fn = 6 then ysfDchDt1
  else if fn = 7 then ysfDchDt2
  else spaces 10

/-- The frame number of voice frame `ysfCnt`; the counter wraps at 256 and the subtraction is
made on 32 bits. -/
def ysfVoiceFn (ysfCnt : UInt8) : UInt8 := ((ysfCnt.toUInt32 - 1) % (ysfFichFt.toUInt32 + 1)).toUInt8

def ysfVoiceNet (ysfCnt : UInt8) : UInt8 := (ysfCnt &&& 0x7F) <<< 1

end AdnBridge
