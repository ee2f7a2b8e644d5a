import Mathlib.Tactic.Common
import Mathlib.Data.List.Basic

namespace AdnBridge
set_option autoImplicit true

def dmrdFtDataSync : UInt8 := 2
def dmrdFtVoiceSync : UInt8 := 1
def dmrdDtypeVhead : UInt8 := 1
def dmrdDtypeVterm : UInt8 := 2

/-- Always TS2. -/
def dmrSlotBit : UInt8 := 0x80

def dmrdMagic : List UInt8 := [0x44, 0x4D, 0x52, 0x44]

def byteAt (pkt : List UInt8) (i : Nat) : UInt8 := pkt.getD i 0

/-- The frame type and the data type of HBP byte 15. -/
def dmrdParseB15 (b15 : UInt8) : UInt8 × UInt8 := ((b15 >>> 4) &&& 0x03, b15 &&& 0x0F)

def dmrdIsPacket (pkt : List UInt8) : Bool := pkt.length == 55 && pkt.take 4 == dmrdMagic

def dmrdIsVoice (pkt : List UInt8) : Bool :=
  dmrdIsPacket pkt && (byteAt pkt 15 &&& 0x40) == 0 && (dmrdParseB15 (byteAt pkt 15)).1 ≤ 1

def dmrdIsHeader (pkt : List UInt8) : Bool :=
  dmrdIsPacket pkt && (byteAt pkt 15 &&& 0x40) == 0 &&
    dmrdParseB15 (byteAt pkt 15) == (dmrdFtDataSync, dmrdDtypeVhead)

def dmrdIsTerminator (pkt : List UInt8) : Bool :=
  dmrdIsPacket pkt && dmrdParseB15 (byteAt pkt 15) == (dmrdFtDataSync, dmrdDtypeVterm)

def dmrdB15Dtype (pkt : List UInt8) : UInt8 := (dmrdParseB15 (byteAt pkt 15)).2

/-- The stream id at byte 16, in the byte order of the host. -/
def dmrdStream (pkt : List UInt8) : UInt32 :=
  (byteAt pkt 16).toUInt32 ||| ((byteAt pkt 17).toUInt32 <<< 8) |||
    ((byteAt pkt 18).toUInt32 <<< 16) ||| ((byteAt pkt 19).toUInt32 <<< 24)

def be24 (pkt : List UInt8) (i : Nat) : Int :=
  (byteAt pkt i).toNat * 65536 + (byteAt pkt (i + 1)).toNat * 256 + (byteAt pkt (i + 2)).toNat

def dmrIdRf24 (dmrid : Int) : Int := if dmrid > 99999999 then dmrid.tdiv 100 else dmrid

/-- A DMRD packet as it is sent, before the link control coding of its 33 burst bytes. -/
structure Dmrd where
  seq : UInt8
  src : Int
  dst : Int
  gw : Int
  b15 : UInt8
  stream : UInt32
  voice33 : Option (List UInt8)
deriving DecidableEq

namespace Dmrd

def ft (p : Dmrd) : UInt8 := (dmrdParseB15 p.b15).1

def dtype (p : Dmrd) : UInt8 := (dmrdParseB15 p.b15).2

def isVhead (p : Dmrd) : Bool := p.ft == dmrdFtDataSync && p.dtype == dmrdDtypeVhead

def isVterm (p : Dmrd) : Bool := p.ft == dmrdFtDataSync && p.dtype == dmrdDtypeVterm

def isVoice (p : Dmrd) : Bool := p.ft ≤ 1

/-- The place of a voice burst in its superframe of six; the sync burst is the first. -/
def index (p : Dmrd) : Nat := if p.ft = dmrdFtVoiceSync then 0 else p.dtype.toNat

end Dmrd

def vheadB15 : UInt8 := dmrSlotBit ||| (dmrdFtDataSync <<< 4) ||| dmrdDtypeVhead

def vtermB15 : UInt8 := dmrSlotBit ||| (dmrdFtDataSync <<< 4) ||| dmrdDtypeVterm

/-- Byte 15 of the voice burst after `frames` others. -/
def voiceB15 (frames : Nat) : UInt8 :=
  if frames % 6 = 0 then dmrSlotBit ||| (dmrdFtVoiceSync <<< 4)
  else dmrSlotBit ||| (frames % 6).toUInt8

def padB15 (frames : Nat) : UInt8 := dmrSlotBit ||| (frames % 6).toUInt8

theorem padB15_eq (h : frames % 6 ≠ 0) : padB15 frames = voiceB15 frames := by
  rw [voiceB15, if_neg h, padB15]

theorem voiceB15_parse (frames : Nat) :
    dmrdParseB15 (voiceB15 frames) =
      if frames % 6 = 0 then (dmrdFtVoiceSync, 0) else (0, (frames % 6).toUInt8) := by
  have h6 : frames % 6 < 6 := Nat.mod_lt _ (by decide)
  rw [voiceB15]
  generalize frames % 6 = n at h6
  revert n
  decide

section
variable {p : Dmrd}

theorem Dmrd.isVhead_of_b15 (h : p.b15 = vheadB15) :
    p.isVhead = true ∧ p.isVterm = false ∧ p.isVoice = false := by
  simp only [isVhead, isVterm, isVoice, ft, dtype, h]
  decide

theorem Dmrd.isVterm_of_b15 (h : p.b15 = vtermB15) :
    p.isVhead = false ∧ p.isVterm = true ∧ p.isVoice = false := by
  simp only [isVhead, isVterm, isVoice, ft, dtype, h]
  decide

theorem Dmrd.isVoice_of_b15 (h : p.b15 = voiceB15 frames) :
    p.isVhead = false ∧ p.isVterm = false ∧ p.isVoice = true ∧ p.index = frames % 6 := by
  have h6 : frames % 6 < 6 := Nat.mod_lt _ (by decide)
  simp only [isVhead, isVterm, isVoice, index, ft, dtype, h, voiceB15_parse]
  generalize frames % 6 = n at h6
  revert n
  decide

end

end AdnBridge
