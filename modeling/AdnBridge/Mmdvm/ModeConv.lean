import AdnBridge.Lib.Regroup
import AdnBridge.Mmdvm.RingBuffer

namespace AdnBridge
set_option autoImplicit true

def tagHeader : UInt8 := 0x00
def tagData : UInt8 := 0x01
def tagEot : UInt8 := 0x03
def tagNoData : UInt8 := 0x04

/-- One of the two queues of `CModeConv`: `m_YSF` with `m_ysfN`, or `m_DMR` with `m_dmrN`. -/
structure Channel where
  ring : CRingBuffer UInt8 5000
  n : Nat

namespace Channel

def empty : Channel := ⟨CRingBuffer.new (by decide), 0⟩

/-- The two writes of an entry; the counter goes up whether or not they went in. -/
def put (c : Channel) (tag : UInt8) (payload : List UInt8) : Channel where
  ring := ((c.ring.addData [tag]).1.addData payload).1
  n := c.n + 1

def putOk (c : Channel) (tag : UInt8) (payload : List UInt8) : Bool :=
  (c.ring.addData [tag]).2 && ((c.ring.addData [tag]).1.addData payload).2

def putEot (w g : Nat) (silence : List UInt8) (c : Channel) : Channel :=
  ((fun c => c.put tagData silence)^[g - c.n % g] c).put tagEot (List.replicate w 0)

/-- Read a tag and a payload of `w` bytes; a read that underflows leaves its target as it was. -/
def shift (w : Nat) (tag : UInt8) (c : Channel) : UInt8 × List UInt8 × Channel :=
  let (tag, r) := ((c.ring.getData 1).map fun r => (r.1.headD tag, r.2)).getD (tag, c.ring)
  let (data, r) := (r.getData w).getD (List.replicate w 0, r)
  (tag, data, ⟨r, c.n - 1⟩)

def shiftMany (w : Nat) : Nat → Channel → List (List UInt8) × Channel
  | 0, c => ([], c)
  | k + 1, c =>
    let (_, data, c) := c.shift w tagData
    (data :: (shiftMany w k c).1, (shiftMany w k c).2)

/-- `getDMR` and `getYSF`: a marker comes alone, voice in groups of `g` payloads of `w` bytes. -/
def get (w g : Nat) (c : Channel) : UInt8 × List (List UInt8) × Channel :=
  let tag := ((c.ring.peek 1).map fun d => d.headD tagNoData).getD tagNoData
  if c.n ≥ 1 ∧ tag ≠ tagData then
    let (tag, data, c) := c.shift w tag
    (tag, [data], c)
  else if c.n ≥ g then
    let (data, c) := c.shiftMany w g
    (tagData, data, c)
  else (tagNoData, [], c)

end Channel

/-- The AMBE recoding between the two voice formats, which the queues carry without looking. -/
structure Codec where
  ysfToDmr : List UInt8 → Fin 5 → Vector UInt8 9
  dmrToYsf : List UInt8 → Fin 3 → Vector UInt8 13
  ambe7ToDmr : List UInt8 → Vector UInt8 9
  ambe7ToYsf : List UInt8 → Vector UInt8 13
  dmr33ToAmbe : List UInt8 → Fin 3 → List UInt8

structure ModeConv where
  ysf : Channel
  dmr : Channel

namespace ModeConv

def dmrSilence : Vector UInt8 9 :=
  #v[0xB9, 0xE8, 0x81, 0x52, 0x61, 0x73, 0x00, 0x2A, 0x6B]

def ysfSilence : Vector UInt8 13 :=
  #v[0x7B, 0xB2, 0x8E, 0x43, 0x36, 0xE4, 0xA2, 0x39, 0x78, 0x49, 0x33, 0x68, 0x33]

def reset : ModeConv := ⟨.empty, .empty⟩

variable (k : Codec) (m : ModeConv)

def putDmrHeader : ModeConv :=
  { m with ysf := m.ysf.put tagHeader (List.replicate 13 0) }

def putDmrVoice (frame33 : List UInt8) : ModeConv :=
  let put c j := Channel.put c tagData (k.dmrToYsf frame33 j).toList
  { m with ysf := (List.finRange 3).foldl put m.ysf }

def putAmbe7Ysf (ambe7 : List UInt8) : ModeConv :=
  { m with ysf := m.ysf.put tagData (k.ambe7ToYsf ambe7).toList }

def putDmrEot : ModeConv :=
  { m with ysf := m.ysf.putEot 13 5 ysfSilence.toList }

def putYsfHeader : ModeConv :=
  { m with dmr := m.dmr.put tagHeader (List.replicate 9 0) }

def putYsfPayload (ysf120 : List UInt8) : ModeConv :=
  let put c j := Channel.put c tagData (k.ysfToDmr ysf120 j).toList
  { m with dmr := (List.finRange 5).foldl put m.dmr }

def putAmbe7 (ambe7 : List UInt8) : ModeConv :=
  { m with dmr := m.dmr.put tagData (k.ambe7ToDmr ambe7).toList }

def putYsfEot : ModeConv :=
  { m with dmr := m.dmr.putEot 9 3 dmrSilence.toList }

/-- The 33-byte burst: the middle frame is split around the sync field, bytes 14 to 18. -/
def voice33 : List (List UInt8) → List UInt8
  | [a, b, c] =>
    a ++ b.take 4 ++ [b.getD 4 0 &&& 0xF0] ++ List.replicate 5 0 ++ [b.getD 4 0 &&& 0x0F] ++
      b.drop 5 ++ c
  | a :: _ => a ++ List.replicate 24 0
  | [] => List.replicate 33 0

/-- The 120-byte payload: voice channels of 13 bytes from byte 35 on, 18 apart. -/
def ysf120 : List (List UInt8) → List UInt8
  | [] => List.replicate 120 0
  | [a] => List.replicate 30 0 ++ a ++ List.replicate 77 0
  | vs => List.replicate 30 0 ++ vs.flatMap fun v => List.replicate 5 0 ++ v

def getDmr : UInt8 × List UInt8 × ModeConv :=
  let (tag, data, c) := m.dmr.get 9 3
  (tag, voice33 data, { m with dmr := c })

def getYsf : UInt8 × List UInt8 × ModeConv :=
  let (tag, data, c) := m.ysf.get 13 5
  (tag, ysf120 data, { m with ysf := c })

end ModeConv

end AdnBridge
