import AdnBridge.Mmdvm.Golay24128
import AdnBridge.Ysf.Frame

namespace AdnBridge
set_option autoImplicit true

def branchTable1 : List Nat := [0, 0, 0, 0, 1, 1, 1, 1]

def branchTable2 : List Nat := [0, 1, 1, 0, 0, 1, 1, 0]

def interleaveTable : List Nat := [
  0, 40, 80, 120, 160, 2, 42, 82, 122, 162, 4, 44, 84, 124, 164, 6, 46, 86, 126, 166,
  8, 48, 88, 128, 168, 10, 50, 90, 130, 170, 12, 52, 92, 132, 172, 14, 54, 94, 134, 174,
  16, 56, 96, 136, 176, 18, 58, 98, 138, 178, 20, 60, 100, 140, 180, 22, 62, 102, 142, 182,
  24, 64, 104, 144, 184, 26, 66, 106, 146, 186, 28, 68, 108, 148, 188, 30, 70, 110, 150, 190,
  32, 72, 112, 152, 192, 34, 74, 114, 154, 194, 36, 76, 116, 156, 196, 38, 78, 118, 158, 198]

def ccitt16Table2 : List UInt16 := [
  0x0000, 0x1021, 0x2042, 0x3063, 0x4084, 0x50A5, 0x60C6, 0x70E7, 0x8108, 0x9129,
  0xA14A, 0xB16B, 0xC18C, 0xD1AD, 0xE1CE, 0xF1EF, 0x1231, 0x0210, 0x3273, 0x2252,
  0x52B5, 0x4294, 0x72F7, 0x62D6, 0x9339, 0x8318, 0xB37B, 0xA35A, 0xD3BD, 0xC39C,
  0xF3FF, 0xE3DE, 0x2462, 0x3443, 0x0420, 0x1401, 0x64E6, 0x74C7, 0x44A4, 0x5485,
  0xA56A, 0xB54B, 0x8528, 0x9509, 0xE5EE, 0xF5CF, 0xC5AC, 0xD58D, 0x3653, 0x2672,
  0x1611, 0x0630, 0x76D7, 0x66F6, 0x5695, 0x46B4, 0xB75B, 0xA77A, 0x9719, 0x8738,
  0xF7DF, 0xE7FE, 0xD79D, 0xC7BC, 0x48C4, 0x58E5, 0x6886, 0x78A7, 0x0840, 0x1861,
  0x2802, 0x3823, 0xC9CC, 0xD9ED, 0xE98E, 0xF9AF, 0x8948, 0x9969, 0xA90A, 0xB92B,
  0x5AF5, 0x4AD4, 0x7AB7, 0x6A96, 0x1A71, 0x0A50, 0x3A33, 0x2A12, 0xDBFD, 0xCBDC,
  0xFBBF, 0xEB9E, 0x9B79, 0x8B58, 0xBB3B, 0xAB1A, 0x6CA6, 0x7C87, 0x4CE4, 0x5CC5,
  0x2C22, 0x3C03, 0x0C60, 0x1C41, 0xEDAE, 0xFD8F, 0xCDEC, 0xDDCD, 0xAD2A, 0xBD0B,
  0x8D68, 0x9D49, 0x7E97, 0x6EB6, 0x5ED5, 0x4EF4, 0x3E13, 0x2E32, 0x1E51, 0x0E70,
  0xFF9F, 0xEFBE, 0xDFDD, 0xCFFC, 0xBF1B, 0xAF3A, 0x9F59, 0x8F78, 0x9188, 0x81A9,
  0xB1CA, 0xA1EB, 0xD10C, 0xC12D, 0xF14E, 0xE16F, 0x1080, 0x00A1, 0x30C2, 0x20E3,
  0x5004, 0x4025, 0x7046, 0x6067, 0x83B9, 0x9398, 0xA3FB, 0xB3DA, 0xC33D, 0xD31C,
  0xE37F, 0xF35E, 0x02B1, 0x1290, 0x22F3, 0x32D2, 0x4235, 0x5214, 0x6277, 0x7256,
  0xB5EA, 0xA5CB, 0x95A8, 0x8589, 0xF56E, 0xE54F, 0xD52C, 0xC50D, 0x34E2, 0x24C3,
  0x14A0, 0x0481, 0x7466, 0x6447, 0x5424, 0x4405, 0xA7DB, 0xB7FA, 0x8799, 0x97B8,
  0xE75F, 0xF77E, 0xC71D, 0xD73C, 0x26D3, 0x36F2, 0x0691, 0x16B0, 0x6657, 0x7676,
  0x4615, 0x5634, 0xD94C, 0xC96D, 0xF90E, 0xE92F, 0x99C8, 0x89E9, 0xB98A, 0xA9AB,
  0x5844, 0x4865, 0x7806, 0x6827, 0x18C0, 0x08E1, 0x3882, 0x28A3, 0xCB7D, 0xDB5C,
  0xEB3F, 0xFB1E, 0x8BF9, 0x9BD8, 0xABBB, 0xBB9A, 0x4A75, 0x5A54, 0x6A37, 0x7A16,
  0x0AF1, 0x1AD0, 0x2AB3, 0x3A92, 0xFD2E, 0xED0F, 0xDD6C, 0xCD4D, 0xBDAA, 0xAD8B,
  0x9DE8, 0x8DC9, 0x7C26, 0x6C07, 0x5C64, 0x4C45, 0x3CA2, 0x2C83, 0x1CE0, 0x0CC1,
  0xEF1F, 0xFF3E, 0xCF5D, 0xDF7C, 0xAF9B, 0xBFBA, 0x8FD9, 0x9FF8, 0x6E17, 0x7E36,
  0x4E55, 0x5E74, 0x2E93, 0x3EB2, 0x0ED1, 0x1EF0]

/-- The globals of `ysf_fich.c`. A word of `m_decisions` is the list of its low sixteen bits. -/
structure FichCodec where
  oldMetrics : List Nat
  newMetrics : List Nat
  decisions : List (List Bool)
  dp : Nat
  fich : List UInt8
  oldMetrics_length : oldMetrics.length = 16
  newMetrics_length : newMetrics.length = 16
  decisions_length : decisions.length = 180
  fich_length : fich.length = 6

/-- One round of `addCCITT162`. -/
def crcStep (input : List UInt8) (crc : UInt16) (i : Nat) : UInt16 :=
  crc.toUInt8.toUInt16 <<< 8 ^^^
    ccitt16Table2.getD ((crc >>> 8).toUInt8 ^^^ input.getD i 0).toNat 0

def addCCITT162 (input : List UInt8) (length : Nat) : List UInt8 :=
  let crc := ~~~((List.range (length - 2)).foldl (crcStep input) 0)
  (input.set (length - 1) crc.toUInt8).set (length - 2) (crc >>> 8).toUInt8

/-- One turn of the loop of `convolution_decode`: the two states that `i` and `i + 8` lead to. -/
def butterfly (oldMetrics : List Nat) (s0 s1 : Nat) (x : List Nat × List Bool) (i : Nat) :
    List Nat × List Bool :=
  let j := i * 2
  let metric := (branchTable1.getD i 0 ^^^ s0) + (branchTable2.getD i 0 ^^^ s1)
  let m0 := oldMetrics.getD i 0 + metric
  let m1 := oldMetrics.getD (i + 8) 0 + (2 - metric)
  let decision0 := decide (m0 ≥ m1)
  let n0 := oldMetrics.getD i 0 + (2 - metric)
  let n1 := oldMetrics.getD (i + 8) 0 + metric
  let decision1 := decide (n0 ≥ n1)
  ((x.1.set j (if decision0 then m1 else m0)).set (j + 1) (if decision1 then n1 else n0),
    (x.2.set j decision0).set (j + 1) decision1)

@[simp] theorem butterfly_length (oldMetrics : List Nat) (s0 s1 : Nat) (x : List Nat × List Bool)
    (l : List Nat) : (l.foldl (butterfly oldMetrics s0 s1) x).1.length = x.1.length ∧
      (l.foldl (butterfly oldMetrics s0 s1) x).2.length = x.2.length := by
  induction l generalizing x with
  | nil => exact ⟨rfl, rfl⟩
  | cons i l ih =>
    obtain ⟨h1, h2⟩ := ih (butterfly oldMetrics s0 s1 x i)
    rw [List.foldl_cons, h1, h2, butterfly]
    simp only [List.length_set, and_self]

namespace FichCodec

def convolutionDecode (c : FichCodec) (s0 s1 : Nat) : FichCodec :=
  let x := (List.range 8).foldl (butterfly c.oldMetrics s0 s1)
    (c.newMetrics, List.replicate 16 false)
  { c with
    oldMetrics := x.1
    newMetrics := c.oldMetrics
    decisions := c.decisions.set c.dp x.2
    dp := c.dp + 1
    oldMetrics_length := (butterfly_length _ _ _ _ _).1.trans c.newMetrics_length
    newMetrics_length := c.oldMetrics_length
    decisions_length := List.length_set.trans c.decisions_length }

end FichCodec

/-- The loop of `convolution_chainback`; `state` has eight bits, of which the high four count. -/
def chainbackLoop (decisions : List (List Bool)) :
    Nat → Nat → Nat → List UInt8 → List UInt8
  | 0, _, _, out => out
  | nBits + 1, dp, state, out =>
    let bit := (decisions.getD (dp - 1) []).getD (state >>> 4) false
    chainbackLoop decisions nBits (dp - 1) (bit.toNat <<< 7 ||| state >>> 1)
      (writeBit out nBits bit)

def convolutionChainback (c : FichCodec) (out : List UInt8) (nBits : Nat) : List UInt8 :=
  chainbackLoop c.decisions nBits c.dp 0 out

/-- The last four input bits of `convolution_encode`, the newest first. -/
structure Delay where
  d1 : Bool
  d2 : Bool
  d3 : Bool
  d4 : Bool
deriving DecidableEq

namespace Delay

def init : Delay := ⟨false, false, false, false⟩

def output (r : Delay) (d : Bool) : Bool × Bool := (d ^^ r.d3 ^^ r.d4, d ^^ r.d1 ^^ r.d2 ^^ r.d4)

def shift (r : Delay) (d : Bool) : Delay := ⟨d, r.d1, r.d2, r.d3⟩

end Delay

/-- One turn of the loop of `convolution_encode`. -/
def convolutionStep (input : List UInt8) (x : Delay × Nat × List UInt8) (i : Nat) :
    Delay × Nat × List UInt8 :=
  let d := readBit input i
  let g := x.1.output d
  (x.1.shift d, x.2.1 + 2, writeBit (writeBit x.2.2 x.2.1 g.1) (x.2.1 + 1) g.2)

def convolutionEncode (input out : List UInt8) (nBits : Nat) : List UInt8 :=
  ((List.range nBits).foldl (convolutionStep input) (Delay.init, 0, out)).2.2

/-- `decode24128`, with its three bytes at an offset. -/
def decode24128At (bytes : List UInt8) (i : Nat) : Nat :=
  let code := (bytes.getD i 0).toNat
  let code := code <<< 8 ||| (bytes.getD (i + 1) 0).toNat
  let code := code <<< 8 ||| (bytes.getD (i + 2) 0).toNat
  Golay24128.decode24128 code

/-- The last byte of a word, as `& 0xFFU` stores it. -/
def lowByte (x : Nat) : UInt8 := (x &&& 0xFF).toUInt8

/-- The six bytes that the four decoded words make. -/
def fichOfWords (b0 b1 b2 b3 : Nat) : List UInt8 :=
  [lowByte (b0 >>> 4), (b0 <<< 4 &&& 0xF0 ||| b1 >>> 8 &&& 0x0F).toUInt8, lowByte b1,
    lowByte (b2 >>> 4), (b2 <<< 4 &&& 0xF0 ||| b3 >>> 8 &&& 0x0F).toUInt8, lowByte b3]

/-- The four words of the six bytes. -/
def wordsOfFich (fich : List UInt8) : List Nat :=
  let m (i : Nat) := (fich.getD i 0).toNat
  [m 0 <<< 4 &&& 0xFF0 ||| m 1 >>> 4 &&& 0x00F, m 1 <<< 8 &&& 0xF00 ||| m 2 &&& 0x0FF,
    m 3 <<< 4 &&& 0xFF0 ||| m 4 >>> 4 &&& 0x00F, m 4 <<< 8 &&& 0xF00 ||| m 5 &&& 0x0FF]

def codeBytes (c : Nat) : List UInt8 := [lowByte (c >>> 16), lowByte (c >>> 8), lowByte c]

namespace FichCodec

/-- The dibits in the order in which the decoder takes them. -/
def dibits (bytes : List UInt8) : List (Bool × Bool) :=
  interleaveTable.map fun n => (readBit bytes n, readBit bytes (n + 1))

/-- The decoder as the two `memset`s leave it. -/
def cleared (c : FichCodec) : FichCodec :=
  { c with
    oldMetrics := List.replicate 16 0
    newMetrics := List.replicate 16 0
    dp := 0
    oldMetrics_length := List.length_replicate
    newMetrics_length := List.length_replicate }

def decodeDibits (c : FichCodec) (l : List (Bool × Bool)) : FichCodec :=
  l.foldl (fun c s => c.convolutionDecode s.1.toNat s.2.toNat) c

def fichDecode (c : FichCodec) (bytes : List UInt8) : FichCodec :=
  let c := c.cleared.decodeDibits (dibits bytes)
  let output := convolutionChainback c (List.replicate 13 0) 96
  { c with
    fich := fichOfWords (decode24128At output 0) (decode24128At output 3)
      (decode24128At output 6) (decode24128At output 9)
    fich_length := rfl }

theorem addCCITT162_length (input : List UInt8) (length : Nat) :
    (addCCITT162 input length).length = input.length := by
  rw [addCCITT162, List.length_set, List.length_set]

/-- The thirteen bytes that `fich_encode` hands to the convolutional code. -/
def golayBytes (fich : List UInt8) : List UInt8 :=
  (wordsOfFich fich).flatMap (fun b => codeBytes (Golay24128.encode24128 b)) ++ [0]

/-- The dibits of `convolved`, each at its interleaved place. -/
def writeDibits (convolved bytes : List UInt8) : List UInt8 :=
  interleaveTable.zipIdx.foldl (fun bytes x =>
    writeBit (writeBit bytes x.1 (readBit convolved (2 * x.2))) (x.1 + 1)
      (readBit convolved (2 * x.2 + 1))) bytes

def fichEncode (c : FichCodec) (bytes : List UInt8) : FichCodec × List UInt8 :=
  let fich := addCCITT162 c.fich 6
  ({ c with fich := fich, fich_length := (addCCITT162_length _ _).trans c.fich_length },
    writeDibits (convolutionEncode (golayBytes fich) (List.replicate 25 0) 100) bytes)

/-- The globals before anything is decoded. -/
def init : FichCodec where
  oldMetrics := List.replicate 16 0
  newMetrics := List.replicate 16 0
  decisions := List.replicate 180 (List.replicate 16 false)
  dp := 0
  fich := List.replicate 6 0
  oldMetrics_length := List.length_replicate
  newMetrics_length := List.length_replicate
  decisions_length := List.length_replicate
  fich_length := List.length_replicate

end FichCodec

def ysfFichOffsetRx : Nat := 40

def ysfFichGuessRxOffset (frame : List UInt8) : Nat :=
  if (frame.drop 35).take 5 = ysfSyncBytes then ysfFichOffsetRx else ysfFichOffsetNet

namespace FichCodec

def ysfFichGetDgid (c : FichCodec) : UInt8 := c.fich.getD 3 0

def ysfFichDecodeAt (c : FichCodec) (frame : List UInt8) (off : Nat) : FichCodec × Fich :=
  let c := c.fichDecode (frame.drop off)
  let m (i : Nat) := c.fich.getD i 0
  (c, {
    fi := m 0 >>> 6 &&& 0x03
    fn := m 1 >>> 3 &&& 0x07
    ft := m 1 &&& 0x07
    cm := m 0 >>> 2 &&& 0x03
    dt := m 2 &&& 0x03
    dgid := c.ysfFichGetDgid })

/-- The return value and the fields that are reported; the frame and the places for the fields are
there in every call. -/
def ysfFichDecodeFields (c : FichCodec) (frame : List UInt8) : FichCodec × Int × Fich :=
  let off := ysfFichGuessRxOffset frame
  let r := c.ysfFichDecodeAt frame off
  if r.2.fi ≤ 3 then (r.1, 0, r.2)
  else
    let alt := if off = ysfFichOffsetRx then ysfFichOffsetNet else ysfFichOffsetRx
    let r := r.1.ysfFichDecodeAt frame alt
    (r.1, 0, r.2)

/-- What the bridges take from `ysf_fich_decode_fields`. -/
def reportedFich (c : FichCodec) (frame : List UInt8) : Option Fich :=
  let r := c.ysfFichDecodeFields frame
  if r.2.1 ≠ 0 then none else some r.2.2

end FichCodec

/-- Some bits of a byte of the FICH, those outside `keep`, set to those of `bits`. -/
def setFichBits (i : Nat) (keep bits : UInt8) (fich : List UInt8) : List UInt8 :=
  fich.set i (fich.getD i 0 &&& keep ||| bits)

def fichSetDt (dt : UInt8) : List UInt8 → List UInt8 := setFichBits 2 0xFC (dt &&& 0x03)

def fichSetFi (fi : UInt8) : List UInt8 → List UInt8 := setFichBits 0 0x3F (fi <<< 6 &&& 0xC0)

def fichSetCs (cs : UInt8) : List UInt8 → List UInt8 := setFichBits 0 0xCF (cs <<< 4 &&& 0x30)

def fichSetCm (cm : UInt8) : List UInt8 → List UInt8 := setFichBits 0 0xF3 (cm <<< 2 &&& 0x0C)

def fichSetFn (fn : UInt8) : List UInt8 → List UInt8 := setFichBits 1 0xC7 (fn <<< 3 &&& 0x38)

def fichSetFt (ft : UInt8) : List UInt8 → List UInt8 := setFichBits 1 0xF8 (ft &&& 0x07)

def fichSetMr (mr : UInt8) : List UInt8 → List UInt8 := setFichBits 2 0xC7 (mr <<< 3 &&& 0x38)

def fichSetVoip (on : Bool) : List UInt8 → List UInt8 :=
  if on then setFichBits 2 0xFF 0x04 else setFichBits 2 0xFB 0

def fichSetSql (on : Bool) : List UInt8 → List UInt8 :=
  if on then setFichBits 3 0xFF 0x80 else setFichBits 3 0x7F 0

def fichSetSq (sq : UInt8) : List UInt8 → List UInt8 := setFichBits 3 0x80 (sq &&& 0x7F)

/-- The bytes that `ysf_fich_encode_outbound` sets, before they are coded. -/
def outboundFich (fnSerial fi ft cm : UInt8) : List UInt8 :=
  fichSetSq 0 <| fichSetSql false <| fichSetVoip false <| fichSetDt ysfDtVdMode2 <| fichSetMr 0 <|
    fichSetFt ft <| fichSetFn fnSerial <| fichSetCm cm <| fichSetCs 2 <| fichSetFi fi <|
      List.replicate 6 0

theorem outboundFich_length (fnSerial fi ft cm : UInt8) :
    (outboundFich fnSerial fi ft cm).length = 6 := rfl

namespace FichCodec

def ysfFichEncodeOutbound (c : FichCodec) (fich25 : List UInt8) (fnSerial fi ft cm : UInt8) :
    FichCodec × List UInt8 :=
  { c with
    fich := outboundFich fnSerial fi ft cm
    fich_length := outboundFich_length fnSerial fi ft cm }.fichEncode fich25

end FichCodec

end AdnBridge
