import AdnBridge.Mmdvm.ModeConv
import AdnBridge.Mmdvm.PrngTable

namespace AdnBridge
set_option autoImplicit true

open Golay24128

def dmrATable : List Nat := [
  0, 4, 8, 12, 16, 20, 24, 28, 32, 36, 40, 44, 48, 52, 56, 60, 64, 68, 1, 5, 9, 13, 17, 21]

def dmrBTable : List Nat := [
  25, 29, 33, 37, 41, 45, 49, 53, 57, 61, 65, 69, 2, 6, 10, 14, 18, 22, 26, 30, 34, 38, 42]

def dmrCTable : List Nat := [
  46, 50, 54, 58, 62, 66, 70, 3, 7, 11, 15, 19, 23, 27, 31, 35, 39, 43, 47, 51, 55, 59, 63, 67, 71]

def interleaveTable264 : List Nat := [
  0, 4, 8, 12, 16, 20, 24, 28, 32, 36, 40, 44, 48, 52, 56, 60, 64, 68, 72, 76, 80, 84, 88, 92, 96,
  100, 1, 5, 9, 13, 17, 21, 25, 29, 33, 37, 41, 45, 49, 53, 57, 61, 65, 69, 73, 77, 81, 85, 89,
  93, 97, 101, 2, 6, 10, 14, 18, 22, 26, 30, 34, 38, 42, 46, 50, 54, 58, 62, 66, 70, 74, 78, 82,
  86, 90, 94, 98, 102, 3, 7, 11, 15, 19, 23, 27, 31, 35, 39, 43, 47, 51, 55, 59, 63, 67, 71, 75,
  79, 83, 87, 91, 95, 99, 103]

def whiteningData : List UInt8 := [
  0x93, 0xD7, 0x51, 0x21, 0x9C, 0x2F, 0x6C, 0xD0, 0xEF, 0x0F, 0xF8, 0x3D, 0xF1, 0x73, 0x20, 0x94,
  0xED, 0x1E, 0x7C, 0xD8]

/-- Some bytes as an array of a fixed size. -/
def ofLength (l : List UInt8) (h : l.length = n) : Vector UInt8 n := ⟨l.toArray, h⟩

/-- The position in a burst of a bit of its `j`-th frame; the middle frame has the sync field
between its halves. -/
def dmrPlace (j : Fin 3) (pos : Nat) : Nat :=
  match j with
  | 0 => pos
  | 1 => if pos + 72 ≥ 108 then pos + 72 + 48 else pos + 72
  | 2 => pos + 192

/-- The three words of the `j`-th frame of a burst, still coded. -/
def readDmr (dmr33 : List UInt8) (j : Fin 3) : Nat × Nat × Nat :=
  (ofBits (readBits dmr33 (dmrATable.map (dmrPlace j))),
    ofBits (readBits dmr33 (dmrBTable.map (dmrPlace j))),
    ofBits (readBits dmr33 (dmrCTable.map (dmrPlace j))))

/-- Each bit three times. -/
def tripled (bits : List Bool) : List Bool := bits.flatMap fun s => [s, s, s]

/-- The bits of a YSF voice channel before they are whitened. -/
def vchBits (datA datB datC : Nat) : List Bool :=
  tripled (toBits 12 datA) ++ tripled (toBits 12 datB) ++ tripled ((toBits 25 datC).take 3) ++
    (toBits 25 datC).drop 3 ++ [false]

def whiten (vch : List UInt8) : List UInt8 := List.zipWith (· ^^^ ·) vch whiteningData

/-- The entry that `putAMBE2YSF` queues. -/
def ambe2Ysf (a b datC : Nat) : Vector UInt8 13 :=
  let datA := a >>> 12
  let b := b ^^^ (prngTable.getD datA 0 >>> 1)
  let datB := b >>> 11
  let vch := whiten (writeBits (List.replicate 13 0) (List.range 104) (vchBits datA datB datC))
  ofLength (writeBits (List.replicate 13 0) interleaveTable264 (readBits vch (List.range 104)))
    (writeBits_length _ _ _)

/-- The entry that `putAMBE2DMR` queues. -/
def ambe2Dmr (datA datB datC : Nat) : Vector UInt8 9 :=
  let a := encode24128 datA
  let p := prngTable.getD datA 0 >>> 1
  let b := (encode23127 datB >>> 1) ^^^ p
  let vDmr := writeBits (List.replicate 9 0) dmrATable (toBits 24 a)
  let vDmr := writeBits vDmr dmrBTable (toBits 23 b)
  ofLength (writeBits vDmr dmrCTable (toBits 25 datC))
    (by rw [writeBits_length, writeBits_length, writeBits_length]; rfl)

/-- The fields of the `j`-th voice channel of a YSF payload, the middle one of each three bits. -/
def readYsf (ysf120 : List UInt8) (j : Fin 5) : Nat × Nat × Nat :=
  let data := ysf120.drop 30
  let offset := 40 + 144 * j.val
  let vch := writeBits (List.replicate 13 0) (List.range 104)
    (readBits data (interleaveTable264.map fun n => offset + n))
  let vch := whiten vch
  (ofBits (readBits vch ((List.range 12).map fun i => 3 * i + 1)),
    ofBits (readBits vch ((List.range 12).map fun i => 3 * (i + 12) + 1)),
    ofBits (readBits vch (((List.range 3).map fun i => 3 * (i + 24) + 1) ++
      (List.range 22).map fun i => i + 81)))

def ambe7ToABC (ambe7 : List UInt8) : Nat × Nat × Nat :=
  let m (i : Nat) := (ambe7.getD i 0).toNat
  (m 0 <<< 4 ||| m 1 >>> 4, (m 1 &&& 0x0F) <<< 8 ||| m 2,
    m 3 <<< 17 ||| m 4 <<< 9 ||| m 5 <<< 1 ||| m 6 >>> 7)

def abcToAMBE7 (a b c : Nat) : List UInt8 :=
  [(a >>> 4 &&& 0xFF).toUInt8, ((a &&& 0x0F) <<< 4 ||| b >>> 8 &&& 0x0F).toUInt8,
    (b &&& 0xFF).toUInt8, (c >>> 17 &&& 0xFF).toUInt8, (c >>> 9 &&& 0xFF).toUInt8,
    (c >>> 1 &&& 0xFF).toUInt8, (c <<< 7 &&& 0x80).toUInt8]

/-- The recoding of `CModeConv`. -/
def mmdvmCodec : Codec where
  ysfToDmr ysf120 j :=
    let (a, b, c) := readYsf ysf120 j
    ambe2Dmr a b c
  dmrToYsf dmr33 j :=
    let (a, b, c) := readDmr dmr33 j
    ambe2Ysf a b c
  ambe7ToDmr ambe7 :=
    let (a, b, c) := ambe7ToABC ambe7
    ambe2Dmr a b c
  ambe7ToYsf ambe7 :=
    let (datA, datB, datC) := ambe7ToABC ambe7
    let a := encode24128 datA
    let p := prngTable.getD datA 0 >>> 1
    let b := (encode23127 datB >>> 1) ^^^ p
    ambe2Ysf a b datC
  dmr33ToAmbe dmr33 j :=
    let (a, b, c) := readDmr dmr33 j
    let da := a >>> 12
    let db := (b ^^^ (prngTable.getD da 0 >>> 1)) >>> 11
    abcToAMBE7 da db c

end AdnBridge
