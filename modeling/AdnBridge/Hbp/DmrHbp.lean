import AdnBridge.Lib.Bits
import AdnBridge.Hbp.Dmrd

namespace AdnBridge
set_option autoImplicit true

def poly : List UInt8 := [64, 56, 14, 1, 0, 0, 0, 0, 0, 0, 0, 0]

def expTable : List UInt8 := [
  0x01, 0x02, 0x04, 0x08, 0x10, 0x20, 0x40, 0x80, 0x1D, 0x3A, 0x74, 0xE8, 0xCD, 0x87, 0x13, 0x26,
  0x4C, 0x98, 0x2D, 0x5A, 0xB4, 0x75, 0xEA, 0xC9, 0x8F, 0x03, 0x06, 0x0C, 0x18, 0x30, 0x60, 0xC0,
  0x9D, 0x27, 0x4E, 0x9C, 0x25, 0x4A, 0x94, 0x35, 0x6A, 0xD4, 0xB5, 0x77, 0xEE, 0xC1, 0x9F, 0x23,
  0x46, 0x8C, 0x05, 0x0A, 0x14, 0x28, 0x50, 0xA0, 0x5D, 0xBA, 0x69, 0xD2, 0xB9, 0x6F, 0xDE, 0xA1,
  0x5F, 0xBE, 0x61, 0xC2, 0x99, 0x2F, 0x5E, 0xBC, 0x65, 0xCA, 0x89, 0x0F, 0x1E, 0x3C, 0x78, 0xF0,
  0xFD, 0xE7, 0xD3, 0xBB, 0x6B, 0xD6, 0xB1, 0x7F, 0xFE, 0xE1, 0xDF, 0xA3, 0x5B, 0xB6, 0x71, 0xE2,
  0xD9, 0xAF, 0x43, 0x86, 0x11, 0x22, 0x44, 0x88, 0x0D, 0x1A, 0x34, 0x68, 0xD0, 0xBD, 0x67, 0xCE,
  0x81, 0x1F, 0x3E, 0x7C, 0xF8, 0xED, 0xC7, 0x93, 0x3B, 0x76, 0xEC, 0xC5, 0x97, 0x33, 0x66, 0xCC,
  0x85, 0x17, 0x2E, 0x5C, 0xB8, 0x6D, 0xDA, 0xA9, 0x4F, 0x9E, 0x21, 0x42, 0x84, 0x15, 0x2A, 0x54,
  0xA8, 0x4D, 0x9A, 0x29, 0x52, 0xA4, 0x55, 0xAA, 0x49, 0x92, 0x39, 0x72, 0xE4, 0xD5, 0xB7, 0x73,
  0xE6, 0xD1, 0xBF, 0x63, 0xC6, 0x91, 0x3F, 0x7E, 0xFC, 0xE5, 0xD7, 0xB3, 0x7B, 0xF6, 0xF1, 0xFF,
  0xE3, 0xDB, 0xAB, 0x4B, 0x96, 0x31, 0x62, 0xC4, 0x95, 0x37, 0x6E, 0xDC, 0xA5, 0x57, 0xAE, 0x41,
  0x82, 0x19, 0x32, 0x64, 0xC8, 0x8D, 0x07, 0x0E, 0x1C, 0x38, 0x70, 0xE0, 0xDD, 0xA7, 0x53, 0xA6,
  0x51, 0xA2, 0x59, 0xB2, 0x79, 0xF2, 0xF9, 0xEF, 0xC3, 0x9B, 0x2B, 0x56, 0xAC, 0x45, 0x8A, 0x09,
  0x12, 0x24, 0x48, 0x90, 0x3D, 0x7A, 0xF4, 0xF5, 0xF7, 0xF3, 0xFB, 0xEB, 0xCB, 0x8B, 0x0B, 0x16,
  0x2C, 0x58, 0xB0, 0x7D, 0xFA, 0xE9, 0xCF, 0x83, 0x1B, 0x36, 0x6C, 0xD8, 0xAD, 0x47, 0x8E, 0x01,
  0x02, 0x04, 0x08, 0x10, 0x20, 0x40, 0x80, 0x1D, 0x3A, 0x74, 0xE8, 0xCD, 0x87, 0x13, 0x26, 0x4C,
  0x98, 0x2D, 0x5A, 0xB4, 0x75, 0xEA, 0xC9, 0x8F, 0x03, 0x06, 0x0C, 0x18, 0x30, 0x60, 0xC0, 0x9D,
  0x27, 0x4E, 0x9C, 0x25, 0x4A, 0x94, 0x35, 0x6A, 0xD4, 0xB5, 0x77, 0xEE, 0xC1, 0x9F, 0x23, 0x46,
  0x8C, 0x05, 0x0A, 0x14, 0x28, 0x50, 0xA0, 0x5D, 0xBA, 0x69, 0xD2, 0xB9, 0x6F, 0xDE, 0xA1, 0x5F,
  0xBE, 0x61, 0xC2, 0x99, 0x2F, 0x5E, 0xBC, 0x65, 0xCA, 0x89, 0x0F, 0x1E, 0x3C, 0x78, 0xF0, 0xFD,
  0xE7, 0xD3, 0xBB, 0x6B, 0xD6, 0xB1, 0x7F, 0xFE, 0xE1, 0xDF, 0xA3, 0x5B, 0xB6, 0x71, 0xE2, 0xD9,
  0xAF, 0x43, 0x86, 0x11, 0x22, 0x44, 0x88, 0x0D, 0x1A, 0x34, 0x68, 0xD0, 0xBD, 0x67, 0xCE, 0x81,
  0x1F, 0x3E, 0x7C, 0xF8, 0xED, 0xC7, 0x93, 0x3B, 0x76, 0xEC, 0xC5, 0x97, 0x33, 0x66, 0xCC, 0x85,
  0x17, 0x2E, 0x5C, 0xB8, 0x6D, 0xDA, 0xA9, 0x4F, 0x9E, 0x21, 0x42, 0x84, 0x15, 0x2A, 0x54, 0xA8,
  0x4D, 0x9A, 0x29, 0x52, 0xA4, 0x55, 0xAA, 0x49, 0x92, 0x39, 0x72, 0xE4, 0xD5, 0xB7, 0x73, 0xE6,
  0xD1, 0xBF, 0x63, 0xC6, 0x91, 0x3F, 0x7E, 0xFC, 0xE5, 0xD7, 0xB3, 0x7B, 0xF6, 0xF1, 0xFF, 0xE3,
  0xDB, 0xAB, 0x4B, 0x96, 0x31, 0x62, 0xC4, 0x95, 0x37, 0x6E, 0xDC, 0xA5, 0x57, 0xAE, 0x41, 0x82,
  0x19, 0x32, 0x64, 0xC8, 0x8D, 0x07, 0x0E, 0x1C, 0x38, 0x70, 0xE0, 0xDD, 0xA7, 0x53, 0xA6, 0x51]

def logTable : List UInt8 := [
  0x00, 0x00, 0x01, 0x19, 0x02, 0x32, 0x1A, 0xC6, 0x03, 0xDF, 0x33, 0xEE, 0x1B, 0x68, 0xC7, 0x4B,
  0x04, 0x64, 0xE0, 0x0E, 0x34, 0x8D, 0xEF, 0x81, 0x1C, 0xC1, 0x69, 0xF8, 0xC8, 0x08, 0x4C, 0x71,
  0x05, 0x8A, 0x65, 0x2F, 0xE1, 0x24, 0x0F, 0x21, 0x35, 0x93, 0x8E, 0xDA, 0xF0, 0x12, 0x82, 0x45,
  0x1D, 0xB5, 0xC2, 0x7D, 0x6A, 0x27, 0xF9, 0xB9, 0xC9, 0x9A, 0x09, 0x78, 0x4D, 0xE4, 0x72, 0xA6,
  0x06, 0xBF, 0x8B, 0x62, 0x66, 0xDD, 0x30, 0xFD, 0xE2, 0x98, 0x25, 0xB3, 0x10, 0x91, 0x22, 0x88,
  0x36, 0xD0, 0x94, 0xCE, 0x8F, 0x96, 0xDB, 0xBD, 0xF1, 0xD2, 0x13, 0x5C, 0x83, 0x38, 0x46, 0x40,
  0x1E, 0x42, 0xB6, 0xA3, 0xC3, 0x48, 0x7E, 0x6E, 0x6B, 0x3A, 0x28, 0x54, 0xFA, 0x85, 0xBA, 0x3D,
  0xCA, 0x5E, 0x9B, 0x9F, 0x0A, 0x15, 0x79, 0x2B, 0x4E, 0xD4, 0xE5, 0xAC, 0x73, 0xF3, 0xA7, 0x57,
  0x07, 0x70, 0xC0, 0xF7, 0x8C, 0x80, 0x63, 0x0D, 0x67, 0x4A, 0xDE, 0xED, 0x31, 0xC5, 0xFE, 0x18,
  0xE3, 0xA5, 0x99, 0x77, 0x26, 0xB8, 0xB4, 0x7C, 0x11, 0x44, 0x92, 0xD9, 0x23, 0x20, 0x89, 0x2E,
  0x37, 0x3F, 0xD1, 0x5B, 0x95, 0xBC, 0xCF, 0xCD, 0x90, 0x87, 0x97, 0xB2, 0xDC, 0xFC, 0xBE, 0x61,
  0xF2, 0x56, 0xD3, 0xAB, 0x14, 0x2A, 0x5D, 0x9E, 0x84, 0x3C, 0x39, 0x53, 0x47, 0x6D, 0x41, 0xA2,
  0x1F, 0x2D, 0x43, 0xD8, 0xB7, 0x7B, 0xA4, 0x76, 0xC4, 0x17, 0x49, 0xEC, 0x7F, 0x0C, 0x6F, 0xF6,
  0x6C, 0xA1, 0x3B, 0x52, 0x29, 0x9D, 0x55, 0xAA, 0xFB, 0x60, 0x86, 0xB1, 0xBB, 0xCC, 0x3E, 0x5A,
  0xCB, 0x59, 0x5F, 0xB0, 0x9C, 0xA9, 0xA0, 0x51, 0x0B, 0xF5, 0x16, 0xEB, 0x7A, 0x75, 0x2C, 0xD7,
  0x4F, 0xAE, 0xD5, 0xE9, 0xE6, 0xE7, 0xAD, 0xE8, 0x74, 0xD6, 0xF4, 0xEA, 0xA8, 0x50, 0x58, 0xAF]

def encodingTable2087 : List Nat := [
  0x0000, 0xB08E, 0xE093, 0x501D, 0x70A9, 0xC027, 0x903A, 0x20B4, 0x60DC, 0xD052, 0x804F, 0x30C1,
  0x1075, 0xA0FB, 0xF0E6, 0x4068, 0x7036, 0xC0B8, 0x90A5, 0x202B, 0x009F, 0xB011, 0xE00C, 0x5082,
  0x10EA, 0xA064, 0xF079, 0x40F7, 0x6043, 0xD0CD, 0x80D0, 0x305E, 0xD06C, 0x60E2, 0x30FF, 0x8071,
  0xA0C5, 0x104B, 0x4056, 0xF0D8, 0xB0B0, 0x003E, 0x5023, 0xE0AD, 0xC019, 0x7097, 0x208A, 0x9004,
  0xA05A, 0x10D4, 0x40C9, 0xF047, 0xD0F3, 0x607D, 0x3060, 0x80EE, 0xC086, 0x7008, 0x2015, 0x909B,
  0xB02F, 0x00A1, 0x50BC, 0xE032, 0x90D9, 0x2057, 0x704A, 0xC0C4, 0xE070, 0x50FE, 0x00E3, 0xB06D,
  0xF005, 0x408B, 0x1096, 0xA018, 0x80AC, 0x3022, 0x603F, 0xD0B1, 0xE0EF, 0x5061, 0x007C, 0xB0F2,
  0x9046, 0x20C8, 0x70D5, 0xC05B, 0x8033, 0x30BD, 0x60A0, 0xD02E, 0xF09A, 0x4014, 0x1009, 0xA087,
  0x40B5, 0xF03B, 0xA026, 0x10A8, 0x301C, 0x8092, 0xD08F, 0x6001, 0x2069, 0x90E7, 0xC0FA, 0x7074,
  0x50C0, 0xE04E, 0xB053, 0x00DD, 0x3083, 0x800D, 0xD010, 0x609E, 0x402A, 0xF0A4, 0xA0B9, 0x1037,
  0x505F, 0xE0D1, 0xB0CC, 0x0042, 0x20F6, 0x9078, 0xC065, 0x70EB, 0xA03D, 0x10B3, 0x40AE, 0xF020,
  0xD094, 0x601A, 0x3007, 0x8089, 0xC0E1, 0x706F, 0x2072, 0x90FC, 0xB048, 0x00C6, 0x50DB, 0xE055,
  0xD00B, 0x6085, 0x3098, 0x8016, 0xA0A2, 0x102C, 0x4031, 0xF0BF, 0xB0D7, 0x0059, 0x5044, 0xE0CA,
  0xC07E, 0x70F0, 0x20ED, 0x9063, 0x7051, 0xC0DF, 0x90C2, 0x204C, 0x00F8, 0xB076, 0xE06B, 0x50E5,
  0x108D, 0xA003, 0xF01E, 0x4090, 0x6024, 0xD0AA, 0x80B7, 0x3039, 0x0067, 0xB0E9, 0xE0F4, 0x507A,
  0x70CE, 0xC040, 0x905D, 0x20D3, 0x60BB, 0xD035, 0x8028, 0x30A6, 0x1012, 0xA09C, 0xF081, 0x400F,
  0x30E4, 0x806A, 0xD077, 0x60F9, 0x404D, 0xF0C3, 0xA0DE, 0x1050, 0x5038, 0xE0B6, 0xB0AB, 0x0025,
  0x2091, 0x901F, 0xC002, 0x708C, 0x40D2, 0xF05C, 0xA041, 0x10CF, 0x307B, 0x80F5, 0xD0E8, 0x6066,
  0x200E, 0x9080, 0xC09D, 0x7013, 0x50A7, 0xE029, 0xB034, 0x00BA, 0xE088, 0x5006, 0x001B, 0xB095,
  0x9021, 0x20AF, 0x70B2, 0xC03C, 0x8054, 0x30DA, 0x60C7, 0xD049, 0xF0FD, 0x4073, 0x106E, 0xA0E0,
  0x90BE, 0x2030, 0x702D, 0xC0A3, 0xE017, 0x5099, 0x0084, 0xB00A, 0xF062, 0x40EC, 0x10F1, 0xA07F,
  0x80CB, 0x3045, 0x6058, 0xD0D6]

def encodingTable1676 : List Nat := [
  0x0000, 0x0273, 0x04E5, 0x0696, 0x09C9, 0x0BBA, 0x0D2C, 0x0F5F, 0x11E2, 0x1391, 0x1507, 0x1774,
  0x182B, 0x1A58, 0x1CCE, 0x1EBD, 0x21B7, 0x23C4, 0x2552, 0x2721, 0x287E, 0x2A0D, 0x2C9B, 0x2EE8,
  0x3055, 0x3226, 0x34B0, 0x36C3, 0x399C, 0x3BEF, 0x3D79, 0x3F0A, 0x411E, 0x436D, 0x45FB, 0x4788,
  0x48D7, 0x4AA4, 0x4C32, 0x4E41, 0x50FC, 0x528F, 0x5419, 0x566A, 0x5935, 0x5B46, 0x5DD0, 0x5FA3,
  0x60A9, 0x62DA, 0x644C, 0x663F, 0x6960, 0x6B13, 0x6D85, 0x6FF6, 0x714B, 0x7338, 0x75AE, 0x77DD,
  0x7882, 0x7AF1, 0x7C67, 0x7E14, 0x804F, 0x823C, 0x84AA, 0x86D9, 0x8986, 0x8BF5, 0x8D63, 0x8F10,
  0x91AD, 0x93DE, 0x9548, 0x973B, 0x9864, 0x9A17, 0x9C81, 0x9EF2, 0xA1F8, 0xA38B, 0xA51D, 0xA76E,
  0xA831, 0xAA42, 0xACD4, 0xAEA7, 0xB01A, 0xB269, 0xB4FF, 0xB68C, 0xB9D3, 0xBBA0, 0xBD36, 0xBF45,
  0xC151, 0xC322, 0xC5B4, 0xC7C7, 0xC898, 0xCAEB, 0xCC7D, 0xCE0E, 0xD0B3, 0xD2C0, 0xD456, 0xD625,
  0xD97A, 0xDB09, 0xDD9F, 0xDFEC, 0xE0E6, 0xE295, 0xE403, 0xE670, 0xE92F, 0xEB5C, 0xEDCA, 0xEFB9,
  0xF104, 0xF377, 0xF5E1, 0xF792, 0xF8CD, 0xFABE, 0xFC28, 0xFE5B]

def bitsToByteBE (bits : List Bool) (i : Nat) : UInt8 := (ofBits ((bits.drop i).take 8)).toUInt8

/-- `(x & keep) | (y & take)`. -/
def overlay (x keep y take : UInt8) : UInt8 := x &&& keep ||| y &&& take

instance instXorOpBool : XorOp Bool := ⟨Bool.xor⟩

section
variable [XorOp α] [Inhabited α]

/-- `d[i] ^ d[j] ^ ...`, for the array that begins at `pos`. -/
def xorAt (d : List α) (pos : Nat) (l : List Nat) : α :=
  l.foldl (fun x i => x ^^^ d.getD (pos + i) default) default

/-- One check bit after another, each from the places that it checks. -/
def setChecks (d : List α) (pos : Nat) (checks : List (Nat × List Nat)) : List α :=
  checks.foldl (fun d x => d.set (pos + x.1) (xorAt d pos x.2)) d

def hammingChecks15113 : List (Nat × List Nat) := [
  (11, [0, 1, 2, 3, 5, 7, 8]), (12, [1, 2, 3, 4, 6, 8, 9]), (13, [2, 3, 4, 5, 7, 9, 10]),
  (14, [0, 1, 2, 4, 6, 7, 10])]

def hammingEncode15113 (d : List α) (pos : Nat) : List α := setChecks d pos hammingChecks15113

def hammingChecks1393 : List (Nat × List Nat) := [
  (9, [0, 1, 3, 5, 6]), (10, [0, 1, 2, 4, 6, 7]), (11, [0, 1, 2, 3, 5, 7, 8]),
  (12, [0, 2, 4, 5, 8])]

def hammingEncode1393 (d : List α) (pos : Nat) : List α := setChecks d pos hammingChecks1393

/-- Where the 96 data bits stand in the product code. -/
def bptcPlaces : List Nat :=
  List.range' 4 8 ++ List.range' 16 11 ++ List.range' 31 11 ++ List.range' 46 11 ++
    List.range' 61 11 ++ List.range' 76 11 ++ List.range' 91 11 ++ List.range' 106 11 ++
    List.range' 121 11

def bptcColumn (c : Nat) : List Nat := (List.range 13).map fun a => c + 1 + 15 * a

/-- One column of the product code: taken out, completed, and put back. -/
def bptcEncodeColumn (d : List α) (c : Nat) : List α :=
  setAt d (bptcColumn c)
    (hammingEncode1393 ((bptcColumn c).map fun i => d.getD i default) 0)

/-- `bptc_deInterData` as the loops of `bptc_encode` leave it. -/
def bptcDeInterData (bData : List α) : List α :=
  let d := setAt (List.replicate 196 default) bptcPlaces bData
  let d := (List.range 9).foldl (fun d r => hammingEncode15113 d (r * 15 + 1)) d
  (List.range 15).foldl bptcEncodeColumn d

/-- `bptc_rawData`. -/
def bptcRawData (d : List α) : List α :=
  setAt (List.replicate 196 default) ((List.range 196).map fun a => a * 181 % 196) d

end

def bptcEncode (input out : List UInt8) : List UInt8 :=
  let raw := bptcRawData (bptcDeInterData (bytesBits (input.take 12)))
  let byte := bitsToByteBE raw 96
  (List.range 12).map (fun k => bitsToByteBE raw (8 * k)) ++
    [overlay (byteAt out 12) 0x3F byte 0xC0] ++ (out.drop 13).take 7 ++
    [overlay (byteAt out 20) 0xFC (byte >>> 4) 0x03] ++
    (List.range 12).map fun k => bitsToByteBE raw (100 + 8 * k)

def rs129Gmult (a b : UInt8) : UInt8 :=
  if a = 0 || b = 0 then 0
  else
    let i := (logTable.getD a.toNat 0).toNat
    let j := (logTable.getD b.toNat 0).toNat
    expTable.getD (i + j) 0

/-- `parity[0]`, `parity[1]` and `parity[2]` after one more byte. -/
def rs129Step (parity : UInt8 × UInt8 × UInt8) (byte : UInt8) : UInt8 × UInt8 × UInt8 :=
  let dbyte := byte ^^^ parity.2.2
  (rs129Gmult (poly.getD 0 0) dbyte, parity.1 ^^^ rs129Gmult (poly.getD 1 0) dbyte,
    parity.2.1 ^^^ rs129Gmult (poly.getD 2 0) dbyte)

def rs129Encode (lc : List UInt8) : UInt8 × UInt8 × UInt8 := lc.foldl rs129Step (0, 0, 0)

/-- The full LC of `generate_header`, with the mask of a voice LC header. -/
def headerLc (buf : List UInt8) : List UInt8 :=
  let lc := [0, 0, 0, byteAt buf 8, byteAt buf 9, byteAt buf 10, byteAt buf 5, byteAt buf 6,
    byteAt buf 7]
  let parity := rs129Encode lc
  lc ++ [parity.2.2 ^^^ 0x96, parity.2.1 ^^^ 0x96, parity.1 ^^^ 0x96]

def syncMsData : List UInt8 := [0x0D, 0x5D, 0x7F, 0x77, 0xFD, 0x75, 0x70]

/-- The payload of `generate_header` before the LC goes in: the sync word and, around it, the slot
type. -/
def headerFrame : List UInt8 :=
  let slottype0 := overlay ((1 : UInt8) <<< 4) 0xF0 ((1 : UInt8) <<< 0) 0x0F
  let slottype1 : UInt8 := (encodingTable2087.getD slottype0.toNat 0 &&& 0xFF).toUInt8
  let slottype2 : UInt8 := (encodingTable2087.getD slottype0.toNat 0 >>> 8).toUInt8
  let payload := List.replicate 13 0 ++ syncMsData ++ List.replicate 13 0
  let payload := payload.set 12 (overlay (byteAt payload 12) 0xC0 (slottype0 >>> 2) 0x3F)
  let payload := payload.set 13
    (overlay (overlay (byteAt payload 13) 0x0F (slottype0 <<< 6) 0xC0) 0xFF (slottype1 >>> 2) 0x30)
  let payload := payload.set 19 (overlay (byteAt payload 19) 0xF0 (slottype1 >>> 2) 0x0F)
  payload.set 20
    (overlay (overlay (byteAt payload 20) 0x03 (slottype1 <<< 6) 0xC0) 0xFF (slottype2 >>> 2) 0x3C)

/-- The 33 bytes that `generate_header` puts at byte 20 of `buf`. -/
def generateHeader (buf : List UInt8) : List UInt8 := bptcEncode (headerLc buf) headerFrame

/-- A byte of a number, as `(x >> k) & 0xff` takes it. -/
def intByte (x : Int) (k : Nat) : UInt8 := (x / 2 ^ k % 256).toNat.toUInt8

def lcGetData (txTgid rxSrcid : Int) : List UInt8 :=
  [0, 0, 0, intByte txTgid 16, intByte txTgid 8, intByte txTgid 0, intByte rxSrcid 16,
    intByte rxSrcid 8, intByte rxSrcid 0]

def encode16114 (d : List Bool) (pos : Nat) : List Bool :=
  setChecks d pos (hammingChecks15113 ++ [(15, [0, 2, 5, 6, 8, 9, 10])])

/-- Where the 72 bits of the LC stand in the embedded matrix. -/
def embPlaces : List Nat :=
  List.range' 0 11 ++ List.range' 16 11 ++ List.range' 32 10 ++ List.range' 48 10 ++
    List.range' 64 10 ++ List.range' 80 10 ++ List.range' 96 10

/-- `emb_raw`, for the globals `tx_tgid` and `rx_srcid`. -/
def encodeEmbeddedData (txTgid rxSrcid : Int) : List Bool :=
  let bytes := lcGetData txTgid rxSrcid
  let crc := (bytes.map UInt8.toNat).sum % 31
  let data := setAt (List.replicate 128 false) [106, 90, 74, 58, 42]
    [crc.testBit 0, crc.testBit 1, crc.testBit 2, crc.testBit 3, crc.testBit 4]
  let data := setAt data embPlaces (bytesBits bytes)
  let data := (List.range 7).foldl (fun d r => encode16114 d (16 * r)) data
  let data := (List.range 16).foldl (fun d a =>
    d.set (a + 112) (xorAt d a [0, 16, 32, 48, 64, 80, 96])) data
  (List.range 128).map fun a => data.getD (a % 8 * 16 + a / 8) false

/-- What `get_embedded_data` leaves of the payload, and the LCSS that it returns. -/
def getEmbeddedData (embRaw : List Bool) (data : List UInt8) (n : UInt8) : List UInt8 × UInt8 :=
  let put (bytes : List UInt8) : List UInt8 :=
    data.take 14 ++ [overlay (byteAt data 14) 0xF0 (byteAt bytes 0) 0x0F, byteAt bytes 1,
      byteAt bytes 2, byteAt bytes 3, overlay (byteAt data 18) 0x0F (byteAt bytes 4) 0xF0] ++
      data.drop 19
  if n ≥ 1 && n < 5 then
    let n := n.toNat - 1
    let bits := List.replicate 4 false ++ (embRaw.drop (n * 32)).take 32 ++ List.replicate 4 false
    (put ((List.range 5).map fun k => bitsToByteBE bits (8 * k)),
      if n = 0 then 1 else if n = 3 then 2 else 3)
  else (put [0, 0, 0, 0, 0], 0)

/-- `encode_qr1676` of a byte and a zero byte. -/
def encodeQr1676 (data0 : UInt8) : UInt8 × UInt8 :=
  let cksum := encodingTable1676.getD (data0 >>> 1 &&& 0x7F).toNat 0
  ((cksum >>> 8).toUInt8, (cksum &&& 0xFF).toUInt8)

def getEmbData (data : List UInt8) (lcss : UInt8) : List UInt8 :=
  let emb := encodeQr1676 (overlay ((1 : UInt8) <<< 4) 0xF0 (lcss <<< 1) 0x06)
  let data := data.set 13 (overlay (byteAt data 13) 0xF0 (emb.1 >>> 4) 0x0F)
  let data := data.set 14 (overlay (byteAt data 14) 0x0F (emb.1 <<< 4) 0xF0)
  let data := data.set 18 (overlay (byteAt data 18) 0xF0 (emb.2 >>> 4) 0x0F)
  data.set 19 (overlay (byteAt data 19) 0x0F (emb.2 <<< 4) 0xF0)

def msSourcedAudioSync : List UInt8 := [0x07, 0xF7, 0xD5, 0xDD, 0x57, 0xDF, 0xD0]

def dmrSyncMask : List UInt8 := [0x0F, 0xFF, 0xFF, 0xFF, 0xFF, 0xFF, 0xF0]

/-- The audio sync word laid over bytes 13 to 19 of a payload. -/
def putAudioSync (data : List UInt8) : List UInt8 :=
  (List.range 7).foldl (fun d i =>
    d.set (13 + i) (byteAt d (13 + i) &&& ~~~byteAt dmrSyncMask i ||| byteAt msSourcedAudioSync i))
    data

namespace Dmrd

/-- The twenty bytes before the burst. -/
def head (p : Dmrd) : List UInt8 :=
  dmrdMagic ++ [p.seq, intByte p.src 16, intByte p.src 8, intByte p.src 0, intByte p.dst 16,
    intByte p.dst 8, intByte p.dst 0, intByte p.gw 24, intByte p.gw 16, intByte p.gw 8,
    intByte p.gw 0, p.b15, p.stream.toUInt8, (p.stream >>> 8).toUInt8, (p.stream >>> 16).toUInt8,
    (p.stream >>> 24).toUInt8]

/-- The burst of a packet as the two `send_dmrd` make it, and `emb_raw` after it. -/
def burst (embRaw : List Bool) (p : Dmrd) : List UInt8 × List Bool :=
  if p.ft = dmrdFtDataSync then (generateHeader p.head, embRaw)
  else
    match p.voice33 with
    | some voice33 =>
      if p.ft = dmrdFtVoiceSync then (putAudioSync voice33, encodeEmbeddedData p.dst p.src)
      else
        let r := getEmbeddedData embRaw voice33 p.dtype
        (getEmbData r.1 r.2, embRaw)
    | none => (List.replicate 33 0, embRaw)

/-- The packet up to its last two bytes, which nothing sets. -/
def bytes (embRaw : List Bool) (p : Dmrd) : List UInt8 := p.head ++ (p.burst embRaw).1

end Dmrd

end AdnBridge
