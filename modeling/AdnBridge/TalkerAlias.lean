import AdnBridge.Hbp.Dmrd
import AdnBridge.Lib.Bits
import AdnBridge.Ysf.Callsign

namespace AdnBridge
set_option autoImplicit true

def taBufLen : Nat := 28
def taPayloadLen : Nat := 7

/-- `"DMRA"`. -/
def dmraMagic : List UInt8 := [0x44, 0x4D, 0x52, 0x41]

def dmraPacketLen : Nat := 15

/-- The two arrays that a talker alias is decoded from and into, with the places of them that have
been read and written; `buf` goes on with what lies behind the array on the stack. -/
structure TaMem where
  buf : Nat → UInt8
  text : List UInt8
  reads : List Nat
  writes : List Nat

namespace TaMem

def load (m : TaMem) (i : Nat) : UInt8 × TaMem := (m.buf i, { m with reads := m.reads ++ [i] })

def store (m : TaMem) (i : Nat) (c : UInt8) : TaMem :=
  { m with text := m.text.set i c, writes := m.writes ++ [i] }

end TaMem

def taFormat (header : UInt8) : UInt8 := (header >>> 6) &&& 0x03

def taSize (header : UInt8) : Nat := ((header >>> 1) &&& 0x1F).toNat

/-- `text[i] = buf[1 + i]`. -/
def taCopy (m : TaMem) (i : Nat) : TaMem :=
  let (c, m) := m.load (1 + i)
  m.store i c

/-- `decode_ta_utf`; the length of `text` is `textlen`. -/
def decodeTaUtf (m : TaMem) : Nat × TaMem :=
  if m.text.length = 0 then (0, m)
  else
    let textlen := m.text.length
    let (header, m) := m.load 0
    let format := taFormat header
    let (header, m) := m.load 0
    let size := taSize header
    if size = 0 ∨ size > 29 then (0, m)
    else if format ≠ 1 ∧ format ≠ 2 then (0, m)
    else
      let size := if size ≥ textlen then textlen - 1 else size
      let m := (List.range size).foldl taCopy m
      (size, m.store size 0)

/-- The counters of the loop of `decode_ta_7bit`. -/
structure TaBits where
  t1 : Nat
  t2 : Nat
  c : UInt8
  outlen : Nat
  mem : TaMem

/-- The turn of the inner loop for bit `j` of byte `i`. -/
def taBit (size i : Nat) (s : TaBits) (j : Nat) : TaBits :=
  let (byte, m) := s.mem.load i
  let c := (s.c <<< 1) ||| ((byte >>> j.toUInt8) &&& 1)
  if s.t1 + 1 = 7 then
    if i > 0 ∧ s.outlen < size then
      ⟨0, s.t2 + 1, 0, s.outlen + 1, m.store s.outlen (c &&& 0x7F)⟩
    else ⟨0, s.t2, 0, s.outlen, m⟩
  else ⟨s.t1 + 1, s.t2, c, s.outlen, m⟩

def taBytes (size : Nat) : List Nat → TaBits → TaBits
  | [], s => s
  | i :: is, s =>
    if s.t2 ≥ size then s
    else taBytes size is ([7, 6, 5, 4, 3, 2, 1, 0].foldl (taBit size i) s)

def decodeTa7bit (m : TaMem) : Nat × TaMem :=
  if m.text.length = 0 then (0, m)
  else
    let textlen := m.text.length
    let (header, m) := m.load 0
    if taFormat header ≠ 0 then (0, m)
    else
      let (header, m) := m.load 0
      let size := taSize header
      if size = 0 ∨ size ≥ textlen then (0, m)
      else
        let s := taBytes size (List.range taBufLen) ⟨0, 0, 0, 0, m⟩
        (s.outlen, s.mem.store s.outlen 0)

def decodeTaBuf (m : TaMem) : Nat × TaMem :=
  if m.text.length = 0 then (0, m)
  else
    let (header, m) := m.load 0
    let format := taFormat header
    if format = 1 ∨ format = 2 then decodeTaUtf m
    else if format = 0 then decodeTa7bit m
    else (0, m)

/-- The loop over the trailing blanks of a text of length `n`. -/
def trimBlanks : Nat → TaMem → TaMem
  | 0, m => m
  | n + 1, m =>
    if m.text.getD n 0 = 0 ∨ m.text.getD n 0 = chSpace then trimBlanks n (m.store n 0) else m

/-- `trim_ta_text`; a `char` is signed, so that a byte from 128 on is below 32. -/
def trimTaText (m : TaMem) : TaMem :=
  let m := trimBlanks (cString m.text).length m
  match (cString m.text).findIdx? fun c => c < 32 || c ≥ 127 with
  | some i => m.store i 0
  | none => m

/-- `have_mask & (1U << k)`. -/
def hasBlock (haveMask : UInt32) (k : Fin 4) : Bool := haveMask &&& (1 <<< k.val.toUInt32) != 0

abbrev TaBlocks := Fin 4 → Vector UInt8 7

/-- The buffer of `dmra_decode_blocks`: the blocks that are there, one after the other. -/
def taBuf (blocks : TaBlocks) (haveMask : UInt32) : List UInt8 :=
  (List.finRange 4).flatMap fun k =>
    if hasBlock haveMask k then (blocks k).toList else List.replicate taPayloadLen 0

/-- The memory with which the decoding starts. -/
def taMem (buf : List UInt8) (stack : Nat → UInt8) (text : List UInt8) : TaMem where
  buf := fun i => if i < taBufLen then buf.getD i 0 else stack i
  text := text
  reads := []
  writes := []

/-- `dmra_decode_blocks`: whether there is a text, and the memory after it. -/
def dmraDecodeBlocks (blocks : TaBlocks) (haveMask : UInt32) (stack : Nat → UInt8)
    (text : List UInt8) : Bool × TaMem :=
  let m := taMem (taBuf blocks haveMask) stack text
  if text.length = 0 ∨ !hasBlock haveMask 0 then (false, m)
  else
    let (n, m) := decodeTaBuf m
    if n = 0 then (false, m)
    else
      let m := trimTaText m
      (m.text.getD 0 0 != 0, m)

/-- `dmra_parse_packet`: the radio id, the number of the block and its bytes. -/
def dmraParsePacket (data : List UInt8) : Option (Nat × Fin 4 × Vector UInt8 7) :=
  if data.length < dmraPacketLen ∨ data.take 4 ≠ dmraMagic then none
  else if h : (byteAt data 7).toNat < 4 then
    some ((be24 data 4).toNat, ⟨(byteAt data 7).toNat, h⟩,
      Vector.ofFn fun j : Fin 7 => byteAt data (8 + j))
  else none

/-- The talker alias that a bridge collects; `text` is what its C string holds. -/
structure Dmra where
  rf : Nat
  blocks : TaBlocks
  haveMask : UInt32
  text : List UInt8

namespace Dmra

def cleared : Dmra := ⟨0, fun _ => Vector.replicate 7 0, 0, []⟩

/-- A block of a radio, after those of another radio have been forgotten. -/
def put (d : Dmra) (rf : Nat) (k : Fin 4) (payload : Vector UInt8 7) : Dmra :=
  let d := if d.rf ≠ 0 ∧ d.rf ≠ rf then cleared else d
  { d with
    rf := rf, blocks := Function.update d.blocks k payload,
    haveMask := d.haveMask ||| (1 <<< k.val.toUInt32) }

/-- `bridge_on_dmra`. -/
def onDmra (stack : Nat → UInt8) (d : Dmra) (pkt : List UInt8) : Dmra :=
  match dmraParsePacket pkt with
  | none => d
  | some (rf, k, payload) =>
    let d := d.put rf k payload
    let r := dmraDecodeBlocks d.blocks d.haveMask stack (List.replicate 32 0)
    if r.1 then { d with text := (cString r.2.text).take 31 } else d

end Dmra

end AdnBridge
