import AdnBridge.Lib.CText
import AdnBridge.Ysf.Callsign
import Mathlib.Data.List.DropRight

namespace AdnBridge
set_option autoImplicit true

def chLf : UInt8 := 0x0A
def chCr : UInt8 := 0x0D

/-- `"@@@"`. -/
def listMarker : List UInt8 := [0x40, 0x40, 0x40]

/-- `"+++"`. -/
def endMarker : List UInt8 := [0x2B, 0x2B, 0x2B]

/-- `looks_like_ipv4`: four numbers with dots between them and nothing behind. -/
def looksLikeIpv4 (s : List UInt8) : Bool :=
  match scanInt s with
  | some (0x2E :: s) =>
    match scanInt s with
    | some (0x2E :: s) =>
      match scanInt s with
      | some (0x2E :: s) => scanInt s == some []
      | _ => false
    | _ => false
  | _ => false

/-- `upper_copy` into an array of `n` bytes. -/
def upperCopy (n : Nat) (src : List UInt8) : List UInt8 := (src.take (n - 1)).map toUpper

def trimCr (s : List UInt8) : List UInt8 :=
  s.rdropWhile fun c => c == chCr || c == chLf || c == chSpace

/-- `"91182092262753893"`. -/
def descrambleKey : List UInt8 :=
  [0x39, 0x31, 0x31, 0x38, 0x32, 0x30, 0x39, 0x32, 0x32, 0x36, 0x32, 0x37, 0x35, 0x33, 0x38, 0x39,
    0x33]

/-- `"4325198076"`. -/
def descrambleSub1 : List UInt8 := [0x34, 0x33, 0x32, 0x35, 0x31, 0x39, 0x38, 0x30, 0x37, 0x36]

/-- `"3719458602"`. -/
def descrambleSub2 : List UInt8 := [0x33, 0x37, 0x31, 0x39, 0x34, 0x35, 0x38, 0x36, 0x30, 0x32]

/-- The key taken from all characters but the last two. -/
def descrambleShift : List UInt8 → Nat → List UInt8
  | c :: d :: e :: io, keyOffset =>
    (c - descrambleKey.getD keyOffset 0) ::
      descrambleShift (d :: e :: io) (if keyOffset + 1 > 14 then 0 else keyOffset + 1)
  | io, _ => io

def descrambleDigit (sub : List UInt8) (dot c : UInt8) : UInt8 :=
  if isDigit c then sub.getD (c - 0x30).toNat 0 else if c = dot then 0x2E else c

/-- `el_descramble_ip`; the array keeps its length, and holds a C string. -/
def elDescrambleIp (io : List UInt8) : List UInt8 :=
  cString (((descrambleShift io 0).map (descrambleDigit descrambleSub1 0x7D)).map
    (descrambleDigit descrambleSub2 0x3D))

/-- `el_dir_ip_aton`: the address, if there is one. -/
def elDirIpAton (raw : List UInt8) (scrambled : Bool) : Option Nat :=
  let plain := if looksLikeIpv4 raw then inetAton raw else none
  if scrambled then (inetAton (elDescrambleIp (raw.take 95))).or plain else plain

inductive StationState
  | marker
  | count
  | call
  | qth
  | nodeId
  | ip
  deriving DecidableEq, Repr

/-- The variables of `el_parse_station_list_text`. -/
structure StationScan where
  line : List UInt8
  call : List UInt8
  state : StationState

namespace StationScan

def start : StationScan := ⟨[], [], .marker⟩

/-- A character goes to the line while there is room. -/
def char (s : StationScan) (c : UInt8) : StationScan :=
  if s.line.length + 1 < 256 then { s with line := s.line ++ [c] } else s

/-- What a trimmed line does: the function returns, or goes on with other variables. -/
def takeLine (want : List UInt8) (scrambled : Bool) (s : StationScan) (line : List UInt8) :
    Except (Option Nat) StationScan :=
  match s.state with
  | .marker =>
    .ok { s with line := [], state := if line.take 3 = listMarker then .count else .marker }
  | .count => .ok { s with line := [], state := .call }
  | .call =>
    if line = endMarker then .error none
    else .ok { line := [], call := upperCopy 32 line, state := .qth }
  | .qth =>
    if line = endMarker then .error none else .ok { s with line := [], state := .nodeId }
  | .nodeId =>
    if line = endMarker then .error none else .ok { s with line := [], state := .ip }
  | .ip =>
    if line = endMarker then .error none
    else if s.call = want then .error (elDirIpAton (line.take 95) scrambled)
    else .ok { s with line := [], state := .call }

def endLine (want : List UInt8) (scrambled : Bool) (s : StationScan) :
    Except (Option Nat) StationScan :=
  s.takeLine want scrambled (trimCr s.line)

def parse (want : List UInt8) (scrambled : Bool) : List UInt8 → StationScan → Option Nat
  | [], s =>
    match s.endLine want scrambled with
    | .error r => r
    | .ok _ => none
  | c :: text, s =>
    if c = chLf then
      match s.endLine want scrambled with
      | .error r => r
      | .ok s => parse want scrambled text s
    else parse want scrambled text (s.char c)

end StationScan

/-- `el_parse_station_list_text`: the address for 0, none for -1. -/
def elParseStationListText (text want : List UInt8) (scrambled : Bool) : Option Nat :=
  StationScan.parse want scrambled (cString text) .start

end AdnBridge
