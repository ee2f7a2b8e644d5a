import Mathlib.Tactic.Common

namespace AdnBridge
set_option autoImplicit true

/-- The bytes of a text. -/
def ascii (s : String) : List UInt8 := s.toUTF8.data.toList

/-- The bytes of a name, letter by letter. -/
def letters (l : List Char) : List UInt8 := l.map fun c => c.toNat.toUInt8

namespace Ini

def bridge : List UInt8 := letters ['b', 'r', 'i', 'd', 'g', 'e']
def ysf : List UInt8 := letters ['y', 's', 'f']
def dmr : List UInt8 := letters ['d', 'm', 'r']
def echolink : List UInt8 := letters ['e', 'c', 'h', 'o', 'l', 'i', 'n', 'k']
def vocoder : List UInt8 := letters ['v', 'o', 'c', 'o', 'd', 'e', 'r']
def aliases : List UInt8 := letters ['a', 'l', 'i', 'a', 's', 'e', 's']
def log : List UInt8 := letters ['l', 'o', 'g']

def mode : List UInt8 := letters ['m', 'o', 'd', 'e']
def callsign : List UInt8 := letters ['c', 'a', 'l', 'l', 's', 'i', 'g', 'n']
def dmrid : List UInt8 := letters ['d', 'm', 'r', 'i', 'd']
def description : List UInt8 := letters ['d', 'e', 's', 'c', 'r', 'i', 'p', 't', 'i', 'o', 'n']
def location : List UInt8 := letters ['l', 'o', 'c', 'a', 't', 'i', 'o', 'n']
def host : List UInt8 := letters ['h', 'o', 's', 't']
def port : List UInt8 := letters ['p', 'o', 'r', 't']
def dgid : List UInt8 := letters ['d', 'g', 'i', 'd']
def options : List UInt8 := letters ['o', 'p', 't', 'i', 'o', 'n', 's']
def tg : List UInt8 := letters ['t', 'g']
def clearDynamicTg : List UInt8 :=
  letters ['c', 'l', 'e', 'a', 'r', '_', 'd', 'y', 'n', 'a', 'm', 'i', 'c', '_', 't', 'g']
def password : List UInt8 := letters ['p', 'a', 's', 's', 'w', 'o', 'r', 'd']
def passphrase : List UInt8 := letters ['p', 'a', 's', 's', 'p', 'h', 'r', 'a', 's', 'e']
def defaultYsfDmrid : List UInt8 :=
  letters ['d', 'e', 'f', 'a', 'u', 'l', 't', '_', 'y', 's', 'f', '_', 'd', 'm', 'r', 'i', 'd']
def logLevel : List UInt8 := letters ['l', 'o', 'g', '_', 'l', 'e', 'v', 'e', 'l']
def bindAddr : List UInt8 := letters ['b', 'i', 'n', 'd', '_', 'a', 'd', 'd', 'r']
def qth : List UInt8 := letters ['q', 't', 'h']
def email : List UInt8 := letters ['e', 'm', 'a', 'i', 'l']
def directoryServers : List UInt8 :=
  letters ['d', 'i', 'r', 'e', 'c', 't', 'o', 'r', 'y', '_', 's', 'e', 'r', 'v', 'e', 'r', 's']
def loginInterval : List UInt8 :=
  letters ['l', 'o', 'g', 'i', 'n', '_', 'i', 'n', 't', 'e', 'r', 'v', 'a', 'l']
def tlbLoginInterval : List UInt8 :=
  letters ['L', 'o', 'g', 'i', 'n', 'I', 'n', 't', 'e', 'r', 'v', 'a', 'l']
def stationListInterval : List UInt8 :=
  letters ['s', 't', 'a', 't', 'i', 'o', 'n', '_', 'l', 'i', 's', 't', '_', 'i', 'n', 't', 'e',
    'r', 'v', 'a', 'l']
def tlbStationListInterval : List UInt8 :=
  letters ['S', 't', 'a', 't', 'i', 'o', 'n', 'L', 'i', 's', 't', 'I', 'n', 't', 'e', 'r', 'v',
    'a', 'l']
def gain : List UInt8 := letters ['g', 'a', 'i', 'n']
def proxyServer : List UInt8 := letters ['p', 'r', 'o', 'x', 'y', '_', 's', 'e', 'r', 'v', 'e', 'r']
def upperProxyServer : List UInt8 :=
  letters ['P', 'R', 'O', 'X', 'Y', '_', 'S', 'E', 'R', 'V', 'E', 'R']
def proxyPort : List UInt8 := letters ['p', 'r', 'o', 'x', 'y', '_', 'p', 'o', 'r', 't']
def upperProxyPort : List UInt8 := letters ['P', 'R', 'O', 'X', 'Y', '_', 'P', 'O', 'R', 'T']
def proxyPassword : List UInt8 :=
  letters ['p', 'r', 'o', 'x', 'y', '_', 'p', 'a', 's', 's', 'w', 'o', 'r', 'd']
def upperProxyPassword : List UInt8 :=
  letters ['P', 'R', 'O', 'X', 'Y', '_', 'P', 'A', 'S', 'S', 'W', 'O', 'R', 'D']
def tryDownload : List UInt8 := letters ['t', 'r', 'y', '_', 'd', 'o', 'w', 'n', 'l', 'o', 'a', 'd']
def staleMinutes : List UInt8 :=
  letters ['s', 't', 'a', 'l', 'e', '_', 'm', 'i', 'n', 'u', 't', 'e', 's']
def staleDays : List UInt8 := letters ['s', 't', 'a', 'l', 'e', '_', 'd', 'a', 'y', 's']
def reloadMinutes : List UInt8 :=
  letters ['r', 'e', 'l', 'o', 'a', 'd', '_', 'm', 'i', 'n', 'u', 't', 'e', 's']
def dataDir : List UInt8 := letters ['d', 'a', 't', 'a', '_', 'd', 'i', 'r']
def subscriberFile : List UInt8 :=
  letters ['s', 'u', 'b', 's', 'c', 'r', 'i', 'b', 'e', 'r', '_', 'f', 'i', 'l', 'e']
def subscriberUrl : List UInt8 :=
  letters ['s', 'u', 'b', 's', 'c', 'r', 'i', 'b', 'e', 'r', '_', 'u', 'r', 'l']
def localSubscriberFile : List UInt8 :=
  letters ['l', 'o', 'c', 'a', 'l', '_', 's', 'u', 'b', 's', 'c', 'r', 'i', 'b', 'e', 'r', '_',
    'f', 'i', 'l', 'e']
def checksumFile : List UInt8 :=
  letters ['c', 'h', 'e', 'c', 'k', 's', 'u', 'm', '_', 'f', 'i', 'l', 'e']
def checksumUrl : List UInt8 := letters ['c', 'h', 'e', 'c', 'k', 's', 'u', 'm', '_', 'u', 'r', 'l']
def level : List UInt8 := letters ['l', 'e', 'v', 'e', 'l']
def el : List UInt8 := letters ['e', 'l']
def voc : List UInt8 := letters ['v', 'o', 'c']

def ysfDmr : List UInt8 := letters ['y', 's', 'f', '-', 'd', 'm', 'r']
def echolinkDmr : List UInt8 := letters ['e', 'c', 'h', 'o', 'l', 'i', 'n', 'k', '-', 'd', 'm', 'r']
def elDmr : List UInt8 := letters ['e', 'l', '-', 'd', 'm', 'r']
def echolinkYsf : List UInt8 := letters ['e', 'c', 'h', 'o', 'l', 'i', 'n', 'k', '-', 'y', 's', 'f']
def elYsf : List UInt8 := letters ['e', 'l', '-', 'y', 's', 'f']

def one : List UInt8 := letters ['1']
def wordTrue : List UInt8 := letters ['t', 'r', 'u', 'e']
def yes : List UInt8 := letters ['y', 'e', 's']
def on : List UInt8 := letters ['o', 'n']
def zero : List UInt8 := letters ['0']
def wordFalse : List UInt8 := letters ['f', 'a', 'l', 's', 'e']
def no : List UInt8 := letters ['n', 'o']
def off : List UInt8 := letters ['o', 'f', 'f']

def debug : List UInt8 := letters ['D', 'E', 'B', 'U', 'G']
def info : List UInt8 := letters ['I', 'N', 'F', 'O']
def warning : List UInt8 := letters ['W', 'A', 'R', 'N', 'I', 'N', 'G']
def warn : List UInt8 := letters ['W', 'A', 'R', 'N']
def error : List UInt8 := letters ['E', 'R', 'R', 'O', 'R']

end Ini

end AdnBridge
