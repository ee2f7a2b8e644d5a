import AdnBridge.Aliases.Table
import AdnBridge.Config.Names

namespace AdnBridge
set_option autoImplicit true

def chNewline : UInt8 := 0x0A
def chHash : UInt8 := 0x23
def chSemicolon : UInt8 := 0x3B
def chBracket : UInt8 := 0x5B
def chBracketEnd : UInt8 := 0x5D
def chEquals : UInt8 := 0x3D
def chComma : UInt8 := 0x2C

inductive Mode where
  | ysfDmr
  | echolinkDmr
  | echolinkYsf
deriving DecidableEq

/-- The character arrays of `ysf2dmr_config_t`. -/
inductive StrField where
  | callsign | description | location | ysfHost | dmrHost | dmrOptions | dmrPassword
  | elCallsign | elPassword | bindAddr | elHost | qth | email | proxyServer | proxyPassword
  | vocoderHost
  | dataDir | subscriberFile | subscriberUrl | localSubscriberFile | checksumFile | checksumUrl
deriving DecidableEq

/-- How long the array is, the NUL included. -/
def StrField.size : StrField → Nat
  | .callsign | .elCallsign => 16
  | .description => 20
  | .location => 21
  | .qth => 32
  | .dmrPassword | .elPassword | .bindAddr | .email | .proxyPassword => 64
  | .subscriberFile | .localSubscriberFile | .checksumFile => 64
  | .ysfHost | .dmrHost | .dmrOptions | .elHost | .proxyServer | .vocoderHost => 128
  | .dataDir | .subscriberUrl | .checksumUrl => 256

inductive IntField where
  | dmrid | ysfPort | dgid | dmrPort | dmrTg | defaultYsfDmrid
  | loginInterval | stationListInterval | proxyPort | vocoderPort | staleMinutes | reloadMinutes
deriving DecidableEq

/-- The log channels; the level of `app` is the one that `[log] level` sets for all. -/
inductive LogChannel where
  | app | ysf | dmr | echolink | vocoder
deriving DecidableEq

/-- `ysf2dmr_config_t`; of the directory servers the first `directory_server_count`. -/
structure Config (γ : Type) where
  mode : Mode
  str : StrField → List UInt8
  int : IntField → Int
  level : LogChannel → Int
  clearDynamicTg : Bool
  gain : γ
  directoryServers : List (List UInt8)

/-- What the loader needs of C's floating point: `strtof`, which may convert nothing, 1, and the
range that `ysf2dmr_config_valid` allows. -/
structure GainOps (γ : Type) where
  strtof : List UInt8 → Option γ
  one : γ
  allowed : γ → Bool

namespace Config

variable {γ : Type}

def elDirMax : Nat := 8

def initStr : StrField → List UInt8
  | .vocoderHost => ascii "127.0.0.1"
  | .dataDir => ascii "./data"
  | .subscriberFile => ascii "subscriber_ids.json"
  | .subscriberUrl => ascii "https://servers.adn.systems/subscriber_ids.json"
  | .localSubscriberFile => ascii "local_subcriber_ids.json"
  | .checksumFile => ascii "file_checksums.json"
  | .checksumUrl => ascii "https://servers.adn.systems/file_checksums.json"
  | _ => []

def initInt : IntField → Int
  | .loginInterval => 360
  | .stationListInterval => 600
  | .vocoderPort => 2460
  | .staleMinutes => 24 * 60
  | .reloadMinutes => 15
  | _ => 0

def init (g : GainOps γ) : Config γ where
  mode := .ysfDmr
  str := initStr
  int := initInt
  level := fun c => if c = .app then 1 else -1
  clearDynamicTg := false
  gain := g.one
  directoryServers := []

def trim (s : List UInt8) : List UInt8 :=
  ((s.dropWhile isSpace).reverse.dropWhile isSpace).reverse

def setStr (size : Nat) (dst val : List UInt8) : List UInt8 :=
  if val = [] then dst else val.take (size - 1)

/-- C's `atoi`, which is `strtol` cut to 32 bits. -/
def atoiText (val : List UInt8) : Int :=
  let s := val.dropWhile isSpace
  let digits := if s.head? = some chDash ∨ s.head? = some 0x2B then s.tail else s
  let n : Nat := (digits.takeWhile isDigit).foldl (fun n c => 10 * n + (c.toNat - 0x30)) 0
  let n : Int := if s.head? = some chDash then -n else n
  Int.bmod (max (-2 ^ 63) (min n (2 ^ 63 - 1))) (2 ^ 32)

def setInt (dst : Int) (val : List UInt8) : Int := if val = [] then dst else atoiText val

def toLower (c : UInt8) : UInt8 := if 0x41 ≤ c ∧ c ≤ 0x5A then c + 0x20 else c

def setBool01 (dst : Bool) (val : List UInt8) : Bool :=
  let buf := ((val.filter fun c => !isSpace c).take 15).map toLower
  if buf = Ini.one ∨ buf = Ini.wordTrue ∨ buf = Ini.yes ∨ buf = Ini.on then true
  else if buf = Ini.zero ∨ buf = Ini.wordFalse ∨ buf = Ini.no ∨ buf = Ini.off then false
  else dst

def logLevelFromString (s : List UInt8) : Int :=
  let buf := (s.take 15).map toUpper
  if buf = Ini.debug then 0
  else if buf = Ini.info then 1
  else if buf = Ini.warning ∨ buf = Ini.warn then 2
  else if buf = Ini.error then 3
  else 1

def setFloat (g : GainOps γ) (dst : γ) (val : List UInt8) : γ :=
  if val = [] then dst else (g.strtof val).getD dst

/-- `strtok_r`: the pieces between the separators. -/
def tokens (sep : UInt8 → Bool) : List UInt8 → List UInt8 → List (List UInt8)
  | [], cur => if cur = [] then [] else [cur]
  | c :: cs, cur =>
    if sep c then (if cur = [] then tokens sep cs [] else cur :: tokens sep cs [])
    else tokens sep cs (cur ++ [c])

def isServerSep (c : UInt8) : Bool := c == chComma || c == chSpace || c == chTab

def parseDirectoryServers (dst : List (List UInt8)) (val : List UInt8) : List (List UInt8) :=
  if val = [] then dst
  else ((tokens isServerSep (val.take 511) []).take elDirMax).map (setStr 128 [])

def parseMode (val : List UInt8) : Mode :=
  if val = Ini.echolinkDmr ∨ val = Ini.elDmr then .echolinkDmr
  else if val = Ini.echolinkYsf ∨ val = Ini.elYsf then .echolinkYsf
  else .ysfDmr

/-- What a key sets. -/
inductive Setting where
  | mode
  | str (f : StrField)
  | int (f : IntField)
  | level (c : LogChannel)
  | clearDynamicTg
  | gain
  | directoryServers
  | staleDays
deriving DecidableEq

def identityKey (key : List UInt8) : Option Setting :=
  if key = Ini.callsign then some (.str .callsign)
  else if key = Ini.dmrid then some (.int .dmrid)
  else if key = Ini.description then some (.str .description)
  else if key = Ini.location then some (.str .location)
  else none

def ysfKey (key : List UInt8) : Option Setting :=
  if key = Ini.host then some (.str .ysfHost)
  else if key = Ini.port then some (.int .ysfPort)
  else if key = Ini.dgid then some (.int .dgid)
  else if key = Ini.logLevel ∨ key = Ini.log then some (.level .ysf)
  else none

def dmrKey (key : List UInt8) : Option Setting :=
  if (identityKey key).isSome then identityKey key
  else if key = Ini.host then some (.str .dmrHost)
  else if key = Ini.port then some (.int .dmrPort)
  else if key = Ini.options then some (.str .dmrOptions)
  else if key = Ini.tg then some (.int .dmrTg)
  else if key = Ini.clearDynamicTg then some .clearDynamicTg
  else if key = Ini.password ∨ key = Ini.passphrase then some (.str .dmrPassword)
  else if key = Ini.defaultYsfDmrid then some (.int .defaultYsfDmrid)
  else if key = Ini.logLevel ∨ key = Ini.log then some (.level .dmr)
  else none

def echolinkKey (key : List UInt8) : Option Setting :=
  if key = Ini.callsign then some (.str .elCallsign)
  else if key = Ini.password then some (.str .elPassword)
  else if key = Ini.bindAddr then some (.str .bindAddr)
  else if key = Ini.host then some (.str .elHost)
  else if key = Ini.qth then some (.str .qth)
  else if key = Ini.email then some (.str .email)
  else if key = Ini.directoryServers then some .directoryServers
  else if key = Ini.loginInterval ∨ key = Ini.tlbLoginInterval then
    some (.int .loginInterval)
  else if key = Ini.stationListInterval ∨ key = Ini.tlbStationListInterval then
    some (.int .stationListInterval)
  else if key = Ini.gain then some .gain
  else if key = Ini.proxyServer ∨ key = Ini.upperProxyServer then some (.str .proxyServer)
  else if key = Ini.proxyPort ∨ key = Ini.upperProxyPort then some (.int .proxyPort)
  else if key = Ini.proxyPassword ∨ key = Ini.upperProxyPassword then
    some (.str .proxyPassword)
  else if key = Ini.logLevel ∨ key = Ini.log then some (.level .echolink)
  else none

def vocoderKey (key : List UInt8) : Option Setting :=
  if key = Ini.host then some (.str .vocoderHost)
  else if key = Ini.port then some (.int .vocoderPort)
  else if key = Ini.logLevel ∨ key = Ini.log then some (.level .vocoder)
  else none

def aliasesKey (key : List UInt8) : Option Setting :=
  if key = Ini.tryDownload then none
  else if key = Ini.staleMinutes then some (.int .staleMinutes)
  else if key = Ini.staleDays then some .staleDays
  else if key = Ini.reloadMinutes then some (.int .reloadMinutes)
  else if key = Ini.dataDir then some (.str .dataDir)
  else if key = Ini.subscriberFile then some (.str .subscriberFile)
  else if key = Ini.subscriberUrl then some (.str .subscriberUrl)
  else if key = Ini.localSubscriberFile then some (.str .localSubscriberFile)
  else if key = Ini.checksumFile then some (.str .checksumFile)
  else if key = Ini.checksumUrl then some (.str .checksumUrl)
  else none

def logKey (key : List UInt8) : Option Setting :=
  if key = Ini.level then some (.level .app)
  else if key = Ini.echolink ∨ key = Ini.el then some (.level .echolink)
  else if key = Ini.dmr then some (.level .dmr)
  else if key = Ini.ysf then some (.level .ysf)
  else if key = Ini.vocoder ∨ key = Ini.voc then some (.level .vocoder)
  else none

/-- The tests of `apply_key`. -/
def settingOf (sec key : List UInt8) : Option Setting :=
  if sec = Ini.bridge then if key = Ini.mode then some .mode else none
  else if sec = Ini.ysf then ysfKey key
  else if sec = Ini.dmr then dmrKey key
  else if sec = Ini.echolink then echolinkKey key
  else if sec = Ini.vocoder then vocoderKey key
  else if sec = Ini.aliases then aliasesKey key
  else if sec = Ini.log then logKey key
  else none

/-- A setting of `apply_key`; the days are multiplied in 32 bits, whatever set them. -/
def set (g : GainOps γ) (cfg : Config γ) (s : Setting) (val : List UInt8) : Config γ :=
  match s with
  | .mode => { cfg with mode := parseMode val }
  | .str f => { cfg with str := Function.update cfg.str f (setStr f.size (cfg.str f) val) }
  | .int f => { cfg with int := Function.update cfg.int f (setInt (cfg.int f) val) }
  | .level c => { cfg with level := Function.update cfg.level c (logLevelFromString val) }
  | .clearDynamicTg => { cfg with clearDynamicTg := setBool01 cfg.clearDynamicTg val }
  | .gain => { cfg with gain := setFloat g cfg.gain val }
  | .directoryServers =>
    { cfg with directoryServers := parseDirectoryServers cfg.directoryServers val }
  | .staleDays =>
    let days := setInt (cfg.int .staleMinutes) val
    { cfg with int := Function.update cfg.int .staleMinutes (Int.bmod (days * 1440) (2 ^ 32)) }

def applyKey (g : GainOps γ) (cfg : Config γ) (sec key val : List UInt8) : Config γ :=
  match settingOf sec key with
  | none => cfg
  | some s => cfg.set g s val

/-- The lines that `fgets` reads with a buffer for `n` bytes and the NUL, of which `cur` has been
read. -/
def fgetsLines (n : Nat) : List UInt8 → List UInt8 → List (List UInt8)
  | [], cur => if cur = [] then [] else [cur]
  | c :: cs, cur =>
    if c = chNewline ∨ cur.length + 1 = n then (cur ++ [c]) :: fgetsLines n cs []
    else fgetsLines n cs (cur ++ [c])

/-- What a line of the file is. -/
inductive Line where
  | skip
  | sect (name : List UInt8)
  | assign (key val : List UInt8)
  | malformedSection
  | noEquals
deriving DecidableEq

def parseLine (line : List UInt8) : Line :=
  let p := trim (cString line)
  if p = [] ∨ p.head? = some chHash ∨ p.head? = some chSemicolon then .skip
  else if p.head? = some chBracket then
    if chBracketEnd ∈ p then .sect ((p.tail.takeWhile (· != chBracketEnd)).take 31)
    else .malformedSection
  else if chEquals ∈ p then
    .assign (trim (p.takeWhile (· != chEquals))) (trim (p.dropWhile (· != chEquals)).tail)
  else .noEquals

end Config

inductive LoadError where
  | cannotOpen
  | malformedSection (lineno : Nat)
  | expectedKeyValue (lineno : Nat)
deriving DecidableEq

/-- What `snprintf` puts into the 256 bytes of the caller. -/
def LoadError.text (path : List UInt8) : LoadError → List UInt8
  | .cannotOpen => (ascii "cannot open config: " ++ path).take 255
  | .malformedSection lineno =>
    (path ++ ascii ":" ++ decimal lineno ++ ascii ": malformed section").take 255
  | .expectedKeyValue lineno =>
    (path ++ ascii ":" ++ decimal lineno ++ ascii ": expected key=value").take 255

namespace Config

variable {γ : Type}

def Line.error (lineno : Nat) : Line → Option LoadError
  | .malformedSection => some (.malformedSection lineno)
  | .noEquals => some (.expectedKeyValue lineno)
  | _ => none

/-- The configuration and the section after a line without an error. -/
def readLine (g : GainOps γ) (s : Config γ × List UInt8) : Line → Config γ × List UInt8
  | .sect name => (s.1, name)
  | .assign key val => (s.1.applyKey g s.2 key val, s.2)
  | _ => s

/-- The loop over the lines, after `n` of them. -/
def loadLines (g : GainOps γ) (n : Nat) (s : Config γ × List UInt8) :
    List (List UInt8) → Except LoadError (Config γ × List UInt8)
  | [] => .ok s
  | line :: lines =>
    match (parseLine line).error (n + 1) with
    | some e => .error e
    | none => loadLines g (n + 1) (readLine g s (parseLine line)) lines

def echolinkMode (cfg : Config γ) : Bool := cfg.mode = .echolinkDmr || cfg.mode = .echolinkYsf

def defaultServers : List (List UInt8) :=
  [ascii "server1.echolink.org", ascii "server2.echolink.org", ascii "server3.echolink.org",
    ascii "server4.echolink.org"]

/-- Two quotes stand for no options. -/
def clearOptions (cfg : Config γ) : Config γ :=
  if cfg.str .dmrOptions = ascii "\"\"" then
    { cfg with str := Function.update cfg.str .dmrOptions [] }
  else cfg

def directoryDefaults (cfg : Config γ) : Config γ :=
  if cfg.echolinkMode ∧ cfg.directoryServers = [] then
    { cfg with directoryServers := defaultServers }
  else cfg

def proxyDefaults (cfg : Config γ) : Config γ :=
  if cfg.str .proxyServer = [] then cfg
  else
    let cfg :=
      if cfg.int .proxyPort ≤ 0 then { cfg with int := Function.update cfg.int .proxyPort 8100 }
      else cfg
    if cfg.str .proxyPassword = [] then
      { cfg with str := Function.update cfg.str .proxyPassword (ascii "PUBLIC") }
    else cfg

/-- What follows the loop. -/
def applyDefaults (cfg : Config γ) : Config γ := cfg.clearOptions.directoryDefaults.proxyDefaults

/-- `ysf2dmr_config_load`, of a file that could be read or not. -/
def load (g : GainOps γ) : Option (List UInt8) → Except LoadError (Config γ)
  | none => .error .cannotOpen
  | some text => (loadLines g 0 (init g, []) (fgetsLines 511 text [])).map
      fun s => s.1.applyDefaults

/-- `ysf2dmr_config_valid`: the text of the error, if there is one. -/
def invalid (g : GainOps γ) (cfg : Config γ) : Option (List UInt8) :=
  let ysf := cfg.mode = .ysfDmr ∨ cfg.mode = .echolinkYsf
  let dmr := cfg.mode = .ysfDmr ∨ cfg.mode = .echolinkDmr
  if cfg.str .callsign = [] then some (ascii "missing [dmr] callsign")
  else if cfg.int .dmrid ≤ 0 then some (ascii "missing [dmr] dmrid")
  else if cfg.str .dmrPassword = [] then some (ascii "missing [dmr] password (or passphrase)")
  else if ysf ∧ (cfg.str .ysfHost = [] ∨ cfg.int .ysfPort ≤ 0) then
    some (ascii "missing [ysf] host/port")
  else if ysf ∧ (cfg.int .dgid < 0 ∨ cfg.int .dgid > 99) then
    some (ascii "invalid [ysf] dgid (0-99)")
  else if dmr ∧ (cfg.str .dmrHost = [] ∨ cfg.int .dmrPort ≤ 0) then
    some (ascii "missing [dmr] host/port")
  else if dmr ∧ cfg.int .dmrTg ≤ 0 then some (ascii "missing [dmr] tg")
  else if !cfg.echolinkMode then none
  else if cfg.str .elCallsign = [] then some (ascii "missing [echolink] callsign")
  else if cfg.str .elPassword = [] then some (ascii "missing [echolink] password")
  else if cfg.str .proxyServer ≠ [] ∧ cfg.int .proxyPort ≤ 0 then
    some (ascii "invalid [echolink] proxy_port")
  else if cfg.str .proxyServer = [] ∧ cfg.str .bindAddr = [] then
    some (ascii "missing [echolink] bind_addr")
  else if !g.allowed cfg.gain then some (ascii "invalid [echolink] gain (use 0 < gain <= 4)")
  else if cfg.str .vocoderHost = [] ∨ cfg.int .vocoderPort ≤ 0 then
    some (ascii "missing [vocoder] host/port")
  else none

end Config

end AdnBridge
