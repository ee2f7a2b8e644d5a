import AdnBridge.Lib.LinearBuffer
import AdnBridge.Lib.Run

namespace AdnBridge
set_option autoImplicit true

def msgTcpOpen : UInt8 := 1
def msgTcpData : UInt8 := 2
def msgTcpClose : UInt8 := 3
def msgTcpStatus : UInt8 := 4
def msgUdpData : UInt8 := 5
def msgUdpControl : UInt8 := 6
def msgSystem : UInt8 := 7

def msgHdr : Nat := 9

/-- `sizeof(px->rx_acc)`. -/
def elProxyAccSize : Nat := 65536

def elProxyDirRxCap : Nat := 1024 * 1024 + 16

/-- `dir_rx`; `rd` is `dir_rx_r` and `wr` is `dir_rx_len`. -/
abbrev DirRx := LinearBuffer UInt8 elProxyDirRxCap

inductive TcpState where
  | disc
  | connecting
  | connected
  | disconnecting
deriving DecidableEq

/-- A message of the proxy; the address is kept as the code assembles it. -/
structure ProxyMsg where
  type : UInt8
  remote : Nat
  data : List UInt8
deriving DecidableEq

/-- A call of the UDP callback. -/
structure ElUdp where
  remote : Nat
  isCtrl : Bool
  data : List UInt8
deriving DecidableEq

def le32 (bs : List UInt8) (i : Nat) : Nat :=
  (bs.getD i 0).toNat + (bs.getD (i + 1) 0).toNat * 256 + (bs.getD (i + 2) 0).toNat * 65536 +
    (bs.getD (i + 3) 0).toNat * 16777216

def msgLen (acc : List UInt8) : Nat := le32 acc 5

def msgAt (acc : List UInt8) : ProxyMsg :=
  ⟨acc.getD 0 0, le32 acc 1, (acc.drop msgHdr).take (msgLen acc)⟩

/-- Where the directory worker stands: between two calls, or in the wait of one of them. -/
inductive ElWorker where
  | idle
  | opening (deadline : Int)
  | reading (buflen : Nat) (deadline : Int)
deriving DecidableEq

/-- A connected proxy: `sock` is what has arrived and is not read yet, `seen` what was read,
`rooms` the room that each read found, `handled` the messages that were handled, `calls` the calls
of the callback, `dirOut` what the worker was given and `rc` the last result of the worker. -/
structure ElProxy where
  ready : Bool
  sock : List UInt8
  eof : Bool
  seen : List UInt8
  rooms : List Nat
  rxAcc : List UInt8
  handled : List ProxyMsg
  tcpState : TcpState
  tcpStatus : Nat
  tcpStatusPending : Bool
  dirRx : DirRx
  dirOut : List UInt8
  calls : List ElUdp
  worker : ElWorker
  rc : Int

namespace ElProxy

/-- The end of `do_connect_auth`. -/
def init : ElProxy where
  ready := true
  sock := []
  eof := false
  seen := []
  rooms := []
  rxAcc := []
  handled := []
  tcpState := .disc
  tcpStatus := 0
  tcpStatusPending := false
  dirRx := .ofCells fun _ => 0
  dirOut := []
  calls := []
  worker := .idle
  rc := 0

section
variable (px : ElProxy)

def markDisconnected : ElProxy :=
  { px with
    ready := false, rxAcc := [], tcpState := .disc, dirRx := px.dirRx.clear,
    tcpStatusPending := false }

def dirRxAppend (data : List UInt8) : ElProxy :=
  if data = [] then px
  else
    let dirRx := px.dirRx.makeRoom
    if h : dirRx.wr + data.length ≤ elProxyDirRxCap then
      { px with dirRx := dirRx.append data h }
    else { px with dirRx := dirRx }.markDisconnected

/-- The answer to a TCP_OPEN. -/
def onTcpStatus (status : Nat) : ElProxy :=
  let px := { px with tcpStatus := status, tcpStatusPending := true }
  if px.tcpState = .connecting then
    if status = 0 then { px with tcpState := .connected, dirRx := px.dirRx.clear }
    else { px with tcpState := .disc }
  else px

/-- `handle_msg_locked`; without a callback the UDP messages are dropped. -/
def handleMsg (cb : Bool) (m : ProxyMsg) : ElProxy :=
  if m.type = msgTcpData then px.dirRxAppend m.data
  else if m.type = msgTcpClose then { px with tcpState := .disc, tcpStatusPending := false }
  else if m.type = msgTcpStatus then
    if m.data.length = 4 then px.onTcpStatus (le32 m.data 0) else px
  else if m.type = msgUdpData then
    if cb ∧ m.data ≠ [] then { px with calls := px.calls ++ [⟨m.remote, false, m.data⟩] } else px
  else if m.type = msgUdpControl then
    if cb ∧ m.data ≠ [] then { px with calls := px.calls ++ [⟨m.remote, true, m.data⟩] } else px
  else if m.type = msgSystem then
    if m.data.length = 1 then px.markDisconnected else px
  else if m.type = msgTcpOpen then px
  else px.markDisconnected

def noteMsg (m : ProxyMsg) : ElProxy := { px with handled := px.handled ++ [m] }

/-- Every message takes nine bytes at least, so that `fuel` is the length of the buffer. -/
def parseAcc (cb : Bool) : Nat → ElProxy → ElProxy
  | 0, px => px
  | fuel + 1, px =>
    if px.rxAcc.length < msgHdr then px
    else if msgLen px.rxAcc > elProxyAccSize - msgHdr then px.markDisconnected
    else if px.rxAcc.length < msgHdr + msgLen px.rxAcc then px
    else
      let total := msgHdr + msgLen px.rxAcc
      let px := (px.noteMsg (msgAt px.rxAcc)).handleMsg cb (msgAt px.rxAcc)
      if !px.ready then px else parseAcc cb fuel { px with rxAcc := px.rxAcc.drop total }

/-- Before a `read`. -/
def noteRoom : ElProxy := { px with rooms := px.rooms ++ [elProxyAccSize - px.rxAcc.length] }

/-- What one `read` takes from the socket. -/
def readSock : ElProxy :=
  let space := elProxyAccSize - px.rxAcc.length
  { px with
    rxAcc := px.rxAcc ++ px.sock.take space, seen := px.seen ++ px.sock.take space,
    sock := px.sock.drop space }

/-- `drain_locked`: read and parse until the socket is empty. -/
def drainLoop (cb : Bool) : Nat → ElProxy → ElProxy
  | 0, px => px
  | fuel + 1, px =>
    if px.rxAcc.length ≥ elProxyAccSize then px.noteRoom.markDisconnected
    else if px.sock = [] then if px.eof then px.noteRoom.markDisconnected else px.noteRoom
    else
      let px := px.noteRoom.readSock
      let px := parseAcc cb px.rxAcc.length px
      if !px.ready then px else drainLoop cb fuel px

def drain (cb : Bool) : ElProxy :=
  if !px.ready then px else drainLoop cb (px.sock.length + 1) px

/-- The worker's call returns. -/
def finish (rc : Int) : ElProxy := { px with worker := .idle, rc := rc }

/-- The loop of `el_proxy_tcp_open`, up to its next wait. -/
def openTurn (deadline now : Int) : ElProxy :=
  if px.ready ∧ px.tcpState = .connecting then
    let px := px.drain false
    if px.tcpState = .connected then px.finish 0
    else if px.tcpState = .disc then px.finish (-1)
    else if now ≥ deadline then { px with tcpState := .disc }.finish (-1)
    else { px with worker := .opening deadline }
  else px.finish (if px.tcpState = .connected then 0 else -1)

def deadlineOf (now timeoutMs : Int) : Int :=
  now + if timeoutMs > 0 then (timeoutMs + 999) / 1000 else 20

def tcpOpen (timeoutMs now : Int) (sendOk : Bool) : ElProxy :=
  if !px.ready then px.finish (-1)
  else
    let px := { px with
      dirRx := px.dirRx.clear, tcpStatusPending := false, tcpState := .connecting }
    if !sendOk then px.markDisconnected.finish (-1)
    else px.openTurn (deadlineOf now timeoutMs) now

/-- The loop of `el_proxy_tcp_read`, up to its next wait. -/
def readTurn (buflen : Nat) (deadline now : Int) : ElProxy :=
  let px := if px.ready then px.drain false else px
  let avail := px.dirRx.wr - px.dirRx.rd
  if avail > 0 then
    let take := min avail buflen
    { px with
      dirOut := px.dirOut ++ px.dirRx.view.take take, dirRx := px.dirRx.skip take }.finish take
  else if !px.ready ∨ px.tcpState ≠ .connected then px.finish 0
  else if now ≥ deadline then px.finish 0
  else { px with worker := .reading buflen deadline }

def tcpRead (buflen : Nat) (timeoutMs now : Int) : ElProxy :=
  if buflen = 0 then px.finish (-1) else px.readTurn buflen (deadlineOf now timeoutMs) now

def tcpClose (sendOk : Bool) : ElProxy :=
  let closing := px.ready ∧ px.tcpState ≠ .disc
  let px := if closing ∧ !sendOk then px.markDisconnected else px
  let px := { px with tcpState := .disc, dirRx := px.dirRx.clear }
  px.finish (if closing ∧ !sendOk then -1 else 0)

/-- The worker goes on after a wait. -/
def wake (now : Int) : ElProxy :=
  match px.worker with
  | .idle => px
  | .opening deadline => px.openTurn deadline now
  | .reading buflen deadline => px.readTurn buflen deadline now

/-- `el_proxy_poll`, with the callback. -/
def poll : ElProxy := px.drain true

end

end ElProxy

/-- What happens to a connected proxy: bytes arrive or the stream ends, the main thread polls, and
the worker starts a call or goes on with one. -/
inductive ElProxyEvent where
  | arrive (bytes : List UInt8)
  | hangup
  | poll
  | tcpOpen (timeoutMs now : Int) (sendOk : Bool)
  | tcpRead (buflen : Nat) (timeoutMs now : Int)
  | tcpClose (sendOk : Bool)
  | wake (now : Int)

namespace ElProxy

/-- The worker is one thread: it starts no call inside another. -/
def call (px : ElProxy) (f : ElProxy → ElProxy) : ElProxy :=
  if px.worker = .idle then f px else px

def step (px : ElProxy) : ElProxyEvent → ElProxy
  | .arrive bytes => { px with sock := px.sock ++ bytes }
  | .hangup => { px with eof := true }
  | .poll => px.poll
  | .tcpOpen timeoutMs now sendOk => px.call fun px => px.tcpOpen timeoutMs now sendOk
  | .tcpRead buflen timeoutMs now => px.call fun px => px.tcpRead buflen timeoutMs now
  | .tcpClose sendOk => px.call fun px => px.tcpClose sendOk
  | .wake now => px.wake now

def machine : Machine ElProxy ElProxyEvent := ⟨init, fun px ev => some (px.step ev)⟩

end ElProxy

end AdnBridge
