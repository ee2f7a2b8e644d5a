import AdnBridge.Lib.Prog
import AdnBridge.Lib.Run
import AdnBridge.VocoderRemote

namespace AdnBridge
set_option autoImplicit true

def dv3kStart : UInt8 := 0x61
def dv3kTypeCtrl : UInt8 := 0x00
def dv3kTypeAmbe : UInt8 := 0x01
def dv3kTypeAudio : UInt8 := 0x02
def dv3kAmbeField : UInt8 := 0x01
def dv3kAudioField : UInt8 := 0x00

/-- `DV3K_RATET_DMR`. -/
def dv3kRatetDmr : List UInt8 := [0x61, 0x00, 0x02, 0x00, 0x09, 0x22]

def dv3kType (packet : List UInt8) : UInt8 := packet.getD 3 0

/-- What the client asks of its socket; `recv` waits for the time it is given. -/
inductive VocCall where
  | drain
  | send (req : List UInt8)
  | recv (buflen timeoutMs : Nat)

/-- A `recv` that times out or gets an empty datagram gives nothing, one that fails gives `none`. -/
def VocCall.Reply : VocCall → Type
  | drain => Unit
  | send _ => Bool
  | recv _ _ => Option (List UInt8)

abbrev VocProg := Prog VocCall VocCall.Reply

/-- The result of an exchange: 0, -1, or a response. -/
inductive VocRsp where
  | timeout
  | failed
  | got (rsp : List UInt8)

def vocDrain : VocProg Unit := Prog.sys VocCall.drain

def vocSend (req : List UInt8) : VocProg Bool := Prog.sys (VocCall.send req)

def vocRecv (buflen timeoutMs : Nat) : VocProg (Option (List UInt8)) :=
  Prog.sys (VocCall.recv buflen timeoutMs)

/-- What an exchange returns for what it received. -/
def vocRsp : Option (List UInt8) → VocRsp
  | none => .failed
  | some rsp =>
    if rsp = [] then .timeout
    else if rsp.length < 4 ∨ rsp.headD 0 ≠ dv3kStart then .failed
    else .got rsp

def vocExchangeOnce (req : List UInt8) (rsplen timeoutMs : Nat) : VocProg VocRsp := do
  vocDrain
  let sent ← vocSend req
  if sent then
    let n ← vocRecv rsplen timeoutMs
    pure (vocRsp n)
  else pure .failed

def vocRecoverRate : VocProg Bool := do
  let n ← vocExchangeOnce dv3kRatetDmr 64 300
  match n with
  | .got _ => pure true
  | _ => pure false

/-- `voc_exchange`, with `g_consec_fail` as it was and as it becomes. -/
def vocExchange (req : List UInt8) (rsplen consecFail : Nat) : VocProg (VocRsp × Nat) := do
  let n ← vocExchangeOnce req rsplen (if consecFail ≥ 2 then 120 else 400)
  match n with
  | .got rsp => pure (.got rsp, 0)
  | n =>
    if consecFail + 1 ≥ 3 then
      let recovered ← vocRecoverRate
      if recovered then
        let n ← vocExchangeOnce req rsplen 400
        match n with
        | .got rsp => pure (.got rsp, 0)
        | n => pure (n, consecFail + 1)
      else pure (n, consecFail + 1)
    else pure (n, consecFail + 1)

def sampleBytes (s : Int16) : List UInt8 := [(s.toUInt16 >>> 8).toUInt8, s.toUInt16.toUInt8]

def encodeRequest (pcm : Vector Int16 160) : List UInt8 :=
  [dv3kStart, 0x01, 0x42, dv3kTypeAudio, dv3kAudioField, 160] ++ pcm.toList.flatMap sampleBytes

def decodeRequest (ambe : Vector UInt8 7) : List UInt8 :=
  [dv3kStart, 0x00, 0x09, dv3kTypeAmbe, dv3kAmbeField, 49] ++ ambe49Interleave ambe.toList

/-- The loop of `vocoder_encode`, with the number of turns that are left: the response with 49
bits. -/
def encodeTurns (req : List UInt8) : Nat → Nat → VocProg (Option (List UInt8) × Nat)
  | 0, consecFail => pure (none, consecFail)
  | k + 1, consecFail => do
    let (n, consecFail) ← vocExchange req 64 consecFail
    match n with
    | .got rsp =>
      if rsp.length < 6 ∨ dv3kType rsp ≠ dv3kTypeAmbe ∨ rsp.getD 4 0 ≠ dv3kAmbeField then
        pure (none, consecFail)
      else if rsp.getD 5 0 = 49 then pure (some rsp, consecFail)
      else if k = 0 then pure (none, consecFail)
      else
        let recovered ← vocRecoverRate
        if recovered then encodeTurns req k consecFail else pure (none, consecFail)
    | _ => pure (none, consecFail)

inductive VocResult where
  | ambe (frame : List UInt8)
  | pcm (samples : List Int16)
  deriving DecidableEq

/-- The frame in a response to `vocoder_encode`. -/
def encodeReading (rsp : List UInt8) : VocResult :=
  .ambe (ambe49Deinterleave ((rsp.drop 6).take 7))

/-- The samples in a response to `vocoder_decode`, filled up with silence. -/
def decodeReading (rsp : List UInt8) : VocResult :=
  .pcm ((List.range 160).map fun i =>
    if i < (rsp.getD 5 0).toNat then
      (((rsp.getD (6 + i * 2) 0).toUInt16 <<< 8) ||| (rsp.getD (7 + i * 2) 0).toUInt16).toInt16
    else 0)

def vocoderEncode (ready : Bool) (pcm : Vector Int16 160) (consecFail : Nat) :
    VocProg (Option VocResult × Nat) :=
  if ready then do
    let (rsp, consecFail) ← encodeTurns (encodeRequest pcm) 2 consecFail
    match rsp with
    | some rsp =>
      let nbytes := ((rsp.getD 5 0).toNat + 7) / 8
      if nbytes < 7 ∨ rsp.length < 6 + nbytes then pure (none, consecFail)
      else pure (some (encodeReading rsp), consecFail)
    | none => pure (none, consecFail)
  else pure (none, consecFail)

def vocoderDecode (ready : Bool) (ambe : Vector UInt8 7) (consecFail : Nat) :
    VocProg (Option VocResult × Nat) :=
  if ready then do
    let (n, consecFail) ← vocExchange (decodeRequest ambe) 334 consecFail
    match n with
    | .got rsp =>
      if rsp.length < 6 ∨ dv3kType rsp ≠ dv3kTypeAudio ∨ rsp.getD 4 0 ≠ dv3kAudioField then
        pure (none, consecFail)
      else if rsp.length < 6 + min (rsp.getD 5 0).toNat 160 * 2 then pure (none, consecFail)
      else pure (some (decodeReading rsp), consecFail)
    | _ => pure (none, consecFail)
  else pure (none, consecFail)

/-- A server answers samples with a frame and a frame with samples. -/
def Replies (req answer : List UInt8) : Prop :=
  (dv3kType answer = dv3kTypeAmbe → dv3kType req = dv3kTypeAudio) ∧
    (dv3kType answer = dv3kTypeAudio → dv3kType req = dv3kTypeAmbe)

structure VocAnswer (req : List UInt8) where
  data : List UInt8
  fits : Replies req data

/-- What happens around a call of the client: the answers that have come to the socket when it is
made, the reads of a drain before one fails, whether the call itself fails, and the answer that the
server gives to what is sent. -/
structure VocOutcome where
  arrivals : List Nat
  reads : Nat
  fails : Bool
  answer : ∀ req, VocAnswer req

/-- The requests sent and the answers to them by their numbers, the answers on their way and those
in the socket. `since` is the first request of the call in progress; `clean` says that in this call
no exchange looked into a socket with a late answer in it. -/
structure VocNet where
  sent : List (List UInt8)
  answers : List (List UInt8)
  inFlight : List Nat
  socket : List Nat
  since : Nat
  clean : Bool

namespace VocNet

/-- The answer to a request of an earlier call, of the kind that is waited for. -/
def Late (s : VocNet) (req : List UInt8) (k : Nat) : Prop :=
  k < s.since ∧ dv3kType req ≠ dv3kTypeCtrl ∧ dv3kType (s.sent.getD k []) = dv3kType req

instance (s : VocNet) (req : List UInt8) (k : Nat) : Decidable (s.Late req k) :=
  inferInstanceAs (Decidable (_ ∧ _))

/-- An answer that is on its way comes to the socket. -/
def arrive (s : VocNet) (k : Nat) : VocNet :=
  if k ∈ s.inFlight then
    { s with inFlight := s.inFlight.erase k, socket := s.socket ++ [k] }
  else s

/-- `voc_drain`: an empty datagram ends it, too. -/
def drained (answers : List (List UInt8)) : Nat → List Nat → List Nat
  | 0, socket => socket
  | _ + 1, [] => []
  | n + 1, k :: socket =>
    if answers.getD k [] = [] then socket else drained answers n socket

def drain (s : VocNet) (o : VocOutcome) : VocNet :=
  let s := o.arrivals.foldl arrive s
  { s with socket := drained s.answers o.reads s.socket }

def send (s : VocNet) (req : List UInt8) (o : VocOutcome) : Bool × VocNet :=
  let s := o.arrivals.foldl arrive s
  if o.fails then (false, s)
  else (true, { s with
    sent := s.sent ++ [req], answers := s.answers ++ [(o.answer req).data],
    inFlight := s.inFlight ++ [s.sent.length] })

/-- The first answer in the socket, as much of it as fits. -/
def recv (s : VocNet) (buflen : Nat) (o : VocOutcome) : Option (List UInt8) × VocNet :=
  let s := o.arrivals.foldl arrive s
  let s := { s with
    clean := s.clean && decide (∀ k ∈ s.socket, ¬s.Late (s.sent.getLastD []) k) }
  if o.fails then (none, s)
  else
    match s.socket with
    | [] => (some [], s)
    | k :: socket => (some ((s.answers.getD k []).take buflen), { s with socket := socket })

def exec (s : VocNet) : (e : VocCall) → VocOutcome → e.Reply × VocNet
  | .drain, o => ((), s.drain o)
  | .send req, o => s.send req o
  | .recv buflen _, o => s.recv buflen o

end VocNet

inductive VocRequest where
  | encode (pcm : Vector Int16 160)
  | decode (ambe : Vector UInt8 7)

namespace VocRequest

def bytes : VocRequest → List UInt8
  | encode pcm => encodeRequest pcm
  | decode ambe => decodeRequest ambe

def prog (ready : Bool) (consecFail : Nat) : VocRequest → VocProg (Option VocResult × Nat)
  | encode pcm => vocoderEncode ready pcm consecFail
  | decode ambe => vocoderDecode ready ambe consecFail

/-- What a call makes of the datagram that answers it. -/
def reading : VocRequest → List UInt8 → VocResult
  | encode _, answer => encodeReading (answer.take 64)
  | decode _, answer => decodeReading (answer.take 334)

end VocRequest

/-- A call that has returned, with the numbers of the requests it sent. -/
structure VocEntry where
  request : VocRequest
  result : Option VocResult
  first : Nat
  last : Nat

structure Vocoding where
  net : VocNet
  ready : Bool
  consecFail : Nat
  log : List VocEntry

/-- A call of `vocoder_encode` or `vocoder_decode` among the given outcomes. -/
def Vocoding.call (s : Vocoding) (r : VocRequest) (os : List VocOutcome) :
    Option ((Option VocResult × Nat) × VocNet) :=
  (r.prog s.ready s.consecFail).runScript VocNet.exec os
    { s.net with since := s.net.sent.length, clean := true }

/-- Calls of the vocoder one after the other. -/
def vocoding : Machine Vocoding (VocRequest × List VocOutcome) where
  init := ⟨⟨[], [], [], [], 0, true⟩, true, 0, []⟩
  step s e :=
    match s.call e.1 e.2 with
    | some (r, net) =>
      some ⟨net, s.ready, r.2, s.log ++ [⟨e.1, r.1, s.net.sent.length, net.sent.length⟩]⟩
    | none => none

end AdnBridge
