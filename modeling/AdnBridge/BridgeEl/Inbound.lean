import AdnBridge.Lib.CountedRing
import AdnBridge.Lib.Run
import AdnBridge.PeerEcholink

namespace AdnBridge
set_option autoImplicit true

/-- What becomes of the samples of EchoLink: those that the ring takes, a read with the number of
samples that waited in the accumulator for it, the frames that go to the gain and the encoder, and
the samples that a cooldown, failures of the encoder or `peer_el_drop_pcm_in` throw away; `store`
is a write to place `i` of an array of `n` frames. -/
inductive PcmAct where
  | accept (pcm : List Int16)
  | read (waiting : Nat) (pcm : List Int16)
  | encode (frame : List Int16)
  | cooldown (frame : List Int16)
  | failed (pcm : List Int16)
  | drop (pcm : List Int16)
  | store (i n : Nat)

/-- What the rest of the bridge says in a turn of the loops over the inbound PCM. -/
structure ElTurn where
  idle : Bool
  inCooldown : Bool
  encode : List Int16 → Option (List UInt8)

/-- The inbound PCM on its way from the ring of the peer to the encoder. -/
structure Inbound where
  pcmIn : CountedRing Int16 16000
  pcmElAcc : Vector Int16 160
  pcmElAccN : Nat
  elAmbeBuf : Vector (List UInt8) 3
  elAmbeCount : Nat
  ysfAmbeBuf : Vector (List UInt8) 5
  ysfAmbeCount : Nat
  trace : List PcmAct

namespace Inbound

def init : Inbound where
  pcmIn := ⟨Vector.replicate 16000 0, 0, 0, 0, by decide, by decide⟩
  pcmElAcc := Vector.replicate 160 0
  pcmElAccN := 0
  elAmbeBuf := Vector.replicate 3 []
  elAmbeCount := 0
  ysfAmbeBuf := Vector.replicate 5 []
  ysfAmbeCount := 0
  trace := []

section
variable (s : Inbound)

def note (a : PcmAct) : Inbound := { s with trace := s.trace ++ [a] }

def pcmRingPush (pcm : List Int16) : Inbound :=
  let ring := s.pcmIn.pushAll pcm
  { s with pcmIn := ring }.note (.accept (pcm.take (ring.count - s.pcmIn.count)))

/-- The frames of a packet, as far as they decode. -/
def elHandleRtp (frames : List (Option (Vector Int16 160))) : Inbound :=
  frames.foldl (fun s f =>
    match f with
    | some pcm => s.pcmRingPush pcm.toList
    | none => s) s

def peerElReadPcm (maxSamples : Nat) : List Int16 × Inbound :=
  let (pcm, ring) := s.pcmIn.popMany maxSamples
  (pcm, { s with pcmIn := ring }.note (.read s.pcmElAccN pcm))

def peerElDropPcmIn : Inbound :=
  { s with pcmIn := s.pcmIn.clear }.note (.drop s.pcmIn.view)

/-- The samples go to the accumulator until it is full. -/
def fillAcc : List Int16 → Inbound → Inbound
  | [], s => s
  | x :: pcm, s =>
    if s.pcmElAccN < 160 then
      fillAcc pcm { s with
        pcmElAcc := s.pcmElAcc.setIfInBounds s.pcmElAccN x, pcmElAccN := s.pcmElAccN + 1 }
    else s

/-- All the reads that are left, after too many failures. -/
def readAway : Nat → Inbound → Inbound
  | 0, s => s
  | fuel + 1, s =>
    let (pcm, s) := s.peerElReadPcm 160
    if pcm = [] then s else readAway fuel (s.note (.failed pcm))

/-- The loop over the inbound PCM: `turns` is what the rest of the bridge says from now on, `drop`
forgets the frames encoded so far and `take` stores one. Each turn reads a sample at least. -/
def elLoop (gain : Int16 → Int16) (drop : Inbound → Inbound)
    (take : ElTurn → List UInt8 → Inbound → Inbound) :
    Nat → (Nat → ElTurn) → Nat → Inbound → Inbound
  | 0, _, _, s => s
  | fuel + 1, turns, streak, s =>
    let (pcm, s) := s.peerElReadPcm 160
    if pcm = [] then s
    else
      let s := s.fillAcc pcm
      if s.pcmElAccN < 160 then elLoop gain drop take fuel turns streak s
      else
        let turn := turns 0
        let turns := fun n => turns (n + 1)
        let frame := s.pcmElAcc.toList
        if turn.idle ∧ turn.inCooldown then
          elLoop gain drop take fuel turns streak
            (drop ({ s with pcmElAccN := 0 }.note (.cooldown frame)))
        else
          let s := { s with pcmElAcc := s.pcmElAcc.map gain, pcmElAccN := 0 }.note (.encode frame)
          match turn.encode (frame.map gain) with
          | none =>
            if streak + 1 ≥ 3 then drop { s.readAway (s.pcmIn.count + 1) with pcmElAccN := 0 }
            else elLoop gain drop take fuel turns (streak + 1) s
          | some ambe => elLoop gain drop take fuel turns 0 (take turn ambe s)

def dropDmrAmbe : Inbound := { s with elAmbeCount := 0 }

def dropYsfAmbe : Inbound := { s with ysfAmbeCount := 0 }

end

def takeDmrAmbe (_ : ElTurn) (ambe : List UInt8) (s : Inbound) : Inbound :=
  let s := { s with
    elAmbeBuf := s.elAmbeBuf.setIfInBounds s.elAmbeCount ambe,
    elAmbeCount := s.elAmbeCount + 1 }.note (.store s.elAmbeCount 3)
  if s.elAmbeCount < 3 then s else s.dropDmrAmbe

/-- An idle bridge begins its call first. -/
def takeYsfAmbe (turn : ElTurn) (ambe : List UInt8) (s : Inbound) : Inbound :=
  let s := if turn.idle then { s with ysfAmbeCount := 0, pcmElAccN := 0 } else s
  let s := { s with
    ysfAmbeBuf := s.ysfAmbeBuf.setIfInBounds s.ysfAmbeCount ambe,
    ysfAmbeCount := s.ysfAmbeCount + 1 }.note (.store s.ysfAmbeCount 5)
  if s.ysfAmbeCount < 5 then s else s.dropYsfAmbe

end Inbound

/-- What touches the inbound PCM: packets, the two loops with what the rest of the bridge says
meanwhile, and the ends of the calls; `busy` is a bridge of the other mode, one with a reception or
one with a call that ends. -/
inductive InboundEvent where
  | rtp (frames : List (Option (Vector Int16 160)))
  | read
  | dropPcmIn
  | elAudio (busy : Bool) (turns : Nat → ElTurn)
  | elToYsf (busy : Bool) (turns : Nat → ElTurn)
  | dmrEnd
  | ysfEnd

namespace Inbound

/-- A read outside the loops throws its samples away. -/
def step (gain : Int16 → Int16) (s : Inbound) : InboundEvent → Inbound
  | .rtp frames => s.elHandleRtp frames
  | .read =>
    let (pcm, s) := s.peerElReadPcm 160
    s.note (.drop pcm)
  | .dropPcmIn => s.peerElDropPcmIn
  | .elAudio busy turns =>
    if busy then s else elLoop gain dropDmrAmbe takeDmrAmbe (s.pcmIn.count + 1) turns 0 s
  | .elToYsf busy turns =>
    if busy then s else elLoop gain dropYsfAmbe takeYsfAmbe (s.pcmIn.count + 1) turns 0 s
  | .dmrEnd => { s with elAmbeCount := 0, pcmElAccN := 0 }.peerElDropPcmIn
  | .ysfEnd => { s with ysfAmbeCount := 0, pcmElAccN := 0 }.peerElDropPcmIn

def machine (gain : Int16 → Int16) : Machine Inbound InboundEvent :=
  ⟨init, fun s ev => some (s.step gain ev)⟩

end Inbound

end AdnBridge
