import AdnBridge.BridgeEl.Requests
import AdnBridge.PeerEl.Talker

namespace AdnBridge
set_option autoImplicit true

/-- What the users of the EchoLink peer do with it; `reach` is the node found in the directory,
or the peer closed. -/
inductive ElApi where
  | write (pcm : List Int16)
  | flush
  | reach (up : Bool)
  | rtp (frames : List (Vector Int16 160))
  | sdes (s : PeerEl.SdesHeard)
  | read (maxSamples : Nat)
  | drop
  | name (talker : List UInt8)
  | clear

namespace PeerEl

/-- A turn of the loop of `peer_el_write_pcm`: the samples for which the packet has room are taken,
and a full packet goes out. -/
def writeTurn (p : PeerEl) (pcm : List Int16) : PeerEl × List Int16 :=
  let take := min pcm.length (elRtpSamples - p.pcmOut.length)
  ({ p with pcmOut := p.pcmOut ++ pcm.take take }.flushFull, pcm.drop take)

/-- The loop comes to its end. -/
inductive Writes : PeerEl → List Int16 → PeerEl → Prop where
  | done (p : PeerEl) : Writes p [] p
  | turn (hne : pcm ≠ []) (h : Writes (p.writeTurn pcm).1 (p.writeTurn pcm).2 q) : Writes p pcm q

/-- The voice packets that were tried, each with its number and its samples. -/
def tried (p : PeerEl) : List (UInt16 × List Int16) :=
  p.sent.filterMap fun
    | .rtp seq pcm _ => some (seq, pcm)
    | .sdes _ => none

/-- Those that went out. -/
def rtpOut (p : PeerEl) : List (UInt16 × List Int16) :=
  p.sent.filterMap fun
    | .rtp seq pcm ok => if ok then some (seq, pcm) else none
    | .sdes _ => none

/-- The samples in the packets `out`, and behind them those that wait. -/
def audio (out : List (UInt16 × List Int16)) (p : PeerEl) : List Int16 :=
  out.flatMap Prod.snd ++ p.pcmOut

/-- A call of the API; a write that never returns has no result. -/
def api (p : PeerEl) : ElApi → Option PeerEl
  | .write pcm => p.writePcm pcm
  | .flush => some p.flushPcm
  | .reach up => some { p with rtpOk := up }
  | .rtp frames => some (p.handleRtp frames)
  | .sdes s => some (p.hear s)
  | .read n => some (p.readPcm n).2
  | .drop => some p.dropPcmIn
  | .name talker => some (p.setTalkerName talker)
  | .clear => some p.clearRemoteTalker

def apiMachine (callsign host : List UInt8) (rtpSends : Nat → Bool) : Machine PeerEl ElApi :=
  ⟨opened callsign host rtpSends, api⟩

/-- The samples written in a run, with the zeros that a flush puts behind them to complete a
packet. -/
inductive Padded : List ElApi → List Int16 → Prop where
  | nil : Padded [] []
  | write (h : Padded evs s) (pcm : List Int16) : Padded (evs ++ [.write pcm]) (s ++ pcm)
  | flush (h : Padded evs s) (hz : z < elRtpSamples) (hs : (s.length + z) % elRtpSamples = 0) :
    Padded (evs ++ [.flush]) (s ++ List.replicate z 0)
  | other (h : Padded evs s) (hev : ∀ pcm, ev ≠ .write pcm) : Padded (evs ++ [ev]) s

/-- The packets `out` are full and numbered in their order, and what waits is no more than a
packet. -/
structure Framed (out : List (UInt16 × List Int16)) (p : PeerEl) : Prop where
  waiting : p.pcmOut.length ≤ elRtpSamples
  full : ∀ x ∈ out, x.2.length = elRtpSamples
  numbered : out.map Prod.fst = (List.range out.length).map Nat.toUInt16
  next : p.rtpSeq = out.length.toUInt16

/-- Each sample of a run is in one of the packets `out`, or waits, in the order of the writes. -/
structure Accounted (out : List (UInt16 × List Int16)) (evs : List ElApi) (p : PeerEl) : Prop where
  framed : Framed out p
  padded : Padded evs (audio out p)

/-- Each sample of a run is in a packet that went out, or waits, and the number of the next packet
was advanced once for each of these packets. -/
structure WellSent (evs : List ElApi) (p : PeerEl) : Prop where
  accounted : Accounted p.rtpOut evs p
  advanced : p.tried.length = p.rtpOut.length

/-- Every packet tried so far has gone out. -/
def NoneLost (p : PeerEl) : Prop := ∀ seq pcm ok, .rtp seq pcm ok ∈ p.sent → ok = true

/-- The packets that a write completes, while the node can be reached. -/
def packetsOf (p : PeerEl) (pcm : List Int16) : Nat :=
  if p.rtpOk = true ∧ pcm ≠ [] then (p.pcmOut.length + pcm.length) / elRtpSamples else 0

/-- A write that returns: the node can be reached, or the samples fit the packet. -/
def CanWrite (p : PeerEl) (pcm : List Int16) : Prop :=
  p.rtpOk = true ∨ pcm = [] ∨ p.pcmOut.length + pcm.length ≤ elRtpSamples

variable {p q : PeerEl}

/-- What the audio to the node depends on. -/
structure SameOut (p q : PeerEl) : Prop where
  tried : q.tried = p.tried
  waiting : q.pcmOut = p.pcmOut
  next : q.rtpSeq = p.rtpSeq

theorem SameOut.framed (h : SameOut p q) (hf : Framed p.tried p) :
    Framed q.tried q ∧ audio q.tried q = audio p.tried p := by
  refine ⟨⟨?_, ?_, ?_, ?_⟩, ?_⟩
  · rw [h.waiting]
    exact hf.waiting
  · rw [h.tried]
    exact hf.full
  · rw [h.tried]
    exact hf.numbered
  · rw [h.tried, h.next]
    exact hf.next
  · rw [audio, audio, h.tried, h.waiting]

theorem audio_length {out : List (UInt16 × List Int16)} (hf : Framed out p) :
    (audio out p).length = elRtpSamples * out.length + p.pcmOut.length := by
  have hsum : (out.flatMap Prod.snd).length = elRtpSamples * out.length := by
    have hfull := hf.full
    clear hf
    induction out with
    | nil => rfl
    | cons x out ih =>
      obtain ⟨hx, hout⟩ := List.forall_mem_cons.1 hfull
      rw [List.flatMap_cons, List.length_append, hx, ih hout, List.length_cons, Nat.mul_succ,
        Nat.add_comm]
  rw [audio, List.length_append, hsum]

/-- A packet that is tried carries what waited, and zeros up to its size. -/
theorem Framed.flushRtpTx (hf : Framed p.tried p) : Framed p.flushRtpTx.tried p.flushRtpTx ∧
    ∃ z, audio p.flushRtpTx.tried p.flushRtpTx = audio p.tried p ++ List.replicate z 0 ∧
      (p.pcmOut.length = elRtpSamples → z = 0) ∧
      (z = 0 ∨ z < elRtpSamples ∧ ((audio p.tried p).length + z) % elRtpSamples = 0) := by
  rw [PeerEl.flushRtpTx]
  by_cases h : p.pcmOut.length = 0 ∨ (!p.rtpOk) = true
  · rw [if_pos h]
    exact ⟨hf, 0, (List.append_nil _).symm, fun _ => rfl, .inl rfl⟩
  · rw [if_neg h]
    have hwait := hf.waiting
    have hout : (p.sent ++ [ElPacket.rtp p.rtpSeq (p.pcmOut ++ List.replicate
        (elRtpSamples - p.pcmOut.length) 0) (p.rtpSends 0)]).filterMap (fun
          | .rtp seq pcm _ => some (seq, pcm)
          | .sdes _ => none) =
        p.tried ++ [(p.rtpSeq, p.pcmOut ++ List.replicate (elRtpSamples - p.pcmOut.length) 0)] :=
      List.filterMap_append
    refine ⟨⟨Nat.zero_le _, ?_, ?_, ?_⟩, elRtpSamples - p.pcmOut.length, ?_, by omega, .inr ?_⟩
    · intro x hx
      rw [tried, hout] at hx
      rcases List.mem_append.1 hx with hx | hx
      · exact hf.full x hx
      · rw [List.mem_singleton.1 hx, List.length_append, List.length_replicate]
        omega
    · rw [tried, hout, List.map_append, hf.numbered, List.length_append, List.length_singleton,
        List.range_succ, List.map_append, hf.next]
      rfl
    · rw [tried, hout, List.length_append, List.length_singleton, hf.next]
      exact (UInt16.ofNat_add _ _).symm
    · rw [audio, tried, hout, List.flatMap_append, audio, List.append_nil, List.append_assoc]
      simp only [List.flatMap_cons, List.flatMap_nil, List.append_nil]
    · have hpos : 0 < p.pcmOut.length := Nat.pos_of_ne_zero fun h0 => h (.inl h0)
      refine ⟨by omega, ?_⟩
      rw [audio_length hf, Nat.add_assoc, Nat.add_sub_cancel' hwait, ← Nat.mul_succ,
        Nat.mul_mod_right]

theorem Framed.flushFull (hf : Framed p.tried p) : Framed p.flushFull.tried p.flushFull ∧
    audio p.flushFull.tried p.flushFull = audio p.tried p := by
  rw [PeerEl.flushFull]
  by_cases h : p.pcmOut.length ≥ elRtpSamples
  · rw [if_pos h]
    obtain ⟨hf', z, haudio, hz, _⟩ := hf.flushRtpTx
    rw [hz (Nat.le_antisymm hf.waiting h), List.replicate_zero, List.append_nil] at haudio
    exact ⟨hf', haudio⟩
  · rw [if_neg h]
    exact ⟨hf, rfl⟩

def push (p : PeerEl) (x : Int16) : PeerEl := { p with pcmOut := p.pcmOut ++ [x] }

/-- A sample that fits waits behind the others. -/
theorem Framed.push (hf : Framed p.tried p) (hroom : p.pcmOut.length < elRtpSamples) (x : Int16) :
    Framed (p.push x).tried (p.push x) ∧
      audio (p.push x).tried (p.push x) = audio p.tried p ++ [x] := by
  refine ⟨⟨?_, hf.full, hf.numbered, hf.next⟩, ?_⟩
  · rw [PeerEl.push, List.length_append]
    exact hroom
  · exact (List.append_assoc _ _ _).symm

theorem Framed.writePcm (hf : Framed p.tried p) {pcm : List Int16}
    (hw : p.writePcm pcm = some q) :
    Framed q.tried q ∧ audio q.tried q = audio p.tried p ++ pcm := by
  rw [PeerEl.writePcm] at hw
  induction pcm generalizing p with
  | nil =>
    cases hw
    exact ⟨hf, (List.append_nil _).symm⟩
  | cons x pcm ih =>
    rw [List.foldlM_cons] at hw
    obtain ⟨p1, h1, hw⟩ := Option.bind_eq_some_iff.1 hw
    obtain ⟨hff, haudio⟩ := hf.flushFull
    obtain ⟨hroom, h1⟩ := Option.ite_none_left_eq_some.1 h1
    obtain rfl := Option.some.inj h1
    obtain ⟨hpush, hpa⟩ := hff.push (Nat.lt_of_not_le hroom) x
    obtain ⟨hfull, hfa⟩ := hpush.flushFull
    obtain ⟨hq, hqa⟩ := ih hfull hw
    refine ⟨hq, ?_⟩
    rw [hqa]
    refine (congrArg (· ++ pcm) (hfa.trans (hpa.trans (congrArg (· ++ [x]) haudio)))).trans ?_
    rw [List.append_assoc]
    rfl

theorem framed_opened (callsign host : List UInt8) (rtpSends : Nat → Bool) :
    Framed (opened callsign host rtpSends).tried (opened callsign host rtpSends) ∧
      audio (opened callsign host rtpSends).tried (opened callsign host rtpSends) = [] :=
  ⟨⟨Nat.zero_le _, fun _ h => (nomatch h), rfl, rfl⟩, rfl⟩

theorem flushFull_of_lt (h : p.pcmOut.length < elRtpSamples) : p.flushFull = p := by
  rw [flushFull, if_neg (Nat.not_le.2 h)]

/-- Samples for which the packet has room are taken at once. -/
theorem writePcm_room {l : List Int16} (hne : l ≠ [])
    (h : p.pcmOut.length + l.length ≤ elRtpSamples) :
    p.writePcm l = some { p with pcmOut := p.pcmOut ++ l }.flushFull := by
  induction l generalizing p with
  | nil => exact absurd rfl hne
  | cons x l ih =>
    rw [List.length_cons] at h
    have hlt : p.pcmOut.length < elRtpSamples := by omega
    rw [writePcm, List.foldlM_cons]
    simp only [flushFull_of_lt hlt, if_neg (Nat.not_le.2 hlt)]
    cases l with
    | nil => rfl
    | cons y l =>
      have hlen : (p.pcmOut ++ [x]).length + (y :: l).length ≤ elRtpSamples := by
        rw [List.length_append, List.length_singleton]
        omega
      have hroom : ({ p with pcmOut := p.pcmOut ++ [x] } : PeerEl).pcmOut.length <
          elRtpSamples := by
        rw [List.length_cons] at hlen
        change (p.pcmOut ++ [x]).length < elRtpSamples
        omega
      have hnext := @ih { p with pcmOut := p.pcmOut ++ [x] } (List.cons_ne_nil y l) hlen
      rw [writePcm, ← flushFull_of_lt hroom] at hnext
      refine hnext.trans ?_
      rw [flushFull_of_lt hroom]
      simp only [List.append_assoc, List.singleton_append]

theorem writePcm_append (p : PeerEl) (l m : List Int16) :
    p.writePcm (l ++ m) = (p.writePcm l).bind fun q => q.writePcm m := List.foldlM_append

/-- A turn of the loop does not change what the write comes to. -/
theorem writePcm_turn {pcm : List Int16} (hne : pcm ≠ []) (hw : p.pcmOut.length ≤ elRtpSamples) :
    p.writePcm pcm = (p.writeTurn pcm).1.writePcm (p.writeTurn pcm).2 := by
  rw [writeTurn]
  simp only
  by_cases hfull : p.pcmOut.length = elRtpSamples
  · rw [hfull, Nat.sub_self, Nat.min_zero, List.take_zero, List.append_nil, List.drop_zero]
    have hidem : p.flushFull.flushFull = p.flushFull := by
      cases hup : p.rtpOk with
      | false => rw [flushFull_down hup, flushFull_down hup]
      | true => rw [flushFull_of_lt (flushFull_up hup).2]
    cases pcm with
    | nil => exact absurd rfl hne
    | cons x pcm =>
      rw [writePcm, writePcm, List.foldlM_cons, List.foldlM_cons]
      change (if p.flushFull.pcmOut.length ≥ _ then _ else _) >>= _ =
        (if p.flushFull.flushFull.pcmOut.length ≥ _ then _ else _) >>= _
      rw [hidem]
  · have hpos : 0 < pcm.length := List.length_pos_iff.2 hne
    have htake : pcm.take (min pcm.length (elRtpSamples - p.pcmOut.length)) ≠ [] := by
      apply List.ne_nil_of_length_pos
      rw [List.length_take]
      omega
    have hroom : p.pcmOut.length +
        (pcm.take (min pcm.length (elRtpSamples - p.pcmOut.length))).length ≤ elRtpSamples := by
      rw [List.length_take]
      omega
    conv_lhs => rw [← List.take_append_drop (min pcm.length (elRtpSamples - p.pcmOut.length)) pcm]
    rw [writePcm_append, writePcm_room htake hroom]
    rfl

theorem flushFull_waiting (hw : p.pcmOut.length ≤ elRtpSamples) :
    p.flushFull.pcmOut.length ≤ elRtpSamples := by
  rw [flushFull, flushRtpTx]
  split_ifs
  · exact hw
  · exact Nat.zero_le _
  · exact hw

theorem writeTurn_waiting (hw : p.pcmOut.length ≤ elRtpSamples) (pcm : List Int16) :
    (p.writeTurn pcm).1.pcmOut.length ≤ elRtpSamples := by
  apply flushFull_waiting
  change (p.pcmOut ++ pcm.take _).length ≤ elRtpSamples
  rw [List.length_append, List.length_take]
  omega

theorem Writes.writePcm {pcm : List Int16} (h : Writes p pcm q)
    (hw : p.pcmOut.length ≤ elRtpSamples) : p.writePcm pcm = some q := by
  induction h with
  | done p => rfl
  | turn hne _ ih => exact (writePcm_turn hne hw).trans (ih (writeTurn_waiting hw _))

/-- The turns that a write has still to make: its samples, and a full packet before them. -/
def turnsLeft (p : PeerEl) (pcm : List Int16) : Nat :=
  2 * pcm.length + if p.pcmOut.length = elRtpSamples then 1 else 0

theorem turnsLeft_writeTurn {pcm : List Int16} (hne : pcm ≠ [])
    (hw : p.pcmOut.length ≤ elRtpSamples) (hq : p.writePcm pcm = some q) :
    turnsLeft (p.writeTurn pcm).1 (p.writeTurn pcm).2 < turnsLeft p pcm := by
  have hpos : 0 < pcm.length := List.length_pos_iff.2 hne
  by_cases hfull : p.pcmOut.length = elRtpSamples
  · have hup : p.rtpOk = true := by
      by_contra hdown
      rw [Bool.not_eq_true] at hdown
      rw [writePcm_down hdown, if_neg] at hq
      · cases hq
      · rintro (h0 | h0)
        · exact hne h0
        · omega
    have hlt := (flushFull_up hup).2
    rw [writeTurn, turnsLeft, turnsLeft, if_pos hfull]
    simp only [hfull, Nat.sub_self, Nat.min_zero, List.take_zero, List.append_nil, List.drop_zero]
    rw [if_neg (Nat.ne_of_lt hlt)]
    omega
  · have hlen : (p.writeTurn pcm).2.length < pcm.length := by
      rw [writeTurn, List.length_drop]
      omega
    rw [turnsLeft, turnsLeft, if_neg hfull]
    split <;> omega

/-- The loop of the source comes to its end just if the write does, and with the same state. -/
theorem writes_iff {pcm : List Int16} (hw : p.pcmOut.length ≤ elRtpSamples) :
    Writes p pcm q ↔ p.writePcm pcm = some q := by
  constructor
  · exact fun h => h.writePcm hw
  · intro hq
    induction hn : turnsLeft p pcm using Nat.strongRecOn generalizing p pcm with
    | ind n ih =>
      by_cases hne : pcm = []
      · subst hne
        cases hq
        exact .done _
      · apply Writes.turn hne
        apply ih _ (hn ▸ turnsLeft_writeTurn hne hw hq) (writeTurn_waiting hw pcm) _ rfl
        rw [← writePcm_turn hne hw]
        exact hq

theorem canWrite_iff {pcm : List Int16} : (∃ q, p.writePcm pcm = some q) ↔ p.CanWrite pcm := by
  cases hup : p.rtpOk with
  | true =>
    obtain ⟨q, hq, _⟩ := writePcm_up hup pcm
    exact ⟨fun _ => .inl hup, fun _ => ⟨q, hq⟩⟩
  | false =>
    rw [writePcm_down hup, CanWrite, hup]
    by_cases hfit : pcm = [] ∨ p.pcmOut.length + pcm.length ≤ elRtpSamples
    · rw [if_pos hfit]
      exact ⟨fun _ => .inr hfit, fun _ => ⟨_, rfl⟩⟩
    · rw [if_neg hfit]
      constructor
      · rintro ⟨q, hq⟩
        cases hq
      · rintro (h | h)
        · cases h
        · exact (hfit h).elim

theorem handleRtp_sameOut (p : PeerEl) (frames : List (Vector Int16 160)) :
    SameOut p (p.handleRtp frames) := by
  have hfold : SameOut p (frames.foldl (fun p f => p.pcmRingPush f.toList) p) := by
    induction frames generalizing p with
    | nil => exact ⟨rfl, rfl, rfl⟩
    | cons f frames ih =>
      have h := ih (p.pcmRingPush f.toList)
      exact ⟨h.tried, h.waiting, h.next⟩
  exact ⟨hfold.tried, hfold.waiting, hfold.next⟩

theorem hear_sameOut (p : PeerEl) (s : SdesHeard) : SameOut p (p.hear s) := by
  have hcname : SameOut p (p.noteCname s.cname) := by
    rw [noteCname]
    split <;> exact ⟨rfl, rfl, rfl⟩
  obtain ⟨h1, h2, h3⟩ := hcname
  rw [hear, applyRemoteSdes, noteTalker]
  split_ifs <;> exact ⟨h1, h2, h3⟩

theorem setTalkerName_sameOut (p : PeerEl) (name : List UInt8) :
    SameOut p (p.setTalkerName name) := by
  unfold setTalkerName
  by_cases h : p.talkerName = sdesName name
  · rw [if_pos h]
    exact ⟨rfl, rfl, rfl⟩
  · rw [if_neg h]
    refine ⟨List.filterMap_append.trans ?_, rfl, rfl⟩
    split
    · exact List.append_nil _
    · exact List.append_nil _

/-- The calls that leave the audio to the node as it is. -/
theorem api_sameOut (h : p.api ev = some q) (hw : ∀ pcm, ev ≠ .write pcm) (hf : ev ≠ .flush) :
    SameOut p q := by
  cases ev with
  | write pcm => exact absurd rfl (hw pcm)
  | flush => exact absurd rfl hf
  | reach up =>
    cases h
    exact ⟨rfl, rfl, rfl⟩
  | rtp frames =>
    cases h
    exact handleRtp_sameOut p frames
  | sdes s =>
    cases h
    exact hear_sameOut p s
  | read n =>
    cases h
    exact ⟨rfl, rfl, rfl⟩
  | drop =>
    cases h
    exact ⟨rfl, rfl, rfl⟩
  | name talker =>
    cases h
    exact setTalkerName_sameOut p talker
  | clear =>
    cases h
    exact ⟨rfl, rfl, rfl⟩

theorem Accounted.flush {evs : List ElApi} (ha : Accounted p.tried evs p) :
    Accounted p.flushPcm.tried (evs ++ [.flush]) p.flushPcm := by
  have hother : Padded (evs ++ [.flush]) (audio p.tried p) :=
    .other ha.padded fun _ h => (nomatch h)
  rw [flushPcm]
  by_cases hpos : p.pcmOut.length > 0
  · rw [if_pos hpos]
    obtain ⟨hframed, z, haudio, _, hz⟩ := ha.framed.flushRtpTx
    refine ⟨hframed, ?_⟩
    rw [haudio]
    rcases hz with rfl | ⟨hz, hmod⟩
    · rwa [List.replicate_zero, List.append_nil]
    · exact .flush ha.padded hz hmod
  · rw [if_neg hpos]
    exact ⟨ha.framed, hother⟩

theorem Accounted.api {evs : List ElApi} (ha : Accounted p.tried evs p) (ev : ElApi)
    (h : p.api ev = some q) :
    Accounted q.tried (evs ++ [ev]) q := by
  by_cases hw : ∃ pcm, ev = .write pcm
  · obtain ⟨pcm, rfl⟩ := hw
    obtain ⟨hframed, haudio⟩ := ha.framed.writePcm h
    exact ⟨hframed, haudio ▸ .write ha.padded pcm⟩
  · by_cases hf : ev = .flush
    · subst hf
      cases h
      exact ha.flush
    · have hw' : ∀ pcm, ev ≠ .write pcm := fun pcm he => hw ⟨pcm, he⟩
      obtain ⟨hframed, haudio⟩ := (api_sameOut h hw' hf).framed ha.framed
      exact ⟨hframed, haudio ▸ .other ha.padded hw'⟩

/-- Whatever comes of the packets, each sample is in one that was tried, or waits. -/
theorem accounted {callsign host : List UInt8} {sends : Nat → Bool} {evs : List ElApi}
    (h : (apiMachine callsign host sends).run evs = some p) : Accounted p.tried evs p := by
  have hstart : Accounted (opened callsign host sends).tried [] (opened callsign host sends) :=
    ⟨(framed_opened callsign host sends).1, .nil⟩
  exact Machine.runFrom_history (I := fun evs p => Accounted p.tried evs p)
    (fun _ _ _ _ ha hs => ha.api _ hs) hstart h

theorem noneLost_iff (p : PeerEl) : p.NoneLost ↔ p.tried.length = p.rtpOut.length := by
  rw [NoneLost, tried, rtpOut]
  generalize p.sent = l
  have hle (l : List ElPacket) : (l.filterMap fun
      | .rtp seq pcm ok => if ok then some (seq, pcm) else none
      | .sdes _ => none).length ≤ (l.filterMap fun
      | .rtp seq pcm _ => some (seq, pcm)
      | .sdes _ => none).length := by
    induction l with
    | nil => exact Nat.le_refl 0
    | cons x l ih => cases x with
      | sdes name => exact ih
      | rtp seq pcm ok => cases ok with
        | true => exact Nat.succ_le_succ ih
        | false => exact Nat.le_succ_of_le ih
  induction l with
  | nil => exact ⟨fun _ => rfl, fun _ _ _ _ h => (by cases h)⟩
  | cons x l ih => cases x with
    | sdes name =>
      refine Iff.trans ?_ ih
      simp only [List.mem_cons, reduceCtorEq, false_or]
    | rtp seq pcm ok => cases ok with
      | true =>
        refine Iff.trans ?_ (ih.trans Nat.succ_inj.symm)
        constructor
        · exact fun h seq pcm ok hm => h seq pcm ok (List.mem_cons_of_mem _ hm)
        · intro h seq' pcm' ok hm
          rcases List.mem_cons.1 hm with he | hm
          · cases he
            rfl
          · exact h seq' pcm' ok hm
      | false =>
        constructor
        · exact fun h => absurd (h seq pcm false List.mem_cons_self) (by decide)
        · intro h
          exact absurd h (Nat.ne_of_gt (Nat.lt_succ_of_le (hle l)))

theorem NoneLost.rtpOut_eq (h : p.NoneLost) : p.rtpOut = p.tried := by
  apply List.filterMap_congr
  intro x hx
  cases x with
  | sdes name => rfl
  | rtp seq pcm ok => exact if_pos (h seq pcm ok hx)

/-- All is well with what was sent just if no packet was lost. -/
theorem wellSent_iff {evs : List ElApi} (ha : Accounted p.tried evs p) :
    WellSent evs p ↔ p.NoneLost := by
  constructor
  · exact fun h => p.noneLost_iff.2 h.advanced
  · intro h
    refine ⟨?_, p.noneLost_iff.1 h⟩
    rw [h.rtpOut_eq]
    exact ha

/-- From `p` to `q` the next `k` packets are tried. -/
structure SendsOn (k : Nat) (p q : PeerEl) : Prop where
  lost : q.NoneLost ↔ p.NoneLost ∧ ∀ i < k, p.rtpSends i = true
  rest : q.rtpSends = fun i => p.rtpSends (i + k)

theorem SendsOn.none (hs : q.sent = p.sent) (hr : q.rtpSends = p.rtpSends) : SendsOn 0 p q := by
  refine ⟨?_, hr⟩
  rw [NoneLost, hs]
  exact ⟨fun h => ⟨h, fun _ hi => absurd hi (Nat.not_lt_zero _)⟩, fun h => h.1⟩

theorem SendsOn.trans (h : SendsOn k p q) (h' : SendsOn m q r) : SendsOn (k + m) p r := by
  constructor
  · rw [h'.lost, h.lost, h.rest, and_assoc]
    refine and_congr_right fun _ => ⟨fun hboth i hi => ?_, fun hall => ⟨?_, ?_⟩⟩
    · by_cases hk : i < k
      · exact hboth.1 i hk
      · have hi' : p.rtpSends (i - k + k) = true := hboth.2 (i - k) (by omega)
        rwa [Nat.sub_add_cancel (Nat.le_of_not_lt hk)] at hi'
    · exact fun i hi => hall i (by omega)
    · exact fun i hi => hall (i + k) (by omega)
  · rw [h'.rest, h.rest]
    funext i
    exact congrArg _ (by omega)

theorem flushFull_sendsOn (hup : p.rtpOk = true) :
    SendsOn (if p.pcmOut.length ≥ elRtpSamples then 1 else 0) p p.flushFull ∧
      p.flushFull.pcmOut.length =
        if p.pcmOut.length ≥ elRtpSamples then 0 else p.pcmOut.length := by
  rw [flushFull]
  by_cases hfull : p.pcmOut.length ≥ elRtpSamples
  · have hpos : ¬(p.pcmOut.length = 0 ∨ (!p.rtpOk) = true) := by
      rw [hup]
      rintro (h0 | h0)
      · rw [h0] at hfull
        exact absurd hfull (by decide)
      · cases h0
    rw [if_pos hfull, if_pos hfull, if_pos hfull, flushRtpTx, if_neg hpos]
    refine ⟨⟨⟨fun h => ⟨?_, ?_⟩, ?_⟩, rfl⟩, rfl⟩
    · exact fun seq pcm ok hm => h seq pcm ok (List.mem_append_left _ hm)
    · intro i hi
      obtain rfl := Nat.lt_one_iff.1 hi
      exact h _ _ _ (List.mem_append_right _ (List.mem_singleton_self _))
    · rintro ⟨h, hnow⟩ seq pcm ok hm
      rcases List.mem_append.1 hm with hm | hm
      · exact h seq pcm ok hm
      · cases List.mem_singleton.1 hm
        exact hnow 0 Nat.one_pos
  · rw [if_neg hfull, if_neg hfull, if_neg hfull]
    exact ⟨.none rfl rfl, rfl⟩

theorem packetsOf_up (hup : p.rtpOk = true) (pcm : List Int16) : p.packetsOf pcm =
    if pcm.length = 0 then 0 else (p.pcmOut.length + pcm.length) / 640 := by
  rw [packetsOf, hup]
  cases pcm with
  | nil => rfl
  | cons x pcm => rfl

/-- The packets that `n + 1` samples complete behind `c` that wait, one sample first. -/
theorem packets_succ (hc : c ≤ 640) (n : Nat) :
    let c1 := if c ≥ 640 then 0 else c
    let c2 := if c1 + 1 ≥ 640 then 0 else c1 + 1
    (if c ≥ 640 then 1 else 0) + 0 + (if c1 + 1 ≥ 640 then 1 else 0) +
      (if n = 0 then 0 else (c2 + n) / 640) = (c + (n + 1)) / 640 := by
  simp only
  split_ifs <;> omega

/-- A write tries the packets that it completes. -/
theorem writePcm_sendsOn {pcm : List Int16} (hw : p.pcmOut.length ≤ elRtpSamples)
    (hq : p.writePcm pcm = some q) : SendsOn (p.packetsOf pcm) p q := by
  cases hup : p.rtpOk with
  | false =>
    rw [writePcm_down hup] at hq
    split at hq
    · cases hq
      rw [packetsOf, hup, if_neg fun h => absurd h.1 (by decide)]
      exact .none rfl rfl
    · cases hq
  | true =>
    rw [PeerEl.writePcm] at hq
    induction pcm generalizing p with
    | nil =>
      cases hq
      rw [packetsOf, if_neg fun h => h.2 rfl]
      exact .none rfl rfl
    | cons x pcm ih =>
      rw [List.foldlM_cons] at hq
      obtain ⟨p1, h1, hq⟩ := Option.bind_eq_some_iff.1 hq
      obtain ⟨hroom, h1⟩ := Option.ite_none_left_eq_some.1 h1
      obtain rfl := Option.some.inj h1
      obtain ⟨hs1, hl1⟩ := flushFull_sendsOn hup
      have hup1 := (flushFull_up hup).1
      generalize p.flushFull = p1 at hs1 hl1 hup1 hroom hq
      have hs2 : SendsOn 0 p1 { p1 with pcmOut := p1.pcmOut ++ [x] } := .none rfl rfl
      have hl2 : ({ p1 with pcmOut := p1.pcmOut ++ [x] } : PeerEl).pcmOut.length =
          p1.pcmOut.length + 1 := List.length_append
      have hup2 : ({ p1 with pcmOut := p1.pcmOut ++ [x] } : PeerEl).rtpOk = true := hup1
      generalize ({ p1 with pcmOut := p1.pcmOut ++ [x] } : PeerEl) = p2 at hs2 hl2 hup2 hq
      obtain ⟨hs3, hl3⟩ := flushFull_sendsOn hup2
      obtain ⟨hup3, hlt3⟩ := flushFull_up hup2
      have hs4 := ih (Nat.le_of_lt hlt3) hq hup3
      have hall := ((hs1.trans hs2).trans hs3).trans hs4
      have hcount := packets_succ hw pcm.length
      rw [packetsOf_up hup3, hl3, hl2, hl1] at hall
      rw [packetsOf_up hup, List.length_cons, if_neg (Nat.succ_ne_zero _), ← hcount]
      exact hall

/-- In every state that the API reaches, a write returns and accounts for every sample just if no
packet was lost before, the node can be reached, or the samples fit the packet, and the packets that
the write completes go out. -/
theorem writesWell_iff {callsign host : List UInt8} {sends : Nat → Bool} {evs : List ElApi}
    (h : (apiMachine callsign host sends).run evs = some p) (pcm : List Int16) :
    (∃ q, Writes p pcm q ∧ WellSent (evs ++ [.write pcm]) q) ↔
      p.NoneLost ∧ p.CanWrite pcm ∧ ∀ i < p.packetsOf pcm, p.rtpSends i = true := by
  have ha := accounted h
  have hw := ha.framed.waiting
  rw [← canWrite_iff]
  constructor
  · rintro ⟨q, hq, hwell⟩
    have hq := hq.writePcm hw
    have hlost := (wellSent_iff (ha.api (.write pcm) hq)).1 hwell
    obtain ⟨hlost, hsent⟩ := (writePcm_sendsOn hw hq).lost.1 hlost
    exact ⟨hlost, ⟨q, hq⟩, hsent⟩
  · rintro ⟨hlost, ⟨q, hq⟩, hsent⟩
    refine ⟨q, (writes_iff hw).2 hq, (wellSent_iff (ha.api (.write pcm) hq)).2 ?_⟩
    exact (writePcm_sendsOn hw hq).lost.2 ⟨hlost, hsent⟩

/-- A packet goes out, and a sample waits. -/
theorem writesWell_iff_sample : ∃ p q, (apiMachine [] [] fun _ => true).run [.reach true] = some p ∧
    p.packetsOf (List.replicate 641 7) = 1 ∧ Writes p (List.replicate 641 7) q ∧
    WellSent [.reach true, .write (List.replicate 641 7)] q := by
  have hrun : (apiMachine [] [] fun _ => true).run [.reach true] =
      some { opened [] [] fun _ => true with rtpOk := true } := rfl
  have hnone : NoneLost { opened [] [] fun _ => true with rtpOk := true } := by
    intro _ _ _ hm
    cases hm
  obtain ⟨q, hq⟩ := (writesWell_iff hrun (List.replicate 641 7)).2
    ⟨hnone, .inl rfl, fun _ _ => rfl⟩
  exact ⟨_, q, hrun, by decide +kernel, hq⟩

/-- A node that was not found in the directory, and a sample more than a packet. -/
theorem not_writesWell : ¬∀ (callsign host : List UInt8) (sends : Nat → Bool) (evs : List ElApi)
    (p : PeerEl) (pcm : List Int16), (apiMachine callsign host sends).run evs = some p →
      ∃ q, Writes p pcm q := by
  intro h
  obtain ⟨q, hq⟩ := h [] [] (fun _ => true) [] _ (List.replicate 641 0) rfl
  have hcan := canWrite_iff.1 ⟨q, hq.writePcm (Nat.zero_le _)⟩
  rw [CanWrite, List.length_replicate] at hcan
  rcases hcan with hup | hnil | hfit
  · cases hup
  · have hlen := congrArg List.length hnil
    rw [List.length_replicate] at hlen
    cases hlen
  · exact absurd hfit (by decide)

end PeerEl

end AdnBridge
