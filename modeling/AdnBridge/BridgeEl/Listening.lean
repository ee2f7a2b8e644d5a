import AdnBridge.BridgeEl.Requests
import AdnBridge.Mmdvm.Draining
import AdnBridge.Mmdvm.YsfVoice

namespace AdnBridge
set_option autoImplicit true

open Regroup

/-- A raw frame of the vocoder: 49 bits in seven bytes. -/
structure AmbeFrame where
  bytes : List UInt8
  length : bytes.length = 7
  last : bytes.getD 6 0 &&& 0x7F = 0

/-- The frame that a sub-frame on the DMR queue decodes to. -/
def ambeOfDmr (v : Vector UInt8 9) : List UInt8 := mmdvmCodec.dmr33ToAmbe v.toList 0

/-- What the vocoder gets for the padding at the end of a call. -/
def silenceAmbe : List UInt8 := ambeOfDmr ModeConv.dmrSilence

theorem dmr33ToAmbe_carries {dmr33 v : List UInt8} {j : Fin 3} (h : CarriesDmr dmr33 j v) :
    mmdvmCodec.dmr33ToAmbe dmr33 j = mmdvmCodec.dmr33ToAmbe v 0 := by
  have hread (l : List Nat) (hl : ∀ i ∈ l, i < 72) :
      readBits dmr33 (l.map (dmrPlace j)) = readBits v (l.map (dmrPlace 0)) := by
    rw [readBits, readBits, List.map_map, List.map_map]
    apply List.map_congr_left
    intro i hi
    exact h i (hl i hi)
  obtain ⟨-, hlt⟩ := dmrTables_nodup
  show abcToAMBE7 _ _ _ = abcToAMBE7 _ _ _
  rw [hread dmrATable, hread dmrBTable, hread dmrCTable]
  · intro i hi
    exact hlt i (List.mem_append_right _ hi)
  · intro i hi
    exact hlt i (List.mem_append_left _ (List.mem_append_right _ hi))
  · intro i hi
    exact hlt i (List.mem_append_left _ (List.mem_append_left _ hi))

theorem ambeOfDmr_ambe7ToDmr (f : AmbeFrame) : ambeOfDmr (mmdvmCodec.ambe7ToDmr f.bytes) = f.bytes := by
  have hself : CarriesDmr (mmdvmCodec.ambe7ToDmr f.bytes).toList 0
      (mmdvmCodec.ambe7ToDmr f.bytes).toList := fun _ _ => rfl
  exact (dmr33ToAmbe_of_carries (ambe7ToABC_fields f.length) hself).trans
    (abcToAMBE7_ambe7ToABC f.length f.last)

/-- A burst of three sub-frames gives the three frames. -/
theorem dmr33ToAmbe_voice33 (v : Fin 3 → Vector UInt8 9) :
    (List.finRange 3).map (mmdvmCodec.dmr33ToAmbe
      (ModeConv.voice33 [(v 0).toList, (v 1).toList, (v 2).toList])) =
        [ambeOfDmr (v 0), ambeOfDmr (v 1), ambeOfDmr (v 2)] := by
  have hfin : List.finRange 3 = [0, 1, 2] := rfl
  have hc (j : Fin 3) := dmr33ToAmbe_carries
    (voice33_carries (v := fun j => (v j).toList) (fun j => (v j).length_toList) j)
  rw [hfin, List.map_cons, List.map_cons, List.map_cons, List.map_nil, hc 0, hc 1, hc 2]
  rfl

namespace BridgeEl

variable {e : ElEnv} {m : ModeConv} {q : List (Entry Marker (Vector UInt8 9))}

/-- Draining an aligned queue hands over its sub-frames as far as they fill bursts. -/
theorem drainRequests_eq (hk : e.codec = mmdvmCodec) (h : m.dmr.Holds 9 q) (ha : Aligned 3 0 q)
    (hn : q.length < n) :
    drainRequests e n m = (voices (drainAll 3 q).1.flatten).map ambeOfDmr ∧
      (drainedConv n m).dmr.Holds 9 (drainAll 3 q).2 := by
  have hget (m : ModeConv) : dmrSide.get m = m.getDmr := rfl
  induction n generalizing m q with
  | zero => exact absurd hn (Nat.not_lt_zero _)
  | succ n ih =>
    rw [drainRequests_succ, drainedConv_succ]
    cases hp : pull 3 q with
    | none =>
      obtain ⟨ht, hc⟩ := dmrSide.get_none (by decide) h hp
      rw [hget] at ht hc
      have hd : m.getDmr.2.2.dmr = m.dmr := hc
      rw [if_pos ht, if_pos ht, drainAll_none hp, hd]
      exact ⟨rfl, h⟩
    | some r =>
      obtain ⟨p, q'⟩ := r
      have hl := pull_length (by decide) hp
      obtain ⟨hi, ha'⟩ := ha.pull (by decide) hp
      obtain ⟨ht, hd, hc⟩ := dmrSide.get_some (by decide) h hp
      rw [hget] at ht hd hc
      obtain ⟨hr, hh⟩ := ih hc ha' (by omega)
      have hne : m.getDmr.1 ≠ tagNoData := by
        rw [ht, pieceTag, pull_head (by decide) hp]
        exact pieceTag_ne_noData hp
      rw [drainAll_some (by decide) hp, List.flatten_cons, voices_append, List.map_append, ← hr]
      rw [if_neg hne, if_neg hne]
      refine ⟨?_, hh⟩
      rcases hi with ⟨x, rfl⟩ | ⟨hlen, hv⟩
      · have hmark : m.getDmr.1 ≠ tagData := by
          rw [ht]
          cases x <;> exact of_decide_eq_true rfl
        rw [if_pos hmark]
        rfl
      · obtain ⟨v0, v1, v2, hvs⟩ := List.length_eq_three.1
          ((List.length_map (Entry.voice (μ := Marker))).symm.trans
            ((congrArg List.length (map_voices hv)).trans hlen))
        rw [← map_voices hv, hvs] at ht hd
        have hdata : m.getDmr.1 = tagData := ht
        have hburst : m.getDmr.2.1 = ModeConv.voice33 [v0.toList, v1.toList, v2.toList] := hd
        rw [if_neg (not_not_intro hdata), hk, hburst, hvs]
        exact congrArg (· ++ _) (dmr33ToAmbe_voice33 fun j => [v0, v1, v2].get j)

/-- The node can be reached, or what the vocoder makes of the frames fits into the packet that
waits for it. -/
def CanPlay (el : PeerEl) (voc : Vocoder) (l : List (List UInt8)) : Prop :=
  el.rtpOk = true ∨ voc.decoded 0 l = 0 ∨
    el.pcmOut.length + 160 * voc.decoded 0 l ≤ elRtpSamples

/-- What the frames have made of the EchoLink side. -/
structure Played (el0 el : PeerEl) (voc : Vocoder) (l : List (List UInt8)) : Prop where
  link : el.rtpOk = el0.rtpOk
  waits : el0.rtpOk = false → el.pcmOut.length = el0.pcmOut.length + 160 * voc.decoded 0 l

section
variable {el0 el : PeerEl} {voc : Vocoder} {l l' : List (List UInt8)} {b : BridgeEl}

theorem CanPlay.left (h : CanPlay el voc (l ++ l')) : CanPlay el voc l := by
  rw [CanPlay, Vocoder.decoded_append] at h
  rcases h with h | h | h
  · exact .inl h
  · exact .inr (.inl (by omega))
  · exact .inr (.inr (by omega))

theorem playFrames_from (voc : Vocoder) (k calls : Nat) (l : List (List UInt8)) (b : BridgeEl) :
    playFrames (voc.from k) calls l b = playFrames voc (k + calls) l b := by
  induction l generalizing calls b with
  | nil => rfl
  | cons a l ih =>
    rw [playFrames, playFrames]
    congr 1
    funext b
    exact ih (calls + 1) b

/-- Frames play on as long as they can, and not any further. -/
theorem playFrames_played (h : Played el0 b.el voc l) (hl : CanPlay el0 voc l) :
    (∃ el, playFrames voc l.length l' b = some { b with el := el } ∧
        Played el0 el voc (l ++ l') ∧ CanPlay el0 voc (l ++ l')) ∨
      (playFrames voc l.length l' b = none ∧ ¬CanPlay el0 voc (l ++ l')) := by
  induction l' generalizing l b with
  | nil =>
    rw [List.append_nil]
    exact .inl ⟨b.el, rfl, h, hl⟩
  | cons a l' ih =>
    have hsplit : l ++ a :: l' = (l ++ [a]) ++ l' := by
      rw [List.append_assoc, List.singleton_append]
    have hlen : (l ++ [a]).length = l.length + 1 := List.length_append
    have hcount : voc.decoded 0 (l ++ [a]) =
        voc.decoded 0 l + (voc.decode l.length a).isSome.toNat := by
      rw [Vocoder.decoded_append, Nat.zero_add]
      rfl
    rw [hsplit, playFrames]
    cases hd : voc.decode l.length a with
    | none =>
      rw [hd, Option.isSome_none, Bool.toNat_false, Nat.add_zero] at hcount
      have hp : Played el0 b.el voc (l ++ [a]) := ⟨h.link, fun hw => by rw [hcount, h.waits hw]⟩
      have hc : CanPlay el0 voc (l ++ [a]) := by
        rw [CanPlay, hcount]
        exact hl
      have hn := ih hp hc
      rw [hlen] at hn
      exact hn
    | some pcm =>
      rw [hd, Option.isSome_some, Bool.toNat_true] at hcount
      have hpcm : pcm.toList.length = 160 := pcm.length_toList
      cases hlink : el0.rtpOk with
      | true =>
        obtain ⟨el, hw, hup⟩ := PeerEl.writePcm_up (h.link.trans hlink) pcm.toList
        have hp : Played el0 el voc (l ++ [a]) :=
          ⟨hup.trans hlink.symm, fun hdown => absurd (hlink.symm.trans hdown) (by decide)⟩
        have hn := ih (b := { b with el := el }) hp (.inl hlink)
        rw [hlen] at hn
        simp only [hw, Option.map_some, Option.bind_some]
        exact hn
      | false =>
        have hwait := h.waits hlink
        have hw := PeerEl.writePcm_down (h.link.trans hlink) pcm.toList
        have hne : pcm.toList ≠ [] := fun h0 => by
          rw [h0] at hpcm
          exact absurd hpcm (by decide)
        rw [hpcm, hwait] at hw
        by_cases hfit : el0.pcmOut.length + 160 * voc.decoded 0 l + 160 ≤ elRtpSamples
        · rw [if_pos (.inr hfit)] at hw
          have hp : Played el0 { b.el with pcmOut := b.el.pcmOut ++ pcm.toList } voc (l ++ [a]) := by
            refine ⟨h.link, fun _ => ?_⟩
            show (b.el.pcmOut ++ pcm.toList).length = _
            rw [List.length_append, hpcm, hwait, hcount]
            omega
          have hc : CanPlay el0 voc (l ++ [a]) := .inr (.inr (by rw [hcount]; omega))
          have hn := ih (b := { b with el := { b.el with pcmOut := b.el.pcmOut ++ pcm.toList } }) hp hc
          rw [hlen] at hn
          simp only [hw, Option.map_some, Option.bind_some]
          exact hn
        · rw [if_neg (not_or.2 ⟨hne, hfit⟩)] at hw
          right
          constructor
          · simp only [hw, Option.map_none, Option.bind_none]
          · intro hc
            rcases hc.left with h1 | h1 | h1
            · rw [hlink] at h1
              exact absurd h1 (by decide)
            · omega
            · rw [hcount] at h1
              omega

end

/-- The bridge, and the frames that it has handed to the vocoder. -/
def heard (e : ElEnv) (c : Clock) (db : AliasDb) (el : PeerEl) :
    Machine (BridgeEl × List (List UInt8)) BridgeElEvent :=
  (machine e c db el).observe [] fun l b ev _ => l ++
    match ev with
    | .ysfd clock _ pkt => { b with clock := clock }.ysfRequests e pkt
    | _ => []

/-- A reception in which the frames `done` have arrived: all of them were handed over but for those
that wait for a whole burst. -/
structure Listening (el0 : PeerEl) (voc : Vocoder) (done : List (List UInt8))
    (p : BridgeEl × List (List UInt8)) : Prop where
  active : p.1.callActive = .elRx
  played : Played el0 p.1.el voc p.2
  canPlay : CanPlay el0 voc p.2
  bursts : 3 ∣ p.2.length
  queue : ∃ q, p.1.conv.dmr.Holds 9 q ∧ Aligned 3 0 q ∧ q.length < 3 ∧
    p.2 ++ (voices q).map ambeOfDmr = done ∧ (done ≠ [] → ∀ x ∈ q, isVoice x = true)

/-- The five frames of a payload. -/
def fiveFrames (g : Fin 5 → AmbeFrame) : List (List UInt8) := (List.finRange 5).map fun j => (g j).bytes

section
variable {c : Clock} {db : AliasDb} {el el0 : PeerEl} {voc : Vocoder} {done : List (List UInt8)}
variable {p : BridgeEl × List (List UInt8)} {pkt : List UInt8} {f : Fich}

/-- What drains off a queue, and what waits in it afterwards. -/
theorem drained_frames (hk : e.codec = mmdvmCodec) (h : m.dmr.Holds 9 q) (ha : Aligned 3 0 q) :
    ∃ rest, (drainedConv (m.dmr.n + 1) m).dmr.Holds 9 rest ∧ (∀ x ∈ rest, isVoice x = true) ∧
      rest.length < 3 ∧ rest <:+ q ∧ 3 ∣ (drainRequests e (m.dmr.n + 1) m).length ∧
      drainRequests e (m.dmr.n + 1) m ++ (voices rest).map ambeOfDmr =
        (voices q).map ambeOfDmr := by
  have hn : q.length < m.dmr.n + 1 := by
    rw [h.count]
    exact Nat.lt_succ_self _
  obtain ⟨hr, hh⟩ := drainRequests_eq hk h ha hn
  obtain ⟨hi, hv⟩ := (sound_iff_aligned (by decide) q).2 ha
  have hsplit := (drainAll_pulls (by decide : 0 < 3) q).eq_append
  have hlt := length_of_pull_none (by decide) (pull_drainAll (by decide : 0 < 3) q)
  refine ⟨_, hh, hv, hlt, ⟨_, hsplit.symm⟩, ?_, ?_⟩
  · rw [hr, List.length_map]
    clear hr hh hsplit hlt hv
    generalize (drainAll 3 q).1 = ps at hi
    induction ps with
    | nil => exact dvd_zero 3
    | cons x ps ih =>
      obtain ⟨hx, hi⟩ := List.forall_mem_cons.1 hi
      rw [List.flatten_cons, voices_append, List.length_append]
      refine Nat.dvd_add ?_ (ih hi)
      rcases hx with ⟨y, rfl⟩ | ⟨hl, hv⟩
      · exact dvd_zero 3
      · rw [voices_length hv, hl]
  · rw [hr, ← List.map_append, ← voices_append, ← hsplit]

/-- The five frames of a packet arrive, unless the bridge gets stuck in a write. -/
theorem Listening.voice (hm : e.cfg.mode = .echolinkYsf) (hk : e.codec = mmdvmCodec)
    (h : Listening el0 voc done p) (hf : acceptedFich e pkt = some f)
    (hfi : f.fi = ysfFiCommunications) {g : Fin 5 → AmbeFrame}
    (hg : ∀ j, mmdvmCodec.ysfToDmr (ysfModeconvChunk pkt) j = mmdvmCodec.ambe7ToDmr (g j).bytes)
    (clock : Clock) :
    (∃ p', (heard e c db el).step p (.ysfd clock (voc.from p.2.length) pkt) = some p' ∧
        Listening el0 voc (done ++ fiveFrames g) p') ∨
      ((heard e c db el).step p (.ysfd clock (voc.from p.2.length) pkt) = none ∧
        ∃ l, l <+: done ++ fiveFrames g ∧ ¬CanPlay el0 voc l) := by
  obtain ⟨b, log⟩ := p
  obtain ⟨q, hq, ha, hlt, hdone, hvoice⟩ := h.queue
  have hrx : b.callActive = .elRx := h.active
  obtain ⟨b1, hel, hrx1, hconv, hreq, hstep⟩ :=
    onYsfd_voice (b := { b with clock := clock }) hm hf hfi h.active
  have hdmr : b1.conv.dmr = b.conv.dmr.addAll (((List.finRange 5).map fun j =>
      mmdvmCodec.ambe7ToDmr (g j).bytes).map Entry.voice) := by
    rw [hconv]
    refine (ConvOp.conv_dmr (k := e.codec) (by nofun)).trans ?_
    simp only [ConvOp.dmrPuts, hk, hg, List.map_map]
    rfl
  have hroom : b.conv.dmr.Room 9 (((List.finRange 5).map fun j =>
      mmdvmCodec.ambe7ToDmr (g j).bytes).map (Entry.voice (μ := Marker))).length := by
    rw [hq.room_iff, List.length_map, List.length_map, List.length_finRange]
    omega
  have hq1 := hq.addAll (by decide) hroom
  rw [← hdmr] at hq1
  have ha1 := (aligned_append 0 q _).2 ⟨ha, aligned_voices _ (isVoice_of_mem_map
    (μ := Marker) ((List.finRange 5).map fun j => mmdvmCodec.ambe7ToDmr (g j).bytes))⟩
  obtain ⟨rest, hrest, hvoices, hshort, -, hbursts, hall⟩ := drained_frames hk hq1 ha1
  rw [← hreq] at hbursts hall
  generalize hl : ({ b with clock := clock } : BridgeEl).ysfRequests e pkt = l at hreq hstep hbursts hall
  have hdone' : log ++ l ++ (voices rest).map ambeOfDmr = done ++ fiveFrames g := by
    rw [List.append_assoc, hall, voices_append, voices_map, List.map_append, ← List.append_assoc,
      hdone, fiveFrames, List.map_map]
    congr 1
    apply List.map_congr_left
    intro j _
    exact ambeOfDmr_ambe7ToDmr (g j)
  have hplayed : Played el0 ({ b1 with conv := drainedConv (b1.conv.dmr.n + 1) b1.conv } :
      BridgeEl).el voc log := by
    have hp := h.played
    rw [← hel] at hp
    exact hp
  have hs : (heard e c db el).step (b, log) (.ysfd clock (voc.from log.length) pkt) =
      (playFrames voc log.length l
        { b1 with conv := drainedConv (b1.conv.dmr.n + 1) b1.conv }).map fun b' => (b', log ++ l) := by
    show (({ b with clock := clock } : BridgeEl).onYsfd e (voc.from log.length) pkt).map
      (fun b' => (b', log ++ ({ b with clock := clock } : BridgeEl).ysfRequests e pkt)) = _
    rw [hl, hstep, playFrames_from, Nat.add_zero]
  rw [hs]
  rcases playFrames_played hplayed h.canPlay with ⟨el', hp, hp', hc⟩ | ⟨hp, hc⟩
  · left
    rw [hp]
    refine ⟨_, rfl, hrx1, hp', hc, ?_, rest, hrest, aligned_voices 0 hvoices, hshort, hdone',
      fun _ => hvoices⟩
    rw [List.length_append]
    exact Nat.dvd_add h.bursts hbursts
  · right
    rw [hp]
    exact ⟨rfl, log ++ l, ⟨_, hdone'⟩, hc⟩

/-- The TERMINATOR brings out what waits, padded to a burst. -/
theorem Listening.terminator (hm : e.cfg.mode = .echolinkYsf) (hk : e.codec = mmdvmCodec)
    (h : Listening el0 voc done p) (hne : done ≠ []) (hf : acceptedFich e pkt = some f)
    (hfi : f.fi = ysfFiTerminator) (clock : Clock) :
    (∃ p', (heard e c db el).step p (.ysfd clock (voc.from p.2.length) pkt) = some p' ∧
        p'.2 = done ++ List.replicate (3 - done.length % 3) silenceAmbe ∧ CanPlay el0 voc p'.2) ∨
      ((heard e c db el).step p (.ysfd clock (voc.from p.2.length) pkt) = none ∧
        ¬CanPlay el0 voc (done ++ List.replicate (3 - done.length % 3) silenceAmbe)) := by
  obtain ⟨b, log⟩ := p
  obtain ⟨q, hq, ha, hlt, hdone, hvoice⟩ := h.queue
  have hv := hvoice hne
  obtain ⟨b1, after, hel, hconv, hreq, hstep⟩ :=
    onYsfd_terminator (b := { b with clock := clock }) hm hf hfi h.active
  have hcount : b.conv.dmr.n = q.length := hq.count
  have hfill : 3 - done.length % 3 = fill 3 b.conv.dmr.n := by
    have hlog : 3 ∣ log.length := h.bursts
    rw [fill, ← hdone, List.length_append, List.length_map, hcount, voices_length hv]
    show 3 - (log.length + q.length) % 3 = _
    omega
  have hdmr : b1.conv.dmr = b.conv.dmr.addAll
      (finishing 3 b.conv.dmr.n .eot ModeConv.dmrSilence) := by
    rw [hconv]
    exact ConvOp.conv_dmr (k := e.codec) (by nofun)
  have hroom : b.conv.dmr.Room 9
      (finishing 3 b.conv.dmr.n Marker.eot ModeConv.dmrSilence).length := by
    rw [hq.room_iff, finishing, List.length_append, List.length_replicate, fill,
      List.length_singleton]
    omega
  have hq1 := hq.addAll (by decide) hroom
  rw [← hdmr] at hq1
  have ha1 : Aligned 3 0 (q ++ finishing 3 b.conv.dmr.n Marker.eot ModeConv.dmrSilence) := by
    rw [aligned_append, trailing_voices 0 hv, aligned_finishing, hcount, fill]
    refine ⟨ha, ?_⟩
    omega
  obtain ⟨rest, hrest, hvoices, -, hsuffix, -, hall⟩ := drained_frames hk hq1 ha1
  have hnil : rest = [] := by
    rcases List.eq_nil_or_concat' rest with hnil | ⟨rest', x, rfl⟩
    · exact hnil
    · obtain ⟨t, ht⟩ := hsuffix
      rw [finishing, ← List.append_assoc, ← List.append_assoc] at ht
      have hx := (List.append_inj' ht rfl).2
      have hxv := hvoices x (List.mem_append_right rest' (List.mem_singleton_self x))
      rw [List.singleton_inj.1 hx] at hxv
      cases hxv
  rw [← hreq, hnil] at hall
  generalize hl : ({ b with clock := clock } : BridgeEl).ysfRequests e pkt = l at hreq hstep hall
  have hsilence : (voices (finishing 3 b.conv.dmr.n Marker.eot ModeConv.dmrSilence)).map ambeOfDmr =
      List.replicate (3 - done.length % 3) silenceAmbe := by
    rw [hfill, finishing, voices_append, ← List.map_replicate, voices_map]
    exact (congrArg (List.map ambeOfDmr) (List.append_nil _)).trans List.map_replicate
  have hdone' : log ++ l = done ++ List.replicate (3 - done.length % 3) silenceAmbe := by
    have hall' : l = (voices q).map ambeOfDmr ++
        List.replicate (3 - done.length % 3) silenceAmbe := by
      rw [← hsilence, ← List.map_append, ← voices_append, ← hall]
      exact (List.append_nil _).symm
    rw [hall', ← List.append_assoc, hdone]
  have hplayed : Played el0 ({ b1 with conv := drainedConv (b1.conv.dmr.n + 1) b1.conv } :
      BridgeEl).el voc log := by
    have hp := h.played
    rw [← hel] at hp
    exact hp
  have hs : (heard e c db el).step (b, log) (.ysfd clock (voc.from log.length) pkt) =
      ((playFrames voc log.length l
        { b1 with conv := drainedConv (b1.conv.dmr.n + 1) b1.conv }).map after).map
          fun b' => (b', log ++ l) := by
    show (({ b with clock := clock } : BridgeEl).onYsfd e (voc.from log.length) pkt).map
      (fun b' => (b', log ++ ({ b with clock := clock } : BridgeEl).ysfRequests e pkt)) = _
    rw [hl, hstep, playFrames_from, Nat.add_zero]
  rw [hs]
  rcases playFrames_played hplayed h.canPlay with ⟨el', hp, hp', hc⟩ | ⟨hp, hc⟩
  · left
    rw [hp]
    exact ⟨_, rfl, hdone', hc⟩
  · right
    rw [hp, ← hdone']
    exact ⟨rfl, hc⟩

/-- A HEADER starts listening. -/
theorem listening_header (hm : e.cfg.mode = .echolinkYsf) (hf : acceptedFich e pkt = some f)
    (hfi : f.fi = ysfFiHeader) (b : BridgeEl) (clock : Clock) (v : Vocoder) :
    ∃ p', (heard e c db el).step (b, []) (.ysfd clock v pkt) = some p' ∧
      Listening b.el voc [] p' := by
  obtain ⟨hreq, b', hstep, hrx, hconv, hlink, hwait⟩ :=
    onYsfd_header hm hf hfi { b with clock := clock }
  have hs : (heard e c db el).step (b, []) (.ysfd clock v pkt) = some (b', []) := by
    show (({ b with clock := clock } : BridgeEl).onYsfd e v pkt).map
      (fun b' => (b', [] ++ ({ b with clock := clock } : BridgeEl).ysfRequests e pkt)) = _
    rw [hstep, hreq]
    rfl
  have hq : b'.conv.dmr.Holds 9 [.mark .header] := by
    have hroom : Channel.empty.Room 9 [(Entry.mark .header : Entry Marker (Vector UInt8 9))].length :=
      (Channel.holds_empty.room_iff 1).2 (by decide)
    rw [hconv]
    exact Channel.holds_empty.addAll (by decide) hroom
  refine ⟨_, hs, hrx, ⟨hlink, fun hdown => congrArg List.length (hwait hdown)⟩, .inr (.inl rfl),
    dvd_zero 3, _, hq, (aligned_mark 0 _).2 (dvd_zero 3), by decide, rfl, fun hne => absurd rfl hne⟩

theorem Listening.requests (h : Listening el0 voc done p) : p.2.length = done.length / 3 * 3 := by
  obtain ⟨q, -, -, hlt, hdone, hvoice⟩ := h.queue
  have hb := h.bursts
  by_cases hd : done = []
  · rw [hd] at hdone ⊢
    rw [(List.append_eq_nil_iff.1 hdone).1]
    rfl
  · have hlen := congrArg List.length hdone
    rw [List.length_append, List.length_map, voices_length (hvoice hd)] at hlen
    omega

end

/-- The packets of a call with the times of their arrival; `voc` answers the requests of the whole
reception, of which `5 * i / 3` bursts come before the `i`-th payload. -/
def voiceEvents (clock : Nat → Clock) (voc : Vocoder) : Nat → List (List UInt8) → List BridgeElEvent
  | _, [] => []
  | i, pkt :: pkts =>
    .ysfd (clock (i + 1)) (voc.from (5 * i / 3 * 3)) pkt :: voiceEvents clock voc (i + 1) pkts

def reception (clock : Nat → Clock) (voc : Vocoder) (header : List UInt8)
    (voices : List (List UInt8)) (terminator : List UInt8) : List BridgeElEvent :=
  .ysfd (clock 0) voc header :: (voiceEvents clock voc 0 voices ++
    [.ysfd (clock (voices.length + 1)) (voc.from (5 * voices.length / 3 * 3)) terminator])

/-- A packet that brings five frames to the bridge. -/
def Brings (e : ElEnv) (g : Fin 5 → AmbeFrame) (pkt : List UInt8) : Prop :=
  (∃ f, acceptedFich e pkt = some f ∧ f.fi = ysfFiCommunications) ∧
    ∀ j, mmdvmCodec.ysfToDmr (ysfModeconvChunk pkt) j = mmdvmCodec.ambe7ToDmr (g j).bytes

section
variable {c : Clock} {db : AliasDb} {el el0 : PeerEl} {voc : Vocoder} {done : List (List UInt8)}
variable {p : BridgeEl × List (List UInt8)} {gs : List (Fin 5 → AmbeFrame)}
variable {pkts : List (List UInt8)}

/-- Any number of voice packets. -/
theorem Listening.voices (hm : e.cfg.mode = .echolinkYsf) (hk : e.codec = mmdvmCodec)
    (clock : Nat → Clock) (h : Listening el0 voc done p) (hi : done.length = 5 * i)
    (hb : List.Forall₂ (Brings e) gs pkts) :
    (∃ p', (heard e c db el).runFrom p (voiceEvents clock voc i pkts) = some p' ∧
        Listening el0 voc (done ++ gs.flatMap fiveFrames) p') ∨
      ((heard e c db el).runFrom p (voiceEvents clock voc i pkts) = none ∧
        ∃ l, l <+: done ++ gs.flatMap fiveFrames ∧ ¬CanPlay el0 voc l) := by
  induction hb generalizing done p i with
  | nil =>
    left
    refine ⟨p, rfl, ?_⟩
    rw [List.flatMap_nil, List.append_nil]
    exact h
  | @cons g pkt gs pkts hg _ ih =>
    obtain ⟨⟨f, hf, hfi⟩, hg⟩ := hg
    have hreq := h.requests
    rw [hi] at hreq
    rw [voiceEvents, ← hreq, Machine.runFrom_cons, List.flatMap_cons, ← List.append_assoc]
    have hvoice := @Listening.voice e c db el el0 voc done p pkt f hm hk h hf hfi g hg (clock (i + 1))
    rcases hvoice with ⟨p', hs, h'⟩ | ⟨hs, l, hl, hc⟩
    · rw [hs, Option.bind_some]
      apply ih h'
      rw [List.length_append, hi, fiveFrames, List.length_map, List.length_finRange]
      rfl
    · right
      rw [hs]
      exact ⟨rfl, l, hl.trans (List.prefix_append _ _), hc⟩

end

end BridgeEl

end AdnBridge
