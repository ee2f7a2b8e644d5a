import AdnBridge.Hbp.Dmrd
import Mathlib.Data.List.Nodup

namespace AdnBridge
set_option autoImplicit true

/-- The packets of a stream; the last one is marked when it cuts the stream short. -/
structure DmrPackets where
  head : Dmrd
  voices : List Dmrd
  last : Option (Dmrd × Bool)

def DmrPackets.all (s : DmrPackets) : List (Dmrd × Bool) :=
  (s.head, false) :: s.voices.map (fun p => (p, false)) ++ s.last.toList

/-- A well-formed DMR stream: a VHEAD, voice bursts counted round the superframe, and a VTERM at
most, which comes at the end of a superframe unless it cuts the stream short. -/
structure DmrStream extends DmrPackets where
  sid : UInt32
  stream : ∀ p ∈ toDmrPackets.all, p.1.stream = sid
  seqs : toDmrPackets.all.map (fun p => p.1.seq) =
    (List.range toDmrPackets.all.length).map UInt8.ofNat
  isVhead : head.isVhead = true
  isVoice : voices.map (fun p => (p.isVoice, p.index)) =
    (List.range voices.length).map fun k => (true, k % 6)
  isVterm : ∀ p cut, last = some (p, cut) → p.isVterm = true ∧ (cut = false → 6 ∣ voices.length)

/-- One packet more keeps the stream id and the count. -/
theorem counted_append {p : Dmrd} {l : List (Dmrd × Bool)} (hs : ∀ p ∈ l, p.1.stream = sid)
    (hq : l.map (fun p => p.1.seq) = (List.range l.length).map UInt8.ofNat)
    (hps : p.stream = sid) (hpq : p.seq = UInt8.ofNat l.length) (cut : Bool) :
    (∀ q ∈ l ++ [(p, cut)], q.1.stream = sid) ∧
      (l ++ [(p, cut)]).map (fun p => p.1.seq) =
        (List.range (l ++ [(p, cut)]).length).map UInt8.ofNat := by
  constructor
  · intro q hm
    rcases List.mem_append.1 hm with hm | hm
    · exact hs q hm
    · rw [List.mem_singleton.1 hm]
      exact hps
  · rw [List.map_append, hq, List.length_append, List.length_singleton, List.range_succ,
      List.map_append]
    exact congrArg (fun a => _ ++ [a]) hpq

namespace DmrStream

def opening (p : Dmrd) (hseq : p.seq = 0) (hp : p.isVhead = true) : DmrStream where
  head := p
  voices := []
  last := none
  sid := p.stream
  stream := fun q hq => by
    rw [List.mem_singleton.1 hq]
  seqs := congrArg (fun a => [a]) hseq
  isVhead := hp
  isVoice := rfl
  isVterm := nofun

variable {s : DmrStream} {p : Dmrd}

theorem all_of_open (hl : s.last = none) :
    s.all = (s.head, false) :: s.voices.map fun p => (p, false) := by
  rw [DmrPackets.all, hl, Option.toList_none, List.append_nil]

theorem exists_voice (hl : s.last = none) (hs : p.stream = s.sid)
    (hq : p.seq = UInt8.ofNat s.all.length) (hv : p.isVoice = true)
    (hi : p.index = s.voices.length % 6) :
    ∃ t : DmrStream, t.all = s.all ++ [(p, false)] ∧ t.sid = s.sid ∧ t.last = none ∧
      t.voices.length = s.voices.length + 1 := by
  have ha : DmrPackets.all ⟨s.head, s.voices ++ [p], none⟩ = s.all ++ [(p, false)] := by
    rw [all_of_open hl, DmrPackets.all, Option.toList_none, List.append_nil, List.map_append]
    rfl
  obtain ⟨h1, h2⟩ := counted_append s.stream s.seqs hs hq false
  rw [← ha] at h1 h2
  refine ⟨⟨⟨s.head, s.voices ++ [p], none⟩, s.sid, h1, h2, s.isVhead, ?_, nofun⟩, ha, rfl, rfl, ?_⟩
  · rw [List.map_append, s.isVoice, List.length_append, List.length_singleton, List.range_succ,
      List.map_append]
    exact congrArg (fun a => _ ++ [a]) (Prod.ext hv hi)
  · exact List.length_append

theorem exists_vterm (hl : s.last = none) (hs : p.stream = s.sid)
    (hq : p.seq = UInt8.ofNat s.all.length) (hp : p.isVterm = true)
    (hc : cut = false → 6 ∣ s.voices.length) :
    ∃ t : DmrStream, t.all = s.all ++ [(p, cut)] ∧ t.sid = s.sid := by
  have ha : DmrPackets.all ⟨s.head, s.voices, some (p, cut)⟩ = s.all ++ [(p, cut)] := by
    rw [all_of_open hl]
    rfl
  obtain ⟨h1, h2⟩ := counted_append s.stream s.seqs hs hq cut
  rw [← ha] at h1 h2
  refine ⟨⟨⟨s.head, s.voices, some (p, cut)⟩, s.sid, h1, h2, s.isVhead, s.isVoice, ?_⟩, ha, rfl⟩
  intro q c h
  cases h
  exact ⟨hp, hc⟩

end DmrStream

/-- The packets, grouped by their stream ids, are well-formed streams that do not interleave. -/
def WellGrouped (sent : List (Dmrd × Bool)) : Prop :=
  ∃ ss : List DmrStream, (ss.map fun s => s.sid).Nodup ∧ sent = ss.flatMap fun s => s.all

/-- A sender of streams: what it sent, the number of stream ids drawn, and the id and the
sequence byte of the next packet. -/
structure Sender where
  sent : List (Dmrd × Bool)
  draws : Nat
  sid : UInt32
  seq : UInt8

/-- The streams of `sent`, each with the number of the draw that gave it its id. -/
structure Drawn (ids : Nat → UInt32) (draws : Nat) (sent : List (Dmrd × Bool))
    (ss : List (Nat × DmrStream)) : Prop where
  sent : sent = ss.flatMap fun s => s.2.all
  sid : ∀ s ∈ ss, s.2.sid = ids s.1
  order : (ss.map fun s => s.1).Pairwise (· < ·)
  bound : ∀ s ∈ ss, s.1 < draws

section
variable {ids : Nat → UInt32} {sent : List (Dmrd × Bool)}

theorem Drawn.mono (h : Drawn ids m sent ss) (hm : m ≤ n) : Drawn ids n sent ss where
  sent := h.sent
  sid := h.sid
  order := h.order
  bound := fun s hs => Nat.lt_of_lt_of_le (h.bound s hs) hm

theorem Drawn.push (h : Drawn ids n sent ss) (hn : n < m) (st : DmrStream) (hs : st.sid = ids n) :
    Drawn ids m (sent ++ st.all) (ss ++ [(n, st)]) where
  sent := by
    rw [h.sent, List.flatMap_append, List.flatMap_singleton]
  sid := by
    intro s hm
    rcases List.mem_append.1 hm with hm | hm
    · exact h.sid s hm
    · rw [List.mem_singleton.1 hm]
      exact hs
  order := by
    rw [List.map_append]
    apply List.pairwise_append.2 ⟨h.order, List.pairwise_singleton _ _, ?_⟩
    intro a ha b hb
    obtain ⟨s, hm, rfl⟩ := List.mem_map.1 ha
    rw [List.mem_singleton.1 hb]
    exact h.bound s hm
  bound := by
    intro s hm
    rcases List.mem_append.1 hm with hm | hm
    · exact Nat.lt_trans (h.bound s hm) hn
    · rw [List.mem_singleton.1 hm]
      exact hn

/-- As long as no draw repeats another, the streams are told apart by their ids. -/
theorem Drawn.wellGrouped (h : Drawn ids n sent ss) (hn : ((List.range n).map ids).Nodup) :
    WellGrouped sent := by
  refine ⟨ss.map fun s => s.2, ?_, ?_⟩
  · have hids : (ss.map fun s => s.2).map (fun s => s.sid) = (ss.map fun s => s.1).map ids := by
      rw [List.map_map, List.map_map]
      exact List.map_congr_left h.sid
    rw [hids]
    apply List.Nodup.map_on
    · intro a ha b hb hab
      obtain ⟨s, hs, rfl⟩ := List.mem_map.1 ha
      obtain ⟨t, ht, rfl⟩ := List.mem_map.1 hb
      exact List.inj_on_of_nodup_map hn (List.mem_range.2 (h.bound s hs))
        (List.mem_range.2 (h.bound t ht)) hab
    · exact h.order.imp Nat.ne_of_lt
  · rw [h.sent, List.flatMap_map]

end

namespace Sender

def draw (s : Sender) (ids : Nat → UInt32) : Sender :=
  { s with draws := s.draws + 1, sid := ids s.draws, seq := 0 }

def send (s : Sender) (p : Dmrd) (cut : Bool) : Sender :=
  { s with sent := s.sent ++ [(p, cut)], seq := s.seq + 1 }

/-- The packets that cut their streams short. -/
def cuts (s : Sender) : List Dmrd := (s.sent.filter fun p => p.2).map fun p => p.1

/-- What was sent so far is in order; nothing is said about the next packet. -/
def Quiet (ids : Nat → UInt32) (s : Sender) : Prop := ∃ ss, Drawn ids s.draws s.sent ss

/-- A stream id is drawn and nothing is sent under it. -/
def Announced (ids : Nat → UInt32) (s : Sender) : Prop :=
  s.seq = 0 ∧ ∃ n ss, n < s.draws ∧ s.sid = ids n ∧ Drawn ids n s.sent ss

/-- The stream being sent has its VHEAD, `voices` bursts and no VTERM. -/
def Open (ids : Nat → UInt32) (s : Sender) (voices : Nat) : Prop :=
  ∃ n sent ss, ∃ st : DmrStream, n < s.draws ∧ Drawn ids n sent ss ∧ s.sent = sent ++ st.all ∧
    st.sid = ids n ∧ st.last = none ∧ s.sid = st.sid ∧ s.seq = UInt8.ofNat st.all.length ∧
    st.voices.length = voices

variable {ids : Nat → UInt32} {s : Sender} {p : Dmrd}

theorem cuts_send (s : Sender) (p : Dmrd) (cut : Bool) :
    (s.send p cut).cuts = s.cuts ++ if cut then [p] else [] := by
  rw [cuts, send, List.filter_append, List.map_append]
  cases cut with
  | false => rfl
  | true => rfl

theorem cuts_uncut (s : Sender) (p : Dmrd) : (s.send p false).cuts = s.cuts :=
  (s.cuts_send p false).trans (List.append_nil _)

theorem quiet_empty (sid : UInt32) (seq : UInt8) : Quiet ids ⟨[], 0, sid, seq⟩ :=
  ⟨[], rfl, fun _ h => absurd h List.not_mem_nil, List.Pairwise.nil,
    fun _ h => absurd h List.not_mem_nil⟩

theorem Announced.quiet (h : s.Announced ids) : s.Quiet ids := by
  obtain ⟨_, n, ss, hn, _, hd⟩ := h
  exact ⟨ss, hd.mono (Nat.le_of_lt hn)⟩

theorem Open.quiet (h : s.Open ids voices) : s.Quiet ids := by
  obtain ⟨n, sent, ss, st, hn, hd, hs, hsid, _⟩ := h
  refine ⟨ss ++ [(n, st)], ?_⟩
  rw [hs]
  exact hd.push hn st hsid

theorem Quiet.draw (h : s.Quiet ids) : (s.draw ids).Announced ids := by
  obtain ⟨ss, hd⟩ := h
  exact ⟨rfl, s.draws, ss, Nat.lt_succ_self _, rfl, hd⟩

theorem Announced.vhead (h : s.Announced ids) (hs : p.stream = s.sid) (hq : p.seq = s.seq)
    (hp : p.isVhead = true) : (s.send p false).Open ids 0 := by
  obtain ⟨h0, n, ss, hn, hsid, hd⟩ := h
  refine ⟨n, s.sent, ss, .opening p (hq.trans h0) hp, hn, hd, rfl, hs.trans hsid, rfl, hs.symm,
    ?_, rfl⟩
  exact congrArg (· + 1) h0

theorem Open.voice (h : s.Open ids voices) (hs : p.stream = s.sid) (hq : p.seq = s.seq)
    (hp : p.isVoice = true) (hi : p.index = voices % 6) :
    (s.send p false).Open ids (voices + 1) := by
  obtain ⟨n, sent, ss, st, hn, hd, hsent, hsid, hl, hss, hseq, rfl⟩ := h
  obtain ⟨t, ht, htsid, htl, htv⟩ := DmrStream.exists_voice hl (hs.trans hss) (hq.trans hseq) hp hi
  refine ⟨n, sent, ss, t, hn, hd, ?_, htsid.trans hsid, htl, hss.trans htsid.symm, ?_, htv⟩
  · rw [send, ht, hsent, List.append_assoc]
  · rw [send, ht, hseq, List.length_append, List.length_singleton, UInt8.ofNat_add]
    rfl

theorem Open.vterm (h : s.Open ids voices) (hs : p.stream = s.sid) (hq : p.seq = s.seq)
    (hp : p.isVterm = true) (hc : cut = false → 6 ∣ voices) : (s.send p cut).Quiet ids := by
  obtain ⟨n, sent, ss, st, hn, hd, hsent, hsid, hl, hss, hseq, rfl⟩ := h
  obtain ⟨t, ht, htsid⟩ := DmrStream.exists_vterm hl (hs.trans hss) (hq.trans hseq) hp hc
  refine ⟨ss ++ [(n, t)], ?_⟩
  rw [send, hsent, List.append_assoc, ← ht]
  exact hd.push hn t (htsid.trans hsid)

end Sender

end AdnBridge
