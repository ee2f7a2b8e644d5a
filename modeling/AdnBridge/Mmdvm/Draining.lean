import AdnBridge.Lib.Run
import AdnBridge.Mmdvm.Entries

namespace AdnBridge
set_option autoImplicit true

open Regroup

/-- What the bridges do with the converter between two resets. -/
inductive ConvOp where
  | putYsfHeader
  | putYsfPayload (ysf120 : List UInt8)
  | putYsfEot
  | putAmbe7 (ambe7 : List UInt8)
  | getDmr
  | putDmrHeader
  | putDmrVoice (frame33 : List UInt8)
  | putDmrEot
  | putAmbe7Ysf (ambe7 : List UInt8)
  | getYsf
deriving DecidableEq

/-- A direction of the converter: its queue, how it is read, and the layout of what is read. -/
structure Side (w g : Nat) where
  chan : ModeConv → Channel
  get : ModeConv → UInt8 × List UInt8 × ModeConv
  frame : List (List UInt8) → List UInt8
  get_tag : ∀ m, (get m).1 = ((chan m).get w g).1
  get_data : ∀ m, (get m).2.1 = frame ((chan m).get w g).2.1
  get_chan : ∀ m, chan (get m).2.2 = ((chan m).get w g).2.2

def dmrSide : Side 9 3 :=
  ⟨ModeConv.dmr, ModeConv.getDmr, ModeConv.voice33, fun _ => rfl, fun _ => rfl, fun _ => rfl⟩

def ysfSide : Side 13 5 :=
  ⟨ModeConv.ysf, ModeConv.getYsf, ModeConv.ysf120, fun _ => rfl, fun _ => rfl, fun _ => rfl⟩

def returned (tag : UInt8) (data : List UInt8) : List (UInt8 × List UInt8) :=
  if tag = tagNoData then [] else [(tag, data)]

namespace ModeConv

/-- Read until nothing comes, at most `n` times. -/
def drain (get : ModeConv → UInt8 × List UInt8 × ModeConv) :
    Nat → ModeConv → List (UInt8 × List UInt8) × ModeConv
  | 0, m => ([], m)
  | n + 1, m =>
    if (get m).1 = tagNoData then ([], m)
    else (((get m).1, (get m).2.1) :: (drain get n (get m).2.2).1, (drain get n (get m).2.2).2)

end ModeConv

namespace Channel

/-- The number of sub-frames queued behind the last queued marker. -/
def behind (w : Nat) (c : Channel) : Nat := trailing 0 (c.entries w)

/-- No write of these entries finds the ring full. -/
def putsOk (c : Channel) : List (Entry Marker (Vector UInt8 w)) → Bool
  | [] => true
  | e :: es => c.putOk e.tag e.payload && (c.add e).putsOk es

theorem Holds.putsOk_iff (hw : ¬w + 1 ∣ 4999) (h : Holds w c q)
    (es : List (Entry Marker (Vector UInt8 w))) : c.putsOk es = true ↔ c.Room w es.length := by
  induction es generalizing c q with
  | nil => exact ⟨fun _ => c.ring.view_length_lt, fun _ => rfl⟩
  | cons e es ih =>
    rw [putsOk, Bool.and_eq_true, putOk_iff hw h, h.room_iff, h.room_iff, List.length_cons]
    constructor
    · rintro ⟨h1, h2⟩
      have hs := h.add hw ((h.room_iff 1).2 h1) e
      have := (hs.room_iff _).1 ((ih hs).1 h2)
      rwa [List.length_append, List.length_singleton, Nat.add_assoc, Nat.add_comm 1] at this
    · intro hr
      have h1 : (w + 1) * (q.length + 1) < 5000 :=
        (Nat.mul_le_mul_left _ (by omega)).trans_lt hr
      have hs := h.add hw ((h.room_iff 1).2 h1) e
      refine ⟨h1, (ih hs).2 ((hs.room_iff _).2 ?_)⟩
      rwa [List.length_append, List.length_singleton, Nat.add_assoc, Nat.add_comm 1]

end Channel

def pieceTag (p : List (Entry Marker (Vector UInt8 w))) : UInt8 :=
  (p.head?.map Entry.tag).getD tagNoData

/-- What reading a piece returns: its tag, and its payloads in the layout of the frame. -/
def render (frame : List (List UInt8) → List UInt8) (p : List (Entry Marker (Vector UInt8 w))) :
    UInt8 × List UInt8 :=
  (pieceTag p, frame (p.map Entry.payload))

/-- Reading on until nothing comes has then returned every marker that was put, alone and in
order, and the voice before it in groups of `g` sub-frames. -/
def Delivered (S : Side w g) (m : ModeConv) (put : List (Entry Marker (Vector UInt8 w)))
    (out : List (UInt8 × List UInt8)) : Prop :=
  (S.get (m.drain S.get (S.chan m).n).2).1 = tagNoData ∧
    ∃ (ps : List (List (Entry Marker (Vector UInt8 w)))) (rest : _),
      put = ps.flatten ++ rest ∧ (∀ p ∈ ps, Intact g p) ∧ (∀ e ∈ rest, isVoice e = true) ∧
      out ++ (m.drain S.get (S.chan m).n).1 = ps.map (render S.frame)

/-- A converter queue in use is a regrouping line whose waiting entries are its bytes. -/
def Tracks (S : Side w g) (m : ModeConv) (put : List (Entry Marker (Vector UInt8 w)))
    (out : List (UInt8 × List UInt8)) : Prop :=
  ∃ l : Line Marker (Vector UInt8 w), l.Valid g ∧ (S.chan m).Holds w l.queue ∧ l.put = put ∧
    out = l.pulled.map (render S.frame)

section
variable {w g : Nat} {S : Side w g} {m m' : ModeConv}
variable {put es q : List (Entry Marker (Vector UInt8 w))} {out : List (UInt8 × List UInt8)}

theorem pull_head (hg : 0 < g) (h : pull g q = some (p, q')) : p.head? = q.head? := by
  cases q with
  | nil => cases h
  | cons e q =>
    cases e with
    | mark m => cases h; rfl
    | voice v =>
      simp only [pull] at h
      split at h
      · cases h
        rw [List.head?_take, if_neg (by omega)]
      · cases h

theorem Entry.tag_ne_noData (e : Entry Marker (Vector UInt8 w)) : e.tag ≠ tagNoData := by
  cases e with
  | mark m => cases m <;> exact of_decide_eq_true rfl
  | voice v => exact of_decide_eq_true rfl

theorem pieceTag_ne_noData (h : pull g q = some (p, q')) : pieceTag q ≠ tagNoData := by
  cases q with
  | nil => cases h
  | cons e q => exact e.tag_ne_noData

theorem Side.get_some (S : Side w g) (hg : 0 < g) (h : (S.chan m).Holds w q)
    (hp : pull g q = some (p, q')) :
    (S.get m).1 = pieceTag p ∧ (S.get m).2.1 = (render S.frame p).2 ∧
      (S.chan (S.get m).2.2).Holds w q' := by
  obtain ⟨c', hc, hc'⟩ := h.get_some hp
  rw [S.get_tag, S.get_data, S.get_chan, hc, pieceTag, pull_head hg hp]
  exact ⟨rfl, rfl, hc'⟩

theorem Side.get_none (S : Side w g) (hg : 0 < g) (h : (S.chan m).Holds w q)
    (hp : pull g q = none) : (S.get m).1 = tagNoData ∧ S.chan (S.get m).2.2 = S.chan m := by
  have hc := h.get_none hg hp
  rw [S.get_tag, S.get_chan, hc]
  exact ⟨rfl, rfl⟩

theorem drain_spec (S : Side w g) (hg : 0 < g) (h : (S.chan m).Holds w q) (hn : q.length ≤ n) :
    (m.drain S.get n).1 = (drainAll g q).1.map (render S.frame) ∧
      (S.get (m.drain S.get n).2).1 = tagNoData := by
  induction n generalizing m q with
  | zero =>
    obtain rfl := List.length_eq_zero_iff.1 (Nat.le_zero.1 hn)
    exact ⟨rfl, (S.get_none hg h rfl).1⟩
  | succ n ih =>
    rw [ModeConv.drain]
    cases hp : pull g q with
    | none =>
      have ht := (S.get_none hg h hp).1
      rw [if_pos ht, drainAll_none hp]
      exact ⟨rfl, ht⟩
    | some r =>
      obtain ⟨p, q'⟩ := r
      have hl := pull_length hg hp
      obtain ⟨ht, hd, hc⟩ := S.get_some hg h hp
      have hne : (S.get m).1 ≠ tagNoData := by
        rw [ht, pieceTag, pull_head hg hp]
        exact pieceTag_ne_noData hp
      obtain ⟨h1, h2⟩ := ih hc (by omega)
      rw [if_neg hne, drainAll_some hg hp]
      refine ⟨?_, h2⟩
      simp only [h1, List.map_cons, ht, hd]
      rfl

theorem Tracks.add (h : Tracks S m put out) (hw : ¬w + 1 ∣ 4999)
    (hc : S.chan m' = (S.chan m).addAll es) (hr : (S.chan m).Room w es.length) :
    Tracks S m' (put ++ es) out := by
  obtain ⟨l, hv, hq, rfl, rfl⟩ := h
  refine ⟨l.add es, hv.add es, ?_, rfl, rfl⟩
  rw [hc]
  exact hq.addAll hw hr

theorem Tracks.get (hg : 0 < g) (h : Tracks S m put out) :
    Tracks S (S.get m).2.2 put (out ++ returned (S.get m).1 (S.get m).2.1) := by
  obtain ⟨l, hv, hq, rfl, rfl⟩ := h
  cases hp : pull g l.queue with
  | none =>
    obtain ⟨ht, hc⟩ := S.get_none hg hq hp
    refine ⟨l, hv, ?_, rfl, ?_⟩
    · rwa [hc]
    · rw [returned, if_pos ht, List.append_nil]
  | some r =>
    obtain ⟨p, q'⟩ := r
    obtain ⟨ht, hd, hc⟩ := S.get_some hg hq hp
    have hne : (S.get m).1 ≠ tagNoData := by
      rw [ht, pieceTag, pull_head hg hp]
      exact pieceTag_ne_noData hp
    refine ⟨l.take p q', hv.take hp, hc, rfl, ?_⟩
    rw [returned, if_neg hne, Line.take, List.map_append, ht, hd]
    rfl

theorem aligned_of_pieces {ps : List (List (Entry μ β))} {rest : List (Entry μ β)}
    (hi : ∀ p ∈ ps, Intact g p) (hr : ∀ e ∈ rest, isVoice e = true) :
    Aligned g 0 (ps.flatten ++ rest) := by
  induction ps with
  | nil => exact aligned_voices 0 hr
  | cons p ps ih =>
    obtain ⟨hp, hi⟩ := List.forall_mem_cons.1 hi
    rw [List.flatten_cons, List.append_assoc, aligned_append]
    exact ⟨hp.aligned, (ih hi).mod hp.trailing.symm⟩

/-- All that was put is delivered exactly when each marker stands behind whole groups. -/
theorem Tracks.delivered_iff (hg : 0 < g) (h : Tracks S m put out) :
    Delivered S m put out ↔ Aligned g 0 put := by
  obtain ⟨l, hv, hq, rfl, rfl⟩ := h
  obtain ⟨hd, ht⟩ := drain_spec S hg hq hq.count.ge
  constructor
  · rintro ⟨_, ps, rest, hput, hi, hr, _⟩
    rw [hput]
    exact aligned_of_pieces hi hr
  · intro ha
    obtain ⟨hi, hr⟩ := (sound_iff_aligned hg _).2 ha
    refine ⟨ht, _, _, (drainAll_pulls hg l.put).eq_append, hi, hr, ?_⟩
    rw [hd, hv.pieces hg, List.map_append]

theorem Tracks.aligned_add (hg : 0 < g) (h : Tracks S m put out) (ha : Aligned g 0 put)
    (es : List (Entry Marker (Vector UInt8 w))) :
    Aligned g 0 (put ++ es) ↔ Aligned g ((S.chan m).behind w) es := by
  obtain ⟨l, hv, hq, rfl, rfl⟩ := h
  rw [Channel.behind, hq.entries]
  exact hv.aligned_add hg ha es

theorem Tracks.putsOk_iff (h : Tracks S m put out) (hw : ¬w + 1 ∣ 4999)
    (es : List (Entry Marker (Vector UInt8 w))) :
    (S.chan m).putsOk es = true ↔ (S.chan m).Room w es.length := by
  obtain ⟨l, hv, hq, rfl, rfl⟩ := h
  exact hq.putsOk_iff hw es

end

namespace ConvOp

def conv (k : Codec) (m : ModeConv) : ConvOp → ModeConv
  | .putYsfHeader => m.putYsfHeader
  | .putYsfPayload p => m.putYsfPayload k p
  | .putYsfEot => m.putYsfEot
  | .putAmbe7 a => m.putAmbe7 k a
  | .getDmr => m.getDmr.2.2
  | .putDmrHeader => m.putDmrHeader
  | .putDmrVoice f => m.putDmrVoice k f
  | .putDmrEot => m.putDmrEot
  | .putAmbe7Ysf a => m.putAmbe7Ysf k a
  | .getYsf => m.getYsf.2.2

def dmrPuts (k : Codec) (m : ModeConv) : ConvOp → List (Entry Marker (Vector UInt8 9))
  | .putYsfHeader => [.mark .header]
  | .putYsfPayload p => (List.finRange 5).map fun j => .voice (k.ysfToDmr p j)
  | .putYsfEot => finishing 3 m.dmr.n .eot ModeConv.dmrSilence
  | .putAmbe7 a => [.voice (k.ambe7ToDmr a)]
  | _ => []

def ysfPuts (k : Codec) (m : ModeConv) : ConvOp → List (Entry Marker (Vector UInt8 13))
  | .putDmrHeader => [.mark .header]
  | .putDmrVoice f => (List.finRange 3).map fun j => .voice (k.dmrToYsf f j)
  | .putDmrEot => finishing 5 m.ysf.n .eot ModeConv.ysfSilence
  | .putAmbe7Ysf a => [.voice (k.ambe7ToYsf a)]
  | _ => []

def dmrGot (m : ModeConv) : ConvOp → List (UInt8 × List UInt8)
  | .getDmr => returned m.getDmr.1 m.getDmr.2.1
  | _ => []

def ysfGot (m : ModeConv) : ConvOp → List (UInt8 × List UInt8)
  | .getYsf => returned m.getYsf.1 m.getYsf.2.1
  | _ => []

/-- The operation overflows neither ring. -/
def RoomFor (k : Codec) (m : ModeConv) (o : ConvOp) : Prop :=
  m.dmr.putsOk (o.dmrPuts k m) = true ∧ m.ysf.putsOk (o.ysfPuts k m) = true

/-- A marker is put when the sub-frames behind the last queued marker fill whole groups; at the
end of a call, together with the padding that is computed from the whole queue length. -/
def Fits (m : ModeConv) : ConvOp → Prop
  | .putYsfHeader => 3 ∣ m.dmr.behind 9
  | .putYsfEot => 3 ∣ m.dmr.behind 9 + (3 - m.dmr.n % 3)
  | .putDmrHeader => 5 ∣ m.ysf.behind 13
  | .putDmrEot => 5 ∣ m.ysf.behind 13 + (5 - m.ysf.n % 5)
  | _ => True

end ConvOp

/-- The converter in use, with what was put since the reset and what was returned. -/
structure ConvUse where
  conv : ModeConv
  dmrPut : List (Entry Marker (Vector UInt8 9))
  ysfPut : List (Entry Marker (Vector UInt8 13))
  dmrOut : List (UInt8 × List UInt8)
  ysfOut : List (UInt8 × List UInt8)

namespace ConvUse

def init : ConvUse := ⟨.reset, [], [], [], []⟩

def step (k : Codec) (u : ConvUse) (o : ConvOp) : ConvUse where
  conv := o.conv k u.conv
  dmrPut := u.dmrPut ++ o.dmrPuts k u.conv
  ysfPut := u.ysfPut ++ o.ysfPuts k u.conv
  dmrOut := u.dmrOut ++ o.dmrGot u.conv
  ysfOut := u.ysfOut ++ o.ysfGot u.conv

def machine (k : Codec) : Machine ConvUse ConvOp := ⟨init, fun u o => some (u.step k o)⟩

def Delivered (u : ConvUse) : Prop :=
  AdnBridge.Delivered dmrSide u.conv u.dmrPut u.dmrOut ∧
    AdnBridge.Delivered ysfSide u.conv u.ysfPut u.ysfOut

def Tracks (u : ConvUse) : Prop :=
  AdnBridge.Tracks dmrSide u.conv u.dmrPut u.dmrOut ∧
    AdnBridge.Tracks ysfSide u.conv u.ysfPut u.ysfOut

def Aligned (u : ConvUse) : Prop :=
  Regroup.Aligned 3 0 u.dmrPut ∧ Regroup.Aligned 5 0 u.ysfPut

end ConvUse

section
variable {w : Nat}

theorem foldl_put_eq_addAll (c : Channel) (f : Fin n → Vector UInt8 w) (l : List (Fin n)) :
    l.foldl (fun c j => Channel.put c tagData (f j).toList) c =
      c.addAll (l.map fun j => (.voice (f j) : Entry Marker (Vector UInt8 w))) := by
  rw [Channel.addAll, List.foldl_map]
  rfl

end

section
variable {k : Codec} {m : ModeConv} {o : ConvOp}

theorem ConvOp.conv_dmr (h : o ≠ .getDmr) : (o.conv k m).dmr = m.dmr.addAll (o.dmrPuts k m) := by
  cases o with
  | getDmr => exact absurd rfl h
  | putYsfPayload p => exact foldl_put_eq_addAll m.dmr (k.ysfToDmr p) _
  | putYsfEot => exact m.dmr.putEot_eq_addAll 3 ModeConv.dmrSilence
  | _ =>
    simp only [conv, dmrPuts, ModeConv.putYsfHeader, ModeConv.putAmbe7, ModeConv.putDmrHeader,
      ModeConv.putDmrVoice, ModeConv.putDmrEot, ModeConv.putAmbe7Ysf, ModeConv.getYsf,
      Channel.addAll, Channel.add, List.foldl_cons, List.foldl_nil, Entry.tag, Entry.payload]

theorem ConvOp.conv_ysf (h : o ≠ .getYsf) : (o.conv k m).ysf = m.ysf.addAll (o.ysfPuts k m) := by
  cases o with
  | getYsf => exact absurd rfl h
  | putDmrVoice f => exact foldl_put_eq_addAll m.ysf (k.dmrToYsf f) _
  | putDmrEot => exact m.ysf.putEot_eq_addAll 5 ModeConv.ysfSilence
  | _ =>
    simp only [conv, ysfPuts, ModeConv.putDmrHeader, ModeConv.putAmbe7Ysf, ModeConv.putYsfHeader,
      ModeConv.putYsfPayload, ModeConv.putYsfEot, ModeConv.putAmbe7, ModeConv.getDmr,
      Channel.addAll, Channel.add, List.foldl_cons, List.foldl_nil, Entry.tag, Entry.payload]

theorem ConvOp.dmrGot_eq_nil (h : o ≠ .getDmr) : o.dmrGot m = [] := by
  cases o with
  | getDmr => exact absurd rfl h
  | _ => rfl

theorem ConvOp.ysfGot_eq_nil (h : o ≠ .getYsf) : o.ysfGot m = [] := by
  cases o with
  | getYsf => exact absurd rfl h
  | _ => rfl

end

namespace ConvUse

variable {k : Codec} {u : ConvUse} {o : ConvOp}

theorem init_tracks : init.Tracks :=
  ⟨⟨.empty, .empty, Channel.holds_empty, rfl, rfl⟩, ⟨.empty, .empty, Channel.holds_empty, rfl, rfl⟩⟩

theorem Tracks.step_dmr (h : u.Tracks) (hr : o.RoomFor k u.conv) :
    AdnBridge.Tracks dmrSide (u.step k o).conv (u.step k o).dmrPut (u.step k o).dmrOut := by
  by_cases ho : o = .getDmr
  · subst ho
    simp only [ConvUse.step, ConvOp.dmrPuts, List.append_nil]
    exact h.1.get (by decide)
  · have hw : ¬9 + 1 ∣ 4999 := by decide
    have hc : dmrSide.chan (o.conv k u.conv) = (dmrSide.chan u.conv).addAll (o.dmrPuts k u.conv) :=
      ConvOp.conv_dmr ho
    simp only [ConvUse.step, ConvOp.dmrGot_eq_nil ho, List.append_nil]
    exact h.1.add hw hc ((h.1.putsOk_iff hw _).1 hr.1)

theorem Tracks.step_ysf (h : u.Tracks) (hr : o.RoomFor k u.conv) :
    AdnBridge.Tracks ysfSide (u.step k o).conv (u.step k o).ysfPut (u.step k o).ysfOut := by
  by_cases ho : o = .getYsf
  · subst ho
    simp only [ConvUse.step, ConvOp.ysfPuts, List.append_nil]
    exact h.2.get (by decide)
  · have hw : ¬13 + 1 ∣ 4999 := by decide
    have hc : ysfSide.chan (o.conv k u.conv) = (ysfSide.chan u.conv).addAll (o.ysfPuts k u.conv) :=
      ConvOp.conv_ysf ho
    simp only [ConvUse.step, ConvOp.ysfGot_eq_nil ho, List.append_nil]
    exact h.2.add hw hc ((h.2.putsOk_iff hw _).1 hr.2)

theorem Tracks.step (h : u.Tracks) (hr : o.RoomFor k u.conv) : (u.step k o).Tracks :=
  ⟨h.step_dmr hr, h.step_ysf hr⟩

theorem voices_aligned (j : Nat) (f : Fin n → Vector UInt8 w) :
    Regroup.Aligned g j
      ((List.finRange n).map fun i => (.voice (f i) : Entry Marker (Vector UInt8 w))) := by
  refine aligned_voices j fun e he => ?_
  obtain ⟨i, _, rfl⟩ := List.mem_map.1 he
  rfl

/-- An operation keeps the markers aligned exactly when it fits. -/
theorem Tracks.aligned_step (h : u.Tracks) (ha : u.Aligned) (o : ConvOp) :
    (u.step k o).Aligned ↔ o.Fits u.conv := by
  have hd := h.1.aligned_add (by decide) ha.1 (o.dmrPuts k u.conv)
  have hy := h.2.aligned_add (by decide) ha.2 (o.ysfPuts k u.conv)
  refine (and_congr hd hy).trans ?_
  cases o with
  | putYsfHeader => exact (and_congr (aligned_mark _ _) Iff.rfl).trans (and_iff_left trivial)
  | putYsfEot => exact (and_congr (aligned_finishing _ _ _ _) Iff.rfl).trans (and_iff_left trivial)
  | putDmrHeader => exact (and_congr Iff.rfl (aligned_mark _ _)).trans (and_iff_right trivial)
  | putDmrEot => exact (and_congr Iff.rfl (aligned_finishing _ _ _ _)).trans (and_iff_right trivial)
  | putYsfPayload p => exact iff_of_true ⟨voices_aligned _ _, trivial⟩ trivial
  | putDmrVoice f => exact iff_of_true ⟨trivial, voices_aligned _ _⟩ trivial
  | _ => exact iff_of_true ⟨trivial, trivial⟩ trivial

theorem Tracks.delivered_iff (h : u.Tracks) : u.Delivered ↔ u.Aligned :=
  and_congr (AdnBridge.Tracks.delivered_iff (by decide) h.1)
    (AdnBridge.Tracks.delivered_iff (by decide) h.2)

theorem aligned_of_step (h : (u.step k o).Aligned) : u.Aligned :=
  ⟨((aligned_append _ _ _).1 h.1).1, ((aligned_append _ _ _).1 h.2).1⟩

theorem aligned_of_run {os : List ConvOp} (hr : (machine k).runFrom u os = some u')
    (h : u'.Aligned) : u.Aligned := by
  induction os generalizing u with
  | nil => cases hr; exact h
  | cons o os ih => exact aligned_of_step (o := o) (ih hr)

theorem Tracks.run {os : List ConvOp} (h : u.Tracks)
    (hf : (machine k).Meets (fun u o => o.RoomFor k u.conv) u os)
    (hr : (machine k).runFrom u os = some u') : u'.Tracks :=
  Machine.runFrom_invariant
    (fun _ _ _ hi hc he => by cases he; exact hi.step hc) h hf hr

theorem Tracks.aligned_run {os : List ConvOp} (h : u.Tracks) (ha : u.Aligned)
    (hf : (machine k).Meets (fun u o => o.RoomFor k u.conv) u os)
    (hr : (machine k).runFrom u os = some u') :
    u'.Aligned ↔ (machine k).Meets (fun u o => o.Fits u.conv) u os := by
  induction os generalizing u with
  | nil =>
    cases hr
    exact iff_of_true ha trivial
  | cons o os ih =>
    have hstep : (machine k).step u o = some (u.step k o) := rfl
    have hr' : (machine k).runFrom (u.step k o) os = some u' := hr
    obtain ⟨hroom, hf⟩ := hf _ hstep
    have hs := h.step hroom
    constructor
    · intro ha' t ht
      cases hstep.symm.trans ht
      have hao := aligned_of_run hr' ha'
      exact ⟨(h.aligned_step ha o).1 hao, (ih hs hao hf hr').1 ha'⟩
    · intro hm
      obtain ⟨hfit, hm⟩ := hm _ hstep
      exact (ih hs ((h.aligned_step ha o).2 hfit) hf hr').2 hm

/-- Without overflow, the converter delivers every marker and all voice before it exactly when
each marker is put at a group boundary of what is still queued. -/
theorem delivered_iff_fits {os : List ConvOp}
    (hf : (machine k).Meets (fun u o => o.RoomFor k u.conv) init os)
    (hr : (machine k).run os = some u) :
    u.Delivered ↔ (machine k).Meets (fun u o => o.Fits u.conv) init os :=
  (init_tracks.run hf hr).delivered_iff.trans
    (init_tracks.aligned_run ⟨trivial, trivial⟩ hf hr)

end ConvUse

end AdnBridge
