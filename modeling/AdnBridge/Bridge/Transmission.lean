import AdnBridge.Hbp.Dmrd
import AdnBridge.Mmdvm.Entries
import AdnBridge.Ysf.Frame

namespace AdnBridge
set_option autoImplicit true

/-- The two kinds of transmission that a bridge originates on DMR. -/
inductive Origin where
  | call
  | ptt
deriving DecidableEq

/-- What a bridge does to the outside, and the marks it leaves where a transmission starts or is
dropped. -/
inductive Act where
  | dmrd (o : Origin) (p : Dmrd)
  | ysfd (f : Ysfd)
  | convReset
  | convPut (dmr : List (Entry Marker (Vector UInt8 9)))
      (ysf : List (Entry Marker (Vector UInt8 13)))
  | start (o : Origin) (sid : UInt32)
  | stop (o : Origin)

def Act.ysfFrame : Act → Option Ysfd
  | .ysfd f => some f
  | _ => none

/-- A transmission: the stream id drawn for it, and the packets sent for it. -/
structure Tx where
  sid : UInt32
  packets : List Dmrd

namespace Tx

def voices (t : Tx) : List Dmrd := t.packets.filter Dmrd.isVoice

def push (t : Tx) (p : Dmrd) : Tx := { t with packets := t.packets ++ [p] }

/-- One stream id, sequence bytes that count from 0, superframe indices that count modulo 6. -/
structure Intact (t : Tx) : Prop where
  stream : ∀ p ∈ t.packets, p.stream = t.sid
  seq : t.packets.map Dmrd.seq = (List.range t.packets.length).map UInt8.ofNat
  index : t.voices.map Dmrd.index = (List.range t.voices.length).map (· % 6)

theorem intact_nil (sid : UInt32) : Intact ⟨sid, []⟩ :=
  ⟨List.forall_mem_nil _, rfl, rfl⟩

theorem voices_push_voice (t : Tx) (h : p.isVoice = true) :
    (t.push p).voices = t.voices ++ [p] := by
  rw [voices, push, List.filter_append, List.filter_cons_of_pos h, List.filter_nil]
  rfl

theorem voices_push_data (t : Tx) (h : p.isVoice = false) : (t.push p).voices = t.voices := by
  rw [voices, push, List.filter_append, List.filter_cons_of_neg (by rw [h]; decide),
    List.filter_nil, List.append_nil]
  rfl

theorem Intact.push {t : Tx} (h : t.Intact) (hs : p.stream = t.sid)
    (hq : p.seq = UInt8.ofNat t.packets.length)
    (hv : p.isVoice = true → p.index = t.voices.length % 6) : (t.push p).Intact where
  stream := by
    intro x hx
    rcases List.mem_append.1 hx with hx | hx
    · exact h.stream x hx
    · rw [List.mem_singleton.1 hx]
      exact hs
  seq := by
    rw [Tx.push, List.map_append, h.seq, List.length_append, List.length_singleton,
      List.range_succ, List.map_append, List.map_singleton, List.map_singleton, hq]
  index := by
    cases hp : p.isVoice with
    | true =>
      rw [voices_push_voice t hp, List.map_append, h.index, List.length_append,
        List.length_singleton, List.range_succ, List.map_append, List.map_singleton,
        List.map_singleton, hv hp]
    | false => rw [voices_push_data t hp, h.index]

end Tx

/-- The transmissions of one kind that are over, and the one that is open. -/
structure TxLog where
  closed : List Tx
  current : Option Tx

namespace TxLog

def empty : TxLog := ⟨[], none⟩

def close (l : TxLog) : TxLog := ⟨l.closed ++ l.current.toList, none⟩

/-- A transmission ends with its VTERM. -/
def send (l : TxLog) (p : Dmrd) : TxLog :=
  match l.current with
  | none => l
  | some t => if p.isVterm then ⟨l.closed ++ [t.push p], none⟩ else ⟨l.closed, some (t.push p)⟩

def step (o : Origin) (l : TxLog) : Act → TxLog
  | .dmrd o' p => if o' = o then l.send p else l
  | .start o' sid => if o' = o then ⟨l.close.closed, some ⟨sid, []⟩⟩ else l
  | .stop o' => if o' = o then l.close else l
  | _ => l

def all (l : TxLog) : List Tx := l.closed ++ l.current.toList

def Intact (l : TxLog) : Prop := ∀ t ∈ l.all, t.Intact

theorem intact_empty : empty.Intact := List.forall_mem_nil _

theorem Intact.close {l : TxLog} (h : l.Intact) : l.close.Intact := by
  intro t ht
  refine h t ?_
  rwa [all, TxLog.close, Option.toList_none, List.append_nil] at ht

theorem Intact.current {l : TxLog} (h : l.Intact) (ht : l.current = some t) : t.Intact := by
  refine h t (List.mem_append_right _ ?_)
  rw [ht]
  exact List.mem_singleton_self t

theorem Intact.start {l : TxLog} (h : l.Intact) (sid : UInt32) :
    Intact ⟨l.close.closed, some ⟨sid, []⟩⟩ := by
  intro t ht
  rcases List.mem_append.1 ht with ht | ht
  · exact h t ht
  · rw [List.mem_singleton.1 ht]
    exact Tx.intact_nil sid

theorem Intact.send {l : TxLog} (h : l.Intact)
    (hp : ∀ t, l.current = some t → (t.push p).Intact) : (l.send p).Intact := by
  cases hc : l.current with
  | none => rwa [TxLog.send, hc]
  | some t =>
    have hclosed : ∀ u ∈ l.closed, u.Intact := fun u hu => h u (List.mem_append_left _ hu)
    have hall : ∀ u ∈ l.closed ++ [t.push p], u.Intact := by
      intro u hu
      rcases List.mem_append.1 hu with hu | hu
      · exact hclosed u hu
      · rw [List.mem_singleton.1 hu]
        exact hp t hc
    rw [TxLog.send, hc]
    simp only
    split
    · intro u hu
      rw [all, Option.toList_none, List.append_nil] at hu
      exact hall u hu
    · exact hall

end TxLog

def txLog (o : Origin) (trace : List Act) : TxLog := trace.foldl (TxLog.step o) .empty

/-- The transmissions of a kind that a trace shows, the open one last. -/
def transmissions (o : Origin) (trace : List Act) : List Tx := (txLog o trace).all

@[simp] theorem txLog_append (o : Origin) (trace : List Act) (a : Act) :
    txLog o (trace ++ [a]) = (txLog o trace).step o a := by
  rw [txLog, List.foldl_append]
  rfl

/-- A call as an observer keeps it: which way it goes, and what was done while it was open. -/
structure CallRec (δ : Type) where
  dir : δ
  acts : List Act

/-- The calls that are over, and the one that is open. -/
structure CallBook (δ : Type) where
  closed : List (CallRec δ)
  current : Option (CallRec δ)

namespace CallRec

def add (r : CallRec δ) (acts : List Act) : CallRec δ := { r with acts := r.acts ++ acts }

def ysfFrames (r : CallRec δ) : List Ysfd := r.acts.filterMap Act.ysfFrame

theorem ysfFrames_add (r : CallRec δ) (acts : List Act) :
    (r.add acts).ysfFrames = r.ysfFrames ++ acts.filterMap Act.ysfFrame :=
  List.filterMap_append

end CallRec

namespace CallBook

def empty : CallBook δ := ⟨[], none⟩

def all (k : CallBook δ) : List (CallRec δ) := k.closed ++ k.current.toList

def heading (k : CallBook δ) : Option δ := k.current.map CallRec.dir

/-- A step has done `acts` and leaves a call open or not; it may have begun a call, which ends
the one before. -/
def note (k : CallBook δ) (begun : Option δ) (acts : List Act) (active : Bool) : CallBook δ :=
  match begun, active with
  | some d, _ => ⟨k.all, some ⟨d, acts⟩⟩
  | none, true => ⟨k.closed, k.current.map (·.add acts)⟩
  | none, false => ⟨k.closed ++ (k.current.map (·.add acts)).toList, none⟩

end CallBook

end AdnBridge
