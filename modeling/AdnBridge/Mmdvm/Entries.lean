import AdnBridge.Mmdvm.ModeConv

namespace AdnBridge
set_option autoImplicit true

inductive Marker where
  | header
  | eot
deriving DecidableEq

namespace Entry

def tag : Entry Marker (Vector UInt8 w) → UInt8
  | .mark .header => tagHeader
  | .mark .eot => tagEot
  | .voice _ => tagData

def payload : Entry Marker (Vector UInt8 w) → List UInt8
  | .mark _ => List.replicate w 0
  | .voice v => v.toList

def bytes (e : Entry Marker (Vector UInt8 w)) : List UInt8 := e.tag :: e.payload

def ofBytes (w : Nat) (tag : UInt8) (payload : List UInt8) : Entry Marker (Vector UInt8 w) :=
  if tag = tagData then .voice (Vector.ofFn fun i => payload.getD i 0)
  else if tag = tagEot then .mark .eot
  else .mark .header

@[simp] theorem payload_length (e : Entry Marker (Vector UInt8 w)) : e.payload.length = w := by
  cases e with
  | mark m => exact List.length_replicate
  | voice v => exact v.length_toList

@[simp] theorem bytes_length (e : Entry Marker (Vector UInt8 w)) : e.bytes.length = w + 1 := by
  rw [bytes, List.length_cons, payload_length]

theorem tag_eq_tagData_iff (e : Entry Marker (Vector UInt8 w)) :
    e.tag = tagData ↔ Regroup.isVoice e = true := by
  cases e with
  | mark m =>
    refine ⟨fun h => absurd h ?_, fun h => absurd h Bool.false_ne_true⟩
    cases m
    · exact (by decide : tagHeader ≠ tagData)
    · exact (by decide : tagEot ≠ tagData)
  | voice v => exact ⟨fun _ => rfl, fun _ => rfl⟩

theorem ofBytes_bytes (e : Entry Marker (Vector UInt8 w)) : ofBytes w e.tag e.payload = e := by
  cases e with
  | mark m => cases m <;> rfl
  | voice v =>
    rw [tag, ofBytes, if_pos rfl]
    congr 1
    ext i hi
    simp [payload]

end Entry

theorem flatMap_bytes_length (q : List (Entry Marker (Vector UInt8 w))) :
    (q.flatMap Entry.bytes).length = (w + 1) * q.length := by
  induction q with
  | nil => rfl
  | cons e q ih =>
    rw [List.flatMap_cons, List.length_append, ih, Entry.bytes_length, List.length_cons,
      Nat.mul_succ, Nat.add_comm]

namespace Channel

variable {w g : Nat} {c c' : Channel} {q : List (Entry Marker (Vector UInt8 w))}

/-- The entries that the counter promises, read off the ring. -/
def entriesOf (w : Nat) : Nat → List UInt8 → List (Entry Marker (Vector UInt8 w))
  | 0, _ => []
  | n + 1, bs => .ofBytes w (bs.headD tagNoData) (bs.tail.take w) ::
      entriesOf w n (bs.drop (w + 1))

def entries (w : Nat) (c : Channel) : List (Entry Marker (Vector UInt8 w)) :=
  entriesOf w c.n c.ring.view

def add (c : Channel) (e : Entry Marker (Vector UInt8 w)) : Channel := c.put e.tag e.payload

def addAll (c : Channel) (es : List (Entry Marker (Vector UInt8 w))) : Channel := es.foldl add c

/-- The ring holds the entries of `q` and nothing else, and the counter says how many. -/
structure Holds (w : Nat) (c : Channel) (q : List (Entry Marker (Vector UInt8 w))) : Prop where
  count : c.n = q.length
  view : c.ring.view = q.flatMap Entry.bytes

/-- The ring holds whole entries, but fewer than the counter says. -/
def Lagging (w : Nat) (c : Channel) : Prop :=
  ∃ q : List (Entry Marker (Vector UInt8 w)),
    c.ring.view = q.flatMap Entry.bytes ∧ q.length < c.n

/-- Room for `k` more entries. -/
def Room (w : Nat) (c : Channel) (k : Nat) : Prop := c.ring.view.length + (w + 1) * k < 5000

instance (w : Nat) (c : Channel) (k : Nat) : Decidable (c.Room w k) := Nat.decLt _ _

theorem entriesOf_flatMap (q : List (Entry Marker (Vector UInt8 w))) (bs : List UInt8) :
    entriesOf w q.length (q.flatMap Entry.bytes ++ bs) = q := by
  induction q with
  | nil => rfl
  | cons e q ih =>
    have ht : (e.payload ++ (q.flatMap Entry.bytes ++ bs)).take w = e.payload :=
      List.take_left' e.payload_length
    have hd : (e.payload ++ (q.flatMap Entry.bytes ++ bs)).drop w =
        q.flatMap Entry.bytes ++ bs := List.drop_left' e.payload_length
    simp only [List.length_cons, List.flatMap_cons, Entry.bytes, List.cons_append, entriesOf,
      List.headD_cons, List.tail_cons, List.drop_succ_cons, List.append_assoc, ht, hd, ih,
      Entry.ofBytes_bytes]

theorem Holds.entries (h : Holds w c q) : c.entries w = q := by
  have hq := entriesOf_flatMap q []
  rw [List.append_nil] at hq
  rw [Channel.entries, h.count, h.view, hq]

theorem Holds.length (h : Holds w c q) : c.ring.view.length = (w + 1) * q.length := by
  rw [h.view, flatMap_bytes_length]

theorem holds_empty : Holds w empty [] := ⟨rfl, CRingBuffer.view_new _⟩

theorem Holds.room_iff (h : Holds w c q) (k : Nat) :
    c.Room w k ↔ (w + 1) * (q.length + k) < 5000 := by
  rw [Room, h.length, Nat.mul_add]

/-- An entry goes in whole, or its payload write empties the ring. -/
theorem view_add (hw : ¬w + 1 ∣ 4999) (h : c.ring.view = q.flatMap Entry.bytes)
    (e : Entry Marker (Vector UInt8 w)) :
    (c.add e).ring.view = if c.Room w 1 then (q ++ [e]).flatMap Entry.bytes else [] := by
  have hl : c.ring.view.length = (w + 1) * q.length := by rw [h, flatMap_bytes_length]
  have hlt := c.ring.view_length_lt
  have htag : c.ring.view.length + [e.tag].length < 5000 := by
    have hne : c.ring.view.length ≠ 4999 := fun he => hw ⟨q.length, he.symm.trans hl⟩
    rw [List.length_singleton]
    omega
  have hv := CRingBuffer.view_addData c.ring [e.tag] htag
  have hvl : ((c.ring.addData [e.tag]).1).view.length + e.payload.length =
      c.ring.view.length + (w + 1) := by
    rw [hv, List.length_append, List.length_singleton, Entry.payload_length]
    omega
  split
  next hr =>
    rw [Room, Nat.mul_one] at hr
    change ((c.ring.addData [e.tag]).1.addData e.payload).1.view = _
    rw [CRingBuffer.view_addData _ _ (by omega), hv, h, List.append_assoc, List.flatMap_append]
    simp only [List.flatMap_cons, List.flatMap_nil, List.append_nil, Entry.bytes,
      List.singleton_append]
  next hr =>
    rw [Room, Nat.mul_one] at hr
    exact CRingBuffer.view_addData_overflow _ _ (by omega)

theorem putOk_iff (hw : ¬w + 1 ∣ 4999) (h : Holds w c q) (e : Entry Marker (Vector UInt8 w)) :
    c.putOk e.tag e.payload = true ↔ c.Room w 1 := by
  have hlt := c.ring.view_length_lt
  have htag : c.ring.view.length + [e.tag].length < 5000 := by
    have hne : c.ring.view.length ≠ 4999 := fun he => hw ⟨q.length, he.symm.trans h.length⟩
    rw [List.length_singleton]
    omega
  have hv := CRingBuffer.view_addData c.ring [e.tag] htag
  rw [putOk, (CRingBuffer.addData_fits_iff _ _).2 htag, Bool.true_and,
    CRingBuffer.addData_fits_iff, hv, List.length_append, Entry.payload_length, Room,
    List.length_singleton]
  omega

theorem Holds.add (hw : ¬w + 1 ∣ 4999) (h : Holds w c q) (hr : c.Room w 1)
    (e : Entry Marker (Vector UInt8 w)) : Holds w (c.add e) (q ++ [e]) where
  count := by
    rw [List.length_append, List.length_singleton, ← h.count]
    rfl
  view := by rw [view_add hw h.view, if_pos hr]

theorem Holds.add_lagging (hw : ¬w + 1 ∣ 4999) (h : Holds w c q) (hr : ¬c.Room w 1)
    (e : Entry Marker (Vector UInt8 w)) : Lagging w (c.add e) :=
  ⟨[], by rw [view_add hw h.view, if_neg hr, List.flatMap_nil], Nat.succ_pos _⟩

theorem Lagging.add (hw : ¬w + 1 ∣ 4999) (h : Lagging w c)
    (e : Entry Marker (Vector UInt8 w)) : Lagging w (c.add e) := by
  obtain ⟨q, hq, hn⟩ := h
  have hv := view_add hw hq e
  have hn' : (c.add e).n = c.n + 1 := rfl
  split at hv
  · refine ⟨q ++ [e], hv, ?_⟩
    rw [List.length_append, List.length_singleton]
    omega
  · exact ⟨[], hv, Nat.succ_pos _⟩

theorem Lagging.addAll (hw : ¬w + 1 ∣ 4999) (h : Lagging w c)
    (es : List (Entry Marker (Vector UInt8 w))) : Lagging w (c.addAll es) := by
  induction es generalizing c with
  | nil => exact h
  | cons e es ih => exact ih (h.add hw e)

theorem Holds.addAll (hw : ¬w + 1 ∣ 4999) (h : Holds w c q)
    {es : List (Entry Marker (Vector UInt8 w))} (hr : c.Room w es.length) :
    Holds w (c.addAll es) (q ++ es) := by
  induction es generalizing c q with
  | nil => rwa [List.append_nil]
  | cons e es ih =>
    rw [h.room_iff, List.length_cons] at hr
    have hr1 : c.Room w 1 := by
      rw [h.room_iff]
      exact (Nat.mul_le_mul_left _ (by omega)).trans_lt hr
    have hs := h.add hw hr1 e
    have hr2 : (c.add e).Room w es.length := by
      rw [hs.room_iff, List.length_append, List.length_singleton, Nat.add_assoc,
        Nat.add_comm 1]
      exact hr
    have := ih hs hr2
    rwa [List.append_assoc, List.singleton_append] at this

theorem Holds.addAll_lagging (hw : ¬w + 1 ∣ 4999) (h : Holds w c q)
    {es : List (Entry Marker (Vector UInt8 w))} (hr : ¬c.Room w es.length) :
    Lagging w (c.addAll es) := by
  induction es generalizing c q with
  | nil =>
    have hlt := c.ring.view_length_lt
    exact absurd hlt hr
  | cons e es ih =>
    by_cases hr1 : c.Room w 1
    · have hs := h.add hw hr1 e
      refine ih hs fun hr2 => hr ?_
      rw [hs.room_iff, List.length_append, List.length_singleton, Nat.add_assoc,
        Nat.add_comm 1] at hr2
      rw [h.room_iff, List.length_cons]
      exact hr2
    · exact (h.add_lagging hw hr1 e).addAll hw es

theorem Lagging.length_ne (h : Lagging w c) : c.ring.view.length ≠ (w + 1) * c.n := by
  obtain ⟨q, hq, hn⟩ := h
  rw [hq, flatMap_bytes_length]
  exact (Nat.mul_lt_mul_of_pos_left hn (Nat.succ_pos w)).ne

theorem Lagging.not_holds (h : Lagging w c) : ¬Holds w c q := fun hq =>
  h.length_ne (by rw [hq.length, hq.count])

theorem Holds.shift (h : Holds w c (e :: q)) (tag : UInt8) :
    ∃ c', c.shift w tag = (e.tag, e.payload, c') ∧ Holds w c' q := by
  have hv := h.view
  rw [List.flatMap_cons, Entry.bytes, List.cons_append] at hv
  obtain ⟨r, hr, hrv⟩ := c.ring.getData_some 1 (by rw [hv, List.length_cons]; omega)
  rw [hv, List.drop_one, List.tail_cons] at hrv
  rw [hv, List.take_succ_cons, List.take_zero] at hr
  obtain ⟨r', hr', hrv'⟩ := CRingBuffer.getData_some r w
    (by rw [hrv, List.length_append, Entry.payload_length]; omega)
  rw [hrv, List.take_left' e.payload_length] at hr'
  rw [hrv, List.drop_left' e.payload_length] at hrv'
  refine ⟨⟨r', c.n - 1⟩, ?_, ?_, hrv'⟩
  · simp only [Channel.shift, hr, hr', Option.map_some, Option.getD_some, List.headD_cons]
  · change c.n - 1 = _
    rw [h.count, List.length_cons, Nat.add_sub_cancel]

theorem Holds.shiftMany (h : Holds w c q) (hk : k ≤ q.length) :
    (c.shiftMany w k).1 = (q.take k).map Entry.payload ∧
      Holds w (c.shiftMany w k).2 (q.drop k) := by
  induction k generalizing c q with
  | zero => exact ⟨rfl, h⟩
  | succ k ih =>
    cases q with
    | nil => exact absurd hk (Nat.not_succ_le_zero k)
    | cons e q =>
      obtain ⟨c', hc, hc'⟩ := h.shift tagData
      obtain ⟨h1, h2⟩ := ih hc' (Nat.le_of_succ_le_succ hk)
      simp only [Channel.shiftMany, hc]
      exact ⟨congrArg _ h1, h2⟩

theorem Holds.peek (h : Holds w c (e :: q)) : c.ring.peek 1 = some [e.tag] := by
  have hv := h.view
  rw [List.flatMap_cons, Entry.bytes, List.cons_append] at hv
  rw [CRingBuffer.peek_some _ _ (by rw [hv, List.length_cons]; omega), hv]
  rfl

/-- `get` takes off the ring the piece that regrouping takes off the queue. -/
theorem Holds.get_some (h : Holds w c q) (hp : Regroup.pull g q = some (p, q')) :
    ∃ c', c.get w g = (((q.head?).map Entry.tag).getD tagNoData, p.map Entry.payload, c') ∧
      Holds w c' q' := by
  cases q with
  | nil => cases hp
  | cons e q =>
    have hn : c.n ≥ 1 := by
      rw [h.count, List.length_cons]
      omega
    cases e with
    | mark m =>
      cases hp
      have ht : (Entry.mark m : Entry Marker (Vector UInt8 w)).tag ≠ tagData := fun he =>
        Bool.false_ne_true ((Entry.tag_eq_tagData_iff _).1 he)
      obtain ⟨c', hc, hc'⟩ := h.shift (Entry.mark m : Entry Marker (Vector UInt8 w)).tag
      refine ⟨c', ?_, hc'⟩
      simp only [Channel.get, h.peek, Option.map_some, Option.getD_some, List.headD_cons,
        if_pos (And.intro hn ht), hc, List.head?_cons, List.map_cons, List.map_nil]
    | voice v =>
      simp only [Regroup.pull] at hp
      split at hp
      next hl =>
        cases hp
        obtain ⟨h1, h2⟩ := h.shiftMany (k := g) hl
        refine ⟨(c.shiftMany w g).2, ?_, h2⟩
        have ht : ¬(c.n ≥ 1 ∧ (Entry.voice v : Entry Marker (Vector UInt8 w)).tag ≠ tagData) :=
          fun he => he.2 rfl
        have hg : c.n ≥ g := by
          rw [h.count]
          exact hl
        simp only [Channel.get, h.peek, Option.map_some, Option.getD_some, List.headD_cons,
          if_neg ht, if_pos hg, h1, List.head?_cons]
        rfl
      · cases hp

theorem Holds.get_none (hg : 0 < g) (h : Holds w c q) (hp : Regroup.pull g q = none) :
    c.get w g = (tagNoData, [], c) := by
  cases q with
  | nil =>
    have hn : c.n = 0 := h.count
    have h1 (t : UInt8) : ¬(c.n ≥ 1 ∧ t ≠ tagData) := fun he => by omega
    have h2 : ¬c.n ≥ g := by omega
    simp only [Channel.get, if_neg (h1 _), if_neg h2]
  | cons e q =>
    cases e with
    | mark m => cases hp
    | voice v =>
      simp only [Regroup.pull] at hp
      split at hp
      · cases hp
      next hl =>
        have ht : ¬(c.n ≥ 1 ∧ (Entry.voice v : Entry Marker (Vector UInt8 w)).tag ≠ tagData) :=
          fun he => he.2 rfl
        have hg : ¬c.n ≥ g := by
          rw [h.count]
          exact hl
        simp only [Channel.get, h.peek, Option.map_some, Option.getD_some, List.headD_cons,
          if_neg ht, if_neg hg]

theorem putEot_eq_addAll (c : Channel) (g : Nat) (s : Vector UInt8 w) :
    c.putEot w g s.toList = c.addAll (Regroup.finishing g c.n Marker.eot s) := by
  have hit (k : Nat) (d : Channel) : (fun c : Channel => c.put tagData s.toList)^[k] d =
      d.addAll (List.replicate k (Entry.voice s : Entry Marker (Vector UInt8 w))) := by
    induction k generalizing d with
    | zero => rfl
    | succ k ih => exact ih _
  rw [putEot, hit, Regroup.finishing, addAll, addAll, List.foldl_append]
  rfl

end Channel

end AdnBridge
