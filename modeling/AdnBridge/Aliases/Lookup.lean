import AdnBridge.Aliases.Occupancy

namespace AdnBridge
set_option autoImplicit true

namespace AliasRow

def key (row : AliasRow) : List UInt8 := normalizeCallsignKey row.2

end AliasRow

instance (id : Int) (callsign : List UInt8) : Decidable (Usable id callsign) :=
  inferInstanceAs (Decidable (0 < id ∧ normalizeCallsignKey callsign ≠ []))

/-- The tables take the row, and it is one of those that are looked for. -/
def takes (p : AliasRow → Bool) (row : AliasRow) : Bool := decide (Usable row.1 row.2) && p row

/-- The callsign of the last row with an id. -/
def lastKey (rows : List AliasRow) (id : Int) : Option (List UInt8) :=
  (rows.reverse.find? (takes fun row => row.1 == id)).map AliasRow.key

/-- The id of the last row with a callsign. -/
def lastId (rows : List AliasRow) (key : List UInt8) : Option Int :=
  (rows.reverse.find? (takes fun row => AliasRow.key row == key)).map Prod.fst

/-- The id of the first row with a callsign. -/
def firstId (rows : List AliasRow) (key : List UInt8) : Option Int :=
  (rows.find? (takes fun row => AliasRow.key row == key)).map Prod.fst

/-- What a callsign is to be looked up as: the last row of the overlay, else the first main row. -/
def idFor (main overlay : List AliasRow) (key : List UInt8) : Option Int :=
  (lastId overlay key).or (firstId main key)

/-- What an id is to be looked up as: the last row, those of the overlay after the others. -/
def callsignFor (main overlay : List AliasRow) (id : Int) : Option (List UInt8) :=
  (lastKey (main ++ overlay) id).map pad10

/-- The tables are built, and every lookup finds what it is to find. -/
def LooksUp (main overlay : List AliasRow) : Prop :=
  ∃ t, tableOf main overlay = some t ∧
    (∀ callsign, t.lookupId callsign =
      (idFor main overlay (normalizeCallsignKey callsign)).getD 0) ∧
    ∀ id, t.lookupCallsign id = callsignFor main overlay id

/-- The capacity of the tables and the ids and callsigns that have been put into them. -/
structure Load where
  cap : Nat
  ids : List Int
  keys : List (List UInt8)

namespace Load

def start : Load := ⟨0, [], []⟩

/-- The capacity with which a row is put. -/
def grow (l : Load) : Nat :=
  if l.cap = 0 then aliasMinCap
  else if (l.ids.length + 1) * 10 < l.cap * 7 then l.cap
  else nextPow2 (l.cap + 1)

def add (l : Load) (row : AliasRow) : Load :=
  if Usable row.1 row.2 then ⟨l.grow, l.ids.insert row.1, l.keys.insert row.key⟩ else l

/-- There is never a row with a new callsign when the slots are all taken. -/
def Fits : Load → List AliasRow → Prop
  | _, [] => True
  | l, row :: rows => (l.add row).keys.length ≤ (l.add row).cap ∧ Fits (l.add row) rows

end Load

/-- The callsign of an id after a row. -/
def putIds (ids : Int → Option (List UInt8)) (row : AliasRow) : Int → Option (List UInt8) :=
  if Usable row.1 row.2 then Function.update ids row.1 (some row.key) else ids

/-- The id of a callsign after a row. -/
def putKeys (prefer : Bool) (keys : List UInt8 → Option Int) (row : AliasRow) :
    List UInt8 → Option Int :=
  if Usable row.1 row.2 ∧ (prefer = true ∨ keys row.key = none) then
    Function.update keys row.key (some row.1)
  else keys

/-- A slot holds the whole callsign of every row that the tables take. -/
def KeysFit (rows : List AliasRow) : Prop :=
  ∀ row ∈ rows, Usable row.1 row.2 → (AliasRow.key row).length ≤ 10

section
variable {rows : List AliasRow} {row : AliasRow} {id : Int} {key : List UInt8}

theorem takes_iff {p : AliasRow → Bool} : takes p row = true ↔ Usable row.1 row.2 ∧ p row = true := by
  rw [takes, Bool.and_eq_true, decide_eq_true_eq]

theorem takes_refused {p : AliasRow → Bool} (h : ¬Usable row.1 row.2) : takes p row = false := by
  rw [takes, decide_eq_false h]
  rfl

theorem takes_usable {p : AliasRow → Bool} (h : Usable row.1 row.2) : takes p row = p row := by
  rw [takes, decide_eq_true h]
  rfl

theorem lastKey_append_refused (h : ¬Usable row.1 row.2) :
    lastKey (rows ++ [row]) = lastKey rows := by
  funext id
  rw [lastKey, List.reverse_append, List.reverse_singleton, List.singleton_append,
    List.find?_cons, takes_refused h]
  rfl

theorem lastKey_append (h : Usable row.1 row.2) :
    lastKey (rows ++ [row]) = Function.update (lastKey rows) row.1 (some row.key) := by
  funext id
  rw [lastKey, List.reverse_append, List.reverse_singleton, List.singleton_append,
    List.find?_cons, takes_usable h]
  by_cases hid : id = row.1
  · rw [hid, Function.update_self, beq_self_eq_true]
    rfl
  · rw [Function.update_of_ne hid, beq_eq_false_iff_ne.2 (Ne.symm hid)]
    rfl

theorem lastId_append_refused (h : ¬Usable row.1 row.2) :
    lastId (rows ++ [row]) = lastId rows := by
  funext key
  rw [lastId, List.reverse_append, List.reverse_singleton, List.singleton_append,
    List.find?_cons, takes_refused h]
  rfl

theorem lastId_append (h : Usable row.1 row.2) :
    lastId (rows ++ [row]) = Function.update (lastId rows) row.key (some row.1) := by
  funext key
  rw [lastId, List.reverse_append, List.reverse_singleton, List.singleton_append,
    List.find?_cons, takes_usable h]
  by_cases hkey : key = row.key
  · rw [hkey, Function.update_self, beq_self_eq_true]
    rfl
  · rw [Function.update_of_ne hkey, beq_eq_false_iff_ne.2 (Ne.symm hkey)]
    rfl

theorem firstId_append_refused (h : ¬Usable row.1 row.2) :
    firstId (rows ++ [row]) = firstId rows := by
  funext key
  rw [firstId, List.find?_append, List.find?_singleton, takes_refused h]
  simp only [Bool.false_eq_true, if_false, Option.or_none]
  rfl

theorem firstId_append (h : Usable row.1 row.2) : firstId (rows ++ [row]) =
    if firstId rows row.key = none then Function.update (firstId rows) row.key (some row.1)
    else firstId rows := by
  funext key
  rw [firstId, List.find?_append, List.find?_singleton, takes_usable h, Option.map_or]
  change (firstId rows key).or _ = _
  by_cases hkey : key = row.key
  · rw [hkey, beq_self_eq_true, if_pos rfl]
    cases hf : firstId rows row.key with
    | none =>
      rw [if_pos rfl, Function.update_self]
      rfl
    | some i =>
      rw [if_neg (Option.some_ne_none i), hf]
      rfl
  · rw [beq_eq_false_iff_ne.2 (Ne.symm hkey), if_neg Bool.false_ne_true, Option.map_none,
      Option.or_none]
    split
    next => rw [Function.update_of_ne hkey]
    next => rfl

end

/-- The tables hold these callsigns for the ids and these ids for the callsigns. -/
structure Represents (t : AliasTab) (ids : Int → Option (List UInt8))
    (keys : List UInt8 → Option Int) : Prop where
  counts : t.CountsIds
  idSound : idSlots.Sound t.idTab
  keySound : csSlots.Sound t.csTab
  ids : idSlots.Maps IdSlot.callsign t.idTab ids
  keys : csSlots.Maps CsSlot.id t.csTab keys

namespace Represents

variable {t u : AliasTab} {ids : Int → Option (List UInt8)} {keys : List UInt8 → Option Int}
variable {id : Int} {key callsign : List UInt8} {prefer : Bool}

theorem empty : Represents .empty (fun _ => none) fun _ => none :=
  ⟨AliasTab.countsIds_empty, Slots.sound_replicate (n := 0) (x := ⟨0, []⟩) rfl,
    Slots.sound_replicate (n := 0) (x := ⟨[], 0⟩) rfl,
    Slots.maps_replicate (n := 0) (x := ⟨0, []⟩) rfl,
    Slots.maps_replicate (n := 0) (x := ⟨[], 0⟩) rfl⟩

theorem rehash {newCap : Nat} (h : Represents t ids keys) (hu : t.rehash newCap = some u)
    (hcap : t.count < newCap) : Represents u ids keys := by
  have hocc := AliasTab.occupied_rehash hu
  obtain ⟨nid, ncs, hnid, hncs, rfl⟩ := AliasTab.rehash_eq_some.1 hu
  obtain ⟨hids, hidh⟩ := h.idSound.rehash rfl hnid
  obtain ⟨hkeys, hkeyh⟩ := h.keySound.rehash rfl hncs
  exact ⟨⟨hocc.2.2.1.trans h.counts.count, .inr hcap⟩, hids, hkeys, h.ids.of_holds hidh,
    h.keys.of_holds hkeyh⟩

theorem ensureCap (h : Represents t ids keys) : ∃ u, t.ensureCap = some u ∧ t.Grown u ∧
    Represents u ids keys := by
  obtain ⟨u, hu, hg⟩ := h.counts.ensureCap
  refine ⟨u, hu, hg, ?_⟩
  rcases AliasTab.ensureCap_cases (a := t) with ⟨_, newCap, hcap, hmin, heq⟩ | ⟨_, _, heq⟩
  · have hroom : t.count < newCap := by
      have hmin' : 1024 ≤ newCap := hmin
      rcases h.counts.free with hf | hf
      · have hc := h.counts.count
        have hle : idSlots.occupied t.idTab ≤ t.cap := Vector.countP_le_size
        omega
      · omega
    exact h.rehash (heq.symm.trans hu) hroom
  · obtain rfl := Option.some.inj (heq.symm.trans hu)
    exact h

theorem hasKey_iff (h : Represents t ids keys) (hkey : key ≠ []) :
    csSlots.HasKey t.csTab key ↔ (keys key).isSome = true := by
  refine h.keys.hasKey_iff fun id => ⟨⟨key, id⟩, ?_, rfl, rfl⟩
  cases key with
  | nil => exact (hkey rfl).elim
  | cons c cs => rfl

theorem hasId_iff (h : Represents t ids keys) (hid : id ≠ 0) :
    idSlots.HasKey t.idTab id ↔ (ids id).isSome = true :=
  h.ids.hasKey_iff fun key => ⟨⟨id, key⟩, beq_eq_false_iff_ne.2 hid, rfl, rfl⟩

/-- A callsign is found in the tables if it is there. -/
theorem stores_iff (h : Represents t ids keys) (hkey : key ≠ []) :
    t.stores key = true ↔ (keys key).isSome = true := by
  rw [← h.hasKey_iff hkey, AliasTab.stores]
  cases hs : csSlots.slotFor t.csTab key with
  | none =>
    constructor
    · intro hf
      cases hf
    · intro hk
      have hsome := Slots.slotFor_isSome_iff.2 (.inl hk)
      rw [hs] at hsome
      cases hsome
  | some j =>
    have hiff := h.keySound.slotFor_empty_iff hs
    rw [Option.any_some]
    cases he : csSlots.isEmpty (t.csTab.get j) with
    | true => exact ⟨fun hf => (by cases hf), fun hk => (hiff.1 he hk).elim⟩
    | false =>
      refine ⟨fun _ => ?_, fun _ => rfl⟩
      by_contra hno
      rw [hiff.2 hno] at he
      cases he

/-- A row's id and callsign, put in a table with room for them. -/
theorem putId (key : List UInt8) (h : Represents t ids keys) (hroom : t.count + 1 < t.cap) (hid : 0 < id) :
    ∃ v n, t.putId id key = some ⟨t.cap, v, t.csTab, n⟩ ∧
      Represents ⟨t.cap, v, t.csTab, n⟩ (Function.update ids id (some (stored key))) keys ∧
        n = if (ids id).isSome then t.count else t.count + 1 := by
  have hx := AliasTab.idSlot_not_empty key hid
  have hcount := h.counts.count
  have hsome : (idSlots.slotFor t.idTab id).isSome = true :=
    Slots.slotFor_isSome_iff.2 (.inr (by omega))
  obtain ⟨i, hi⟩ := Option.isSome_iff_exists.1 hsome
  have hiff := (h.idSound.slotFor_empty_iff hi).trans (not_congr (h.hasId_iff (by omega)))
  have hn : (if (t.idTab.get i).isEmpty then t.count + 1 else t.count) =
      if (ids id).isSome then t.count else t.count + 1 := by
    cases hs : (ids id).isSome with
    | true =>
      have he : ¬(t.idTab.get i).isEmpty = true := fun he => hiff.1 he hs
      rw [if_neg he, if_pos rfl]
    | false =>
      have he : (t.idTab.get i).isEmpty = true := hiff.2 (by rw [hs]; exact Bool.false_ne_true)
      rw [if_pos he, if_neg Bool.false_ne_true]
  have hocc : idSlots.occupied (t.idTab.set i ⟨id, stored key⟩ i.isLt) =
      if (t.idTab.get i).isEmpty then t.count + 1 else t.count := by
    cases he : (t.idTab.get i).isEmpty with
    | true => rw [Slots.occupied_set_empty he hx, hcount, if_pos rfl]
    | false => rw [Slots.occupied_set he hx, hcount, if_neg Bool.false_ne_true]
  refine ⟨_, _, AliasTab.putId_eq_some.2 ⟨i, hi, rfl⟩, ⟨⟨hocc, .inr ?_⟩, ?_, h.keySound, ?_,
    h.keys⟩, hn⟩
  · change (if (t.idTab.get i).isEmpty then t.count + 1 else t.count) < t.cap
    split <;> omega
  · exact h.idSound.set hi hx rfl
  · refine h.ids.set h.idSound hi hx ?_
    rintro ⟨i, cs⟩ hk hv
    cases hk
    cases hv
    rfl

theorem putCs (h : Represents t ids keys) (h0 : t.cap ≠ 0) (hkey : key ≠ [])
    (hlen : key.length ≤ 10) (hu : t.putCs id key prefer = some u) :
    Represents u ids (if prefer = true ∨ keys key = none then
      Function.update keys key (some id) else keys) ∧ u.cap = t.cap ∧ u.count = t.count := by
  have hst : stored key = key := List.take_of_length_le hlen
  obtain ⟨j, hj, rfl⟩ := (AliasTab.putCs_eq_some h0).1 hu
  have hiff := (h.keySound.slotFor_empty_iff hj).trans (not_congr (h.hasKey_iff hkey))
  rw [hst]
  cases he : (t.csTab.get j).isEmpty with
  | true =>
    have hnone : keys key = none := by
      cases hk : keys key with
      | none => rfl
      | some v => exact (hiff.1 he (by rw [hk]; rfl)).elim
    have hx : csSlots.isEmpty ⟨key, id⟩ = false := hst ▸ AliasTab.csSlot_not_empty hkey
    rw [if_pos rfl, if_pos (.inr hnone)]
    refine ⟨⟨⟨h.counts.count, h.counts.free⟩, h.idSound, h.keySound.set hj hx rfl, h.ids, ?_⟩,
      rfl, rfl⟩
    refine h.keys.set h.keySound hj hx ?_
    rintro ⟨cs, i⟩ hk hv
    cases hk
    cases hv
    rfl
  | false =>
    have hk : (t.csTab.get j).callsign = key := Slots.slotFor_key hj he
    have hsome : keys key ≠ none := by
      rw [h.keys.value hj he]
      exact Option.some_ne_none _
    rw [if_neg Bool.false_ne_true]
    cases prefer with
    | false =>
      have hno : ¬(false = true ∨ keys key = none) := by
        rintro (hp | hn)
        · cases hp
        · exact hsome hn
      rw [if_neg hno, if_neg Bool.false_ne_true]
      exact ⟨h, rfl, rfl⟩
    | true =>
      rw [if_pos rfl, if_pos (.inl rfl)]
      subst hk
      have hx : csSlots.isEmpty ⟨(t.csTab.get j).callsign, id⟩ = false := he
      refine ⟨⟨⟨h.counts.count, h.counts.free⟩, h.idSound, h.keySound.set hj hx rfl, h.ids, ?_⟩,
        rfl, rfl⟩
      have hj' : csSlots.slotFor t.csTab (csSlots.key ⟨(t.csTab.get j).callsign, id⟩) = some j := hj
      refine h.keys.set h.keySound hj' hx ?_
      rintro ⟨cs, i⟩ hk hv
      cases hk
      cases hv
      rfl

end Represents

/-- The tables hold as many entries as the load says. -/
structure Loaded (t : AliasTab) (l : Load) (ids : Int → Option (List UInt8))
    (keys : List UInt8 → Option Int) : Prop where
  cap : t.cap = l.cap
  count : t.count = l.ids.length
  occupied : csSlots.occupied t.csTab = l.keys.length
  ids : ∀ id, id ∈ l.ids ↔ (ids id).isSome = true
  keys : ∀ key, key ∈ l.keys ↔ (keys key).isSome = true

theorem loaded_empty : Loaded .empty .start (fun _ => none) fun _ => none :=
  ⟨rfl, rfl, rfl, fun _ => ⟨fun h => (nomatch h), fun h => (nomatch h)⟩,
    fun _ => ⟨fun h => (nomatch h), fun h => (nomatch h)⟩⟩

theorem AliasTab.ensureCap_cap {t u : AliasTab} (h : t.ensureCap = some u) :
    u.cap = if t.cap = 0 then aliasMinCap
      else if (t.count + 1) * 10 < t.cap * 7 then t.cap else nextPow2 (t.cap + 1) := by
  rw [AliasTab.ensureCap] at h
  split at h
  next h0 =>
    rw [if_pos h0]
    exact (AliasTab.occupied_rehash h).1
  next h0 =>
    rw [if_neg h0]
    split at h
    next hload =>
      rw [if_pos hload]
      cases h
      rfl
    next hload =>
      rw [if_neg hload]
      exact (AliasTab.occupied_rehash h).1

theorem isSome_update [DecidableEq κ] (m : κ → Option β) (k : κ) (v : β) (k' : κ) :
    (Function.update m k (some v) k').isSome = true ↔ k' = k ∨ (m k').isSome = true := by
  by_cases hk : k' = k
  · rw [hk, Function.update_self]
    exact ⟨fun _ => .inl rfl, fun _ => rfl⟩
  · rw [Function.update_of_ne hk]
    exact ⟨.inr, fun h => h.resolve_left hk⟩

theorem isSome_putKeys {prefer : Bool} {keys : List UInt8 → Option Int} {row : AliasRow}
    (h : Usable row.1 row.2) (key : List UInt8) : (putKeys prefer keys row key).isSome = true ↔
      key = row.key ∨ (keys key).isSome = true := by
  rw [putKeys]
  by_cases hput : prefer = true ∨ keys row.key = none
  · rw [if_pos ⟨h, hput⟩]
    exact isSome_update keys row.key row.1 key
  · rw [if_neg fun hp => hput hp.2]
    refine ⟨.inr, ?_⟩
    rintro (rfl | hk)
    · cases hk : keys row.key with
      | none => exact (hput (.inr hk)).elim
      | some v => rfl
    · exact hk

section
variable {t u : AliasTab} {l : Load} {ids : Int → Option (List UInt8)}
variable {keys : List UInt8 → Option Int} {row : AliasRow} {rows : List AliasRow} {prefer : Bool}

/-- A row whose callsign fits is put just if there is a slot for it. -/
theorem Represents.put (prefer : Bool) (h : Represents t ids keys) (hl : Loaded t l ids keys)
    (hfit : Usable row.1 row.2 → (AliasRow.key row).length ≤ 10) :
    ((l.add row).keys.length ≤ (l.add row).cap ↔
        ∃ u, AliasTab.putAlias prefer t row.1 row.2 = some u) ∧
      ∀ u, AliasTab.putAlias prefer t row.1 row.2 = some u →
        Represents u (putIds ids row) (putKeys prefer keys row) ∧
          Loaded u (l.add row) (putIds ids row) (putKeys prefer keys row) := by
  by_cases hrow : Usable row.1 row.2
  · have hlen := hfit hrow
    have hst : stored row.key = row.key := List.take_of_length_le hlen
    obtain ⟨g, hg, hgrown, hrep⟩ := h.ensureCap
    have hroom := hgrown.room
    obtain ⟨v, n, hv, hrep', hn⟩ := hrep.putId row.key hroom hrow.1
    rw [hst] at hrep'
    have h0 : g.cap ≠ 0 := by omega
    have heq : AliasTab.putAlias prefer t row.1 row.2 =
        AliasTab.putCs ⟨g.cap, v, g.csTab, n⟩ row.1 row.key prefer := by
      rw [AliasTab.putAlias_usable hrow, hg, Option.bind_eq_bind, Option.bind_some]
      change (g.putId row.1 row.key >>= _) = _
      rw [hv]
      rfl
    have hadd : l.add row = ⟨l.grow, l.ids.insert row.1, l.keys.insert row.key⟩ := if_pos hrow
    have hcap : g.cap = l.grow := by
      rw [AliasTab.ensureCap_cap hg, Load.grow, hl.cap, hl.count]
    have hstores : AliasTab.stores ⟨g.cap, v, g.csTab, n⟩ row.key = true ↔ row.key ∈ l.keys :=
      (hrep'.stores_iff hrow.2).trans (hl.keys row.key).symm
    have hocc : csSlots.occupied g.csTab = l.keys.length := hgrown.keys.trans hl.occupied
    have hids : putIds ids row = Function.update ids row.1 (some row.key) := if_pos hrow
    have hkeys : putKeys prefer keys row = if prefer = true ∨ keys row.key = none then
        Function.update keys row.key (some row.1) else keys := by
      rw [putKeys]
      simp only [hrow, true_and]
    have hoccu (u : AliasTab) (hu : AliasTab.putCs ⟨g.cap, v, g.csTab, n⟩ row.1 row.key prefer =
        some u) : csSlots.occupied u.csTab = (l.keys.insert row.key).length ∧ u.cap = g.cap := by
      obtain ⟨w, rfl, hw⟩ := AliasTab.putCs_occupied (a := ⟨g.cap, v, g.csTab, n⟩) h0 hrow.2 hu
      refine ⟨?_, rfl⟩
      change csSlots.occupied w = _
      rw [List.length_insert]
      by_cases hmem : row.key ∈ l.keys
      · rw [if_pos hmem]
        exact (hw.trans (if_pos (hstores.2 hmem))).trans hocc
      · rw [if_neg hmem]
        exact (hw.trans (if_neg fun hs => hmem (hstores.1 hs))).trans (congrArg (· + 1) hocc)
    rw [heq, hadd]
    change ((l.keys.insert row.key).length ≤ l.grow ↔ _) ∧ _
    constructor
    · rw [List.length_insert]
      constructor
      · intro hle
        refine AliasTab.putCs_isSome h0 ?_
        by_cases hmem : row.key ∈ l.keys
        · exact .inl (hstores.2 hmem)
        · rw [if_neg hmem] at hle
          refine .inr ?_
          change csSlots.occupied g.csTab < g.cap
          omega
      · rintro ⟨u, hu⟩
        obtain ⟨hw, hucap⟩ := hoccu u hu
        have hle : csSlots.occupied u.csTab ≤ u.cap := Vector.countP_le_size
        rw [← List.length_insert, ← hw, ← hcap, ← hucap]
        exact hle
    · intro u hu
      obtain ⟨hrepu, hucap, hucount⟩ := hrep'.putCs h0 hrow.2 hlen hu
      rw [hids, hkeys]
      refine ⟨hrepu, hucap.trans hcap, ?_, ?_, ?_, ?_⟩
      · rw [hucount, List.length_insert]
        change n = _
        rw [hn, hgrown.count, hl.count]
        by_cases hmem : row.1 ∈ l.ids
        · rw [if_pos hmem, if_pos ((hl.ids row.1).1 hmem), Nat.add_zero]
        · rw [if_neg hmem, if_neg fun hs => hmem ((hl.ids row.1).2 hs)]
      · exact (hoccu u hu).1
      · intro id
        rw [isSome_update, List.mem_insert_iff, hl.ids]
      · intro key
        rw [← hkeys, isSome_putKeys hrow, List.mem_insert_iff, hl.keys]
  · have hids : putIds ids row = ids := if_neg hrow
    have hkeys : putKeys prefer keys row = keys := if_neg fun hp => hrow hp.1
    have hadd : l.add row = l := if_neg hrow
    rw [AliasTab.putAlias_refused hrow, hids, hkeys, hadd]
    refine ⟨⟨fun _ => ⟨t, rfl⟩, fun _ => ?_⟩, ?_⟩
    · have hle : csSlots.occupied t.csTab ≤ t.cap := Vector.countP_le_size
      rw [← hl.occupied, ← hl.cap]
      exact hle
    · rintro u hu
      cases hu
      exact ⟨h, hl⟩

/-- Rows whose callsigns fit are put just if there are always slots for them. -/
theorem Represents.putRows (prefer : Bool) (h : Represents t ids keys) (hl : Loaded t l ids keys)
    (hfit : KeysFit rows) :
    (l.Fits rows ↔ ∃ u, t.putRows prefer rows = some u) ∧
      ∀ u, t.putRows prefer rows = some u →
        Represents u (rows.foldl putIds ids) (rows.foldl (putKeys prefer) keys) ∧
          Loaded u (rows.foldl Load.add l) (rows.foldl putIds ids)
            (rows.foldl (putKeys prefer) keys) := by
  induction rows generalizing t l ids keys with
  | nil =>
    refine ⟨⟨fun _ => ⟨t, rfl⟩, fun _ => trivial⟩, ?_⟩
    rintro u hu
    cases hu
    exact ⟨h, hl⟩
  | cons row rows ih =>
    obtain ⟨hiff, hput⟩ := h.put prefer hl (hfit row List.mem_cons_self)
    have hfit' : KeysFit rows := fun r hr => hfit r (List.mem_cons_of_mem _ hr)
    rw [AliasTab.putRows_cons]
    constructor
    · rw [Load.Fits, hiff]
      constructor
      · rintro ⟨⟨u, hu⟩, hrest⟩
        obtain ⟨hrep, hload⟩ := hput u hu
        rw [hu]
        exact (ih hrep hload hfit').1.1 hrest
      · rintro ⟨w, hw⟩
        obtain ⟨u, hu, hw⟩ := Option.bind_eq_some_iff.1 hw
        obtain ⟨hrep, hload⟩ := hput u hu
        exact ⟨⟨u, hu⟩, (ih hrep hload hfit').1.2 ⟨w, hw⟩⟩
    · intro w hw
      obtain ⟨u, hu, hw⟩ := Option.bind_eq_some_iff.1 hw
      obtain ⟨hrep, hload⟩ := hput u hu
      exact (ih hrep hload hfit').2 w hw

end

section
variable {main overlay done rows : List AliasRow} {row : AliasRow} {t : AliasTab}

theorem foldl_putIds (done rows : List AliasRow) :
    rows.foldl putIds (lastKey done) = lastKey (done ++ rows) := by
  induction rows generalizing done with
  | nil => rw [List.append_nil, List.foldl_nil]
  | cons row rows ih =>
    have hstep : putIds (lastKey done) row = lastKey (done ++ [row]) := by
      rw [putIds]
      split
      next hrow => exact (lastKey_append hrow).symm
      next hrow => exact (lastKey_append_refused hrow).symm
    rw [List.foldl_cons, hstep, ih, List.append_assoc, List.singleton_append]

theorem foldl_putKeys_main (done rows : List AliasRow) :
    rows.foldl (putKeys false) (firstId done) = firstId (done ++ rows) := by
  induction rows generalizing done with
  | nil => rw [List.append_nil, List.foldl_nil]
  | cons row rows ih =>
    have hstep : putKeys false (firstId done) row = firstId (done ++ [row]) := by
      rw [putKeys]
      by_cases hrow : Usable row.1 row.2
      · rw [firstId_append hrow]
        simp only [hrow, Bool.false_eq_true, false_or, true_and]
      · rw [firstId_append_refused hrow, if_neg fun hp => hrow hp.1]
    rw [List.foldl_cons, hstep, ih, List.append_assoc, List.singleton_append]

theorem foldl_putKeys_overlay (main done rows : List AliasRow) :
    rows.foldl (putKeys true) (idFor main done) = idFor main (done ++ rows) := by
  induction rows generalizing done with
  | nil => rw [List.append_nil, List.foldl_nil]
  | cons row rows ih =>
    have hstep : putKeys true (idFor main done) row = idFor main (done ++ [row]) := by
      rw [putKeys]
      funext key
      by_cases hrow : Usable row.1 row.2
      · rw [if_pos ⟨hrow, .inl rfl⟩]
        change _ = (lastId (done ++ [row]) key).or _
        rw [lastId_append hrow]
        by_cases hkey : key = row.key
        · rw [hkey, Function.update_self, Function.update_self]
          rfl
        · rw [Function.update_of_ne hkey, Function.update_of_ne hkey]
          rfl
      · rw [if_neg fun hp => hrow hp.1]
        change _ = (lastId (done ++ [row]) key).or _
        rw [lastId_append_refused hrow]
        rfl
    rw [List.foldl_cons, hstep, ih, List.append_assoc, List.singleton_append]

theorem Load.fits_append (l : Load) (rows rest : List AliasRow) :
    l.Fits (rows ++ rest) ↔ l.Fits rows ∧ (rows.foldl Load.add l).Fits rest := by
  induction rows generalizing l with
  | nil => exact (and_iff_right trivial).symm
  | cons row rows ih => rw [List.cons_append, Load.Fits, ih, Load.Fits, and_assoc, List.foldl_cons]

/-- The tables of rows whose callsigns fit hold what is to be found. -/
theorem tableOf_represents (hfit : KeysFit (main ++ overlay)) :
    (Load.start.Fits (main ++ overlay) ↔ ∃ t, tableOf main overlay = some t) ∧
      ∀ t, tableOf main overlay = some t →
        Represents t (lastKey (main ++ overlay)) (idFor main overlay) := by
  have hmain : KeysFit main := fun r hr => hfit r (List.mem_append_left _ hr)
  have hover : KeysFit overlay := fun r hr => hfit r (List.mem_append_right _ hr)
  obtain ⟨hiff, hput⟩ := Represents.empty.putRows false loaded_empty hmain
  have hids := foldl_putIds [] main
  have hkeys := foldl_putKeys_main [] main
  have hover' := foldl_putKeys_overlay main [] overlay
  have hstart : idFor main [] = firstId main := rfl
  rw [hstart] at hover'
  rw [List.nil_append] at hids hkeys hover'
  have hids' := foldl_putIds main overlay
  have hsplit : tableOf main overlay = (AliasTab.empty.putRows false main).bind fun t =>
    t.putRows true overlay := rfl
  rw [hsplit, Load.fits_append, hiff]
  constructor
  · constructor
    · rintro ⟨⟨u, hu⟩, hrest⟩
      obtain ⟨hrep, hload⟩ := hput u hu
      rw [hu]
      exact (hrep.putRows true hload hover).1.1 hrest
    · rintro ⟨w, hw⟩
      obtain ⟨u, hu, hw⟩ := Option.bind_eq_some_iff.1 hw
      obtain ⟨hrep, hload⟩ := hput u hu
      exact ⟨⟨u, hu⟩, (hrep.putRows true hload hover).1.2 ⟨w, hw⟩⟩
  · intro w hw
    obtain ⟨u, hu, hw⟩ := Option.bind_eq_some_iff.1 hw
    obtain ⟨hrep, hload⟩ := hput u hu
    have hw' := ((hrep.putRows true hload hover).2 w hw).1
    rwa [show (fun _ => none) = lastKey [] from rfl, show (fun _ => none) = firstId [] from rfl,
      hids, hkeys, hids', hover'] at hw'

end

/-- A normalised callsign is in capitals. -/
theorem map_toUpper_key (row : AliasRow) : row.key.map toUpper = row.key := by
  refine (List.map_congr_left fun c hc => ?_).trans (List.map_id _)
  rw [AliasRow.key, normalizeCallsignKey, List.mem_reverse] at hc
  have hmem := List.mem_reverse.1 ((List.dropWhile_sublist _).subset hc)
  obtain ⟨b, _, rfl⟩ := List.mem_map.1 hmem
  exact toUpper_toUpper b

theorem seek_callsign (t : Vector CsSlot n) (key : List UInt8) :
    Probe.seek (fun s => s.isEmpty || s.callsign == key) t (hashStr key).toNat =
      csSlots.slotFor t key :=
  rfl

theorem seek_id (t : Vector IdSlot n) (id : Int) :
    Probe.seek (fun s => s.isEmpty || s.id == id) t (hashId id).toNat = idSlots.slotFor t id :=
  rfl

section
variable {t : AliasTab} {ids : Int → Option (List UInt8)} {keys : List UInt8 → Option Int}

theorem Represents.lookupId (h : Represents t ids keys) {callsign : List UInt8}
    (hkey : normalizeCallsignKey callsign ≠ []) :
    t.lookupId callsign = (keys (normalizeCallsignKey callsign)).getD 0 := by
  have hiff := h.hasKey_iff hkey
  rw [AliasTab.lookupId]
  by_cases h0 : t.cap = 0
  · simp only [if_pos (Or.inl h0 : t.cap = 0 ∨ normalizeCallsignKey callsign = [])]
    cases hk : keys (normalizeCallsignKey callsign) with
    | none => rfl
    | some id =>
      rw [hk] at hiff
      obtain ⟨_, ⟨_, j, _⟩, _⟩ := hiff.2 rfl
      have hlt := j.isLt
      omega
  · have hno : ¬(t.cap = 0 ∨ normalizeCallsignKey callsign = []) := not_or.2 ⟨h0, hkey⟩
    simp only [if_neg hno]
    rw [seek_callsign]
    cases hs : csSlots.slotFor t.csTab (normalizeCallsignKey callsign) with
    | none =>
      cases hk : keys (normalizeCallsignKey callsign) with
      | none => rfl
      | some id =>
        rw [hk] at hiff
        have hsome := Slots.slotFor_isSome_iff.2 (.inl (hiff.2 rfl))
        rw [hs] at hsome
        cases hsome
    | some j =>
      have hempty := (h.keySound.slotFor_empty_iff hs).trans (not_congr hiff)
      simp only
      cases he : (t.csTab.get j).isEmpty with
      | true =>
        cases hk : keys (normalizeCallsignKey callsign) with
        | none => rfl
        | some id =>
          rw [hk] at hempty
          exact (hempty.1 he rfl).elim
      | false =>
        rw [h.keys.value hs he]
        rfl

theorem Represents.lookupCallsign (h : Represents t ids keys) {id : Int} (hid : 0 < id) :
    t.lookupCallsign id = (ids id).map fun v => pad10 (v.map toUpper) := by
  have h0 : id ≠ 0 := by omega
  have hiff := h.hasId_iff h0
  rw [AliasTab.lookupCallsign]
  by_cases h0 : t.cap = 0
  · rw [if_pos (.inl h0)]
    cases hk : ids id with
    | none => rfl
    | some v =>
      rw [hk] at hiff
      obtain ⟨_, ⟨_, j, _⟩, _⟩ := hiff.2 rfl
      have hlt := j.isLt
      omega
  · have hno : ¬(t.cap = 0 ∨ id ≤ 0) := by omega
    rw [if_neg hno]
    rw [seek_id]
    cases hs : idSlots.slotFor t.idTab id with
    | none =>
      cases hk : ids id with
      | none => rfl
      | some v =>
        rw [hk] at hiff
        have hsome := Slots.slotFor_isSome_iff.2 (.inl (hiff.2 rfl))
        rw [hs] at hsome
        cases hsome
    | some j =>
      have hempty := (h.idSound.slotFor_empty_iff hs).trans (not_congr hiff)
      simp only
      cases he : (t.idTab.get j).isEmpty with
      | true =>
        cases hk : ids id with
        | none => rfl
        | some v =>
          rw [hk] at hempty
          exact (hempty.1 he rfl).elim
      | false =>
        rw [h.ids.value hs he]
        rfl

end

section
variable {main overlay rows : List AliasRow} {row : AliasRow} {id : Int} {key : List UInt8}

theorem lastKey_eq_some {v : List UInt8} (h : lastKey rows id = some v) :
    ∃ row : AliasRow, Usable row.1 row.2 ∧ row.1 = id ∧ row.key = v := by
  obtain ⟨row, hrow, rfl⟩ := Option.map_eq_some_iff.1 h
  obtain ⟨husable, hid⟩ := takes_iff.1 (List.find?_some hrow)
  exact ⟨row, husable, beq_iff_eq.1 hid, rfl⟩

theorem find_key {l : List AliasRow} (h : (l.find? (takes fun row => row.key == key)).map Prod.fst =
    some id) : 0 < id ∧ key ≠ [] := by
  obtain ⟨row, hrow, rfl⟩ := Option.map_eq_some_iff.1 h
  obtain ⟨husable, hkey⟩ := takes_iff.1 (List.find?_some hrow)
  exact ⟨husable.1, beq_iff_eq.1 hkey ▸ husable.2⟩

theorem idFor_eq_some (h : idFor main overlay key = some id) : 0 < id ∧ key ≠ [] := by
  rcases Option.or_eq_some_iff.1 h with h | ⟨_, h⟩
  · exact find_key h
  · exact find_key h

/-- The callsign of a row that the tables take is to be found. -/
theorem idFor_isSome (hrow : row ∈ main ++ overlay) (husable : Usable row.1 row.2) :
    ∃ id, idFor main overlay row.key = some id := by
  have htakes : takes (fun r => r.key == row.key) row = true :=
    takes_iff.2 ⟨husable, beq_self_eq_true _⟩
  have hfind (l : List AliasRow) (hl : row ∈ l) :
      ∃ id, (l.find? (takes fun r => r.key == row.key)).map Prod.fst = some id := by
    obtain ⟨r, hr⟩ := Option.isSome_iff_exists.1 (List.find?_isSome.2 ⟨row, hl, htakes⟩)
    exact ⟨r.1, by rw [hr]; rfl⟩
  rcases List.mem_append.1 hrow with hmem | hmem
  · obtain ⟨id, hid⟩ := hfind main hmem
    rw [idFor, firstId, hid]
    cases lastId overlay row.key with
    | none => exact ⟨id, rfl⟩
    | some i => exact ⟨i, rfl⟩
  · obtain ⟨id, hid⟩ := hfind overlay.reverse (List.mem_reverse.2 hmem)
    rw [idFor, lastId, hid]
    exact ⟨id, rfl⟩

end

namespace AliasTab

/-- The slots keep ten characters of a callsign. -/
def Short (t : AliasTab) : Prop :=
  ∀ s, csSlots.Holds t.csTab s → s.callsign.length ≤ 10

variable {t u : AliasTab}

theorem short_empty : empty.Short := by
  rintro s ⟨_, j, _⟩
  exact j.elim0

theorem Short.rehash {newCap : Nat} (h : t.Short) (hu : t.rehash newCap = some u) : u.Short := by
  obtain ⟨nid, ncs, _, hncs, rfl⟩ := rehash_eq_some.1 hu
  intro s hs
  rcases Slots.holds_foldlM_place hncs hs with hs | hs
  · exact (Slots.not_holds_replicate rfl hs).elim
  · exact h s ((Slots.mem_entries_toList _).1 hs)

theorem Short.ensureCap (h : t.Short) (hu : t.ensureCap = some u) : u.Short := by
  rcases ensureCap_cases (a := t) with ⟨_, _, _, _, heq⟩ | ⟨_, _, heq⟩
  · exact h.rehash (heq.symm.trans hu)
  · cases heq.symm.trans hu
    exact h

theorem Short.putCs {id : Int} {key : List UInt8} {prefer : Bool} (h : t.Short) (hkey : key ≠ [])
    (hu : t.putCs id key prefer = some u) : u.Short := by
  by_cases h0 : t.cap = 0
  · have hsame : t.putCs id key prefer = some t := if_pos h0
    cases hsame.symm.trans hu
    exact h
  · obtain ⟨j, hj, rfl⟩ := (putCs_eq_some h0).1 hu
    cases he : (t.csTab.get j).isEmpty with
    | true =>
      rw [if_pos rfl]
      intro s hs
      rcases (Slots.holds_set (csSlot_not_empty hkey)).1 hs with rfl | ⟨hs, i, _, rfl⟩
      · exact List.length_take_le _ _
      · exact h _ ⟨hs, i, rfl⟩
    | false =>
      rw [if_neg Bool.false_ne_true]
      cases prefer with
      | false => exact h
      | true =>
        have hx : csSlots.isEmpty ⟨(t.csTab.get j).callsign, id⟩ = false := he
        intro s hs
        rcases (Slots.holds_set hx).1 hs with rfl | ⟨hs, i, _, rfl⟩
        · exact h (t.csTab.get j) (.of_get he)
        · exact h _ ⟨hs, i, rfl⟩

theorem Short.putAlias {id : Int} {callsign : List UInt8} {prefer : Bool} (h : t.Short)
    (hu : AliasTab.putAlias prefer t id callsign = some u) : u.Short := by
  by_cases hrow : Usable id callsign
  · rw [putAlias_usable hrow] at hu
    obtain ⟨g, hg, hu⟩ := Option.bind_eq_some_iff.1 hu
    obtain ⟨v, hv, hu⟩ := Option.bind_eq_some_iff.1 hu
    obtain ⟨i, _, hvi⟩ := putId_eq_some.1 hv
    have hgshort := h.ensureCap hg
    have hshort : v.Short := by
      rw [hvi]
      exact hgshort
    exact hshort.putCs hrow.2 hu
  · cases (putAlias_refused hrow).symm.trans hu
    exact h

theorem Short.putRows {rows : List AliasRow} {prefer : Bool} (h : t.Short)
    (hu : t.putRows prefer rows = some u) : u.Short := by
  induction rows generalizing t with
  | nil =>
    cases hu
    exact h
  | cons row rows ih =>
    obtain ⟨v, hv, hu⟩ := Option.bind_eq_some_iff.1 ((AliasTab.putRows_cons ..).symm.trans hu)
    exact ih (h.putAlias hv) hu

/-- A callsign that is longer than what the slots keep is never found. -/
theorem Short.lookupId (h : t.Short) {callsign : List UInt8}
    (hlen : 10 < (normalizeCallsignKey callsign).length) : t.lookupId callsign = 0 := by
  rw [AliasTab.lookupId]
  by_cases hno : t.cap = 0 ∨ normalizeCallsignKey callsign = []
  · simp only [if_pos hno]
  · simp only [if_neg hno]
    rw [seek_callsign]
    cases hs : csSlots.slotFor t.csTab (normalizeCallsignKey callsign) with
    | none => rfl
    | some j =>
      simp only
      cases he : (t.csTab.get j).isEmpty with
      | true => rfl
      | false =>
        have hle := h _ (.of_get he)
        rw [show (t.csTab.get j).callsign = _ from Slots.slotFor_key hs he] at hle
        omega

end AliasTab

section
variable {main overlay : List AliasRow}

theorem short_tableOf {t : AliasTab} (h : tableOf main overlay = some t) : t.Short := by
  obtain ⟨u, hu, h⟩ := Option.bind_eq_some_iff.1 h
  exact (AliasTab.short_empty.putRows hu).putRows h

/-- Lookups that find what they are to find need callsigns that fit in the slots. -/
theorem LooksUp.keysFit (h : LooksUp main overlay) : KeysFit (main ++ overlay) := by
  obtain ⟨t, ht, hid, _⟩ := h
  intro row hrow husable
  by_contra hlen
  obtain ⟨id, hfor⟩ := idFor_isSome hrow husable
  have hpos := (idFor_eq_some hfor).1
  have hlook := hid row.2
  rw [(short_tableOf ht).lookupId (Nat.lt_of_not_le hlen)] at hlook
  change 0 = (idFor main overlay row.key).getD 0 at hlook
  rw [hfor, Option.getD_some] at hlook
  omega

/-- The lookups find what they are to find just if every callsign fits in its slot, and there is
always a slot for a new one. -/
theorem looksUp_iff (main overlay : List AliasRow) : LooksUp main overlay ↔
    KeysFit (main ++ overlay) ∧ Load.start.Fits (main ++ overlay) := by
  constructor
  · intro h
    have hfit := h.keysFit
    obtain ⟨t, ht, _⟩ := h
    exact ⟨hfit, (tableOf_represents hfit).1.2 ⟨t, ht⟩⟩
  · rintro ⟨hfit, hload⟩
    obtain ⟨hiff, hrep⟩ := tableOf_represents hfit
    obtain ⟨t, ht⟩ := hiff.1 hload
    have h := hrep t ht
    refine ⟨t, ht, fun callsign => ?_, fun id => ?_⟩
    · by_cases hkey : normalizeCallsignKey callsign = []
      · have hnone : idFor main overlay [] = none := by
          cases hf : idFor main overlay [] with
          | none => rfl
          | some id => exact ((idFor_eq_some hf).2 rfl).elim
        rw [hkey, hnone]
        exact if_pos (.inr hkey)
      · exact h.lookupId hkey
    · by_cases hid : 0 < id
      · rw [h.lookupCallsign hid, callsignFor]
        cases hk : lastKey (main ++ overlay) id with
        | none => rfl
        | some v =>
          obtain ⟨row, _, _, rfl⟩ := lastKey_eq_some hk
          rw [Option.map_some, Option.map_some, map_toUpper_key]
      · have hnone : lastKey (main ++ overlay) id = none := by
          cases hk : lastKey (main ++ overlay) id with
          | none => rfl
          | some v =>
            obtain ⟨row, husable, rfl, _⟩ := lastKey_eq_some hk
            exact (hid husable.1).elim
        rw [callsignFor, hnone]
        exact if_pos (.inr (Int.not_lt.1 hid))

/-- A callsign of eleven characters is put and never found again. -/
theorem not_looksUp : ¬LooksUp [(1, List.replicate 11 0x41)] [] := by
  intro h
  have hlen := h.keysFit (1, List.replicate 11 0x41) (List.mem_singleton_self _)
    ⟨by decide, by decide⟩
  revert hlen
  decide

end

end AdnBridge
