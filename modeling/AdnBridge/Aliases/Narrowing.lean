import AdnBridge.Aliases.Lookup
import AdnBridge.Aliases.System

namespace AdnBridge
set_option autoImplicit true

/-- The id of a subscriber as the file has it. -/
def Json.idValue (v : Json) : Option Int :=
  match v.get idKey with
  | some (uint n) => some n
  | some (sint n) => some n
  | _ => none

/-- An id that fits in an `int` and is positive. -/
def ValidId (id : Int) : Prop := 1 ≤ id ∧ id < 2 ^ 31

instance (id : Int) : Decidable (ValidId id) := inferInstanceAs (Decidable (_ ∧ _))

/-- The ids in the tables are ids of the file, and a row with any other id than those that fit is
passed over. -/
structure OnlyListed (localOverride : Bool) (vs : List Json) : Prop where
  callsigns : ∀ t, AliasTab.empty.putRows localOverride (vs.filterMap Json.row) = some t →
    ∀ id, t.lookupCallsign id ≠ none → ∃ v ∈ vs, v.idValue = some id
  ids : ∀ t, AliasTab.empty.putRows localOverride (vs.filterMap Json.row) = some t →
    ∀ callsign, 0 < t.lookupId callsign → ∃ v ∈ vs, v.idValue = some (t.lookupId callsign)
  refused : ∀ v ∈ vs, ¬(∃ id, v.idValue = some id ∧ ValidId id) →
    ∀ t : AliasTab, t.putRows localOverride v.row.toList = some t

/-- A row whose id does not fit, but what is left of it in 32 bits does. -/
def Intrudes (v : Json) : Prop :=
  ∃ id callsign, v.idValue = some id ∧ v.get Json.callsignKey = some (.str callsign) ∧
    ¬ValidId id ∧ ValidId (Int.bmod id (2 ^ 32)) ∧ normalizeCallsignKey callsign ≠ []

namespace AliasTab

/-- The ids in the two tables. -/
structure IdsFrom (S : Int → Prop) (t : AliasTab) : Prop where
  idTab : ∀ s, idSlots.Holds t.idTab s → S s.id
  csTab : ∀ s, csSlots.Holds t.csTab s → S s.id

variable {S : Int → Prop} {t u : AliasTab} {id : Int} {key callsign : List UInt8} {prefer : Bool}

theorem idsFrom_empty : IdsFrom S empty := by
  constructor
  · rintro s ⟨_, j, _⟩
    exact j.elim0
  · rintro s ⟨_, j, _⟩
    exact j.elim0

theorem IdsFrom.rehash {newCap : Nat} (h : t.IdsFrom S) (hu : t.rehash newCap = some u) :
    u.IdsFrom S := by
  obtain ⟨nid, ncs, hnid, hncs, rfl⟩ := rehash_eq_some.1 hu
  constructor
  · intro s hs
    rcases Slots.holds_foldlM_place hnid hs with hs | hs
    · exact (Slots.not_holds_replicate rfl hs).elim
    · exact h.idTab s ((Slots.mem_entries_toList _).1 hs)
  · intro s hs
    rcases Slots.holds_foldlM_place hncs hs with hs | hs
    · exact (Slots.not_holds_replicate rfl hs).elim
    · exact h.csTab s ((Slots.mem_entries_toList _).1 hs)

theorem IdsFrom.ensureCap (h : t.IdsFrom S) (hu : t.ensureCap = some u) : u.IdsFrom S := by
  rcases ensureCap_cases (a := t) with ⟨_, _, _, _, heq⟩ | ⟨_, _, heq⟩
  · exact h.rehash (heq.symm.trans hu)
  · cases heq.symm.trans hu
    exact h

theorem IdsFrom.putId (h : t.IdsFrom S) (hid : 0 < id) (hS : S id)
    (hu : t.putId id key = some u) : u.IdsFrom S := by
  obtain ⟨i, _, rfl⟩ := putId_eq_some.1 hu
  refine ⟨fun s hs => ?_, h.csTab⟩
  rcases (Slots.holds_set (idSlot_not_empty key hid)).1 hs with rfl | ⟨hs, j, _, rfl⟩
  · exact hS
  · exact h.idTab _ ⟨hs, j, rfl⟩

theorem IdsFrom.putCs (h : t.IdsFrom S) (hkey : key ≠ []) (hS : S id)
    (hu : t.putCs id key prefer = some u) : u.IdsFrom S := by
  by_cases h0 : t.cap = 0
  · have hsame : t.putCs id key prefer = some t := if_pos h0
    cases hsame.symm.trans hu
    exact h
  · obtain ⟨j, _, rfl⟩ := (putCs_eq_some h0).1 hu
    cases he : (t.csTab.get j).isEmpty with
    | true =>
      rw [if_pos rfl]
      refine ⟨h.idTab, fun s hs => ?_⟩
      rcases (Slots.holds_set (csSlot_not_empty hkey)).1 hs with rfl | ⟨hs, i, _, rfl⟩
      · exact hS
      · exact h.csTab _ ⟨hs, i, rfl⟩
    | false =>
      rw [if_neg Bool.false_ne_true]
      cases prefer with
      | false => exact h
      | true =>
        have hx : csSlots.isEmpty ⟨(t.csTab.get j).callsign, id⟩ = false := he
        refine ⟨h.idTab, fun s hs => ?_⟩
        rcases (Slots.holds_set hx).1 hs with rfl | ⟨hs, i, _, rfl⟩
        · exact hS
        · exact h.csTab _ ⟨hs, i, rfl⟩

theorem IdsFrom.putAlias (h : t.IdsFrom S) (hS : Usable id callsign → S id)
    (hu : AliasTab.putAlias prefer t id callsign = some u) : u.IdsFrom S := by
  by_cases hrow : Usable id callsign
  · rw [putAlias_usable hrow] at hu
    obtain ⟨g, hg, hu⟩ := Option.bind_eq_some_iff.1 hu
    obtain ⟨v, hv, hu⟩ := Option.bind_eq_some_iff.1 hu
    exact ((h.ensureCap hg).putId hrow.1 (hS hrow) hv).putCs hrow.2 (hS hrow) hu
  · cases (putAlias_refused hrow).symm.trans hu
    exact h

/-- Only rows that are taken put their ids into the tables. -/
theorem IdsFrom.putRows {rows : List AliasRow} (h : t.IdsFrom S)
    (hS : ∀ row ∈ rows, Usable row.1 row.2 → S row.1) (hu : t.putRows prefer rows = some u) :
    u.IdsFrom S := by
  induction rows generalizing t with
  | nil =>
    cases hu
    exact h
  | cons row rows ih =>
    obtain ⟨v, hv, hu⟩ := Option.bind_eq_some_iff.1 ((AliasTab.putRows_cons ..).symm.trans hu)
    exact ih (h.putAlias (hS row List.mem_cons_self) hv)
      (fun r hr => hS r (List.mem_cons_of_mem _ hr)) hu

theorem IdsFrom.lookupCallsign (h : t.IdsFrom S) (hid : t.lookupCallsign id ≠ none) : S id := by
  rw [AliasTab.lookupCallsign] at hid
  split at hid
  next => exact absurd rfl hid
  next =>
    split at hid
    next i hi =>
      cases he : (t.idTab.get i).isEmpty with
      | true =>
        rw [he] at hid
        exact absurd rfl hid
      | false =>
        have hkey : (t.idTab.get i).id = id := Slots.slotFor_key (S := idSlots) hi he
        exact hkey ▸ h.idTab _ (.of_get he)
    next => exact absurd rfl hid

theorem IdsFrom.lookupId (h : t.IdsFrom S) (hid : 0 < t.lookupId callsign) :
    S (t.lookupId callsign) := by
  rw [AliasTab.lookupId] at hid ⊢
  by_cases hno : t.cap = 0 ∨ normalizeCallsignKey callsign = []
  · simp only [if_pos hno] at hid
    exact absurd hid (Int.lt_irrefl 0)
  · simp only [if_neg hno] at hid ⊢
    split at hid
    next i hi =>
      cases he : (t.csTab.get i).isEmpty with
      | true =>
        rw [he] at hid
        exact absurd hid (Int.lt_irrefl 0)
      | false =>
        rw [if_neg Bool.false_ne_true]
        exact h.csTab _ (.of_get he)
    next => exact absurd hid (Int.lt_irrefl 0)

/-- A row that is taken leaves its mark on empty tables. -/
theorem putAlias_empty (h : Usable id callsign) :
    AliasTab.putAlias prefer empty id callsign ≠ some empty := by
  intro hu
  rw [putAlias_usable h, ensureCap_empty] at hu
  obtain ⟨g, hg, hu⟩ := Option.bind_eq_some_iff.1 hu
  cases hg
  obtain ⟨w, hw, hu⟩ := Option.bind_eq_some_iff.1 hu
  obtain ⟨i, _, hwi⟩ := putId_eq_some.1 hw
  have hcap : w.cap = 1024 := congrArg AliasTab.cap hwi
  obtain ⟨j, _, hu⟩ := (putCs_eq_some (by rw [hcap]; decide)).1 hu
  have hend := congrArg AliasTab.cap hu
  split_ifs at hend
  · exact absurd (hend.trans hcap) (by decide)
  · exact absurd (hend.trans hcap) (by decide)
  · exact absurd (hend.trans hcap) (by decide)

end AliasTab

section
variable {v : Json} {vs : List Json} {row : AliasRow} {localOverride : Bool}

theorem ValidId.bmod {id : Int} (h : ValidId id) : Int.bmod id (2 ^ 32) = id := by
  obtain ⟨h1, h2⟩ := h
  exact Int.bmod_eq_of_le (by omega) (by omega)

theorem bmod_validId {id : Int} (h : 0 < Int.bmod id (2 ^ 32)) : ValidId (Int.bmod id (2 ^ 32)) := by
  have := @Int.bmod_lt id (2 ^ 32) (by decide)
  exact ⟨h, by omega⟩

/-- What the loop makes of a subscriber. -/
theorem Json.row_eq_some (h : v.row = some row) : ∃ id, v.idValue = some id ∧
    v.get callsignKey = some (.str row.2) ∧ row.1 = Int.bmod id (2 ^ 32) := by
  rw [Json.row] at h
  split at h
  next n s hn hs =>
    have hid := congrArg Prod.fst (Option.some.inj h)
    have hcs := congrArg Prod.snd (Option.some.inj h)
    exact ⟨n, by rw [Json.idValue, hn], hcs ▸ hs, by rw [← hid]⟩
  next n s hn hs =>
    have hid := congrArg Prod.fst (Option.some.inj h)
    have hcs := congrArg Prod.snd (Option.some.inj h)
    exact ⟨n, by rw [Json.idValue, hn], hcs ▸ hs, by rw [← hid]⟩
  next => cases h

theorem Json.row_of_idValue {id : Int} {callsign : List UInt8} (hid : v.idValue = some id)
    (hcs : v.get callsignKey = some (.str callsign)) :
    v.row = some (Int.bmod id (2 ^ 32), callsign) := by
  rw [Json.idValue] at hid
  rw [Json.row, hcs]
  split at hid
  next n hn =>
    cases hid
    rw [hn]
  next n hn =>
    cases hid
    rw [hn]
  next => cases hid

/-- A row that does not intrude has its own id or is refused. -/
theorem Json.row_usable (h : ¬Intrudes v) (hrow : v.row = some row) (hu : Usable row.1 row.2) :
    v.idValue = some row.1 ∧ ValidId row.1 := by
  obtain ⟨id, hid, hcs, heq⟩ := Json.row_eq_some hrow
  have hvalid : ValidId (Int.bmod id (2 ^ 32)) := bmod_validId (heq ▸ hu.1)
  by_cases hok : ValidId id
  · rw [heq, hok.bmod]
    exact ⟨hid, hok⟩
  · exact absurd ⟨id, row.2, hid, hcs, hok, hvalid, hu.2⟩ h

/-- A row that intrudes is not passed over. -/
theorem OnlyListed.not_intrudes (h : OnlyListed localOverride vs) (hv : v ∈ vs) : ¬Intrudes v := by
  rintro ⟨id, callsign, hid, hcs, hbad, hvalid, hkey⟩
  have hu : Usable (Int.bmod id (2 ^ 32)) callsign := ⟨hvalid.1, hkey⟩
  have hout : ¬∃ i, v.idValue = some i ∧ ValidId i := fun ⟨i, hi, hok⟩ =>
    hbad (Option.some.inj (hid.symm.trans hi) ▸ hok)
  have hput := h.refused v hv hout .empty
  rw [Json.row_of_idValue hid hcs, Option.toList_some, AliasTab.putRows_cons] at hput
  obtain ⟨u, hstep, hnil⟩ := Option.bind_eq_some_iff.1 hput
  cases hnil
  exact AliasTab.putAlias_empty hu hstep

/-- The tables hold ids of the file only, and rows with other ids than those that fit are passed
over, just if no such row is brought into range by being cut to 32 bits. -/
theorem onlyListed_iff (localOverride : Bool) (vs : List Json) :
    OnlyListed localOverride vs ↔ ∀ v ∈ vs, ¬Intrudes v := by
  constructor
  · exact fun h v hv => h.not_intrudes hv
  · intro h
    have hrows : ∀ row ∈ vs.filterMap Json.row, Usable row.1 row.2 →
        ∃ v ∈ vs, v.idValue = some row.1 := by
      intro row hrow hu
      obtain ⟨v, hv, hrow⟩ := List.mem_filterMap.1 hrow
      exact ⟨v, hv, (Json.row_usable (h v hv) hrow hu).1⟩
    have hfrom : ∀ t, AliasTab.empty.putRows localOverride (vs.filterMap Json.row) = some t →
        t.IdsFrom fun id => ∃ v ∈ vs, v.idValue = some id := fun t ht =>
      AliasTab.idsFrom_empty.putRows hrows ht
    refine ⟨fun t ht id hid => ?_, fun t ht callsign hid => ?_, fun v hv hbad t => ?_⟩
    · exact (hfrom t ht).lookupCallsign hid
    · exact (hfrom t ht).lookupId hid
    · cases hrow : v.row with
      | none => rfl
      | some row =>
        have hno : ¬Usable row.1 row.2 := fun hu =>
          hbad ⟨row.1, Json.row_usable (h v hv) hrow hu⟩
        rw [Option.toList_some, AliasTab.putRows_cons, AliasTab.putAlias_refused hno]
        rfl

/-- `{"id": 4294967297, "callsign": "A"}`. -/
def intruder : Json := .obj [(Json.idKey, .uint 4294967297), (Json.callsignKey, .str [0x41])]

/-- The row of an id beyond 32 bits is entered as that of the id 1. -/
theorem not_onlyListed : ¬OnlyListed false [intruder] := by
  intro h
  exact h.not_intrudes (List.mem_singleton_self _)
    ⟨4294967297, [0x41], rfl, rfl, by decide, by decide, by decide⟩

end

end AdnBridge
